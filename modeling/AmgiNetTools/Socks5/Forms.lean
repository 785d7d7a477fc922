/-
Module: AmgiNetTools.Socks5.Forms
Layer: Socks5
Purpose: What `is_valid_request_packet` and `get_remote_address_info` do for each form of an
  address. The two forms with an address that `inet_ntop` writes are one, over the family.
Main exports: Socks5.portText, Socks5.form_of_valid, Socks5.getRemoteAddressInfo_address,
  Socks5.getRemoteAddressInfo_name, Socks5.getRemoteAddressInfo_other
-/
import AmgiNetTools.Socks5.Proto

namespace AmgiNetTools

namespace AddressFamily

/-- The type a request gives an address of a family. -/
def type : AddressFamily → UInt8
  | inet => Socks5.ipv4
  | inet6 => Socks5.ipv6

/-- The number of bytes of an address. -/
def size : AddressFamily → Nat
  | inet => Socks5.ipv4Length
  | inet6 => Socks5.ipv6Length

theorem type_ne_dom (family : AddressFamily) : family.type ≠ Socks5.dom := by
  cases family <;> decide

end AddressFamily

namespace Socks5

/-- The decimal text of a port, from its two bytes. -/
def portText (high low : UInt8) : Text :=
  ascii (toString (256 * high.toNat + low.toNat))

/-! ### Ports -/

theorem portToString_ne_nil (port : UInt16) : portToString port ≠ [] := by
  simp [portToString, Nat.toDigits_ne_nil]

/-- The first byte of a port is the high one. -/
theorem toNat_getPortFromBinary (buffer : Nat → UInt8) :
    (getPortFromBinary buffer).toNat = 256 * (buffer 0).toNat + (buffer 1).toNat := by
  have high := (buffer 0).toNat_lt
  have low := (buffer 1).toNat_lt
  have shifted : (buffer 0).toNat <<< 8 % 65536 = (buffer 0).toNat <<< 8 := by
    rw [Nat.shiftLeft_eq]
    omega
  have value : (getPortFromBinary buffer).toNat = (buffer 0).toNat <<< 8 + (buffer 1).toNat := by
    rw [Nat.shiftLeft_add_eq_or_of_lt low]
    simp [getPortFromBinary, shifted]
  rw [value, Nat.shiftLeft_eq]
  omega

theorem portToString_eq (buffer : Nat → UInt8) :
    portToString (getPortFromBinary buffer) = portText (buffer 0) (buffer 1) := by
  rw [portToString, toNat_getPortFromBinary, portText, ascii]
  exact congrArg _ (String.toList_ofList).symm

theorem portText_ne_nil (high low : UInt8) : portText high low ≠ [] := by
  have port := portToString_ne_nil (getPortFromBinary fun i => [high, low].getD i 0)
  rw [portToString_eq] at port
  exact port

/-! ### Pieces of memory -/

@[simp] theorem bytesAt_shift (memory : Nat → UInt8) (offset start count : Nat) :
    bytesAt (fun i => memory (offset + i)) start count =
      bytesAt memory (offset + start) count := by
  simp [bytesAt, Nat.add_assoc]

@[simp] theorem length_bytesAt (memory : Nat → UInt8) (start count : Nat) :
    (bytesAt memory start count).length = count := by
  simp [bytesAt]

section

variable {memory memory' : Nat → UInt8} {length : Nat}

theorem bytesAt_congr {start count : Nat}
    (same : ∀ i < count, memory' (start + i) = memory (start + i)) :
    bytesAt memory' start count = bytesAt memory start count := by
  unfold bytesAt
  apply List.map_congr_left
  intro i member
  exact same i (List.mem_range.mp member)

/-! ### Accepted requests -/

theorem form_cases (type : UInt8) : (∃ family : AddressFamily, type = family.type) ∨ type = dom ∨
    type ≠ ipv4 ∧ type ≠ ipv6 ∧ type ≠ dom := by
  by_cases four : type = ipv4
  · exact .inl ⟨.inet, four⟩
  · by_cases six : type = ipv6
    · exact .inl ⟨.inet6, six⟩
    · by_cases name : type = dom
      · exact .inr (.inl name)
      · exact .inr (.inr ⟨four, six, name⟩)

/-- The version and the command of an accepted request. -/
theorem start_of_valid (valid : isValidRequestPacket memory length = true) :
    memory 0 = version ∧ memory 1 = tcpConnection := by
  unfold isValidRequestPacket at valid
  split at valid
  · constructor
    · by_contra other
      simp [other] at valid
    · by_contra other
      simp [other] at valid
  · cases valid

theorem long_of_valid (valid : isValidRequestPacket memory length = true) :
    requestHeaderMinLength ≤ length := by
  by_contra short
  rw [isValidRequestPacket, if_neg short] at valid
  cases valid

/-- An accepted request is of one of the three forms. -/
theorem form_of_valid (valid : isValidRequestPacket memory length = true) :
    (∃ family : AddressFamily, memory 3 = family.type) ∨ memory 3 = dom := by
  rw [isValidRequestPacket, if_pos (long_of_valid valid)] at valid
  obtain address | name | ⟨four, six, name⟩ := form_cases (memory 3)
  · exact .inl address
  · exact .inr name
  · simp [four, six, name] at valid

/-! ### The decoder -/

variable [Platform]

theorem getRemoteAddressInfo_short (short : ¬ requestHeaderMinLength ≤ length) :
    getRemoteAddressInfo memory length = none :=
  if_neg short

/-- An address is decoded to its text, if it has one. -/
theorem getRemoteAddressInfo_address (long : requestHeaderMinLength ≤ length)
    {family : AddressFamily} (type : memory 3 = family.type) :
    getRemoteAddressInfo memory length =
      match Platform.inetNtop family (bytesAt memory 4 family.size) with
      | .ok host =>
          if host = [] then
            none
          else
            some (host, portText (memory (4 + family.size)) (memory (5 + family.size)))
      | .error _ => none := by
  unfold getRemoteAddressInfo
  cases family with
  | inet =>
      have four : memory 3 = ipv4 := type
      simp only [if_pos long, if_pos four, bytesAt_shift, portToString_eq, Nat.add_zero,
        AddressFamily.size, ipv4Length]
      cases Platform.inetNtop .inet (bytesAt memory 4 4) with
      | ok host => cases host <;> simp [portText_ne_nil]
      | error => rfl
  | inet6 =>
      have six : memory 3 = ipv6 := type
      have apart : ipv6 ≠ ipv4 := by decide
      simp only [if_pos long, six, if_neg apart, if_pos, bytesAt_shift, portToString_eq,
        Nat.add_zero, AddressFamily.size, ipv6Length]
      cases Platform.inetNtop .inet6 (bytesAt memory 4 16) with
      | ok host => cases host <;> simp [portText_ne_nil]
      | error => rfl

/-- A name is decoded to itself, unless it is empty. -/
theorem getRemoteAddressInfo_name (long : requestHeaderMinLength ≤ length) (name : memory 3 = dom) :
    getRemoteAddressInfo memory length =
      if memory 4 = 0 then
        none
      else
        some (bytesAt memory 5 (memory 4).toNat,
          portText (memory (5 + (memory 4).toNat)) (memory (6 + (memory 4).toNat))) := by
  have apart : dom ≠ ipv4 ∧ dom ≠ ipv6 := by decide
  have short : (memory 4).toNat ≤ maxDomLength := Nat.le_of_lt_succ (memory 4).toNat_lt
  have after (i : Nat) : 4 + ((memory 4).toNat + 1 + i) = 5 + i + (memory 4).toNat := by omega
  have empty : bytesAt memory 5 (memory 4).toNat = [] ↔ memory 4 = 0 := by
    rw [← List.length_eq_zero_iff, length_bytesAt]
    exact UInt8.toNat_inj (b := 0)
  unfold getRemoteAddressInfo
  simp only [if_pos long, name, if_neg apart.1, if_neg apart.2, if_pos, bytesAt_shift,
    portToString_eq, domLengthFieldOffset, domFieldOffset, if_pos short, Nat.add_zero,
    Nat.reduceAdd, after]
  by_cases zero : memory 4 = 0
  · rw [if_pos zero, empty.mpr zero]
    rfl
  · have nonempty : bytesAt memory 5 (memory 4).toNat ≠ [] := fun nothing => zero (empty.mp nothing)
    rw [if_neg zero]
    simp [nonempty, portText_ne_nil]

theorem getRemoteAddressInfo_other (other : memory 3 ≠ ipv4 ∧ memory 3 ≠ ipv6 ∧ memory 3 ≠ dom) :
    getRemoteAddressInfo memory length = none := by
  unfold getRemoteAddressInfo
  split
  · simp only [if_neg other.1, if_neg other.2.1, if_neg other.2.2]
  · rfl

end

end Socks5

end AmgiNetTools
