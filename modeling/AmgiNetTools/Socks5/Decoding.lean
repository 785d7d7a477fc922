/-
Module: AmgiNetTools.Socks5.Decoding
Layer: Socks5
Purpose: What memory the parser of requests depends on. It checks one minimum length for three
  address forms of different sizes, so a request that is cut short is completed with whatever lies
  behind the buffer. A request that is not cut short is decoded from its own bytes.
Main exports: Socks5.declaredSize, Socks5.Confined, Socks5.Truncated, Socks5.confined_iff,
  socks5_request_decoding
-/
import AmgiNetTools.Socks5.Message
import AmgiNetTools.Socks5.Discipline

namespace AmgiNetTools

namespace Socks5

/-- The size of the request that a header begins: four bytes of header, the address, and the port.
    A name comes after a byte with its length. -/
def declaredSize (memory : Nat → UInt8) : Nat :=
  if memory 3 = ipv4 then 4 + ipv4Length + 2
  else if memory 3 = ipv6 then 4 + ipv6Length + 2
  else 4 + (domFieldOffset + (memory 4).toNat) + 2

/-- Two memories hold the same below `length`. -/
def Agree (length : Nat) (memory memory' : Nat → UInt8) : Prop :=
  ∀ i < length, memory' i = memory i

/-- Both parsers give the same for every memory that holds the same below `length`. -/
def Confined [Platform] (memory : Nat → UInt8) (length : Nat) : Prop :=
  ∀ memory', Agree length memory memory' →
    isValidRequestPacket memory' length = isValidRequestPacket memory length ∧
      getRemoteAddressInfo memory' length = getRemoteAddressInfo memory length

/-- A request for an IPv6 address of fewer than 22 bytes, or for a name of `n` bytes of fewer than
    `7 + n`. -/
def Truncated (memory : Nat → UInt8) (length : Nat) : Prop :=
  (memory 3 = ipv6 ∧ length < 22) ∨ (memory 3 = dom ∧ length < 7 + (memory 4).toNat)

instance (memory : Nat → UInt8) (length : Nat) : Decidable (Truncated memory length) :=
  inferInstanceAs (Decidable (_ ∨ _))

/-! ### Ports -/

/-- The value of the decimal digits of a text. -/
def decimal (text : Text) : Nat :=
  text.foldl (fun value digit => 10 * value + (digit.toNat - '0'.toNat)) 0

/-- A port can be told from its text. -/
theorem decimal_portToString (port : UInt16) : decimal (portToString port) = port.toNat := by
  have digits (chars : List Char) (ascii : ∀ c ∈ chars, c.toNat < 256) (value : Nat) :
      (chars.map fun c => UInt8.ofNat c.toNat).foldl
        (fun value digit => 10 * value + (digit.toNat - '0'.toNat)) value =
      Nat.ofDigitChars 10 chars value := by
    induction chars generalizing value with
    | nil => rfl
    | cons c chars ih =>
        have first : (UInt8.ofNat c.toNat).toNat = c.toNat := by
          have small := ascii c List.mem_cons_self
          rw [UInt8.toNat_ofNat']
          omega
        rw [List.map_cons, List.foldl_cons, first, Nat.ofDigitChars_cons]
        exact ih (fun c' member => ascii c' (List.mem_cons_of_mem _ member)) _
  have ascii (c : Char) (member : c ∈ Nat.toDigits 10 port.toNat) : c.toNat < 256 := by
    have digit := Nat.isDigit_of_mem_toDigits (by decide) (by decide) member
    simp only [Char.isDigit, Bool.and_eq_true, decide_eq_true_eq] at digit
    have below : c.toNat ≤ '9'.toNat := digit.2
    exact below.trans_lt (by decide)
  rw [decimal, portToString, digits _ ascii, Nat.ofDigitChars_ten_toDigits]

theorem portToString_injective : Function.Injective portToString := by
  intro port port' same
  apply UInt16.toNat.inj
  rw [← decimal_portToString, ← decimal_portToString, same]

/-- The second byte of a port can be told from the port. -/
theorem low_of_getPortFromBinary (buffer : Nat → UInt8) :
    (getPortFromBinary buffer).toNat % 256 = (buffer 1).toNat := by
  have low := (buffer 1).toNat_lt
  rw [toNat_getPortFromBinary]
  omega

/-! ### The size of a request -/

section

variable {memory : Nat → UInt8}

theorem declaredSize_address {family : AddressFamily} (type : memory 3 = family.type) :
    declaredSize memory = 6 + family.size := by
  rw [declaredSize, type]
  cases family <;> rfl

theorem declaredSize_name (name : memory 3 = dom) :
    declaredSize memory = 7 + (memory 4).toNat := by
  have apart : dom ≠ ipv4 ∧ dom ≠ ipv6 := by decide
  rw [declaredSize, name, if_neg apart.1, if_neg apart.2, domFieldOffset]
  omega

end

/-! ### What the parsers depend on -/

variable {memory memory' : Nat → UInt8} {length : Nat} {host port : Text}

theorem isValidRequestPacket_congr (agree : Agree length memory memory') :
    isValidRequestPacket memory' length = isValidRequestPacket memory length := by
  unfold isValidRequestPacket
  by_cases long : length ≥ requestHeaderMinLength
  · have enough : 10 ≤ length := long
    rw [agree 0 (by omega), agree 1 (by omega), agree 3 (by omega)]
  · rw [if_neg long, if_neg long]

/-- Memories that declare the same, but for the reserved byte, are decoded alike. -/
theorem getRemoteAddressInfo_alike [Platform] {length' : Nat}
    (long : requestHeaderMinLength ≤ length) (long' : requestHeaderMinLength ≤ length')
    (same : ∀ i < declaredSize memory, i ≠ 2 → memory' i = memory i) :
    getRemoteAddressInfo memory' length' = getRemoteAddressInfo memory length := by
  obtain ⟨family, type⟩ | name | other := form_cases (memory 3)
  · rw [declaredSize_address type] at same
    have type' : memory' 3 = family.type := (same 3 (by omega) (by decide)).trans type
    have address : bytesAt memory' 4 family.size = bytesAt memory 4 family.size :=
      bytesAt_congr fun i inside => same _ (by omega) (by omega)
    rw [getRemoteAddressInfo_address long' type', getRemoteAddressInfo_address long type, address,
      same (4 + family.size) (by omega) (by omega), same (5 + family.size) (by omega) (by omega)]
  · rw [declaredSize_name name] at same
    have name' : memory' 3 = dom := (same 3 (by omega) (by decide)).trans name
    have count : memory' 4 = memory 4 := same 4 (by omega) (by decide)
    have host : bytesAt memory' 5 (memory 4).toNat = bytesAt memory 5 (memory 4).toNat :=
      bytesAt_congr fun i inside => same _ (by omega) (by omega)
    rw [getRemoteAddressInfo_name long' name', getRemoteAddressInfo_name long name, count, host,
      same (5 + (memory 4).toNat) (by omega) (by omega),
      same (6 + (memory 4).toNat) (by omega) (by omega)]
  · rw [declaredSize, if_neg other.1, if_neg other.2.1] at same
    have type : memory' 3 = memory 3 := same 3 (by omega) (by decide)
    rw [getRemoteAddressInfo_other other, getRemoteAddressInfo_other (by rwa [type])]

/-- The minimum length is that of a request for an IPv4 address, and of no other. -/
theorem room_of_not_truncated (long : requestHeaderMinLength ≤ length)
    (whole : ¬ Truncated memory length)
    (formed : (∃ family : AddressFamily, memory 3 = family.type) ∨ memory 3 = dom) :
    declaredSize memory ≤ length := by
  obtain ⟨family, type⟩ | name := formed
  · rw [declaredSize_address type]
    cases family with
    | inet => exact long
    | inet6 => exact Nat.le_of_not_lt fun short => whole (.inl ⟨type, short⟩)
  · rw [declaredSize_name name]
    exact Nat.le_of_not_lt fun short => whole (.inr ⟨name, short⟩)

/-- A request that has room for what it declares is decoded from its own bytes. -/
theorem getRemoteAddressInfo_congr [Platform] (agree : Agree length memory memory')
    (whole : ¬ Truncated memory length) :
    getRemoteAddressInfo memory' length = getRemoteAddressInfo memory length := by
  by_cases long : requestHeaderMinLength ≤ length
  · by_cases formed : (∃ family : AddressFamily, memory 3 = family.type) ∨ memory 3 = dom
    · have room := room_of_not_truncated long whole formed
      exact getRemoteAddressInfo_alike long long fun i inside _ => agree i (by omega)
    · have enough : 10 ≤ length := long
      have type : memory' 3 = memory 3 := agree 3 (by omega)
      have other := (or_assoc.mpr (form_cases (memory 3))).resolve_left formed
      rw [getRemoteAddressInfo_other other, getRemoteAddressInfo_other (by rwa [type])]
  · rw [getRemoteAddressInfo_short long, getRemoteAddressInfo_short long]

/-- The port comes last in what is declared. -/
theorem port_of_decoded [Platform]
    (decoded : getRemoteAddressInfo memory length = some (host, port)) :
    port = portToString (getPortFromBinary fun i => memory (declaredSize memory - 2 + i)) := by
  rw [portToString_eq]
  by_cases long : requestHeaderMinLength ≤ length
  · obtain ⟨family, type⟩ | name | other := form_cases (memory 3)
    · rw [getRemoteAddressInfo_address long type] at decoded
      have size : declaredSize memory - 2 = 4 + family.size := by
        rw [declaredSize_address type]
        omega
      rw [size, Nat.add_zero, Nat.add_right_comm 4]
      cases text : Platform.inetNtop family (bytesAt memory 4 family.size) with
      | error ec => simp [text] at decoded
      | ok address =>
          simp only [text, Option.ite_none_left_eq_some, Option.some.injEq, Prod.mk.injEq]
            at decoded
          exact decoded.2.2.symm
    · rw [getRemoteAddressInfo_name long name] at decoded
      have size : declaredSize memory - 2 = 5 + (memory 4).toNat := by
        rw [declaredSize_name name]
        omega
      rw [size, Nat.add_zero, Nat.add_right_comm 5]
      simp only [Option.ite_none_left_eq_some, Option.some.injEq, Prod.mk.injEq] at decoded
      exact decoded.2.2.symm
    · rw [getRemoteAddressInfo_other other] at decoded
      cases decoded
  · rw [getRemoteAddressInfo_short long] at decoded
    cases decoded

theorem truncated_iff (valid : isValidRequestPacket memory length = true) :
    Truncated memory length ↔ length < declaredSize memory := by
  have long : 10 ≤ length := long_of_valid valid
  obtain ⟨family, type⟩ | name := form_of_valid valid
  · rw [declaredSize_address type, Truncated, type]
    cases family with
    | inet =>
        have apart : ipv4 ≠ ipv6 ∧ ipv4 ≠ dom := by decide
        simp [AddressFamily.type, AddressFamily.size, apart, ipv4Length, long]
    | inet6 =>
        have apart : ipv6 ≠ dom := by decide
        simp [AddressFamily.type, AddressFamily.size, apart, ipv6Length]
  · have apart : dom ≠ ipv6 := by decide
    rw [declaredSize_name name]
    simp [Truncated, name, apart]

/-- Two memories that differ behind a request that is cut short can make two requests of it. -/
theorem confined_iff [Platform] (valid : isValidRequestPacket memory length = true)
    (decoded : getRemoteAddressInfo memory length = some (host, port)) :
    Confined memory length ↔ ¬ Truncated memory length := by
  constructor
  · intro confined truncated
    have short := (truncated_iff valid).mp truncated
    have long : 10 ≤ length := long_of_valid valid
    -- The last byte of the port lies behind the buffer.
    let last := declaredSize memory - 1
    let memory' := Function.update memory last (memory last + 1)
    have below {i : Nat} (inside : i < last) : memory' i = memory i :=
      Function.update_of_ne (Nat.ne_of_lt inside) ..
    have size : declaredSize memory' = declaredSize memory := by
      simp only [declaredSize, below (show 3 < last by omega), below (show 4 < last by omega)]
    have same := (confined memory' fun i inside => below (by omega)).2
    have port' := port_of_decoded (same.trans decoded)
    rw [size, port_of_decoded decoded] at port'
    have low := congrArg (fun port => port.toNat % 256) (portToString_injective port')
    simp only [low_of_getPortFromBinary] at low
    have there : declaredSize memory - 2 + 1 = last := by omega
    have changed : memory' last = memory last + 1 := Function.update_self ..
    rw [there, changed] at low
    have differs : memory last ≠ memory last + 1 := by simp
    exact differs (UInt8.toNat.inj low)
  · intro whole memory' agree
    exact ⟨isValidRequestPacket_congr agree, getRemoteAddressInfo_congr agree whole⟩

/-- A request is decoded from what was received: it is there as a whole, and nothing behind it
    matters. -/
structure DecodedFromReceived [Platform] (memory : Nat → UInt8) (length : Nat) : Prop where
  complete : declaredSize memory ≤ length
  confined : Confined memory length

/-! ### A request that is cut short -/

namespace Sample

/-- The first ten bytes of a request for port 80 of `example.com`. -/
def cutRequest : IoBuffer := [5, 1, 0, 3, 11] ++ ascii "examp"

/-- The whole request. -/
def nameRequest : IoBuffer := [5, 1, 0, 3, 11] ++ ascii "example.com" ++ [0, 80]

/-- Memory that holds some bytes, with zeros behind them. -/
def memoryOf (bytes : IoBuffer) (i : Nat) : UInt8 := bytes.getD i 0

end Sample

end Socks5

/-- An accepted request is decoded from the received bytes exactly when it is not cut short behind
    the minimum length: an IPv6 address below 22 bytes, or a name of `n` bytes below `7 + n`. -/
theorem socks5_request_decoding [Platform] (memory : Nat → UInt8) (length : Nat) (host port : Text)
    (valid : Socks5.isValidRequestPacket memory length = true)
    (decoded : Socks5.getRemoteAddressInfo memory length = some (host, port)) :
    Socks5.DecodedFromReceived memory length ↔ ¬ Socks5.Truncated memory length := by
  constructor
  · intro received
    exact (Socks5.confined_iff valid decoded).mp received.confined
  · intro whole
    refine ⟨?_, (Socks5.confined_iff valid decoded).mpr whole⟩
    rw [Socks5.truncated_iff valid] at whole
    exact Nat.le_of_not_lt whole

section

attribute [local instance] Socks5.Sample.platform

open Socks5.Sample

/-- The whole request for `example.com` is decoded from what was received. -/
theorem socks5_request_decoding_sample :
    Socks5.DecodedFromReceived (memoryOf nameRequest) nameRequest.length :=
  (socks5_request_decoding (memoryOf nameRequest) nameRequest.length (ascii "example.com")
    (ascii "80") (by decide) (by decide)).mpr (by decide)

/-- Its first ten bytes are accepted, and what lies behind them is taken for the rest of the name
    and for the port. -/
theorem socks5_request_decoded_past_end :
    Socks5.isValidRequestPacket (memoryOf cutRequest) cutRequest.length = true ∧
      Socks5.getRemoteAddressInfo (memoryOf cutRequest) cutRequest.length =
        some (ascii "examp" ++ List.replicate 6 0, ascii "0") ∧
      Socks5.Agree cutRequest.length (memoryOf cutRequest) (memoryOf nameRequest) ∧
      Socks5.getRemoteAddressInfo (memoryOf nameRequest) cutRequest.length =
        some (ascii "example.com", ascii "80") ∧
      ¬ Socks5.DecodedFromReceived (memoryOf cutRequest) cutRequest.length := by
  have agree : Socks5.Agree cutRequest.length (memoryOf cutRequest) (memoryOf nameRequest) := by
    unfold Socks5.Agree
    decide
  refine ⟨by decide, by decide, agree, by decide, fun received => ?_⟩
  have short : ¬ Socks5.declaredSize (memoryOf cutRequest) ≤ cutRequest.length := by decide
  exact short received.complete

end

end AmgiNetTools
