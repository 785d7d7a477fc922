/-
Module: AmgiNetTools.Socks5.Addresses
Layer: Socks5
Purpose: What an accepted request stands for when all of what it declares is there: the host is the
  text of its address or the name itself, the port is the two bytes behind, and nothing else counts.
Main exports: Socks5.Resolves, Socks5.ExactlyDecoded, socks5_address_exact
-/
import AmgiNetTools.Socks5.Decoding

namespace AmgiNetTools

namespace Socks5

/-- `inet_ntop` has a text for every address. -/
def Resolves [Platform] : Prop :=
  ∀ (family : AddressFamily) (address : List UInt8), address.length = family.size →
    ∃ host, Platform.inetNtop family address = .ok host ∧ host ≠ []

/-- Some of the bytes of a buffer. -/
def slice (bytes : IoBuffer) (start count : Nat) : IoBuffer :=
  (bytes.drop start).take count

/-- The host and the port of a message are those its bytes declare. -/
structure ExactlyDecoded [Platform] (message : Received) : Prop where
  /-- Only a name without a byte is refused. -/
  refused : getRemoteAddressInfo message.data message.size = none ↔
    message.data 3 = Socks5.dom ∧ message.data 4 = 0
  address : ∀ family : AddressFamily, message.data 3 = family.type →
    ∃ host, Platform.inetNtop family (slice message.bytes 4 family.size) = .ok host ∧
      getRemoteAddressInfo message.data message.size =
        some (host,
          portText (message.data (4 + family.size)) (message.data (5 + family.size)))
  name : ∀ count, message.data 3 = Socks5.dom → (message.data 4).toNat = count → count ≠ 0 →
    (slice message.bytes 5 count).length = count ∧
      getRemoteAddressInfo message.data message.size =
        some (slice message.bytes 5 count,
          portText (message.data (5 + count)) (message.data (6 + count)))
  /-- Neither the reserved byte nor anything behind the port matters. -/
  independent : ∀ memory' length', isValidRequestPacket memory' length' = true →
    (∀ i < declaredSize message.data, i ≠ 2 → memory' i = message.data i) →
      getRemoteAddressInfo memory' length' = getRemoteAddressInfo message.data message.size

/-! ### Pieces of memory -/

/-- What memory holds below the size of a message are the bytes of the message. -/
theorem bytesAt_data {message : Received} {start count : Nat}
    (inside : start + count ≤ message.size) :
    bytesAt message.data start count = slice message.bytes start count := by
  have total : message.bytes.length = message.size := rfl
  apply List.ext_getElem
  · rw [length_bytesAt, slice, List.length_take, List.length_drop]
    omega
  · intro i below below'
    rw [length_bytesAt] at below
    have there : start + i < message.bytes.length := by omega
    simp [bytesAt, slice, Received.data, List.getD_eq_getElem?_getD, there]

/-! ### The forms of an address -/

section

variable [Platform] {memory : Nat → UInt8} {length : Nat}

/-- An address is decoded to its text. -/
theorem decoded_address (resolves : Resolves) (long : requestHeaderMinLength ≤ length)
    {family : AddressFamily} (type : memory 3 = family.type) :
    ∃ host, Platform.inetNtop family (bytesAt memory 4 family.size) = .ok host ∧
      getRemoteAddressInfo memory length =
        some (host, portText (memory (4 + family.size)) (memory (5 + family.size))) := by
  obtain ⟨host, text, nonempty⟩ :=
    resolves family (bytesAt memory 4 family.size) (length_bytesAt ..)
  refine ⟨host, text, ?_⟩
  rw [getRemoteAddressInfo_address long type, text]
  exact if_neg nonempty

end

/-! ### A request for an IPv6 address -/

namespace Sample

/-- The groups of an IPv6 address in hexadecimal. -/
def hexGroups : List UInt8 → List Text
  | high :: low :: rest =>
      ascii (String.ofList (Nat.toDigits 16 (256 * high.toNat + low.toNat))) :: hexGroups rest
  | _ => []

/-- An `inet_ntop` that writes out every group, as the one of the operating system does for an
    address without two zero groups in a row. -/
@[reducible] def everyGroup : Platform where
  inetNtop
    | .inet, bytes => platform.inetNtop .inet bytes
    | .inet6, bytes => .ok ((ascii ":").intercalate (hexGroups bytes))

/-- A request for port 443 of `2001:db8:1:2:3:4:5:6`, with two more bytes behind it. -/
def longRequest : Received where
  bytes := [5, 1, 0, 4, 0x20, 0x01, 0x0d, 0xb8, 0, 1, 0, 2, 0, 3, 0, 4, 0, 5, 0, 6, 1, 187, 9, 9]
  behind := fun _ => 0

attribute [local instance] everyGroup

theorem intercalate_ne_nil {separator first : Text} {rest : List Text} (nonempty : first ≠ []) :
    separator.intercalate (first :: rest) ≠ [] := by
  cases rest <;> simp [List.intercalate, nonempty]

theorem resolves_everyGroup : Resolves := by
  intro family address sized
  cases family with
  | inet =>
      obtain ⟨first, rest, rfl⟩ := List.exists_cons_of_length_pos
        (by rw [sized]; decide : 0 < address.length)
      refine ⟨_, rfl, ?_⟩
      apply intercalate_ne_nil
      simp [Nat.toDigits_ne_nil]
  | inet6 =>
      match address, sized with
      | high :: low :: rest, _ =>
          refine ⟨_, rfl, ?_⟩
          apply intercalate_ne_nil
          simp [ascii, Nat.toDigits_ne_nil]

end Sample

end Socks5

/-- An accepted request that is there as a whole is decoded exactly. -/
theorem socks5_address_exact [Platform] (message : Received) (resolves : Socks5.Resolves)
    (valid : Socks5.isValidRequestPacket message.data message.size = true)
    (complete : Socks5.declaredSize message.data ≤ message.size) :
    Socks5.ExactlyDecoded message := by
  have long := Socks5.long_of_valid valid
  refine ⟨?_, ?_, ?_, ?_⟩
  · obtain ⟨family, type⟩ | name := Socks5.form_of_valid valid
    · obtain ⟨host, -, decoded⟩ := Socks5.decoded_address resolves long type
      simp [decoded, type, family.type_ne_dom]
    · simp [Socks5.getRemoteAddressInfo_name long name, name]
  · intro family type
    rw [Socks5.declaredSize_address type] at complete
    rw [← Socks5.bytesAt_data (by omega)]
    exact Socks5.decoded_address resolves long type
  · rintro count name rfl nonzero
    rw [Socks5.declaredSize_name name] at complete
    rw [← Socks5.bytesAt_data (by omega)]
    have nonzero : message.data 4 ≠ 0 := fun zero => nonzero (congrArg UInt8.toNat zero)
    constructor
    · exact Socks5.length_bytesAt ..
    · rw [Socks5.getRemoteAddressInfo_name long name, if_neg nonzero]
  · intro memory' length' valid' same
    exact Socks5.getRemoteAddressInfo_alike long (Socks5.long_of_valid valid') same

section

attribute [local instance] Socks5.Sample.everyGroup

/-- `Socks5.Sample.longRequest` is decoded to its address and its port. -/
theorem socks5_address_exact_sample :
    Socks5.ExactlyDecoded Socks5.Sample.longRequest ∧
      Socks5.getRemoteAddressInfo Socks5.Sample.longRequest.data
        Socks5.Sample.longRequest.size =
          some (ascii "2001:db8:1:2:3:4:5:6", ascii "443") := by
  constructor
  · exact socks5_address_exact _ Socks5.Sample.resolves_everyGroup (by decide) (by decide)
  · decide

end

end AmgiNetTools
