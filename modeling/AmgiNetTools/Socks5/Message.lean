/-
Module: AmgiNetTools.Socks5.Message
Layer: Socks5
Purpose: The two messages of a SOCKS5 client, as the client means them and as bytes. A greeting is
  refused exactly when it does not offer to go without authentication, and the parser of requests
  gives back the host and the port a request was made of, as long as it is not too short for the
  parser.
Main exports: Socks5.Refused, Socks5.Greeting, Socks5.Address, Socks5.ConnectRequest,
  Socks5.refused_bytes, Socks5.target_bytes
-/
import AmgiNetTools.Socks5.Forms
import AmgiNetTools.Socks5.Reactions

namespace AmgiNetTools

/-- The bytes a parser sees below the size of the buffer. -/
theorem Received.data_eq (buffer : Received) {i : Nat} (inside : i < buffer.size) :
    buffer.data i = buffer.bytes.getD i 0 := by
  have inside : i < buffer.bytes.length := inside
  simp [data, List.getD_eq_getElem?_getD, inside]

namespace Socks5

/-! ### Greetings -/

/-- A greeting that `is_socks5_auth_request` refuses. -/
def Refused (greeting : IoBuffer) : Prop :=
  (isSocks5AuthRequest (fun i => greeting.getD i 0) greeting.length).isSome

instance : DecidablePred Refused := fun _ => inferInstanceAs (Decidable (_ = true))

/-- The parser of greetings does not look past the end. -/
theorem isSocks5AuthRequest_congr {memory memory' : Nat → UInt8} {length : Nat}
    (same : ∀ i < length, memory i = memory' i) :
    isSocks5AuthRequest memory length = isSocks5AuthRequest memory' length := by
  unfold isSocks5AuthRequest Auth.headerMinLength
  by_cases short : length < 2
  · simp [short]
  · have first := same 0 (by omega)
    have second := same 1 (by omega)
    rw [first, second]
    by_cases outside : (memory' 1).toNat + 2 > length
    · simp [outside]
    · have methods : ((List.range (memory' 1).toNat).any fun i => memory (2 + i) == Auth.noAuth) =
          ((List.range (memory' 1).toNat).any fun i => memory' (2 + i) == Auth.noAuth) := by
        rw [Bool.eq_iff_iff, List.any_eq_true, List.any_eq_true]
        refine exists_congr fun i => and_congr_right fun below => ?_
        rw [List.mem_range] at below
        rw [same (2 + i) (by omega)]
      rw [methods]

theorem authMode_eq (greeting : Received) :
    authMode greeting = if Refused greeting.bytes then Auth.notSupported else Auth.noAuth := by
  have same :=
    isSocks5AuthRequest_congr fun i (inside : i < greeting.size) => greeting.data_eq inside
  unfold authMode Refused
  rw [same]
  rfl

theorem not_refused_of_authMode {greeting : Received} (accepted : authMode greeting = Auth.noAuth) :
    ¬ Refused greeting.bytes := by
  intro refused
  rw [authMode_eq, if_pos refused] at accepted
  cases accepted

theorem authMode_cases (greeting : Received) :
    authMode greeting = Auth.noAuth ∨ authMode greeting = Auth.notSupported := by
  rw [authMode_eq]
  split
  · exact .inr rfl
  · exact .inl rfl

/-- A greeting, by the methods it offers. -/
structure Greeting where
  methods : List UInt8
  short : methods.length ≤ 255

/-- A greeting on the wire. -/
def Greeting.bytes (greeting : Greeting) : IoBuffer :=
  version :: UInt8.ofNat greeting.methods.length :: greeting.methods

/-- A length that fits into a byte. -/
theorem toNat_lengthByte {length : Nat} (short : length ≤ 255) :
    (UInt8.ofNat length).toNat = length := by
  rw [UInt8.toNat_ofNat']
  omega

theorem refused_bytes (greeting : Greeting) :
    Refused greeting.bytes ↔ Auth.noAuth ∉ greeting.methods := by
  have count := toNat_lengthByte greeting.short
  have offered : ((List.range greeting.methods.length).any fun i =>
      greeting.bytes.getD (2 + i) 0 == Auth.noAuth) = true ↔ Auth.noAuth ∈ greeting.methods := by
    rw [List.any_eq_true, List.mem_iff_getElem]
    constructor
    · rintro ⟨i, inside, same⟩
      rw [List.mem_range] at inside
      refine ⟨i, inside, ?_⟩
      simpa [Greeting.bytes, Nat.add_comm 2 i, inside] using same
    · rintro ⟨i, inside, same⟩
      refine ⟨i, List.mem_range.mpr inside, ?_⟩
      simpa [Greeting.bytes, Nat.add_comm 2 i, inside] using same
  have first : greeting.bytes.getD 0 0 = version := rfl
  have second : greeting.bytes.getD 1 0 = UInt8.ofNat greeting.methods.length := rfl
  have total : greeting.bytes.length = greeting.methods.length + 2 := rfl
  simp only [Refused, isSocks5AuthRequest, Auth.headerMinLength, first, second, count, total]
  rw [if_neg (by omega), if_neg (by simp), if_neg (by omega)]
  by_cases member : Auth.noAuth ∈ greeting.methods
  · rw [if_pos (offered.mpr member)]
    simp [member]
  · rw [if_neg (fun any => member (offered.mp any))]
    simp [member]

/-! ### Requests -/

/-- The address a request names. -/
inductive Address where
  | ipv4 (bytes : List UInt8) (sized : bytes.length = ipv4Length)
  | dom (name : Text) (short : name.length ≤ maxDomLength)
  | ipv6 (bytes : List UInt8) (sized : bytes.length = ipv6Length)

namespace Address

/-- The type of an address, as a request gives it. -/
def type : Address → UInt8
  | ipv4 _ _ => Socks5.ipv4
  | dom _ _ => Socks5.dom
  | ipv6 _ _ => Socks5.ipv6

/-- An address on the wire. A name comes after its length. -/
def bytes : Address → IoBuffer
  | ipv4 bytes _ => bytes
  | dom name _ => UInt8.ofNat name.length :: name
  | ipv6 bytes _ => bytes

/-- The host an address stands for, if it has a text. -/
def host [Platform] : Address → Option Text
  | ipv4 bytes _ => (Platform.inetNtop .inet bytes).toOption
  | dom name _ => some name
  | ipv6 bytes _ => (Platform.inetNtop .inet6 bytes).toOption

end Address

/-- A request to connect. -/
structure ConnectRequest where
  reserved : UInt8
  address : Address
  port : UInt16

/-- A port on the wire. -/
def portBytes (port : UInt16) : IoBuffer := [(port >>> 8).toUInt8, port.toUInt8]

/-- A request on the wire. -/
def ConnectRequest.bytes (request : ConnectRequest) : IoBuffer :=
  version :: tcpConnection :: request.reserved :: request.address.type ::
    (request.address.bytes ++ portBytes request.port)

/-- Two bytes give back the port. -/
theorem getPortFromBinary_portBytes (port : UInt16) :
    getPortFromBinary (fun i => (portBytes port).getD i 0) = port := by
  apply UInt16.toNat.inj
  have below := port.toNat_lt
  have high : port.toNat >>> 8 % 256 = port.toNat / 256 := by
    rw [Nat.shiftRight_eq_div_pow]
    omega
  have low : (port.toNat / 256) <<< 8 % 65536 = (port.toNat / 256) <<< 8 := by
    rw [Nat.shiftLeft_eq]
    omega
  have digits : (port.toNat / 256) <<< 8 + port.toNat % 2 ^ 8 = port.toNat := by
    rw [Nat.shiftLeft_eq]
    omega
  rw [Nat.shiftLeft_add_eq_or_of_lt (Nat.mod_lt _ (by decide))] at digits
  simpa [getPortFromBinary, portBytes, high, low] using digits

/-! ### Messages in memory -/

/-- Memory holds some bytes from `start` on. -/
def Holds (memory : Nat → UInt8) (start : Nat) (bytes : IoBuffer) : Prop :=
  ∀ (i : Nat) (byte : UInt8), bytes[i]? = some byte → memory (start + i) = byte

theorem holds_data (buffer : Received) : Holds buffer.data 0 buffer.bytes := by
  intro i byte here
  simp [Received.data, List.getD_eq_getElem?_getD, here]

section

variable {memory : Nat → UInt8} {start : Nat} {bytes : IoBuffer}

theorem holds_cons {byte : UInt8} :
    Holds memory start (byte :: bytes) ↔ memory start = byte ∧ Holds memory (start + 1) bytes := by
  constructor
  · intro holds
    refine ⟨holds 0 byte rfl, fun i byte' here => ?_⟩
    rw [Nat.add_assoc, Nat.add_comm 1]
    exact holds (i + 1) byte' here
  · rintro ⟨first, rest⟩ i byte' here
    cases i with
    | zero =>
        cases here
        exact first
    | succ i =>
        rw [Nat.add_comm i, ← Nat.add_assoc]
        exact rest i byte' here

theorem Holds.left {bytes' : IoBuffer} (holds : Holds memory start (bytes ++ bytes')) :
    Holds memory start bytes := by
  intro i byte here
  have inside := (List.getElem?_eq_some_iff.mp here).1
  exact holds i byte (by rw [List.getElem?_append_left inside, here])

theorem Holds.right {bytes' : IoBuffer} (holds : Holds memory start (bytes ++ bytes')) :
    Holds memory (start + bytes.length) bytes' := by
  intro i byte here
  rw [Nat.add_assoc]
  refine holds (bytes.length + i) byte ?_
  rw [List.getElem?_append_right (Nat.le_add_right _ i), Nat.add_sub_cancel_left, here]

theorem bytesAt_of_holds (holds : Holds memory start bytes) :
    bytesAt memory start bytes.length = bytes := by
  refine List.ext_getElem (by simp [bytesAt]) fun i inside inside' => ?_
  simpa [bytesAt] using holds i bytes[i] (List.getElem?_eq_getElem inside')

theorem port_of_holds {port : UInt16} (holds : Holds memory start (portBytes port)) :
    getPortFromBinary (fun i => memory (start + i)) = port := by
  refine Eq.trans ?_ (getPortFromBinary_portBytes port)
  have first := holds 0 _ rfl
  have second := holds 1 _ rfl
  simp only [getPortFromBinary, first, second]
  rfl

theorem portText_of_holds {port : UInt16} (holds : Holds memory start (portBytes port)) :
    portText (memory start) (memory (start + 1)) = portToString port := by
  rw [← port_of_holds holds, portToString_eq]
  rfl

end

/-! ### The parser of requests -/

theorem eq_ok_of_toOption {ε α : Type} {result : Except ε α} {value : α}
    (given : result.toOption = some value) : result = .ok value := by
  cases result with
  | ok value' => exact congrArg Except.ok (Option.some.inj given)
  | error => cases given

variable [Platform] {request : ConnectRequest} {memory : Nat → UInt8} {length : Nat} {host : Text}

/-- An address of the operating system and a port are decoded. -/
theorem decoded_of_holds {family : AddressFamily} {bytes : IoBuffer} {port : UInt16}
    (sized : bytes.length = family.size) (long : requestHeaderMinLength ≤ length)
    (type : memory 3 = family.type) (body : Holds memory 4 (bytes ++ portBytes port))
    (text : Platform.inetNtop family bytes = .ok host) (nonempty : host ≠ []) :
    getRemoteAddressInfo memory length = some (host, portToString port) := by
  have read := bytesAt_of_holds body.left
  have service := portText_of_holds body.right
  rw [sized] at read service
  rw [Nat.add_right_comm] at service
  rw [getRemoteAddressInfo_address long type, read, text, service]
  exact if_neg nonempty

/-- The decoder gives back what the request was made of. -/
theorem getRemoteAddressInfo_bytes (holds : Holds memory 0 request.bytes)
    (long : requestHeaderMinLength ≤ length) (named : request.address.host = some host)
    (nonempty : host ≠ []) :
    getRemoteAddressInfo memory length = some (host, portToString request.port) := by
  obtain ⟨reserved, address, port⟩ := request
  simp only [ConnectRequest.bytes, holds_cons] at holds
  obtain ⟨-, -, -, type, body⟩ := holds
  have type : memory 3 = address.type := type
  have body : Holds memory 4 (address.bytes ++ portBytes port) := body
  cases address with
  | ipv4 bytes sized =>
      have sized : bytes.length = AddressFamily.inet.size := sized
      exact decoded_of_holds sized long type body (eq_ok_of_toOption named) nonempty
  | dom name short =>
      cases named
      rw [Address.bytes, List.cons_append, holds_cons] at body
      obtain ⟨lengthByte, body⟩ := body
      have body : Holds memory 5 (host ++ portBytes port) := body
      have count : (memory 4).toNat = host.length := by
        rw [lengthByte]
        exact toNat_lengthByte short
      have some_ : memory 4 ≠ 0 := by
        intro zero
        rw [zero] at count
        exact nonempty (List.length_eq_zero_iff.mp count.symm)
      have read := bytesAt_of_holds body.left
      have service := portText_of_holds body.right
      rw [Nat.add_right_comm] at service
      rw [getRemoteAddressInfo_name long type, if_neg some_, count, read, service]
  | ipv6 bytes sized =>
      have sized : bytes.length = AddressFamily.inet6.size := sized
      exact decoded_of_holds sized long type body (eq_ok_of_toOption named) nonempty

/-- The two parsers accept a request that is not too short, and give back its host and its port. -/
theorem target_bytes {message : Received} (sent : message.bytes = request.bytes)
    (long : requestHeaderMinLength ≤ request.bytes.length)
    (named : request.address.host = some host) (nonempty : host ≠ []) :
    target message = some (host, portToString request.port) := by
  have holds := holds_data message
  rw [sent] at holds
  have long : requestHeaderMinLength ≤ message.size := by
    rw [Received.size, sent]
    exact long
  have valid : isValidRequestPacket message.data message.size = true := by
    have header := holds
    simp only [ConnectRequest.bytes, holds_cons] at header
    obtain ⟨first, second, -, type, -⟩ := header
    unfold isValidRequestPacket
    rw [if_pos long]
    simp only [first, second, type]
    cases request.address <;> rfl
  rw [target, if_pos valid]
  exact getRemoteAddressInfo_bytes holds long named nonempty

theorem valid_of_target {message : Received} {address : Text × Text}
    (accepted : target message = some address) :
    isValidRequestPacket message.data message.size = true := by
  by_contra invalid
  rw [target, if_neg invalid] at accepted
  cases accepted

/-- The command of a message both parsers accept. -/
theorem command_of_target {message : Received} {address : Text × Text}
    (accepted : target message = some address) : message.bytes[1]? = some tcpConnection := by
  have valid := valid_of_target accepted
  have inside : 1 < message.bytes.length :=
    (by decide : 1 < requestHeaderMinLength).trans_le (long_of_valid valid)
  have command := (start_of_valid valid).2
  simpa [Received.data_eq _ inside, List.getD_eq_getElem?_getD, inside] using command

end Socks5

end AmgiNetTools
