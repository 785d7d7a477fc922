/-
Module: AmgiNetTools.Socks5.Reply
Layer: Socks5
Purpose: The reply to a connect. `socks5_connection_established` patches a code into the packet of
  the client and sends it back, with its reserved byte and with whatever came behind the port.
Main exports: Socks5.IsReply, Socks5.ConnectOutcome, Socks5.Replies, Socks5.isReply_iff,
  socks5_reply_exact
-/
import AmgiNetTools.Socks5.Requests

namespace AmgiNetTools

namespace Socks5

/-- A reply on the wire: the version, a code, a reserved byte, an address and a port. -/
def IsReply (code : UInt8) (bytes : IoBuffer) : Prop :=
  ∃ (address : Address) (port : IoBuffer), port.length = 2 ∧
    bytes = version :: code :: 0 :: address.type :: (address.bytes ++ port)

/-- How a connect ends. -/
inductive ConnectOutcome where
  | connected (buffer : IoBuffer)
  | failed (ec : ErrorCode)

namespace ConnectOutcome

/-- What the session is told. -/
def event : ConnectOutcome → SessionEvent
  | connected buffer => .clientConnect buffer
  | failed ec => .clientError ec

/-- The code of the reply. -/
def code : ConnectOutcome → UInt8
  | connected _ => Responses.succeeded
  | failed ec => getResponseErrorCode ec

end ConnectOutcome

/-- The session that a message leaves to `socks5_connection_established` answers the end of the
    connect by writing a reply, and does nothing else. -/
def Replies [Platform] (message : Received) (outcome : ConnectOutcome) (reply : IoBuffer) : Prop :=
  ∀ context, ∃ (started ended : Reaction Socks5State) (session : Session Socks5State),
    ReactiveState.reaction (⟨context, .connectionRequest⟩ : Session Socks5State)
        (.serverRead message) = .ok started ∧
      started.next = some session ∧ session.state = .connectionEstablished ∧
      ReactiveState.reaction session outcome.event = .ok ended ∧
      ended.requests = [.writeServer reply]

/-- A request without anything behind its port, and with a zero for its reserved byte. -/
def Plain (message : Received) : Prop :=
  message.size = declaredSize message.data ∧ message.data 2 = 0

instance (message : Received) : Decidable (Plain message) :=
  inferInstanceAs (Decidable (_ ∧ _))

/-! ### The shape of an accepted request -/

section

variable {type : UInt8} {rest port : IoBuffer}

/-- An address of a type and a port, with nothing before, between or behind. -/
def IsBody (type : UInt8) (rest : IoBuffer) : Prop :=
  ∃ (address : Address) (port : IoBuffer), port.length = 2 ∧ address.type = type ∧
    rest = address.bytes ++ port

theorem isBody_address {family : AddressFamily} :
    IsBody family.type rest ↔ rest.length = family.size + 2 := by
  constructor
  · rintro ⟨address, port, two, same, rfl⟩
    rw [List.length_append, two]
    cases family with
    | inet =>
        cases address with
        | ipv4 bytes sized => exact congrArg (· + 2) sized
        | dom => cases same
        | ipv6 => cases same
    | inet6 =>
        cases address with
        | ipv4 => cases same
        | dom => cases same
        | ipv6 bytes sized => exact congrArg (· + 2) sized
  · intro total
    have sized : (rest.take family.size).length = family.size := by
      rw [List.length_take]
      omega
    have two : (rest.drop family.size).length = 2 := by
      rw [List.length_drop]
      omega
    cases family with
    | inet => exact ⟨.ipv4 _ sized, _, two, rfl, (List.take_append_drop ..).symm⟩
    | inet6 => exact ⟨.ipv6 _ sized, _, two, rfl, (List.take_append_drop ..).symm⟩

theorem isBody_name {count : UInt8} :
    IsBody dom (count :: rest) ↔ rest.length = count.toNat + 2 := by
  constructor
  · rintro ⟨address, port, two, same, shape⟩
    cases address with
    | ipv4 => cases same
    | dom name short =>
        rw [Address.bytes, List.cons_append, List.cons.injEq] at shape
        obtain ⟨rfl, rfl⟩ := shape
        rw [List.length_append, two, toNat_lengthByte short]
    | ipv6 => cases same
  · intro total
    have sized : (rest.take count.toNat).length = count.toNat := by
      rw [List.length_take]
      omega
    have two : (rest.drop count.toNat).length = 2 := by
      rw [List.length_drop]
      omega
    have short : (rest.take count.toNat).length ≤ maxDomLength := by
      rw [sized]
      exact Nat.le_of_lt_succ count.toNat_lt
    refine ⟨.dom _ short, _, two, rfl, ?_⟩
    rw [Address.bytes, sized, UInt8.ofNat_toNat, List.cons_append, List.take_append_drop]

end

/-- An accepted request has a header, and a byte behind it. -/
theorem header_of_valid {message : Received}
    (valid : isValidRequestPacket message.data message.size = true) :
    ∃ reserved type count rest,
      message.bytes = version :: tcpConnection :: reserved :: type :: count :: rest := by
  have long : 10 ≤ message.bytes.length := long_of_valid valid
  obtain ⟨first, second⟩ := start_of_valid valid
  unfold Received.data at first second
  generalize message.bytes = bytes at long first second
  match bytes, long with
  | _ :: _ :: reserved :: type :: count :: rest, _ =>
      cases first
      cases second
      exact ⟨reserved, type, count, rest, rfl⟩

/-- The answer to an accepted request is one reply exactly when the request is plain. -/
theorem isReply_iff {message : Received} (code : UInt8)
    (valid : isValidRequestPacket message.data message.size = true) :
    IsReply code (message.bytes.set 1 code) ↔ Plain message := by
  obtain ⟨reserved, type, count, rest, shape⟩ := header_of_valid valid
  have body : IsReply code (message.bytes.set 1 code) ↔
      reserved = 0 ∧ IsBody type (count :: rest) := by
    rw [shape]
    constructor
    · rintro ⟨address, port, two, same⟩
      simp only [List.set_cons_succ, List.set_cons_zero, List.cons.injEq, true_and] at same
      obtain ⟨rfl, rfl, same⟩ := same
      exact ⟨rfl, address, port, two, rfl, same⟩
    · rintro ⟨rfl, address, port, two, rfl, same⟩
      exact ⟨address, port, two, by rw [same]; rfl⟩
  have two : message.data 2 = reserved := by rw [Received.data, shape]; rfl
  have three : message.data 3 = type := by rw [Received.data, shape]; rfl
  have four : message.data 4 = count := by rw [Received.data, shape]; rfl
  have total : message.size = 4 + (count :: rest).length := by
    rw [Received.size, shape]
    simp only [List.length_cons]
    omega
  rw [body, Plain, two, and_comm]
  refine and_congr_left fun _ => ?_
  obtain ⟨family, address⟩ | name := form_of_valid valid
  · rw [declaredSize_address address, total, ← three, address, isBody_address]
    omega
  · rw [declaredSize_name name, total, ← three, name, four, isBody_name, List.length_cons]
    omega

/-- The patched packet is the answer. -/
theorem replies_of_target [Platform] {message : Received} {address : Text × Text}
    (accepted : target message = some address) (outcome : ConnectOutcome) :
    Replies message outcome (message.bytes.set 1 outcome.code) := by
  intro context
  refine ⟨_, _, _, congrArg Except.ok (reaction_accepted context accepted), rfl, rfl, rfl, ?_⟩
  cases outcome <;> rfl

/-- There is one answer. -/
theorem Replies.unique [Platform] {message : Received} {outcome : ConnectOutcome}
    {reply reply' : IoBuffer} (replies : Replies message outcome reply)
    (replies' : Replies message outcome reply') : reply = reply' := by
  obtain ⟨started, ended, session, reacts, left, -, answers, written⟩ := replies { id := 0 }
  obtain ⟨started', ended', session', reacts', left', -, answers', written'⟩ := replies' { id := 0 }
  rw [reacts] at reacts'
  cases reacts'
  rw [left] at left'
  cases left'
  rw [answers] at answers'
  cases answers'
  rw [written] at written'
  cases written'
  rfl

namespace Sample

/-- A request for port 80 of 127.0.0.1, with one more byte behind it. -/
def withSurplus : Received where
  bytes := [5, 1, 0, 1, 127, 0, 0, 1, 0, 80, 99]
  behind := fun _ => 0

end Sample

end Socks5

/-- The reply to a connect, whatever comes of it, is one well-formed message exactly when the
    request has nothing behind its port and a zero for its reserved byte. -/
theorem socks5_reply_exact [Platform] (message : Received) (address : Text × Text)
    (accepted : Socks5.target message = some address) (outcome : Socks5.ConnectOutcome) :
    (∃ reply, Socks5.Replies message outcome reply ∧ Socks5.IsReply outcome.code reply) ↔
      Socks5.Plain message := by
  have valid := Socks5.valid_of_target accepted
  have patched := Socks5.replies_of_target accepted outcome
  rw [← Socks5.isReply_iff outcome.code valid]
  constructor
  · rintro ⟨reply, replies, wellFormed⟩
    rwa [replies.unique patched] at wellFormed
  · intro wellFormed
    exact ⟨_, patched, wellFormed⟩

section

attribute [local instance] Socks5.Sample.everyGroup

open Socks5.Sample

/-- The answer to a request that ends with its port is a reply. -/
theorem socks5_reply_exact_sample :
    ∃ reply, Socks5.Replies ⟨request, fun _ => 0⟩ (.connected []) reply ∧
      Socks5.IsReply (Socks5.ConnectOutcome.connected []).code reply :=
  (socks5_reply_exact ⟨request, fun _ => 0⟩ (ascii "127.0.0.1", ascii "80") (by decide)
    (.connected [])).mpr (by decide)

/-- A byte behind the port comes back behind the reply. -/
theorem socks5_reply_surplus :
    Socks5.target withSurplus = some (ascii "127.0.0.1", ascii "80") ∧
      Socks5.Replies withSurplus (.connected []) [5, 0, 0, 1, 127, 0, 0, 1, 0, 80, 99] ∧
      ¬ Socks5.IsReply 0 [5, 0, 0, 1, 127, 0, 0, 1, 0, 80, 99] := by
  have accepted : Socks5.target withSurplus = some (ascii "127.0.0.1", ascii "80") := by decide
  refine ⟨accepted, Socks5.replies_of_target accepted (.connected []), fun wellFormed => ?_⟩
  have valid := Socks5.valid_of_target accepted
  have plain := (@Socks5.isReply_iff withSurplus 0 valid).mp wellFormed
  exact absurd plain (by decide)

end

end AmgiNetTools
