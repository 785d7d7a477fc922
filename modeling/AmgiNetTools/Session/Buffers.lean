/-
Module: AmgiNetTools.Session.Buffers
Layer: Session
Purpose: What the two protocols keep true of the buffer a session saves: it fits into a stream's
  `write_buffer_`, and once a SOCKS5 request is accepted it has the byte that the reply code is
  written to. So nothing either protocol writes is too long, and as only the handlers of one state
  call `set_response_error_code`, it never writes past the end of the response.
Main exports: Socks5.Saved, Socks5.keeps, Socks5.Spares, Socks5.spares_handle, Http.Saved,
  Http.keeps, stream_buffers_bounded
-/
import AmgiNetTools.Session.Bounds
import AmgiNetTools.Socks5.Decoding
import AmgiNetTools.Http.Tunnel

namespace AmgiNetTools

/-! ### SOCKS5 -/

namespace Socks5

/-- The response fits, and while the remote is being connected it has at least two bytes. -/
structure Saved (session : Session Socks5State) : Prop where
  fits : session.context.response.length ≤ maxBufferSize
  patched : session.state = .connectionEstablished → 2 ≤ session.context.response.length

variable [Platform]

/-- A message that is accepted is longer than what its reply patches. -/
theorem two_le_of_target {message : Received} {address : Text × Text}
    (accepted : target message = some address) : 2 ≤ message.size := by
  have valid : isValidRequestPacket message.data message.size = true := by
    by_contra invalid
    rw [target, if_neg invalid] at accepted
    cases accepted
  exact (by decide : 2 ≤ requestHeaderMinLength).trans (long_of_valid valid)

theorem saved_of_next {session session' : Session Socks5State} {event : SessionEvent}
    (saved : Saved session) (bounded : event.Bounded)
    (next : (reaction session event).next = some session') : Saved session' := by
  obtain ⟨context, state⟩ := session
  obtain ⟨fits, patched⟩ := saved
  cases event with
  | serverError ec =>
      cases state <;> cases next
  | clientError ec =>
      cases state with
      | connectionEstablished =>
          cases next
          exact ⟨by simpa using fits, fun _ => by simpa using patched rfl⟩
      | _ => cases next
  | serverRead buffer =>
      cases state with
      | authRequest =>
          cases next
          exact ⟨(by decide : 2 ≤ maxBufferSize), fun other => by cases other⟩
      | connectionRequest =>
          cases accepted : target buffer with
          | none => simp [reaction, accepted, Reaction.stop] at next
          | some address =>
              simp only [reaction, accepted, Option.some.injEq] at next
              subst next
              exact ⟨bounded, fun _ => two_le_of_target accepted⟩
      | connectionEstablished | readyToTransferData | dataTransferMode =>
          cases next
          exact ⟨fits, patched⟩
  | clientConnect buffer =>
      cases state with
      | connectionEstablished =>
          cases next
          exact ⟨by simpa using fits, fun other => by cases other⟩
      | _ =>
          cases next
          exact ⟨fits, patched⟩
  | serverWrite buffer =>
      cases state with
      | connectionEstablished => cases next
      | readyToTransferData =>
          cases next
          exact ⟨fits, fun other => by cases other⟩
      | _ =>
          cases next
          exact ⟨fits, patched⟩
  | clientWrite buffer | clientRead buffer =>
      cases state <;> cases next <;> exact ⟨fits, patched⟩

theorem bounded_of_request {session : Session Socks5State} {event : SessionEvent}
    {request : Request} (saved : Saved session) (bounded : event.Bounded)
    (member : request ∈ (reaction session event).requests) : request.Bounded := by
  obtain ⟨context, state⟩ := session
  obtain ⟨fits, -⟩ := saved
  cases event with
  | serverError ec => cases state <;> cases member
  | clientError ec | clientConnect buffer =>
      cases state with
      | connectionEstablished =>
          cases List.mem_singleton.mp member
          simpa [Request.Bounded] using fits
      | _ => cases member
  | serverRead buffer =>
      cases state with
      | authRequest =>
          cases List.mem_singleton.mp member
          exact (by decide : 2 ≤ maxBufferSize)
      | connectionRequest =>
          cases accepted : target buffer with
          | none => simp [reaction, accepted, Reaction.stop] at member
          | some address =>
              simp only [reaction, accepted] at member
              cases List.mem_singleton.mp member
              trivial
      | dataTransferMode =>
          cases List.mem_singleton.mp member
          exact bounded
      | connectionEstablished | readyToTransferData => cases member
  | clientRead buffer =>
      cases state with
      | dataTransferMode =>
          cases List.mem_singleton.mp member
          exact bounded
      | _ => cases member
  | serverWrite buffer =>
      cases state with
      | readyToTransferData =>
          have member : request ∈ [Request.readServer, .readClient] := member
          simp only [List.mem_cons, List.not_mem_nil, or_false] at member
          rcases member with rfl | rfl <;> trivial
      | connectionRequest | dataTransferMode =>
          cases List.mem_singleton.mp member
          trivial
      | authRequest | connectionEstablished => cases member
  | clientWrite buffer =>
      cases state with
      | dataTransferMode =>
          cases List.mem_singleton.mp member
          trivial
      | _ => cases member

theorem keeps : Keeps Saved where
  initial _ := ⟨Nat.zero_le _, fun other => by cases other⟩
  requests _ _ _ saved bounded computed _ member :=
    bounded_of_request saved bounded (Except.ok.inj computed ▸ member)
  next _ _ _ _ saved bounded computed left :=
    saved_of_next saved bounded (Except.ok.inj computed ▸ left)

/-! ### The calls of `set_response_error_code` -/

/-- A program made of the other functions of a session. -/
inductive Spares (session : Int32) : {α : Type} → ManagerM Socks5State α → Prop where
  | pure {α : Type} (a : α) : Spares session (pure a)
  | bind {α β : Type} {program : ManagerM Socks5State α} {next : α → ManagerM Socks5State β} :
      Spares session program → (∀ a, Spares session (next a)) → Spares session (program >>= next)
  | getContext : Spares session (Session.getContext session)
  | response : Spares session (Socks5Session.response session)
  | setTwoBytes (version authMode : UInt8) :
      Spares session (Socks5Session.setResponse session version authMode)
  | setResponse (buffer : IoBuffer) : Spares session (Session.setResponse session buffer)
  | setEndpointInfo (host service : Text) :
      Spares session (Session.setEndpointInfo session host service)
  | updateBytesSentToRemote (count : Nat) :
      Spares session (Session.updateBytesSentToRemote session count)
  | updateBytesSentToLocal (count : Nat) :
      Spares session (Session.updateBytesSentToLocal session count)
  | changeState (state : Socks5State) : Spares session (Session.changeState session state)
  | connect : Spares session (Session.connect session)
  | stop : Spares session (Session.stop session)
  | readFromServer : Spares session (Session.readFromServer session)
  | readFromClient : Spares session (Session.readFromClient session)
  | readServer (id : Int32) : Spares session (StreamManager.readServer id)
  | writeToServer (buffer : IoBuffer) : Spares session (Session.writeToServer session buffer)
  | writeToClient (buffer : IoBuffer) : Spares session (Session.writeToClient session buffer)

theorem spares_handleServerRead {state : Socks5State} (session : Int32) (buffer : Received) :
    Spares session (state.handleServerRead session buffer) := by
  cases state with
  | authRequest =>
      refine .bind (.setTwoBytes _ _) fun _ => .bind .response fun reply => ?_
      exact .bind (.writeToServer reply) fun _ => .changeState _
  | connectionRequest =>
      simp only [Socks5State.handleServerRead, Socks5ConnectionRequest.handleServerRead]
      split
      · exact .bind .stop fun _ => .pure _
      · split
        · exact .bind .stop fun _ => .pure _
        · refine .bind (.setEndpointInfo _ _) fun _ => .bind (.setResponse _) fun _ => ?_
          exact .bind .connect fun _ => .changeState _
  | dataTransferMode => exact .bind (.updateBytesSentToRemote _) fun _ => .writeToClient _
  | connectionEstablished | readyToTransferData => exact .pure _

omit [Platform] in
theorem spares_handleServerWrite {state : Socks5State} (session : Int32) (buffer : IoBuffer) :
    Spares session (state.handleServerWrite session buffer) := by
  cases state with
  | authRequest => exact .pure _
  | connectionRequest => exact .bind .getContext fun context => .readServer context.id
  | connectionEstablished => exact .stop
  | readyToTransferData =>
      exact .bind .readFromServer fun _ => .bind .readFromClient fun _ => .changeState _
  | dataTransferMode => exact .readFromClient

/-- Only `socks5_connection_established` has handlers that call `set_response_error_code`. -/
theorem spares_handle {state : Socks5State} (other : state ≠ .connectionEstablished)
    (session : Int32) (event : SessionEvent) :
    Spares session (SessionState.handle state session event) := by
  cases event with
  | serverRead buffer => exact spares_handleServerRead session buffer
  | serverWrite buffer => exact spares_handleServerWrite session buffer
  | serverError ec => exact .stop
  | clientError ec =>
      cases state with
      | connectionEstablished => exact absurd rfl other
      | _ => exact .stop
  | clientConnect buffer =>
      cases state with
      | connectionEstablished => exact absurd rfl other
      | _ => exact .pure _
  | clientRead buffer =>
      cases state with
      | dataTransferMode => exact .bind (.updateBytesSentToLocal _) fun _ => .writeToServer _
      | _ => exact .pure _
  | clientWrite buffer =>
      cases state with
      | dataTransferMode => exact .readFromServer
      | _ => exact .pure _

end Socks5

/-! ### HTTP -/

namespace Http

/-- The saved request fits. -/
def Saved (session : Session HttpState) : Prop :=
  session.context.response.length ≤ maxBufferSize

variable {session session' : Session HttpState} {event : SessionEvent}
  {outcome : Reaction HttpState}

/-- What is saved of a request is the request or the 200 reply. -/
theorem length_savedResponse {message : IoBuffer} (small : message.length ≤ maxBufferSize) :
    (savedResponse message).length ≤ maxBufferSize := by
  unfold savedResponse
  split
  · decide
  · exact small

theorem saved_of_next (saved : Saved session) (bounded : event.Bounded)
    (computed : reaction session event = .ok outcome) (next : outcome.next = some session') :
    Saved session' := by
  obtain ⟨context, state⟩ := session
  cases event with
  | serverRead buffer =>
      cases state with
      | waitRequest =>
          cases parsed : target buffer.bytes with
          | error fault => simp [reaction, parsed, Except.map] at computed
          | ok verdict =>
              simp only [reaction, parsed, Except.map] at computed
              cases computed
              cases verdict <;> cases next
              exact length_savedResponse bounded
      | _ =>
          cases computed
          cases next
          exact saved
  | _ => cases state <;> cases computed <;> cases next <;> exact saved

theorem bounded_of_request (saved : Saved session) (bounded : event.Bounded)
    (computed : reaction session event = .ok outcome) {request : Request}
    (member : request ∈ outcome.requests) : request.Bounded := by
  obtain ⟨context, state⟩ := session
  have saved : context.response.length ≤ maxBufferSize := saved
  cases event with
  | serverError ec | clientError ec => cases state <;> cases computed <;> cases member
  | serverRead buffer =>
      cases state with
      | waitRequest =>
          cases parsed : target buffer.bytes with
          | error fault => simp [reaction, parsed, Except.map] at computed
          | ok verdict =>
              simp only [reaction, parsed, Except.map] at computed
              cases computed
              cases verdict <;> cases List.mem_singleton.mp member
              · exact (by decide : kHttpError500.length ≤ maxBufferSize)
              · trivial
      | dataTransferMode =>
          cases computed
          cases List.mem_singleton.mp member
          exact bounded
      | connectionEstablished | readyToTransferData => cases computed; cases member
  | clientRead buffer =>
      cases state with
      | dataTransferMode =>
          cases computed
          cases List.mem_singleton.mp member
          exact bounded
      | _ => cases computed; cases member
  | clientConnect buffer =>
      cases state with
      | connectionEstablished =>
          cases computed
          rw [List.mem_singleton.mp member]
          split <;> exact saved
      | _ => cases computed; cases member
  | serverWrite buffer | clientWrite buffer =>
      cases state with
      | readyToTransferData =>
          cases computed
          simp only [List.mem_cons, List.not_mem_nil, or_false] at member
          rcases member with rfl | rfl <;> trivial
      | dataTransferMode =>
          cases computed
          cases List.mem_singleton.mp member
          trivial
      | waitRequest | connectionEstablished => cases computed; cases member

theorem keeps : Keeps Saved where
  initial _ := Nat.zero_le _
  requests _ _ _ saved bounded computed _ member := bounded_of_request saved bounded computed member
  next _ _ _ _ saved bounded computed left := saved_of_next saved bounded computed left

end Http

/-! ### The law -/

/-- Every buffer passed to `write` fits into the `write_buffer_` of the stream, and no
    `write_buffer_` has been written past its end. -/
def FitsBuffers {μ : Type} (world : World μ) : Prop :=
  (∀ record ∈ world.history, ∀ buffer, record.happening = .called (.write buffer) →
    buffer.length ≤ maxBufferSize) ∧
  ∀ stream, (world.streams stream).writeBuffer.length = maxBufferSize

/-- In every run of a SOCKS5 and of an HTTP server, everything written fits into the buffer it is
    copied to. Whenever a SOCKS5 session is in `socks5_connection_established`, its response has at
    least two bytes, and the handlers of no other state call `set_response_error_code`. -/
theorem stream_buffers_bounded [Platform] :
    (∀ world : Socks5StreamManager, Reachable world →
      FitsBuffers world ∧
        ∀ key pair, world.sessions key = some pair →
          (pair.session.state = .connectionEstablished →
            2 ≤ pair.session.context.response.length) ∧
          (pair.session.state ≠ .connectionEstablished → ∀ event,
            Socks5.Spares key (SessionState.handle pair.session.state key event))) ∧
    ∀ world : HttpStreamManager, Reachable world → FitsBuffers world := by
  constructor
  · intro world reachable
    have bounded := World.bounded_of_reachable Socks5.keeps reachable
    refine ⟨⟨bounded.writes, bounded.buffers⟩, fun key pair present => ⟨?_, ?_⟩⟩
    · exact (bounded.sessions key pair present).patched
    · exact fun other event => Socks5.spares_handle other key event
  · intro world reachable
    have bounded := World.bounded_of_reachable Http.keeps reachable
    exact ⟨bounded.writes, bounded.buffers⟩

section

attribute [local instance] Socks5.Sample.platform

/-- The runs of `Socks5.Sample.relaying` and `Http.Sample.forwarding`. -/
theorem stream_buffers_bounded_sample :
    FitsBuffers (World.play Socks5.Sample.relaying : Socks5StreamManager) ∧
      (∃ pair, (World.play (Socks5.Sample.connecting.take 5) : Socks5StreamManager).sessions 7 =
          some pair ∧
        pair.session.state = .connectionEstablished ∧ 2 ≤ pair.session.context.response.length) ∧
      FitsBuffers (World.play Http.Sample.forwarding : HttpStreamManager) := by
  have relaying := stream_buffers_bounded.1 _ (World.reachable_play Socks5.Sample.relaying)
  have connecting :=
    stream_buffers_bounded.1 _ (World.reachable_play (Socks5.Sample.connecting.take 5))
  have forwarding := stream_buffers_bounded.2 _ (World.reachable_play Http.Sample.forwarding)
  exact ⟨relaying.1, ⟨_, rfl, rfl, (connecting.2 7 _ rfl).1 rfl⟩, forwarding⟩

end

end AmgiNetTools
