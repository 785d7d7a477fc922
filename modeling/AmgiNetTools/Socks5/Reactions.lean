/-
Module: AmgiNetTools.Socks5.Reactions
Layer: Socks5
Purpose: The reaction of every SOCKS5 state to every event, as one table, and the proof that the
  handlers of `socks5_state.cpp` do what the table says.
Main exports: Socks5.methodReply, Socks5.reaction, the instance ReactiveState Socks5State
-/
import AmgiNetTools.Session.Reaction
import AmgiNetTools.Socks5.States

namespace AmgiNetTools

namespace Socks5

/-- The answer to a greeting. -/
def authMode (greeting : Received) : UInt8 :=
  if (isSocks5AuthRequest greeting.data greeting.size).isSome then
    Auth.notSupported
  else
    Auth.noAuth

/-- The target of a message that both parsers accept. -/
def target [Platform] (message : Received) : Option (Text × Text) :=
  if isValidRequestPacket message.data message.size then
    getRemoteAddressInfo message.data message.size
  else
    none

/-- What each state does with each event. -/
def reaction [Platform] (session : Session Socks5State) (event : SessionEvent) :
    Reaction Socks5State :=
  let context := session.context
  match session.state, event with
  | _, .serverError _ => .stop
  | .authRequest, .serverRead buffer =>
      let reply := [version, authMode buffer]
      { requests := [.writeServer reply]
        next := some ⟨{ context with response := reply }, .connectionRequest⟩ }
  | .connectionRequest, .serverWrite _ => { requests := [.readServer], next := some session }
  | .connectionRequest, .serverRead buffer =>
      match target buffer with
      | none => .stop
      | some (host, service) =>
          { requests := [.connect host service]
            next := some
              ⟨{ context with host := host, service := service, response := buffer.bytes },
                .connectionEstablished⟩ }
  | .connectionEstablished, .clientConnect _ =>
      let reply := context.response.set 1 Responses.succeeded
      { requests := [.writeServer reply]
        next := some ⟨{ context with response := reply }, .readyToTransferData⟩ }
  | .connectionEstablished, .clientError ec =>
      let reply := context.response.set 1 (getResponseErrorCode ec)
      { requests := [.writeServer reply]
        next := some ⟨{ context with response := reply }, .connectionEstablished⟩ }
  | .connectionEstablished, .serverWrite _ => .stop
  | .readyToTransferData, .serverWrite _ =>
      { requests := [.readServer, .readClient], next := some ⟨context, .dataTransferMode⟩ }
  | .dataTransferMode, .serverWrite _ => { requests := [.readClient], next := some session }
  | .dataTransferMode, .serverRead buffer =>
      { requests := [.writeClient buffer.bytes]
        next := some
          ⟨{ context with
              transferredBytesToRemote :=
                context.transferredBytesToRemote + UInt64.ofNat buffer.size },
            .dataTransferMode⟩ }
  | .dataTransferMode, .clientWrite _ => { requests := [.readServer], next := some session }
  | .dataTransferMode, .clientRead buffer =>
      { requests := [.writeServer buffer]
        next := some
          ⟨{ context with
              transferredBytesToLocal :=
                context.transferredBytesToLocal + UInt64.ofNat buffer.length },
            .dataTransferMode⟩ }
  | _, .clientError _ => .stop
  | _, _ => .stay session

section

attribute [local simp] reaction

variable {world : World Socks5State} {key : Int32} {pair : SessionPair Socks5State}
  {context : SessionContext} (own : context.id = key)
include own

theorem handleServerRead_authRequest (buffer : Received) [Platform] :
    (Socks5AuthRequest.handleServerRead key buffer).run
        (world.react key pair (.stay ⟨context, .authRequest⟩)) =
      .ok ((), world.react key pair (reaction ⟨context, .authRequest⟩ (.serverRead buffer))) := by
  simp [Socks5AuthRequest.handleServerRead, Socks5Session.setResponse, Socks5Session.response,
    Reaction.stay, authMode, own]

theorem handleServerRead_connectionRequest (buffer : Received) [Platform] :
    (Socks5ConnectionRequest.handleServerRead key buffer).run
        (world.react key pair (.stay ⟨context, .connectionRequest⟩)) =
      .ok ((), world.react key pair
        (reaction ⟨context, .connectionRequest⟩ (.serverRead buffer))) := by
  simp only [Socks5ConnectionRequest.handleServerRead, reaction, target]
  cases valid : isValidRequestPacket buffer.data buffer.size with
  | false => simp [Reaction.stay, Reaction.stop, own]
  | true =>
      cases decoded : getRemoteAddressInfo buffer.data buffer.size with
      | none => simp [Reaction.stay, Reaction.stop, own]
      | some address =>
          simp [Session.setEndpointInfo, Session.setResponse, Reaction.stay, own]

theorem handleClientConnect_connectionEstablished (buffer : IoBuffer) [Platform] :
    (Socks5ConnectionEstablished.handleClientConnect key buffer).run
        (world.react key pair (.stay ⟨context, .connectionEstablished⟩)) =
      .ok ((), world.react key pair
        (reaction ⟨context, .connectionEstablished⟩ (.clientConnect buffer))) := by
  simp [Socks5ConnectionEstablished.handleClientConnect, Socks5Session.setResponseErrorCode,
    Socks5Session.response, Reaction.stay, own]

theorem handleClientError_connectionEstablished (ec : ErrorCode) [Platform] :
    (Socks5ConnectionEstablished.handleClientError key ec).run
        (world.react key pair (.stay ⟨context, .connectionEstablished⟩)) =
      .ok ((), world.react key pair
        (reaction ⟨context, .connectionEstablished⟩ (.clientError ec))) := by
  simp [Socks5ConnectionEstablished.handleClientError, Socks5Session.setResponseErrorCode,
    Socks5Session.response, Reaction.stay, own]

theorem handleServerRead_dataTransferMode (buffer : Received) [Platform] :
    (Socks5DataTransferMode.handleServerRead key buffer).run
        (world.react key pair (.stay ⟨context, .dataTransferMode⟩)) =
      .ok ((), world.react key pair
        (reaction ⟨context, .dataTransferMode⟩ (.serverRead buffer))) := by
  simp [Socks5DataTransferMode.handleServerRead, Session.updateBytesSentToRemote, Reaction.stay,
    own]

theorem handleClientRead_dataTransferMode (buffer : IoBuffer) [Platform] :
    (Socks5DataTransferMode.handleClientRead key buffer).run
        (world.react key pair (.stay ⟨context, .dataTransferMode⟩)) =
      .ok ((), world.react key pair
        (reaction ⟨context, .dataTransferMode⟩ (.clientRead buffer))) := by
  simp [Socks5DataTransferMode.handleClientRead, Session.updateBytesSentToLocal, Reaction.stay, own]

theorem handleServerWrite_run (state : Socks5State) (buffer : IoBuffer) [Platform] :
    (state.handleServerWrite key buffer).run (world.react key pair (.stay ⟨context, state⟩)) =
      .ok ((), world.react key pair (reaction ⟨context, state⟩ (.serverWrite buffer))) := by
  cases state with
  | authRequest => simp [Socks5State.handleServerWrite]
  | connectionRequest =>
      simp [Socks5State.handleServerWrite, Socks5ConnectionRequest.handleServerWrite, Reaction.stay,
        own]
  | connectionEstablished =>
      simp [Socks5State.handleServerWrite, Socks5ConnectionEstablished.handleServerWrite,
        Reaction.stay, Reaction.stop, own]
  | readyToTransferData =>
      simp [Socks5State.handleServerWrite, Socks5ReadyToTransferData.handleServerWrite,
        Reaction.stay, own]
  | dataTransferMode =>
      simp [Socks5State.handleServerWrite, Socks5DataTransferMode.handleServerWrite, Reaction.stay,
        own]

theorem handleServerRead_run (state : Socks5State) (buffer : Received) [Platform] :
    (state.handleServerRead key buffer).run (world.react key pair (.stay ⟨context, state⟩)) =
      .ok ((), world.react key pair (reaction ⟨context, state⟩ (.serverRead buffer))) := by
  cases state with
  | authRequest => exact handleServerRead_authRequest own buffer
  | connectionRequest => exact handleServerRead_connectionRequest own buffer
  | connectionEstablished => simp [Socks5State.handleServerRead]
  | readyToTransferData => simp [Socks5State.handleServerRead]
  | dataTransferMode => exact handleServerRead_dataTransferMode own buffer

theorem handleClientError_run (state : Socks5State) (ec : ErrorCode) [Platform] :
    (state.handleClientError key ec).run (world.react key pair (.stay ⟨context, state⟩)) =
      .ok ((), world.react key pair (reaction ⟨context, state⟩ (.clientError ec))) := by
  cases state with
  | connectionEstablished => exact handleClientError_connectionEstablished own ec
  | _ =>
      simp [Socks5State.handleClientError, Socks5BaseState.handleClientError, Reaction.stay,
        Reaction.stop, own]

/-- The handlers do what the table says. -/
theorem handle_run [Platform] (state : Socks5State) (event : SessionEvent) :
    (SessionState.handle state key event).run (world.react key pair (.stay ⟨context, state⟩)) =
      .ok ((), world.react key pair (reaction ⟨context, state⟩ event)) := by
  cases event with
  | serverRead buffer => exact handleServerRead_run own state buffer
  | serverWrite buffer => exact handleServerWrite_run own state buffer
  | clientError ec => exact handleClientError_run own state ec
  | serverError ec =>
      simp [SessionState.handle, SessionState.handleServerError, Socks5State.handleServerError,
        Socks5BaseState.handleServerError, Reaction.stay, Reaction.stop, own]
  | clientConnect buffer =>
      cases state with
      | connectionEstablished => exact handleClientConnect_connectionEstablished own buffer
      | _ =>
          simp [SessionState.handle, SessionState.handleClientConnect,
            Socks5State.handleClientConnect]
  | clientRead buffer =>
      cases state with
      | dataTransferMode => exact handleClientRead_dataTransferMode own buffer
      | _ =>
          simp [SessionState.handle, SessionState.handleClientRead, Socks5State.handleClientRead]
  | clientWrite buffer =>
      cases state with
      | dataTransferMode =>
          simp [SessionState.handle, SessionState.handleClientWrite, Socks5State.handleClientWrite,
            Socks5DataTransferMode.handleClientWrite, Reaction.stay, own]
      | _ =>
          simp [SessionState.handle, SessionState.handleClientWrite, Socks5State.handleClientWrite]

end

/-- No handler touches the id of its session. -/
theorem reaction_keepsId [Platform] {session session' : Session Socks5State} {event : SessionEvent}
    (next : (reaction session event).next = some session') :
    session'.context.id = session.context.id := by
  simp only [reaction] at next
  split at next
  case h_4 => split at next <;> cases next; rfl
  all_goals cases next
  all_goals rfl

end Socks5

instance [Platform] : ReactiveState Socks5State where
  reaction session event := .ok (Socks5.reaction session event)
  handle_stay _ _ _ session event own := Socks5.handle_run own session.state event
  keepsId _ _ _ _ computed next := by
    cases computed
    exact Socks5.reaction_keepsId next
  noDangling _ _ faulty := by cases faulty

end AmgiNetTools
