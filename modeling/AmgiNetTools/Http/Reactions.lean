/-
Module: AmgiNetTools.Http.Reactions
Layer: Http
Purpose: The reaction of every HTTP state to every event, as one table, and the proof that the
  handlers of `http_state.cpp` do what the table says.
Main exports: Http.Verdict, Http.judge, Http.reaction, the instance ReactiveState HttpState
-/
import AmgiNetTools.Session.Reaction
import AmgiNetTools.Http.States

namespace AmgiNetTools

namespace Http

/-- The target of a request: host and service, both non-empty. -/
structure Target where
  host : Text
  service : Text
deriving DecidableEq

/-- What `http_wait_request` makes of the first buffer: `none` is the answer 500. -/
def target (buffer : IoBuffer) : Except Fault (Option Target) := do
  let host ← (getHeaders buffer).getHost buffer
  let service ← (getHeaders buffer).getService buffer
  return if host.isEmpty || service.isEmpty then none else some ⟨host, service⟩

/-- What is kept of an accepted request until the remote is connected. -/
def savedResponse (buffer : IoBuffer) : IoBuffer :=
  if (getHeaders buffer).method = .kConnect then kHttpDone else buffer

/-- What each state does with each event. -/
def reaction (session : Session HttpState) (event : SessionEvent) :
    Except Fault (Reaction HttpState) :=
  let context := session.context
  match session.state, event with
  | _, .serverError _ => .ok .stop
  | _, .clientError _ => .ok .stop
  | .waitRequest, .serverRead buffer =>
      (target buffer.bytes).map fun
        | none => { requests := [.writeServer kHttpError500], next := none }
        | some ⟨host, service⟩ =>
            { requests := [.connect host service]
              next := some
                ⟨{ context with
                    host := host, service := service, response := savedResponse buffer.bytes },
                  .connectionEstablished⟩ }
  | .connectionEstablished, .clientConnect _ =>
      .ok
        { requests :=
            [if context.response = kHttpDone then .writeServer context.response
              else .writeClient context.response]
          next := some ⟨context, .readyToTransferData⟩ }
  | .readyToTransferData, .clientWrite _ =>
      .ok { requests := [.readServer, .readServer], next := some ⟨context, .dataTransferMode⟩ }
  | .readyToTransferData, .serverWrite _ =>
      .ok { requests := [.readServer, .readClient], next := some ⟨context, .dataTransferMode⟩ }
  | .dataTransferMode, .serverWrite _ => .ok { requests := [.readClient], next := some session }
  | .dataTransferMode, .serverRead buffer =>
      .ok
        { requests := [.writeClient buffer.bytes]
          next := some
            ⟨{ context with
                transferredBytesToRemote :=
                  context.transferredBytesToRemote + UInt64.ofNat buffer.size },
              .dataTransferMode⟩ }
  | .dataTransferMode, .clientWrite _ => .ok { requests := [.readServer], next := some session }
  | .dataTransferMode, .clientRead buffer =>
      .ok
        { requests := [.writeServer buffer]
          next := some
            ⟨{ context with
                transferredBytesToLocal :=
                  context.transferredBytesToLocal + UInt64.ofNat buffer.length },
              .dataTransferMode⟩ }
  | _, _ => .ok (.stay session)

section

attribute [local simp] reaction

variable {world : World HttpState} {key : Int32} {pair : SessionPair HttpState}
  {context : SessionContext} (own : context.id = key)
include own

theorem handleServerRead_waitRequest (buffer : Received) :
    (HttpWaitRequest.handleServerRead key buffer).run
        (world.react key pair (.stay ⟨context, .waitRequest⟩)) =
      (reaction ⟨context, .waitRequest⟩ (.serverRead buffer)).map
        fun outcome => ((), world.react key pair outcome) := by
  simp only [HttpWaitRequest.handleServerRead, reaction, target]
  cases (getHeaders buffer.bytes).getHost buffer.bytes with
  | error fault => rfl
  | ok host =>
      cases (getHeaders buffer.bytes).getService buffer.bytes with
      | error fault => rfl
      | ok service =>
          cases host with
          | nil => simp [Reaction.stay, Except.map, own]
          | cons c host =>
              cases service with
              | nil => simp [Reaction.stay, Except.map, own]
              | cons d service =>
                  by_cases connect : (getHeaders buffer.bytes).method = .kConnect
                  · simp [Session.setResponse, Session.setEndpointInfo, Reaction.stay, Except.map,
                      savedResponse, connect, own]
                  · simp [Session.setResponse, Session.setEndpointInfo, Reaction.stay, Except.map,
                      savedResponse, connect, own]

theorem handleClientConnect_connectionEstablished (buffer : IoBuffer) :
    (HttpConnectionEstablished.handleClientConnect key buffer).run
        (world.react key pair (.stay ⟨context, .connectionEstablished⟩)) =
      (reaction ⟨context, .connectionEstablished⟩ (.clientConnect buffer)).map
        fun outcome => ((), world.react key pair outcome) := by
  by_cases done : context.response = kHttpDone
  · simp [HttpConnectionEstablished.handleClientConnect, Reaction.stay, Except.map, done, own]
  · simp [HttpConnectionEstablished.handleClientConnect, Reaction.stay, Except.map, done, own]

theorem handleServerRead_run (state : HttpState) (buffer : Received) :
    (state.handleServerRead key buffer).run (world.react key pair (.stay ⟨context, state⟩)) =
      (reaction ⟨context, state⟩ (.serverRead buffer)).map
        fun outcome => ((), world.react key pair outcome) := by
  cases state with
  | waitRequest => exact handleServerRead_waitRequest own buffer
  | connectionEstablished => simp [HttpState.handleServerRead, Except.map]
  | readyToTransferData => simp [HttpState.handleServerRead, Except.map]
  | dataTransferMode =>
      simp [HttpState.handleServerRead, HttpDataTransferMode.handleServerRead,
        Session.updateBytesSentToRemote, Reaction.stay, Except.map, own]

theorem handleServerWrite_run (state : HttpState) (buffer : IoBuffer) :
    (state.handleServerWrite key buffer).run (world.react key pair (.stay ⟨context, state⟩)) =
      (reaction ⟨context, state⟩ (.serverWrite buffer)).map
        fun outcome => ((), world.react key pair outcome) := by
  cases state with
  | waitRequest => simp [HttpState.handleServerWrite, Except.map]
  | connectionEstablished => simp [HttpState.handleServerWrite, Except.map]
  | readyToTransferData =>
      simp [HttpState.handleServerWrite, HttpReadyToTransferData.handleServerWrite, Reaction.stay,
        Except.map, own]
  | dataTransferMode =>
      simp [HttpState.handleServerWrite, HttpDataTransferMode.handleServerWrite, Reaction.stay,
        Except.map, own]

theorem handleClientWrite_run (state : HttpState) (buffer : IoBuffer) :
    (state.handleClientWrite key buffer).run (world.react key pair (.stay ⟨context, state⟩)) =
      (reaction ⟨context, state⟩ (.clientWrite buffer)).map
        fun outcome => ((), world.react key pair outcome) := by
  cases state with
  | waitRequest => simp [HttpState.handleClientWrite, Except.map]
  | connectionEstablished => simp [HttpState.handleClientWrite, Except.map]
  | readyToTransferData =>
      simp [HttpState.handleClientWrite, HttpReadyToTransferData.handleClientWrite, Reaction.stay,
        Except.map, own]
  | dataTransferMode =>
      simp [HttpState.handleClientWrite, HttpDataTransferMode.handleClientWrite, Reaction.stay,
        Except.map, own]

/-- The handlers do what the table says. -/
theorem handle_run (state : HttpState) (event : SessionEvent) :
    (SessionState.handle state key event).run (world.react key pair (.stay ⟨context, state⟩)) =
      (reaction ⟨context, state⟩ event).map
        fun outcome => ((), world.react key pair outcome) := by
  cases event with
  | serverRead buffer => exact handleServerRead_run own state buffer
  | serverWrite buffer => exact handleServerWrite_run own state buffer
  | clientWrite buffer => exact handleClientWrite_run own state buffer
  | serverError ec =>
      simp [SessionState.handle, SessionState.handleServerError, HttpState.handleServerError,
        HttpBaseState.handleServerError, Reaction.stay, Reaction.stop, Except.map, own]
  | clientError ec =>
      simp [SessionState.handle, SessionState.handleClientError, HttpState.handleClientError,
        HttpBaseState.handleClientError, Reaction.stay, Reaction.stop, Except.map, own]
  | clientConnect buffer =>
      cases state with
      | connectionEstablished => exact handleClientConnect_connectionEstablished own buffer
      | _ =>
          simp [SessionState.handle, SessionState.handleClientConnect,
            HttpState.handleClientConnect, Except.map]
  | clientRead buffer =>
      cases state with
      | dataTransferMode =>
          simp [SessionState.handle, SessionState.handleClientRead, HttpState.handleClientRead,
            HttpDataTransferMode.handleClientRead, Session.updateBytesSentToLocal, Reaction.stay,
            Except.map, own]
      | _ =>
          simp [SessionState.handle, SessionState.handleClientRead, HttpState.handleClientRead,
            Except.map]

end

/-! ### What the reactions have in common -/

theorem toString_error {buffer : Text} {view : StringView} {fault : Fault}
    (failed : view.toString buffer = .error fault) : fault = .exception := by
  unfold StringView.toString at failed
  split at failed <;> cases failed
  rfl

theorem getHost_error {buffer : Text} {req : RequestHeaders} {fault : Fault}
    (failed : req.getHost buffer = .error fault) : fault = .exception := by
  unfold RequestHeaders.getHost at failed
  split at failed
  · exact toString_error failed
  · split at failed
    · exact toString_error failed
    · cases failed

theorem getService_error {buffer : Text} {req : RequestHeaders} {fault : Fault}
    (failed : req.getService buffer = .error fault) : fault = .exception := by
  unfold RequestHeaders.getService at failed
  split at failed <;> split at failed
  · exact toString_error failed
  · cases failed
  · exact toString_error failed
  · cases failed

/-- Parsing a request can throw, and do nothing else that is wrong. -/
theorem target_error {buffer : IoBuffer} {fault : Fault} (failed : target buffer = .error fault) :
    fault = .exception := by
  unfold target at failed
  cases host : (getHeaders buffer).getHost buffer with
  | error fault' =>
      rw [host] at failed
      cases failed
      exact getHost_error host
  | ok text =>
      cases service : (getHeaders buffer).getService buffer with
      | error fault' =>
          rw [host, service] at failed
          cases failed
          exact getService_error service
      | ok text' =>
          rw [host, service] at failed
          cases failed

/-- No handler touches the id of its session. -/
theorem reaction_keepsId {session session' : Session HttpState} {event : SessionEvent}
    {outcome : Reaction HttpState} (computed : reaction session event = .ok outcome)
    (next : outcome.next = some session') : session'.context.id = session.context.id := by
  simp only [reaction] at computed
  split at computed
  case h_3 buffer _ =>
    cases parsed : target buffer.bytes with
    | error fault => simp [parsed, Except.map] at computed
    | ok verdict =>
        cases verdict <;> rw [parsed] at computed <;> cases computed <;> cases next
        rfl
  all_goals cases computed
  all_goals cases next
  all_goals rfl

theorem reaction_ne_dangling (session : Session HttpState) (event : SessionEvent) :
    reaction session event ≠ .error .dangling := by
  intro faulty
  simp only [reaction] at faulty
  split at faulty
  case h_3 buffer _ =>
    cases parsed : target buffer.bytes with
    | error fault =>
        rw [parsed, target_error parsed] at faulty
        cases faulty
    | ok verdict => simp [parsed, Except.map] at faulty
  all_goals cases faulty

end Http

instance : ReactiveState HttpState where
  reaction := Http.reaction
  handle_stay _ _ _ session event own := Http.handle_run own session.state event
  keepsId _ _ _ _ := Http.reaction_keepsId
  noDangling := Http.reaction_ne_dangling

end AmgiNetTools
