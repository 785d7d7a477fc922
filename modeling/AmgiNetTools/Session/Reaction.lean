/-
Module: AmgiNetTools.Session.Reaction
Layer: Session
Purpose: What a handler can do, said once. Run inside the entry of its own session, a handler asks
  the manager for some operations and then either leaves a session behind or has stopped it as its
  very last action. A `Reaction` is such an outcome, `World.react` its effect on the world, and
  `ReactiveState` the law that every handler of a protocol has one.
Main exports: Request, Reaction, World.react, SessionEvent, ReactiveState
-/
import AmgiNetTools.Transport.StreamManager

namespace AmgiNetTools

variable {μ : Type}

/-- The stream a session's pair has at one of its two ends. -/
def SessionPair.stream (pair : SessionPair μ) : Side → Stream
  | .server => .server pair.server
  | .client => .client pair.client

/-- An operation a handler asks the manager for, other than to stop. -/
inductive Request where
  | readServer
  | writeServer (buffer : IoBuffer)
  | readClient
  | writeClient (buffer : IoBuffer)
  | connect (host service : Text)
deriving DecidableEq

/-- The stream operations a request comes to. -/
def Request.calls : Request → List (Side × StreamCall)
  | .readServer => [(.server, .read)]
  | .writeServer buffer => [(.server, .write buffer)]
  | .readClient => [(.client, .read)]
  | .writeClient buffer => [(.client, .write buffer)]
  | .connect host service =>
      [(.client, .setHost host), (.client, .setService service), (.client, .start)]

/-- The stream operations of `stop(int id)`. -/
def stopCalls : List (Side × StreamCall) := [(.client, .stop), (.server, .stop)]

/-- The outcome of a handler: its requests in order, and the session it leaves behind, `none` when
    its last action was to stop. -/
structure Reaction (μ : Type) where
  requests : List Request
  next : Option (Session μ)

namespace Reaction

/-- The handler that does nothing. -/
def stay (session : Session μ) : Reaction μ := { requests := [], next := some session }

/-- The handler that only stops the session. -/
def stop : Reaction μ := { requests := [], next := none }

/-- The stream operations of a handler, in order. -/
def calls (reaction : Reaction μ) : List (Side × StreamCall) :=
  reaction.requests.flatMap Request.calls ++
    match reaction.next with
    | some _ => []
    | none => stopCalls

end Reaction

namespace World

/-- Call operations on the two streams of a pair, in order. -/
def invokeAll (pair : SessionPair μ) (calls : List (Side × StreamCall))
    (world : World μ) : World μ :=
  calls.foldl (fun w call => w.invoke (pair.stream call.1) call.2) world

/-- The effect of a handler that ran in the entry `pair` of key `key`. -/
def react (key : Int32) (pair : SessionPair μ) (reaction : Reaction μ)
    (world : World μ) : World μ :=
  { world.invokeAll pair reaction.calls with
    sessions := Function.update world.sessions key
      (reaction.next.map fun session => { pair with session := session }) }

end World

/-- The events a session handles. -/
inductive SessionEvent where
  | serverRead (buffer : Received)
  | clientRead (buffer : IoBuffer)
  | clientConnect (buffer : IoBuffer)
  | serverWrite (buffer : IoBuffer)
  | clientWrite (buffer : IoBuffer)
  | serverError (ec : ErrorCode)
  | clientError (ec : ErrorCode)

/-- The virtual handler for an event. -/
def SessionState.handle [SessionState μ] (state : μ) (session : Int32) :
    SessionEvent → ManagerM μ Unit
  | .serverRead buffer => handleServerRead state session buffer
  | .clientRead buffer => handleClientRead state session buffer
  | .clientConnect buffer => handleClientConnect state session buffer
  | .serverWrite buffer => handleServerWrite state session buffer
  | .clientWrite buffer => handleClientWrite state session buffer
  | .serverError ec => handleServerError state session ec
  | .clientError ec => handleClientError state session ec

/-- The session's function for an event. -/
def Session.handle [SessionState μ] (this : Int32) : SessionEvent → ManagerM μ Unit
  | .serverRead buffer => Session.handleServerRead this buffer
  | .clientRead buffer => Session.handleClientRead this buffer
  | .clientConnect buffer => Session.handleClientConnect this buffer
  | .serverWrite buffer => Session.handleServerWrite this buffer
  | .clientWrite buffer => Session.handleClientWrite this buffer
  | .serverError ec => Session.handleServerError this ec
  | .clientError ec => Session.handleClientError this ec

/-! ### Running a handler

`world.react key pair { requests, next := some session }` is also the state of a handler half way
through: it has made `requests` so far, and the session in its entry is now `session`. Every
operation a handler can use takes such a state to another one. -/

@[simp] theorem except_ok_bind {ε α β : Type} (a : α) (f : α → Except ε β) :
    (Except.ok a >>= f) = f a := rfl

@[simp] theorem except_pure {ε α : Type} (a : α) : (pure a : Except ε α) = .ok a := rfl

namespace World

@[simp] theorem sessions_invoke (stream : Stream) (call : StreamCall) (world : World μ) :
    (world.invoke stream call).sessions = world.sessions := rfl

@[simp] theorem sessions_invokeAll (pair : SessionPair μ) (calls : List (Side × StreamCall))
    (world : World μ) : (world.invokeAll pair calls).sessions = world.sessions := by
  induction calls generalizing world with
  | nil => rfl
  | cons call calls ih =>
      simpa [invokeAll] using ih (world.invoke (pair.stream call.1) call.2)

/-- Calls on streams do not look at the map. -/
theorem invokeAll_withSessions (pair : SessionPair μ) (calls : List (Side × StreamCall))
    (sessions : Int32 → Option (SessionPair μ)) (world : World μ) :
    invokeAll pair calls { world with sessions := sessions } =
      { world.invokeAll pair calls with sessions := sessions } := by
  induction calls generalizing world with
  | nil => rfl
  | cons call calls ih => exact ih (world.invoke (pair.stream call.1) call.2)

theorem invokeAll_append (pair : SessionPair μ) (first second : List (Side × StreamCall))
    (world : World μ) :
    world.invokeAll pair (first ++ second) =
      (world.invokeAll pair first).invokeAll pair second := by
  simp [invokeAll, List.foldl_append]

variable (world : World μ) (key : Int32) (pair : SessionPair μ)

/-- A handler that has done nothing yet. -/
theorem react_stay {world : World μ} {key : Int32} {pair : SessionPair μ}
    (alive : world.sessions key = some pair) :
    world.react key pair (.stay pair.session) = world := by
  have same : Function.update world.sessions key (some pair) = world.sessions := by
    rw [← alive, Function.update_eq_self]
  simp [react, Reaction.stay, Reaction.calls, invokeAll, same]

@[simp] theorem sessions_react (reaction : Reaction μ) :
    (world.react key pair reaction).sessions =
      Function.update world.sessions key
        (reaction.next.map fun session => { pair with session := session }) := rfl

/-- The manager serves one more request of the handler. -/
theorem invokeAll_react (requests : List Request) (session : Session μ) (request : Request) :
    (world.react key pair ⟨requests, some session⟩).invokeAll pair request.calls =
      world.react key pair ⟨requests ++ [request], some session⟩ := by
  simp [react, Reaction.calls, invokeAll_withSessions, invokeAll_append]

/-- The handler assigns to a member of its session. -/
theorem setSession_react (requests : List Request) (session session' : Session μ) :
    (world.react key pair ⟨requests, some session⟩).setSession key { pair with session := session }
        session' =
      world.react key pair ⟨requests, some session'⟩ := by
  simp [setSession, react, Reaction.calls]

/-- The manager stops the session of the handler. -/
theorem erase_react (requests : List Request) (session : Session μ) :
    ((world.react key pair ⟨requests, some session⟩).invokeAll pair stopCalls).erase key =
      world.react key pair ⟨requests, none⟩ := by
  simp [erase, react, Reaction.calls, invokeAll_withSessions, invokeAll_append]

end World

section

variable {world : World μ} {key : Int32} {pair : SessionPair μ} {requests : List Request}
  {session : Session μ}

namespace Session

@[simp] theorem entry_react :
    (entry key).run (world.react key pair ⟨requests, some session⟩) =
      .ok ({ pair with session := session },
        world.react key pair ⟨requests, some session⟩) := by
  simp [entry]

@[simp] theorem getContext_react :
    (getContext key).run (world.react key pair ⟨requests, some session⟩) =
      .ok (session.context, world.react key pair ⟨requests, some session⟩) := by
  simp [getContext]

@[simp] theorem modifyContext_react (f : SessionContext → SessionContext) :
    (modifyContext key f).run (world.react key pair ⟨requests, some session⟩) =
      .ok ((), world.react key pair
        ⟨requests, some { session with context := f session.context }⟩) := by
  simp [modifyContext, World.setSession_react]

@[simp] theorem changeState_react (state : μ) :
    (changeState key state).run (world.react key pair ⟨requests, some session⟩) =
      .ok ((), world.react key pair ⟨requests, some { session with state := state }⟩) := by
  simp [changeState, World.setSession_react]

end Session

namespace StreamManager

theorem find_run (id : Int32) : (find id).run world = .ok (world.sessions id, world) := rfl

theorem call_run (stream : Stream) (call : StreamCall) :
    (Stream.call stream call).run world = .ok ((), world.invoke stream call) := rfl

@[simp] theorem readServer_react :
    (readServer key).run (world.react key pair ⟨requests, some session⟩) =
      .ok ((), world.react key pair ⟨requests ++ [.readServer], some session⟩) := by
  simp [readServer, find_run, call_run, ← World.invokeAll_react, World.invokeAll, Request.calls,
    SessionPair.stream]

@[simp] theorem writeServer_react (buffer : IoBuffer) :
    (writeServer key buffer).run (world.react key pair ⟨requests, some session⟩) =
      .ok ((), world.react key pair ⟨requests ++ [.writeServer buffer], some session⟩) := by
  simp [writeServer, find_run, call_run, ← World.invokeAll_react, World.invokeAll, Request.calls,
    SessionPair.stream]

@[simp] theorem readClient_react :
    (readClient key).run (world.react key pair ⟨requests, some session⟩) =
      .ok ((), world.react key pair ⟨requests ++ [.readClient], some session⟩) := by
  simp [readClient, find_run, call_run, ← World.invokeAll_react, World.invokeAll, Request.calls,
    SessionPair.stream]

@[simp] theorem writeClient_react (buffer : IoBuffer) :
    (writeClient key buffer).run (world.react key pair ⟨requests, some session⟩) =
      .ok ((), world.react key pair ⟨requests ++ [.writeClient buffer], some session⟩) := by
  simp [writeClient, find_run, call_run, ← World.invokeAll_react, World.invokeAll, Request.calls,
    SessionPair.stream]

@[simp] theorem connect_react (host service : Text) :
    (connect key host service).run (world.react key pair ⟨requests, some session⟩) =
      .ok ((), world.react key pair ⟨requests ++ [.connect host service], some session⟩) := by
  simp [connect, find_run, call_run, ← World.invokeAll_react, World.invokeAll, Request.calls,
    SessionPair.stream]

@[simp] theorem stop_react :
    (stop key).run (world.react key pair ⟨requests, some session⟩) =
      .ok ((), world.react key pair ⟨requests, none⟩) := by
  simp only [← World.erase_react world key pair requests session]
  simp [stop, find_run, call_run, World.invokeAll, stopCalls, SessionPair.stream]

end StreamManager

namespace Session

variable (own : session.context.id = key)
include own

@[simp] theorem connect_react :
    (connect key).run (world.react key pair ⟨requests, some session⟩) =
      .ok ((), world.react key pair
        ⟨requests ++ [.connect session.context.host session.context.service], some session⟩) := by
  simp [connect, own]

@[simp] theorem stop_react :
    (stop key).run (world.react key pair ⟨requests, some session⟩) =
      .ok ((), world.react key pair ⟨requests, none⟩) := by
  simp [stop, own]

@[simp] theorem readFromServer_react :
    (readFromServer key).run (world.react key pair ⟨requests, some session⟩) =
      .ok ((), world.react key pair ⟨requests ++ [.readServer], some session⟩) := by
  simp [readFromServer, own]

@[simp] theorem readFromClient_react :
    (readFromClient key).run (world.react key pair ⟨requests, some session⟩) =
      .ok ((), world.react key pair ⟨requests ++ [.readClient], some session⟩) := by
  simp [readFromClient, own]

@[simp] theorem writeToClient_react (buffer : IoBuffer) :
    (writeToClient key buffer).run (world.react key pair ⟨requests, some session⟩) =
      .ok ((), world.react key pair ⟨requests ++ [.writeClient buffer], some session⟩) := by
  simp [writeToClient, own]

@[simp] theorem writeToServer_react (buffer : IoBuffer) :
    (writeToServer key buffer).run (world.react key pair ⟨requests, some session⟩) =
      .ok ((), world.react key pair ⟨requests ++ [.writeServer buffer], some session⟩) := by
  simp [writeToServer, own]

end Session

end

/-! ### Protocols whose handlers react -/

/-- A protocol with the reaction of each handler, as a function of the session and the event.
    `handle_stay` says that the handler, called in the entry of its own session, does just that (or
    lets the same exception out). -/
class ReactiveState (μ : Type) extends SessionState μ where
  reaction : Session μ → SessionEvent → Except Fault (Reaction μ)
  handle_stay (world : World μ) (key : Int32) (pair : SessionPair μ) (session : Session μ)
    (event : SessionEvent) :
    session.context.id = key →
      (SessionState.handle session.state key event).run (world.react key pair (.stay session)) =
        (reaction session event).map fun outcome => ((), world.react key pair outcome)
  keepsId (session : Session μ) (event : SessionEvent) (outcome : Reaction μ)
    (session' : Session μ) :
    reaction session event = .ok outcome → outcome.next = some session' →
      session'.context.id = session.context.id
  noDangling (session : Session μ) (event : SessionEvent) :
    reaction session event ≠ .error .dangling

theorem Session.handle_run [ReactiveState μ] {world : World μ} {key : Int32}
    {pair : SessionPair μ} (event : SessionEvent) (alive : world.sessions key = some pair)
    (own : pair.session.context.id = key) :
    (Session.handle key event).run world =
      (ReactiveState.reaction pair.session event).map
        fun outcome => ((), world.react key pair outcome) := by
  rw [← ReactiveState.handle_stay world key pair pair.session event own, World.react_stay alive]
  have located : (Session.entry key).run world = .ok (pair, world) := by
    simp [Session.entry, alive]
  cases event <;>
    simp [Session.handle, SessionState.handle, Session.handleServerRead, Session.handleClientRead,
      Session.handleClientConnect, Session.handleServerWrite, Session.handleClientWrite,
      Session.handleServerError, Session.handleClientError, located]

namespace ReactiveState

variable [ReactiveState μ] {state : μ} {event : SessionEvent} {requests : List Request}
  {next : Option μ}

/-- Whatever its context, a session in a state handles an event with these requests, and is in the
    state `next` then; it is stopped where there is none. -/
def Answers (state : μ) (event : SessionEvent) (requests : List Request) (next : Option μ) : Prop :=
  ∀ context, ∃ outcome, reaction (⟨context, state⟩ : Session μ) event = .ok outcome ∧
    outcome.requests = requests ∧ outcome.next.map Session.state = next

/-- The handler makes the requests of the answer. -/
theorem Answers.handle_run (answers : Answers state event requests next) {world : World μ}
    {key : Int32} {pair : SessionPair μ} (alive : world.sessions key = some pair)
    (own : pair.session.context.id = key) (waits : pair.session.state = state) :
    ∃ outcome : Reaction μ,
      (Session.handle key event).run world = .ok ((), world.react key pair outcome) ∧
        outcome.requests = requests ∧ outcome.next.map Session.state = next := by
  obtain ⟨outcome, reacts, made, goes⟩ := answers pair.session.context
  have same : (⟨pair.session.context, state⟩ : Session μ) = pair.session := by rw [← waits]
  rw [same] at reacts
  refine ⟨outcome, ?_, made, goes⟩
  rw [Session.handle_run event alive own, reacts]
  rfl

end ReactiveState

end AmgiNetTools
