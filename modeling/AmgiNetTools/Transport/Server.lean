/-
Module: AmgiNetTools.Transport.Server
Layer: Transport
Purpose: `server` and `tls_server`, which are the same text but for the stream class they make. A
  server makes a stream with the next id, has asio accept a connection into it, hands it to the
  manager when that succeeds, and starts over. Ids are `int`, and the increment wraps.
Main exports: Server, Server.create, ServerEvent, Server.ReachableWhile, Server.play
-/
import AmgiNetTools.Transport.IoContext

namespace AmgiNetTools

/-- A `server` or a `tls_server`, with the manager it serves. `made` counts the streams it has made
    and tells them apart; the program has no such counter. `accepting` is the stream that the
    handler of the outstanding `async_accept` holds. -/
structure Server (μ : Type) where
  tls : Bool
  streamId : Int32 := 0
  made : Nat := 0
  isOpen : Bool := true
  accepting : Option ServerStream := none
  stopped : Bool := false
  world : World μ := .empty

namespace Server

variable {μ : Type}

/-- `start_accept()`. -/
def startAccept (server : Server μ) : Server μ :=
  let streamId := server.streamId + 1
  let newStream : ServerStream := { tls := server.tls, conn := server.made + 1, id := streamId }
  { server with streamId := streamId, made := server.made + 1, accepting := some newStream }

/-- The constructor. -/
def create (tls : Bool) : Server μ := startAccept { tls := tls }

/-- The handler of `async_accept`. -/
def onAccepted [SessionState μ] (newStream : ServerStream) (ec : ErrorCode) (server : Server μ) :
    Except Fault (Server μ) :=
  if !server.isOpen then
    .ok server
  else if !ec.isError then do
    let ((), world) ← (StreamManager.onAccept newStream).run server.world
    return { server with world := world }.startAccept
  else
    .ok server.startAccept

/-- The handler of `async_wait`. -/
def onSignal (server : Server μ) : Server μ :=
  { server with isOpen := false, stopped := true }

end Server

/-- What the event loop of a server does next. -/
inductive ServerEvent where
  | accepted (ec : ErrorCode)
  | signal
  | complete (stream : Stream) (op : AsyncOp) (completion : Completion)

namespace ServerEvent

variable {μ : Type}

/-- A stopped event loop runs no handlers; the others run when their operation is outstanding. -/
def Enabled (server : Server μ) : ServerEvent → Prop
  | .accepted _ => server.stopped = false ∧ server.accepting ≠ none
  | .signal => server.stopped = false
  | .complete stream op completion => server.stopped = false ∧
      (IoEvent.complete stream op completion).Enabled server.world

def perform [SessionState μ] (server : Server μ) : ServerEvent → Except Fault (Server μ)
  | .accepted ec =>
      match server.accepting with
      | none => .ok server
      | some newStream => { server with accepting := none }.onAccepted newStream ec
  | .signal => .ok server.onSignal
  | .complete stream op completion => do
      let ((), world) ← (IoEvent.complete stream op completion).perform.run server.world
      return { server with world := world }

instance (server : Server μ) (event : ServerEvent) : Decidable (event.Enabled server) :=
  match event with
  | .accepted _ => inferInstanceAs (Decidable (_ ∧ _))
  | .signal => inferInstanceAs (Decidable (_ = _))
  | .complete _ _ _ => inferInstanceAs (Decidable (_ ∧ _))

end ServerEvent

namespace Server

variable {μ : Type} [SessionState μ]

/-- The servers in the runs in which each turn of the event loop meets a condition on the server
    before it. No handler throws in them. -/
inductive ReachableWhile (Allowed : Server μ → ServerEvent → Prop) (tls : Bool) : Server μ → Prop
    where
  | start : ReachableWhile Allowed tls (.create tls)
  | step {server server' : Server μ} {event : ServerEvent} : ReachableWhile Allowed tls server →
      event.Enabled server → Allowed server event → event.perform server = .ok server' →
      ReachableWhile Allowed tls server'

/-- The servers in all runs. -/
abbrev Reachable (tls : Bool) (server : Server μ) : Prop :=
  ReachableWhile (fun _ _ => True) tls server

/-- One turn of the event loop. Nothing happens for an event that is not enabled or whose handler
    throws. -/
def turn (server : Server μ) (event : ServerEvent) : Server μ :=
  if event.Enabled server then
    match event.perform server with
    | .ok server' => server'
    | .error _ => server
  else
    server

/-- The events in order. -/
def play (events : List ServerEvent) (server : Server μ) : Server μ := events.foldl turn server

theorem ReachableWhile.turn {Allowed : Server μ → ServerEvent → Prop} {tls : Bool}
    {server : Server μ} {event : ServerEvent} (within : ReachableWhile Allowed tls server)
    (allowed : Allowed server event) : ReachableWhile Allowed tls (server.turn event) := by
  unfold Server.turn
  split
  · next enabled =>
      split
      · next server' done => exact within.step enabled allowed done
      · exact within
  · exact within

theorem Reachable.play {tls : Bool} {server : Server μ} (reachable : Reachable tls server)
    (events : List ServerEvent) : Reachable tls (server.play events) := by
  unfold Server.play
  induction events generalizing server with
  | nil => exact reachable
  | cons event events ih => exact ih (reachable.turn trivial)

end Server

end AmgiNetTools
