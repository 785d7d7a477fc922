/-
Module: AmgiNetTools.Transport.IoContext
Layer: Transport
Purpose: What asio does with the operations the streams hand to it. Asio completes each started
  operation exactly once, after the call that started it has returned, with success or with an
  error, in any order among the outstanding ones; a read that succeeds brings a byte at least, and
  no more than its buffer holds. The completion handlers are those of the three stream classes. A
  server accepts connections in between. `Reachable` are the worlds of all such runs.
Main exports: Completion, Completion.Fits, ServerStream.complete, ClientStream.complete, IoEvent,
  Step, Reachable, ReachableWhile, World.play
-/
import AmgiNetTools.Transport.StreamManager
import Mathlib.Data.List.Induction

namespace AmgiNetTools

variable {μ : Type}

/-- The arguments of a completion handler: the error code, and for a read the first `length` bytes
    of `read_buffer_` (with what memory will hold behind the vector they are copied to). -/
structure Completion where
  ec : ErrorCode
  buffer : Received

/-- A completion without an error, which read the given bytes if it is that of a read. -/
def Completion.succeeded (bytes : IoBuffer) : Completion :=
  { ec := .success, buffer := ⟨bytes, fun _ => 0⟩ }

/-- What asio promises of a read that succeeds: it brings some bytes, and no more than
    `read_buffer_` holds. -/
def Completion.Fits (op : AsyncOp) (completion : Completion) : Prop :=
  op = .read → completion.ec.isError = false →
    0 < completion.buffer.size ∧ completion.buffer.size ≤ maxBufferSize

instance (op : AsyncOp) (completion : Completion) : Decidable (completion.Fits op) :=
  inferInstanceAs (Decidable (_ → _))

/-- The bytes a completion has moved: those read into `read_buffer_`, or those of `write_buffer_`
    that are now on the wire. A completion with an error is counted as having moved none. -/
def StreamState.moved (op : AsyncOp) (completion : Completion) (state : StreamState) : IoBuffer :=
  match completion.ec.isError, op with
  | false, .read => completion.buffer.bytes
  | false, .write size => state.written size
  | _, _ => []

namespace World

/-- The state of the session a stream belongs to, while it is in the map. -/
def found (stream : Stream) (world : World μ) : Option μ :=
  (world.sessions stream.id).map (·.session.state)

/-- Take an operation off the outstanding ones and note its completion in the history. -/
def retire (stream : Stream) (op : AsyncOp) (completion : Completion) (world : World μ) : World μ :=
  { world with
    streams := Function.update world.streams stream ((world.streams stream).retire op)
    history := world.history ++
      [⟨stream, .completed op completion.ec ((world.streams stream).moved op completion)
        (world.found stream)⟩] }

/-- Change the state of a stream object from one of its own functions. -/
def modifyStream (stream : Stream) (f : StreamState → StreamState) (world : World μ) : World μ :=
  { world with streams := Function.update world.streams stream (f (world.streams stream)) }

end World

/-! ### Completion handlers -/

variable [SessionState μ]

namespace ServerStream

def handleError (self : ServerStream) (ec : ErrorCode) : ManagerM μ Unit :=
  StreamManager.onErrorServer ec self

/-- `do_read()`, called by a handler of the stream itself. -/
def doRead (self : ServerStream) : ManagerM μ Unit :=
  modify (World.modifyStream (.server self) (self.kind.invoke .read))

/-- The handlers of `tcp_server_stream` and `tls_server_stream`, which are the same where both
    have one. -/
def complete (self : ServerStream) (op : AsyncOp) (completion : Completion) : ManagerM μ Unit :=
  match op with
  | .handshake =>
      if !completion.ec.isError then
        self.doRead
      else
        self.handleError completion.ec
  | .read =>
      if !completion.ec.isError then
        StreamManager.onReadServer completion.buffer self
      else
        self.handleError completion.ec
  | .write _ =>
      if !completion.ec.isError then
        StreamManager.onWriteServer [] self
      else
        self.handleError completion.ec
  | .shutdown | .nullWrite => do
      if completion.ec.isError then
        self.handleError completion.ec
      modify (World.modifyStream (.server self) StreamState.close)
  | .resolve _ _ | .connect => pure ()

end ServerStream

namespace ClientStream

def handleError (self : ClientStream) (ec : ErrorCode) : ManagerM μ Unit :=
  StreamManager.onErrorClient ec self

def doConnect (self : ClientStream) : ManagerM μ Unit :=
  modify (World.modifyStream (.client self) TcpClientStream.doConnect)

/-- The handlers of `tcp_client_stream`. A read of no bytes goes the way of an error. -/
def complete (self : ClientStream) (op : AsyncOp) (completion : Completion) : ManagerM μ Unit :=
  match op with
  | .resolve _ _ =>
      if !completion.ec.isError then
        self.doConnect
      else
        self.handleError completion.ec
  | .connect =>
      if !completion.ec.isError then
        StreamManager.onConnect [] self
      else
        self.handleError completion.ec
  | .read =>
      if !completion.ec.isError && completion.buffer.size != 0 then
        StreamManager.onReadClient completion.buffer.bytes self
      else
        self.handleError completion.ec
  | .write _ =>
      if !completion.ec.isError then
        StreamManager.onWriteClient [] self
      else
        self.handleError completion.ec
  | .handshake | .shutdown | .nullWrite => pure ()

end ClientStream

/-! ### Runs -/

/-- What the event loop does next: hand an accepted connection to the manager, or complete an
    outstanding operation. -/
inductive IoEvent where
  | accept (upstream : ServerStream)
  | complete (stream : Stream) (op : AsyncOp) (completion : Completion)

namespace IoEvent

/-- An accepted stream has an id no stream had before; a completed operation was outstanding, and a
    read has read what its buffer can hold. -/
def Enabled (world : World μ) : IoEvent → Prop
  | .accept upstream => ∀ record ∈ world.history, record.stream.id ≠ upstream.id
  | .complete stream op completion => op ∈ (world.streams stream).pending ∧ completion.Fits op

/-- The completion handler asio runs, after taking the operation off its list. -/
def perform : IoEvent → ManagerM μ Unit
  | .accept upstream => StreamManager.onAccept upstream
  | .complete stream op completion => do
      modify (World.retire stream op completion)
      match stream with
      | .server self => self.complete op completion
      | .client self => self.complete op completion

end IoEvent

/-- One turn of the event loop in which no handler throws. -/
def Step (world world' : World μ) : Prop :=
  ∃ event : IoEvent, event.Enabled world ∧ event.perform.run world = .ok ((), world')

/-- The worlds of the runs of a server, from its start. -/
inductive Reachable : World μ → Prop where
  | start : Reachable .empty
  | step {world world' : World μ} : Reachable world → Step world world' → Reachable world'

/-- The worlds of the runs in which each turn meets a condition on the world before it. -/
inductive ReachableWhile (Allowed : World μ → IoEvent → Prop) : World μ → Prop where
  | start : ReachableWhile Allowed .empty
  | step {world world' : World μ} {event : IoEvent} : ReachableWhile Allowed world →
      event.Enabled world → Allowed world event → event.perform.run world = .ok ((), world') →
      ReachableWhile Allowed world'

theorem ReachableWhile.reachable {Allowed : World μ → IoEvent → Prop} {world : World μ}
    (within : ReachableWhile Allowed world) : Reachable world := by
  induction within with
  | start => exact .start
  | step _ enabled _ done earlier => exact earlier.step ⟨_, enabled, done⟩

/-! ### Playing a run -/

instance (world : World μ) (event : IoEvent) : Decidable (event.Enabled world) :=
  match event with
  | .accept _ => inferInstanceAs (Decidable (∀ _ ∈ _, _))
  | .complete _ _ _ => inferInstanceAs (Decidable (_ ∧ _))

namespace World

/-- One turn of the event loop. Nothing happens for an event that is not enabled or whose handler
    throws. -/
def turn (world : World μ) (event : IoEvent) : World μ :=
  if event.Enabled world then
    match event.perform.run world with
    | .ok ((), world') => world'
    | .error _ => world
  else
    world

/-- The events in order, from the start of a server. -/
def play (events : List IoEvent) : World μ := events.foldl turn .empty

variable {Allowed : World μ → IoEvent → Prop}

theorem reachableWhile_turn {world : World μ} {event : IoEvent}
    (within : ReachableWhile Allowed world) (allowed : Allowed world event) :
    ReachableWhile Allowed (world.turn event) := by
  unfold turn
  split
  · next enabled =>
      split
      · next world' done => exact within.step enabled allowed done
      · exact within
  · exact within

/-- A run whose events are each allowed in the world before. -/
theorem reachableWhile_play {events : List IoEvent}
    (allowed : ∀ i (inside : i < events.length), Allowed (play (events.take i)) events[i]) :
    ReachableWhile Allowed (play events) := by
  induction events using List.reverseRecOn with
  | nil => exact .start
  | append_singleton events event ih =>
      have earlier : ReachableWhile Allowed (play events) := by
        refine ih fun i inside => ?_
        have longer : i < (events ++ [event]).length := by
          rw [List.length_append]
          exact inside.trans_le (Nat.le_add_right _ _)
        have now := allowed i longer
        rwa [List.take_append_of_le_length inside.le, List.getElem_append_left inside] at now
      have now := allowed events.length (by simp)
      rw [List.take_left, List.getElem_concat_length rfl] at now
      rw [play, List.foldl_concat]
      exact reachableWhile_turn earlier now

theorem reachable_play (events : List IoEvent) : Reachable (play events : World μ) :=
  ReachableWhile.reachable
    (@reachableWhile_play μ _ (fun _ _ => True) events fun _ _ => trivial)

end World

end AmgiNetTools
