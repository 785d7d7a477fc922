/-
Module: AmgiNetTools.Session.Tasks
Layer: Session
Purpose: What a session is waiting for. A `Task` is an outstanding operation together with the bytes
  it works on, and `Snapshot.Performs` says that the outstanding operations of a session are exactly
  those of a multiset of tasks, with the bytes of each write still in its `write_buffer_`. One lemma
  covers every completion of a live session: its task is replaced by those its handler starts.
Main exports: Task, Snapshot.outstanding, Snapshot.Performs, Snapshot.Ended, Snapshot.Exclusive,
  Snapshot.performs_complete, Snapshot.performs_proceed, Snapshot.performs_stop,
  Snapshot.ended_complete
-/
import AmgiNetTools.Session.Snapshot
import Mathlib.Data.Multiset.Filter

namespace AmgiNetTools

variable {μ : Type}

/-- What has happened on the streams of one session, in order. -/
abbrev History (μ : Type) := List (Side × Happening μ)

/-- An operation a session waits for, with the bytes it writes. -/
inductive Task where
  | handshake
  | read
  | write (bytes : IoBuffer)
  | resolve (host service : Text)
  | connect
deriving DecidableEq

namespace Task

/-- The operation asio has. -/
def op : Task → AsyncOp
  | handshake => .handshake
  | read => .read
  | write bytes => .write bytes.length
  | resolve host service => .resolve host service
  | connect => .connect

/-- The bytes it has moved when it completes. -/
def moved (completion : Completion) (task : Task) : IoBuffer :=
  match completion.ec.isError, task with
  | false, read => completion.buffer.bytes
  | false, write bytes => bytes
  | _, _ => []

/-- A read or a write. -/
def IsTransfer : Task → Prop
  | read | write _ => True
  | handshake | resolve _ _ | connect => False

end Task

/-- The lines of the calls some requests come to. -/
def calledLines (requests : List Request) : History μ :=
  (requests.flatMap Request.calls).map fun call => (call.1, .called call.2)

@[simp] theorem calledLines_nil : (calledLines [] : History μ) = [] := rfl

@[simp] theorem calledLines_cons (request : Request) (requests : List Request) :
    (calledLines (request :: requests) : History μ) =
      request.calls.map (fun call => (call.1, .called call.2)) ++ calledLines requests := by
  simp [calledLines]

/-- The lines that stop a session. -/
def stopLines : History μ := [(.client, .called .stop), (.server, .called .stop)]

/-- The task a request starts. -/
def Request.task : Request → Side × Task
  | .readServer => (.server, .read)
  | .writeServer buffer => (.server, .write buffer)
  | .readClient => (.client, .read)
  | .writeClient buffer => (.client, .write buffer)
  | .connect host service => (.client, .resolve host service)

/-- The operation a request starts. -/
def Request.op (request : Request) : Side × AsyncOp := (request.task.1, request.task.2.op)

/-- An operation that fills or drains a stream's one buffer is not started twice. -/
def Request.Fits (request : Request) (tasks : Multiset (Side × Task)) : Prop :=
  ∀ side bytes other, request.task = (side, .write bytes) → (side, .write other) ∉ tasks

namespace Snapshot

/-- The operations asio has not completed, on both streams. -/
def outstanding (snapshot : Snapshot μ) : Multiset (Side × AsyncOp) :=
  (snapshot.streams .server).pending.map (Prod.mk .server) +
    (snapshot.streams .client).pending.map (Prod.mk .client)

/-- The outstanding operations are those of `tasks`, and each write still has its bytes. -/
structure Performs (tasks : Multiset (Side × Task)) (snapshot : Snapshot μ) : Prop where
  outstanding : snapshot.outstanding = tasks.map fun task => (task.1, task.2.op)
  buffered (side : Side) (bytes : IoBuffer) :
    (side, .write bytes) ∈ tasks → (snapshot.streams side).written bytes.length = bytes

variable {snapshot : Snapshot μ} {side : Side} {op : AsyncOp} {tasks rest : Multiset (Side × Task)}

theorem mem_outstanding :
    (side, op) ∈ snapshot.outstanding ↔ op ∈ (snapshot.streams side).pending := by
  cases side <;> simp [outstanding]

@[simp] theorem streams_modifyStream (f : StreamState → StreamState) :
    (snapshot.modifyStream side f).streams =
      Function.update snapshot.streams side (f (snapshot.streams side)) := rfl

@[simp] theorem history_modifyStream (f : StreamState → StreamState) :
    (snapshot.modifyStream side f).history = snapshot.history := rfl

/-- Only what is outstanding on the changed stream changes. -/
theorem outstanding_initiate (op : AsyncOp) {f : StreamState → StreamState}
    (starts : (f (snapshot.streams side)).pending = op ::ₘ (snapshot.streams side).pending) :
    (snapshot.modifyStream side f).outstanding = (side, op) ::ₘ snapshot.outstanding := by
  cases side <;> simp [outstanding, starts]

theorem cons_outstanding_retire (pending : op ∈ (snapshot.streams side).pending) :
    (side, op) ::ₘ (snapshot.modifyStream side (StreamState.retire op)).outstanding =
      snapshot.outstanding := by
  have whole := congrArg (Multiset.map (Prod.mk side)) (Multiset.cons_erase pending)
  rw [Multiset.map_cons] at whole
  cases side
  · simp [outstanding, StreamState.retire, ← Multiset.cons_add, whole]
  · simp [outstanding, StreamState.retire, ← Multiset.add_cons, whole]

theorem outstanding_of_pending {f : StreamState → StreamState}
    (keeps : (f (snapshot.streams side)).pending = (snapshot.streams side).pending) :
    (snapshot.modifyStream side f).outstanding = snapshot.outstanding := by
  cases side <;> simp [outstanding, keeps]

theorem outstanding_congr {other : Snapshot μ} (same : other.streams = snapshot.streams) :
    other.outstanding = snapshot.outstanding := by
  simp [outstanding, same]

/-- A pending operation is that of a task. -/
theorem Performs.exists_task (performs : snapshot.Performs tasks)
    (pending : op ∈ (snapshot.streams side).pending) :
    ∃ task rest, tasks = (side, task) ::ₘ rest ∧ task.op = op := by
  have member := mem_outstanding.mpr pending
  rw [performs.outstanding, Multiset.mem_map] at member
  obtain ⟨⟨side', task⟩, member, same⟩ := member
  cases same
  obtain ⟨rest, split⟩ := Multiset.exists_cons_of_mem member
  exact ⟨task, rest, split, rfl⟩

/-- The operation of a task is pending. -/
theorem Performs.mem_pending {task : Task} (performs : snapshot.Performs tasks)
    (member : (side, task) ∈ tasks) : task.op ∈ (snapshot.streams side).pending := by
  rw [← mem_outstanding, performs.outstanding]
  exact Multiset.mem_map_of_mem (fun task => (task.1, task.2.op)) member

theorem Performs.congr {other : Snapshot μ} (same : other.streams = snapshot.streams)
    (performs : snapshot.Performs tasks) : other.Performs tasks where
  outstanding := (outstanding_congr same).trans performs.outstanding
  buffered := by
    rw [same]
    exact performs.buffered

/-- Asio is done with a task. -/
theorem Performs.retire {task : Task} (completion : Completion)
    (performs : snapshot.Performs ((side, task) ::ₘ rest)) :
    (snapshot.retire side task.op completion).Performs rest := by
  have pending : task.op ∈ (snapshot.streams side).pending := by
    rw [← mem_outstanding, performs.outstanding]
    simp
  constructor
  · have whole := cons_outstanding_retire pending
    rw [performs.outstanding, Multiset.map_cons, Multiset.cons_inj_right] at whole
    exact whole
  · intro side' bytes member
    have kept := performs.buffered side' bytes (Multiset.mem_cons_of_mem member)
    by_cases same : side' = side
    · subst same
      simpa [Snapshot.retire, StreamState.written, StreamState.retire] using kept
    · simpa [Snapshot.retire, Function.update_of_ne same] using kept

/-- The bytes a completion moves are those of its task. -/
theorem Performs.moved {task : Task} (completion : Completion)
    (performs : snapshot.Performs ((side, task) ::ₘ rest)) :
    (snapshot.streams side).moved task.op completion = task.moved completion := by
  cases task with
  | write bytes =>
      have buffered := performs.buffered side bytes (Multiset.mem_cons_self _ _)
      cases failed : completion.ec.isError <;>
        simp [StreamState.moved, Task.moved, Task.op, failed, buffered]
  | _ => cases failed : completion.ec.isError <;> simp [StreamState.moved, Task.moved, Task.op,
    failed]

/-- A stream starts a task that does not write. -/
theorem Performs.initiate (side : Side) (task : Task) (performs : snapshot.Performs tasks)
    (reads : ∀ bytes, task ≠ .write bytes) :
    (snapshot.modifyStream side (StreamState.initiate task.op)).Performs
      ((side, task) ::ₘ tasks) := by
  constructor
  · rw [outstanding_initiate task.op rfl, performs.outstanding, Multiset.map_cons]
  · intro side' bytes member
    rw [Multiset.mem_cons, Prod.mk.injEq] at member
    rcases member with ⟨-, same⟩ | member
    · exact absurd same.symm (reads bytes)
    · have kept := performs.buffered side' bytes member
      by_cases same : side' = side
      · subst same
        simpa [StreamState.written, StreamState.initiate] using kept
      · simpa [Function.update_of_ne same] using kept

/-- A stream starts a write, while it has no other. -/
theorem Performs.write {event : IoBuffer} (performs : snapshot.Performs tasks)
    (free : ∀ other, (side, .write other) ∉ tasks) :
    (snapshot.modifyStream side (TcpServerStream.doWrite event)).Performs
      ((side, .write event) ::ₘ tasks) := by
  constructor
  · rw [outstanding_initiate (.write event.length) rfl, performs.outstanding,
      Multiset.map_cons]
    rfl
  · intro side' bytes member
    rw [Multiset.mem_cons, Prod.mk.injEq] at member
    rcases member with ⟨rfl, same⟩ | member
    · cases same
      simp [StreamState.written, TcpServerStream.doWrite, StreamState.initiate]
    · have apart : side' ≠ side := by
        rintro rfl
        exact free bytes member
      simpa [Function.update_of_ne apart] using performs.buffered side' bytes member

/-! ### Requests -/

/-- Both kinds of server stream, and the client stream, read and write alike. -/
theorem invoke_read (tls : Bool) (side : Side) :
    (side.kind tls).invoke .read = StreamState.initiate .read := by
  cases side <;> cases tls <;> rfl

theorem invoke_write (tls : Bool) (side : Side) (event : IoBuffer) :
    (side.kind tls).invoke (.write event) = TcpServerStream.doWrite event := by
  cases side <;> cases tls <;> rfl

theorem streams_invoke (tls : Bool) (call : Side × StreamCall) :
    (snapshot.invoke tls call).streams =
      (snapshot.modifyStream call.1 ((call.1.kind tls).invoke call.2)).streams := rfl

theorem Performs.invoke_read (tls : Bool) (side : Side) (performs : snapshot.Performs tasks) :
    (snapshot.invoke tls (side, .read)).Performs ((side, .read) ::ₘ tasks) := by
  have started := performs.initiate side .read (by simp)
  refine started.congr ?_
  rw [streams_invoke, Snapshot.invoke_read]
  rfl

theorem Performs.invoke_write (tls : Bool) (side : Side) {event : IoBuffer}
    (performs : snapshot.Performs tasks) (free : ∀ other, (side, .write other) ∉ tasks) :
    (snapshot.invoke tls (side, .write event)).Performs ((side, .write event) ::ₘ tasks) := by
  refine (performs.write free).congr ?_
  rw [streams_invoke, Snapshot.invoke_write]

/-- A change that touches neither the operations nor the buffer of a stream. -/
theorem Performs.modifyStream {f : StreamState → StreamState}
    (performs : snapshot.Performs tasks) (pending : ∀ state, (f state).pending = state.pending)
    (buffer : ∀ state, (f state).writeBuffer = state.writeBuffer) :
    (snapshot.modifyStream side f).Performs tasks := by
  constructor
  · rw [outstanding_of_pending (pending _), performs.outstanding]
  · intro side' bytes member
    have kept := performs.buffered side' bytes member
    by_cases same : side' = side
    · subst same
      simpa [StreamState.written, buffer] using kept
    · simpa [Function.update_of_ne same] using kept

/-- The manager serves a request: its task is added. -/
theorem Performs.request (tls : Bool) {request : Request} (performs : snapshot.Performs tasks)
    (fits : request.Fits tasks) :
    (request.calls.foldl (Snapshot.invoke tls) snapshot).Performs (request.task ::ₘ tasks) := by
  cases request with
  | readServer => exact performs.invoke_read tls .server
  | readClient => exact performs.invoke_read tls .client
  | writeServer buffer => exact performs.invoke_write tls .server fun other => fits _ _ other rfl
  | writeClient buffer => exact performs.invoke_write tls .client fun other => fits _ _ other rfl
  | connect host service =>
      -- The host and the service are set first, and the resolve is started with them.
      have addressed : ((snapshot.invoke tls (.client, .setHost host)).invoke tls
          (.client, .setService service)).Performs tasks := by
        have first := Performs.congr (streams_invoke tls (.client, .setHost host))
          (performs.modifyStream (fun _ => rfl) fun _ => rfl)
        exact Performs.congr (streams_invoke tls (.client, .setService service))
          (first.modifyStream (fun _ => rfl) fun _ => rfl)
      have started := addressed.initiate .client (.resolve host service) (by simp)
      refine started.congr ?_
      simp [Request.calls, streams_invoke, Side.kind, StreamKind.invoke, TcpClientStream.doStart,
        TcpClientStream.doSetHost, TcpClientStream.doSetService, Task.op]

/-- The tasks after some requests. -/
def started (requests : List Request) (tasks : Multiset (Side × Task)) : Multiset (Side × Task) :=
  requests.foldl (fun tasks request => request.task ::ₘ tasks) tasks

/-- Each request fits the tasks it meets. -/
def Fit : List Request → Multiset (Side × Task) → Prop
  | [], _ => True
  | request :: requests, tasks => request.Fits tasks ∧ Fit requests (request.task ::ₘ tasks)

/-- A single request fits when nothing is outstanding. -/
theorem fit_single (request : Request) : Fit [request] 0 :=
  ⟨fun _ _ _ _ => Multiset.notMem_zero _, trivial⟩

theorem Performs.requests (tls : Bool) {requests : List Request}
    (performs : snapshot.Performs tasks)
    (fit : Fit requests tasks) :
    ((requests.flatMap Request.calls).foldl (Snapshot.invoke tls) snapshot).Performs
      (started requests tasks) := by
  induction requests generalizing snapshot tasks with
  | nil => exact performs
  | cons request requests ih =>
      rw [List.flatMap_cons, List.foldl_append]
      exact ih (performs.request tls fit.1) fit.2

theorem history_invokes (tls : Bool) (calls : List (Side × StreamCall)) :
    (calls.foldl (Snapshot.invoke tls) snapshot).history =
      snapshot.history ++ calls.map fun call => (call.1, .called call.2) := by
  induction calls generalizing snapshot with
  | nil => simp
  | cons call calls ih => rw [List.foldl_cons, ih]; simp [Snapshot.invoke]

theorem history_react (tls : Bool) (outcome : Reaction μ) :
    (snapshot.react tls outcome).history =
      snapshot.history ++ outcome.calls.map fun call => (call.1, .called call.2) :=
  history_invokes tls outcome.calls

/-! ### Operations alone

What is outstanding follows from the requests also where a buffer is used twice. -/

theorem outstanding_retire (completion : Completion) {ops : Multiset (Side × AsyncOp)}
    (outstanding : snapshot.outstanding = (side, op) ::ₘ ops) :
    (snapshot.retire side op completion).outstanding = ops := by
  have pending : op ∈ (snapshot.streams side).pending := by
    rw [← mem_outstanding, outstanding]
    exact Multiset.mem_cons_self _ _
  have whole := cons_outstanding_retire pending
  rw [outstanding, Multiset.cons_inj_right] at whole
  exact whole

theorem outstanding_request (tls : Bool) (request : Request) :
    (request.calls.foldl (Snapshot.invoke tls) snapshot).outstanding =
      request.op ::ₘ snapshot.outstanding := by
  have invoked (snapshot : Snapshot μ) (call : Side × StreamCall) :
      (snapshot.invoke tls call).outstanding =
        (snapshot.modifyStream call.1 ((call.1.kind tls).invoke call.2)).outstanding :=
    outstanding_congr (streams_invoke tls call)
  cases request with
  | readServer | readClient =>
      rw [Request.calls, List.foldl_cons, List.foldl_nil, invoked, invoke_read]
      exact outstanding_initiate .read rfl
  | writeServer buffer | writeClient buffer =>
      rw [Request.calls, List.foldl_cons, List.foldl_nil, invoked, invoke_write]
      exact outstanding_initiate (.write buffer.length) rfl
  | connect host service =>
      rw [Request.calls, List.foldl_cons, List.foldl_cons, List.foldl_cons, List.foldl_nil, invoked,
        outstanding_initiate (.resolve host service)
          (by simp [streams_invoke, Side.kind, StreamKind.invoke, TcpClientStream.doStart,
            TcpClientStream.doSetHost, TcpClientStream.doSetService, StreamState.initiate]),
        invoked, outstanding_of_pending rfl, invoked, outstanding_of_pending rfl]
      rfl

/-- What is outstanding after some requests. -/
def startedOps (requests : List Request) (ops : Multiset (Side × AsyncOp)) :
    Multiset (Side × AsyncOp) :=
  requests.foldl (fun ops request => request.op ::ₘ ops) ops

theorem outstanding_requests (tls : Bool) (requests : List Request) :
    ((requests.flatMap Request.calls).foldl (Snapshot.invoke tls) snapshot).outstanding =
      startedOps requests snapshot.outstanding := by
  induction requests generalizing snapshot with
  | nil => rfl
  | cons request requests ih =>
      rw [List.flatMap_cons, List.foldl_append, ih, outstanding_request]
      rfl

theorem map_started (requests : List Request) (tasks : Multiset (Side × Task)) :
    (started requests tasks).map (fun task => (task.1, task.2.op)) =
      startedOps requests (tasks.map fun task => (task.1, task.2.op)) := by
  induction requests generalizing tasks with
  | nil => rfl
  | cons request requests ih => exact (ih _).trans (by rw [Multiset.map_cons]; rfl)

/-! ### Completions of a live session -/

/-- The line a completed task leaves in the history. -/
def done (side : Side) (task : Task) (completion : Completion) (found : Option μ) :
    Side × Happening μ :=
  (side, .completed task.op completion.ec (task.moved completion) found)

theorem Performs.history_retire {task : Task} (completion : Completion)
    (performs : snapshot.Performs ((side, task) ::ₘ rest)) :
    (snapshot.retire side task.op completion).history =
      snapshot.history ++ [done side task completion (snapshot.session.map (·.state))] := by
  rw [done, ← performs.moved completion]
  rfl

section

variable [ReactiveState μ] {tls : Bool} {task : Task} {completion : Completion}
  {session : Session μ} {event : SessionEvent} {next : Snapshot μ}

/-- A handler ran on the session of a snapshot. -/
theorem complete_report {outcome : Reaction μ} (alive : snapshot.session = some session)
    (raised : side.upshot op completion = .report event)
    (computed : ReactiveState.reaction session event = .ok outcome) :
    snapshot.complete tls side op completion =
      .ok ((snapshot.retire side op completion).react tls outcome) := by
  have alive' : (snapshot.retire side op completion).session = some session := alive
  rw [complete, raised, apply, alive']
  simp only [Upshot.report, computed, Except.map, modifyStream, id, Function.update_eq_self]

/-- A completion that the session goes on from: its operation gives way to those it starts. -/
theorem outstanding_complete {requests : List Request} {session' : Session μ}
    {ops : Multiset (Side × AsyncOp)} (outstanding : snapshot.outstanding = (side, op) ::ₘ ops)
    (alive : snapshot.session = some session)
    (raised : side.upshot op completion = .report event)
    (computed : ReactiveState.reaction session event = .ok ⟨requests, some session'⟩)
    (finished : snapshot.complete tls side op completion = .ok next) :
    next.session = some session' ∧ next.outstanding = startedOps requests ops ∧
      next.history = snapshot.history ++
        (side, snapshot.completed side op completion) :: calledLines requests := by
  rw [complete_report alive raised computed, Except.ok.injEq] at finished
  subst finished
  refine ⟨rfl, ?_, ?_⟩
  · rw [← outstanding_retire completion outstanding, ← outstanding_requests tls]
    exact outstanding_congr (by simp [react, Reaction.calls])
  · rw [history_react, Snapshot.retire]
    simp [Reaction.calls, calledLines]

/-- A completion that the session goes on from: its task gives way to those its handler starts. -/
theorem performs_complete {requests : List Request} {session' : Session μ}
    (performs : snapshot.Performs ((side, task) ::ₘ rest)) (alive : snapshot.session = some session)
    (raised : side.upshot task.op completion = .report event)
    (computed : ReactiveState.reaction session event = .ok ⟨requests, some session'⟩)
    (fit : Fit requests rest)
    (finished : snapshot.complete tls side task.op completion = .ok next) :
    next.session = some session' ∧ next.Performs (started requests rest) ∧
      next.history = snapshot.history ++
        done side task completion (some session.state) :: calledLines requests := by
  rw [complete_report alive raised computed, Except.ok.injEq] at finished
  subst finished
  refine ⟨rfl, ?_, ?_⟩
  · have served := (performs.retire completion).requests tls fit
    refine served.congr ?_
    simp [react, Reaction.calls]
  · rw [history_react, performs.history_retire, alive]
    simp [Reaction.calls, calledLines]

/-- A completion after which the stream goes on by itself. -/
theorem performs_proceed {task' : Task} (performs : snapshot.Performs ((side, task) ::ₘ rest))
    (alive : snapshot.session = some session)
    (raised : side.upshot task.op completion = .proceed (StreamState.initiate task'.op))
    (reads : ∀ bytes, task' ≠ .write bytes)
    (finished : snapshot.complete tls side task.op completion = .ok next) :
    next.session = some session ∧ next.Performs ((side, task') ::ₘ rest) ∧
      next.history = snapshot.history ++ [done side task completion (some session.state)] := by
  rw [complete, raised] at finished
  simp only [apply, Upshot.proceed, Except.ok.injEq] at finished
  subst finished
  refine ⟨alive, (performs.retire completion).initiate side task' reads, ?_⟩
  rw [history_modifyStream, performs.history_retire, alive]
  rfl

end

end Snapshot

/-! ### Stopped sessions -/

namespace AsyncOp

/-- An operation that may be outstanding on a stream after its session was stopped. -/
def Outlives : AsyncOp → Prop
  | read | write _ | shutdown | nullWrite => True
  | handshake | resolve _ _ | connect => False

def isRead : AsyncOp → Bool
  | read => true
  | _ => false

def isWrite : AsyncOp → Bool
  | write _ => true
  | _ => false

end AsyncOp

/-- At most one read and at most one write use the buffers of a stream. -/
def StreamState.Exclusive (state : StreamState) : Prop :=
  state.pending.countP (·.isRead) ≤ 1 ∧ state.pending.countP (·.isWrite) ≤ 1

namespace Snapshot

variable {snapshot : Snapshot μ} {side : Side} {op : AsyncOp} {tasks rest : Multiset (Side × Task)}

/-- A session that was stopped: what is still outstanding completes without effect. -/
structure Ended (snapshot : Snapshot μ) : Prop where
  gone : snapshot.session = none
  late (side : Side) (op : AsyncOp) : op ∈ (snapshot.streams side).pending → op.Outlives

/-- No buffer of either stream is used twice. -/
def Exclusive (snapshot : Snapshot μ) : Prop :=
  ∀ side, (snapshot.streams side).Exclusive

theorem countP_pending (p : AsyncOp → Bool) (side : Side) :
    snapshot.outstanding.countP (fun entry => entry.1 = side ∧ p entry.2) =
      (snapshot.streams side).pending.countP (p ·) := by
  cases side <;>
    simp [outstanding, Multiset.countP_add, Multiset.countP_map, ← Multiset.countP_eq_card_filter]

/-- A session with at most one task. -/
theorem Performs.exclusive_of_card (performs : snapshot.Performs tasks) (few : tasks.card ≤ 1) :
    snapshot.Exclusive := by
  have bound (p : AsyncOp → Bool) (side : Side) :
      (snapshot.streams side).pending.countP (p ·) ≤ 1 := by
    rw [← countP_pending, performs.outstanding]
    exact (Multiset.countP_le_card _ _).trans (by simpa using few)
  exact fun side => ⟨bound AsyncOp.isRead side, bound AsyncOp.isWrite side⟩

/-- Completing an operation leaves no stream busier. -/
theorem Exclusive.retire (side : Side) (op : AsyncOp) (completion : Completion)
    (exclusive : snapshot.Exclusive) :
    (snapshot.retire side op completion).Exclusive := by
  intro side'
  by_cases same : side' = side
  · subst same
    have fewer : (snapshot.streams side').pending.erase op ≤ (snapshot.streams side').pending :=
      Multiset.erase_le _ _
    have now := exclusive side'
    simp only [Snapshot.retire, streams_modifyStream, Function.update_self, StreamState.retire]
    exact ⟨(Multiset.countP_le_of_le _ fewer).trans now.1,
      (Multiset.countP_le_of_le _ fewer).trans now.2⟩
  · simpa [Snapshot.retire, StreamState.Exclusive, Function.update_of_ne same] using exclusive side'

section

variable [ReactiveState μ] {tls : Bool} {task : Task} {completion : Completion}
  {session : Session μ} {event : SessionEvent} {next : Snapshot μ}

theorem change_of_outlives (outlives : op.Outlives) (state : StreamState) :
    ((side.upshot op completion).change state).pending = state.pending := by
  cases side <;> cases op <;> simp only [AsyncOp.Outlives] at outlives <;>
    simp only [Side.upshot, Upshot.proceed, id, StreamState.close] <;> split <;> rfl

/-- What completes after the stop changes nothing but the history. -/
theorem ended_complete (ended : snapshot.Ended) (pending : op ∈ (snapshot.streams side).pending)
    (finished : snapshot.complete tls side op completion = .ok next) :
    next.Ended ∧ (snapshot.Exclusive → next.Exclusive) ∧ ∃ bytes,
      next.history = snapshot.history ++ [(side, .completed op completion.ec bytes none)] := by
  have outlives := ended.late side op pending
  have quiet : next = (snapshot.retire side op completion).modifyStream side
      (side.upshot op completion).change := by
    have gone : (snapshot.retire side op completion).session = none := ended.gone
    rw [complete, apply, gone] at finished
    split at finished
    · next same => cases same
    · cases finished
      rfl
  have pendings (side' : Side) : (next.streams side').pending =
      ((snapshot.retire side op completion).streams side').pending := by
    rw [quiet, streams_modifyStream]
    by_cases same : side' = side
    · subst same
      rw [Function.update_self, change_of_outlives outlives]
    · rw [Function.update_of_ne same]
  refine ⟨⟨?_, ?_⟩, ?_, (snapshot.streams side).moved op completion, ?_⟩
  · rw [quiet]
    exact ended.gone
  · intro side' op' pending'
    rw [pendings] at pending'
    refine ended.late side' op' ?_
    by_cases same : side' = side
    · subst same
      simp only [retire, streams_modifyStream, Function.update_self] at pending'
      exact Multiset.mem_of_mem_erase pending'
    · simpa [retire, Function.update_of_ne same] using pending'
  · intro exclusive side'
    have kept := exclusive.retire side op completion side'
    simpa only [StreamState.Exclusive, pendings] using kept
  · rw [quiet, history_modifyStream, retire, completed, ended.gone]
    rfl

omit [ReactiveState μ] in
/-- Stopping a pair adds to the server stream of a TLS connection what closes it. -/
theorem pending_stopCalls (tls : Bool) (side : Side) :
    ((stopCalls.foldl (invoke tls) snapshot).streams side).pending =
        (snapshot.streams side).pending ∨
      ((stopCalls.foldl (invoke tls) snapshot).streams side).pending =
        .nullWrite ::ₘ .shutdown ::ₘ (snapshot.streams side).pending := by
  cases side
  · cases tls
    · exact .inl rfl
    · simp only [stopCalls, List.foldl, streams_invoke, streams_modifyStream, Side.kind,
        if_true, StreamKind.invoke, TlsServerStream.doStop, TcpClientStream.doStop]
      cases opened : (snapshot.streams .server).isOpen with
      | false => simp [opened]
      | true => simp [opened, StreamState.initiate]
  · simp [stopCalls, streams_invoke, Side.kind, StreamKind.invoke, TcpClientStream.doStop]

/-- A handler that stops the session, perhaps after some requests. -/
theorem ended_of_stop {requests : List Request} {ops : Multiset (Side × AsyncOp)}
    (outstanding : snapshot.outstanding = (side, op) ::ₘ ops)
    (alive : snapshot.session = some session)
    (raised : side.upshot op completion = .report event)
    (computed : ReactiveState.reaction session event = .ok ⟨requests, none⟩)
    (outlives : ∀ entry ∈ startedOps requests ops, entry.2.Outlives)
    (finished : snapshot.complete tls side op completion = .ok next) :
    next.Ended ∧ next.history = snapshot.history ++
      (side, snapshot.completed side op completion) :: (calledLines requests ++ stopLines) := by
  rw [complete_report alive raised computed, Except.ok.injEq] at finished
  subst finished
  refine ⟨⟨rfl, fun side' op' pending => ?_⟩, ?_⟩
  · have late (op' : AsyncOp) (before : op' ∈ (((requests.flatMap Request.calls).foldl (invoke tls)
        (snapshot.retire side op completion)).streams side').pending) : op'.Outlives := by
      rw [← mem_outstanding, outstanding_requests,
        outstanding_retire completion outstanding] at before
      exact outlives _ before
    simp only [react, Reaction.calls, List.foldl_append] at pending
    rcases pending_stopCalls tls side' with same | closing
    · exact late op' (same ▸ pending)
    · rw [closing, Multiset.mem_cons, Multiset.mem_cons] at pending
      rcases pending with rfl | rfl | pending
      · trivial
      · trivial
      · exact late op' pending
  · rw [history_react, Snapshot.retire]
    simp [Reaction.calls, stopCalls, stopLines, calledLines]

omit [ReactiveState μ] in
/-- Stopping a pair starts no read and no write of bytes. -/
theorem exclusive_stopCalls (tls : Bool) (exclusive : snapshot.Exclusive) :
    (stopCalls.foldl (invoke tls) snapshot).Exclusive := by
  intro side
  have before := exclusive side
  rcases pending_stopCalls tls side with same | closing
  · rw [StreamState.Exclusive, same]
    exact before
  · rw [StreamState.Exclusive, closing]
    constructor
    · rw [Multiset.countP_cons_of_neg _ (by decide), Multiset.countP_cons_of_neg _ (by decide)]
      exact before.1
    · rw [Multiset.countP_cons_of_neg _ (by decide), Multiset.countP_cons_of_neg _ (by decide)]
      exact before.2

/-- A completion whose handler stops the session, perhaps after some requests. -/
theorem performs_stop {requests : List Request}
    (performs : snapshot.Performs ((side, task) ::ₘ rest)) (alive : snapshot.session = some session)
    (raised : side.upshot task.op completion = .report event)
    (computed : ReactiveState.reaction session event = .ok ⟨requests, none⟩)
    (fit : Fit requests rest)
    (transfers : ∀ entry ∈ started requests rest, entry.2.IsTransfer)
    (finished : snapshot.complete tls side task.op completion = .ok next) :
    next.Ended ∧ ((started requests rest).card ≤ 1 → next.Exclusive) ∧
      next.history = snapshot.history ++ done side task completion (some session.state) ::
        (calledLines requests ++ stopLines) := by
  have outstanding := performs.outstanding
  rw [Multiset.map_cons] at outstanding
  have outlives : ∀ entry ∈ startedOps requests (rest.map fun task => (task.1, task.2.op)),
      entry.2.Outlives := by
    intro entry member
    rw [← map_started, Multiset.mem_map] at member
    obtain ⟨⟨side', task'⟩, member, rfl⟩ := member
    have transfer := transfers _ member
    cases task' <;> exact transfer
  obtain ⟨ended, history⟩ := ended_of_stop outstanding alive raised computed outlives finished
  refine ⟨ended, fun few side' => ?_, ?_⟩
  · have served := (performs.retire completion).requests tls fit
    have before := exclusive_stopCalls tls (served.exclusive_of_card few) side'
    rw [complete_report alive raised computed, Except.ok.injEq] at finished
    rw [← finished]
    simpa [react, Reaction.calls] using before
  · rw [history, done, ← performs.moved completion, completed, alive]
    rfl

end

end Snapshot

end AmgiNetTools
