/-
Module: AmgiNetTools.Session.Transfer
Layer: Session
Purpose: The laws of data transfer, as a server shows them: a session that relays waits for one
  operation in each direction, and each direction is intact. They follow from what the session waits
  for and from its history, whatever the protocol.
Main exports: World.outstanding, TwoWay, Intact, intact_of_relay
-/
import AmgiNetTools.Session.Relay

namespace AmgiNetTools

variable {μ : Type}

/-- The operations asio has not completed on the two streams of a pair. -/
def World.outstanding (pair : SessionPair μ) (world : World μ) : Multiset (Side × AsyncOp) :=
  (world.streams (pair.stream .server)).pending.map (Prod.mk Side.server) +
    (world.streams (pair.stream .client)).pending.map (Prod.mk Side.client)

/-- One operation in each direction: a read of the source, or a write to the other end. -/
def TwoWay (outstanding : Multiset (Side × AsyncOp)) : Prop :=
  ∃ toRemote toLocal, outstanding = {toRemote, toLocal} ∧
    (toRemote = (.server, .read) ∨ ∃ size, toRemote = (.client, .write size)) ∧
    (toLocal = (.client, .read) ∨ ∃ size, toLocal = (.server, .write size))

/-- One direction of a pair that transfers data in `mode`: what was read from `source` is what was
    written to the other end, and then at most one chunk, whose write is outstanding. -/
def Intact [DecidableEq μ] (mode : μ) (pair : SessionPair μ) (source : Side) (world : World μ) :
    Prop :=
  let history := world.conversation pair.server
  ∃ inFlight : List IoBuffer,
    chunksRead mode source history = chunksDelivered mode source history ++ inFlight ∧
    inFlight.length ≤ 1 ∧
    (∀ chunk ∈ inFlight,
      .write chunk.length ∈ (world.streams (pair.stream source.opposite)).pending ∧
      (world.streams (pair.stream source.opposite)).written chunk.length = chunk) ∧
    (.read ∈ (world.streams (pair.stream source)).pending → inFlight = [])

variable {mode : μ}

/-- The streams of an entry are those of its snapshot. -/
theorem streams_of_present [ReactiveState μ] {world : World μ} (reachable : Reachable world)
    {key : Int32} {pair : SessionPair μ} (present : world.sessions key = some pair) (side : Side) :
    world.streams (pair.stream side) = (world.snapshot pair.server).streams side := by
  obtain ⟨-, -, -, client⟩ := World.entry_of_reachable reachable present
  cases side with
  | server => rfl
  | client => simp [SessionPair.stream, World.snapshot, ServerStream.endpoint, client]

theorem outstanding_of_present [ReactiveState μ] {world : World μ} (reachable : Reachable world)
    {key : Int32} {pair : SessionPair μ} (present : world.sessions key = some pair) :
    world.outstanding pair = (world.snapshot pair.server).outstanding := by
  rw [World.outstanding, streams_of_present reachable present .server,
    streams_of_present reachable present .client, Snapshot.outstanding]

theorem TwoWay.ne_zero {outstanding : Multiset (Side × AsyncOp)} (twoWay : TwoWay outstanding) :
    outstanding ≠ 0 := by
  obtain ⟨_, _, rfl, -⟩ := twoWay
  simp

theorem twoWay_tasks (transfer : Relay mode) :
    TwoWay (transfer.tasks.map fun task => (task.1, task.2.op)) := by
  refine ⟨_, _, rfl, ?_, ?_⟩
  · cases transfer.lanes .server with
    | reading => exact .inl rfl
    | writing chunk => exact .inr ⟨_, rfl⟩
  · cases transfer.lanes .client with
    | reading => exact .inl rfl
    | writing chunk => exact .inr ⟨_, rfl⟩

/-- A session that relays is intact, if it relayed nothing before. -/
theorem intact_of_relay [ReactiveState μ] [DecidableEq μ] {world : World μ}
    (reachable : Reachable world) {key : Int32} {pair : SessionPair μ}
    (present : world.sessions key = some pair) {transfer : Relay mode} {early : History μ}
    (performs : (world.snapshot pair.server).Performs transfer.tasks)
    (history : world.conversation pair.server = early ++ transfer.trace) {source : Side}
    (quiet : laneEvents mode source early = []) : Intact mode pair source world := by
  refine ⟨(transfer.lanes source).inFlight, ?_, ?_, ?_, ?_⟩
  · rw [chunksRead, chunksDelivered, history, Relay.laneEvents_append, quiet, List.nil_append]
    exact transfer.conservation source
  · cases transfer.lanes source <;> simp [Lane.inFlight]
  · intro chunk member
    rw [streams_of_present reachable present]
    have waits : (source.opposite, Task.write chunk) ∈ transfer.tasks := by
      cases lane : transfer.lanes source with
      | reading => simp [lane, Lane.inFlight] at member
      | writing chunk' =>
          rw [lane, Lane.inFlight, List.mem_singleton] at member
          rw [transfer.tasks_eq source, lane, member]
          exact Multiset.mem_cons_self _ _
    exact ⟨performs.mem_pending waits, performs.buffered _ _ waits⟩
  · intro pending
    rw [streams_of_present reachable present] at pending
    obtain ⟨task, rest, split, op⟩ := performs.exists_task pending
    refine Relay.inFlight_eq_nil ?_
    cases task with
    | read => exact split ▸ Multiset.mem_cons_self _ _
    | _ => cases op

end AmgiNetTools
