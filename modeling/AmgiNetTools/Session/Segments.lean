/-
Module: AmgiNetTools.Session.Segments
Layer: Session
Purpose: A session seen by what its peer sends: the reads the bytes of the peer come in, and the
  completions in which nothing goes wrong. When nothing fails and nothing is left to wait for but
  reads, the session has done all that it does with the pieces.
Main exports: peerReads, Smooth, Settled
-/
import AmgiNetTools.Session.Relay

namespace AmgiNetTools

variable {μ : Type}

/-! ### Reads of the peer -/

/-- What a line reads from the peer. -/
def readFromPeer : Side × Happening μ → Option IoBuffer
  | (.server, .completed .read ec bytes _) => if ec.isError then none else some bytes
  | _ => none

/-- The reads of the peer, in order. -/
def peerReads (history : History μ) : List IoBuffer := history.filterMap readFromPeer

theorem peerReads_append (first second : History μ) :
    peerReads (first ++ second) = peerReads first ++ peerReads second :=
  List.filterMap_append

/-- While a session relays, the reads of the peer are the chunks of that direction. -/
theorem peerReads_relay [DecidableEq μ] {mode : μ} (transfer : Relay mode) :
    peerReads transfer.trace = chunksRead mode .server transfer.trace := by
  obtain ⟨lanes, trace, sound⟩ := transfer
  dsimp only
  induction sound with
  | start => rfl
  | receive source chunk _ idle ih =>
      rw [peerReads_append, Relay.chunksRead_append, ih, Relay.chunksRead_receiveLines]
      cases source <;> simp [peerReads, readFromPeer]
  | deliver source chunk _ busy ih =>
      rw [peerReads_append, Relay.chunksRead_append, ih, Relay.chunksRead_deliverLines]
      cases source <;> simp [peerReads, readFromPeer]

/-- A completion without an error; and a read of the remote has read something. -/
def Smooth : Side × Happening μ → Prop
  | (side, .completed op ec bytes _) =>
      ec.isError = false ∧ ((side, op) = (.client, .read) → bytes ≠ [])
  | _ => True

instance : DecidablePred (Smooth (μ := μ))
  | (_, .completed _ _ _ _) => inferInstanceAs (Decidable (_ ∧ _))
  | (_, .called _) => inferInstanceAs (Decidable True)

section

variable {side : Side} {task : Task} {completion : Completion} {found : Option μ}

/-- Without an error, a read is reported as a read. -/
theorem upshot_read_of_smooth
    (smooth : Smooth (Snapshot.done side .read completion found)) :
    side.upshot .read completion = .report (side.readEvent completion.buffer) := by
  obtain ⟨succeeded, some_⟩ := smooth
  cases side with
  | server => simp [Side.upshot, succeeded, Side.readEvent]
  | client =>
      have read : completion.buffer.size ≠ 0 := fun none =>
        some_ rfl (by simp [Task.moved, succeeded, List.length_eq_zero_iff.mp none])
      simp [Side.upshot, succeeded, Side.readEvent, read]

/-- Without an error, a write is reported as a write. -/
theorem upshot_write_of_smooth {bytes : IoBuffer}
    (smooth : Smooth (Snapshot.done side (.write bytes) completion found)) :
    side.upshot (.write bytes.length) completion = .report side.writeEvent := by
  obtain ⟨succeeded, -⟩ := smooth
  cases side <;> simp [Side.upshot, succeeded, Side.writeEvent]

end

/-! ### Nothing left to do -/

/-- A session has read the pieces of `cut`, nothing failed, and it waits for reads only. If it waits
    for the peer, it has read all pieces. -/
structure Settled (cut : List IoBuffer) (upstream : ServerStream) (world : World μ) : Prop where
  pieces : peerReads (world.conversation upstream) <+: cut
  smooth : ∀ line ∈ world.conversation upstream, Smooth line
  waits (side : Side) (op : AsyncOp) :
    op ∈ ((world.snapshot upstream).streams side).pending → op = .read
  complete : .read ∈ ((world.snapshot upstream).streams .server).pending →
    peerReads (world.conversation upstream) = cut

/-- The clauses of `Settled` on a given run, one by one. -/
theorem Settled.of_sides {cut : List IoBuffer} {upstream : ServerStream} {world : World μ}
    (pieces : peerReads (world.conversation upstream) <+: cut)
    (smooth : ∀ line ∈ world.conversation upstream, Smooth line)
    (server : ∀ op ∈ ((world.snapshot upstream).streams .server).pending, op = .read)
    (client : ∀ op ∈ ((world.snapshot upstream).streams .client).pending, op = .read)
    (complete : .read ∈ ((world.snapshot upstream).streams .server).pending →
      peerReads (world.conversation upstream) = cut) : Settled cut upstream world where
  pieces := pieces
  smooth := smooth
  waits side := by
    cases side with
    | server => exact server
    | client => exact client
  complete := complete

/-- Both directions of a settled transfer wait for reads. -/
theorem Settled.reading {mode : μ} {transfer : Relay mode} {cut : List IoBuffer}
    {upstream : ServerStream} {world : World μ} (settled : Settled cut upstream world)
    (performs : (world.snapshot upstream).Performs transfer.tasks) (source : Side) :
    transfer.lanes source = .reading := by
  have member : Relay.laneTask source (transfer.lanes source) ∈ transfer.tasks := by
    rw [transfer.tasks_eq source]
    exact Multiset.mem_cons_self _ _
  have read := settled.waits _ _ (performs.mem_pending member)
  cases lane : transfer.lanes source with
  | reading => rfl
  | writing chunk =>
      rw [lane] at read
      cases read

/-- Without errors, no error is reported. -/
theorem not_error_of_smooth {side side' : Side} {task : Task} {completion : Completion}
    {found : Option μ} {ec : ErrorCode}
    (smooth : Smooth (Snapshot.done side task completion found)) :
    side.upshot task.op completion ≠ .report (side'.errorEvent ec) := by
  intro raised
  have succeeded := smooth.1
  cases task with
  | read =>
      have read := (upshot_read_of_smooth smooth).symm.trans raised
      cases side <;> cases side' <;> cases read
  | write bytes =>
      have written := (upshot_write_of_smooth smooth).symm.trans raised
      cases side <;> cases side' <;> cases written
  | handshake | resolve host service | connect =>
      cases side <;> cases side' <;>
        simp [Side.upshot, succeeded, Task.op, Upshot.report, Upshot.proceed, Side.errorEvent]
          at raised

end AmgiNetTools
