/-
Module: AmgiNetTools.Session.Writers
Layer: Session
Purpose: The write side of a stream, whatever the protocol does with it. A stream is a `Writer`:
  `do_write` lays a chunk over `write_buffer_` and starts a write of its size, and nothing else
  touches either. So in every state of every session, each chunk that was handed to a stream has one
  write of its size, and chunks that are handed over one at a time go out as they were handed in.
Main exports: writerEvents, StreamState.writer, Spaced, Snapshot.Writes,
  Snapshot.writes_of_reachable, WritesKept, writesKept
-/
import AmgiNetTools.Library.Writer
import AmgiNetTools.Session.Closing
import AmgiNetTools.Session.Wire

namespace AmgiNetTools

variable {μ : Type}

/-! ### A stream as a writer -/

/-- A line as an event of the writer at one end. -/
def writerEvent (side : Side) : Side × Happening μ → Option (Writer.Event UInt8)
  | (side', .called (.write chunk)) => if side' = side then some (.given chunk) else none
  | (side', .completed (.write size) ec bytes _) =>
      if side' = side then some (.done size (if ec.isError then none else some bytes)) else none
  | _ => none

/-- The events of the writer at one end. -/
def writerEvents (side : Side) (history : History μ) : List (Writer.Event UInt8) :=
  history.filterMap (writerEvent side)

/-- The size of a write. -/
def AsyncOp.writeSize : AsyncOp → Option Nat
  | .write size => some size
  | _ => none

/-- The sizes of the writes among some operations. -/
def writeSizes (ops : Multiset AsyncOp) : Multiset Nat := ops.filterMap AsyncOp.writeSize

theorem writeSizes_write (size : Nat) (ops : Multiset AsyncOp) :
    writeSizes (.write size ::ₘ ops) = size ::ₘ writeSizes ops :=
  Multiset.filterMap_cons_some _ _ _ rfl

theorem writeSizes_other {op : AsyncOp} (other : op.writeSize = none) (ops : Multiset AsyncOp) :
    writeSizes (op ::ₘ ops) = writeSizes ops :=
  Multiset.filterMap_cons_none _ _ other

/-- The sizes of the writes at one end that have completed, with or without an error. -/
def completedSizes (side : Side) (history : History μ) : List Nat :=
  Writer.doneSizes (writerEvents side history)

/-- The writer that a stream is. -/
def StreamState.writer (state : StreamState) : Writer UInt8 :=
  ⟨state.writeBuffer, writeSizes state.pending⟩

/-- A chunk is handed to the stream at one end only when all before are out. -/
def Spaced (side : Side) (history : History μ) : Prop := Lane.Spaced (wireEvents side history)

instance (side : Side) : DecidablePred (@Spaced μ side) :=
  fun _ => inferInstanceAs (Decidable (Lane.Spaced _))

variable {side : Side} {history : History μ} {state : StreamState}

theorem writerEvents_append (first second : History μ) :
    writerEvents side (first ++ second) = writerEvents side first ++ writerEvents side second :=
  List.filterMap_append

theorem laneEvents_writerEvents (side : Side) (history : History μ) :
    Writer.laneEvents (writerEvents side history) = wireEvents side history := by
  rw [Writer.laneEvents, writerEvents, List.filterMap_filterMap, wireEvents]
  refine congrArg (List.filterMap · history) (funext fun line => ?_)
  obtain ⟨side', happening⟩ := line
  cases happening with
  | called call =>
      cases call with
      | write chunk =>
          by_cases same : side' = side <;> simp [writerEvent, wireEvent, same, Writer.laneEvent]
      | _ => rfl
  | completed op ec bytes found =>
      cases op with
      | write size =>
          by_cases same : side' = side
          · cases failed : ec.isError <;>
              simp [writerEvent, wireEvent, same, failed, Writer.laneEvent]
          · simp [writerEvent, wireEvent, same]
      | _ => rfl

theorem givenSizes_writerEvents (side : Side) (history : History μ) :
    Writer.givenSizes (writerEvents side history) = (writes side history).map List.length := by
  rw [Writer.givenSizes, writerEvents, List.filterMap_filterMap, writes, List.map_filterMap]
  refine congrArg (List.filterMap · history) (funext fun line => ?_)
  obtain ⟨side', happening⟩ := line
  cases happening with
  | called call =>
      cases call with
      | write chunk => by_cases same : side' = side <;> simp [writerEvent, written, same]
      | _ => rfl
  | completed op ec bytes found =>
      cases op with
      | write size => by_cases same : side' = side <;> simp [writerEvent, written, same]
      | _ => rfl

/-- Only a write is something to the writer of a stream. -/
theorem StreamState.writer_initiate {op : AsyncOp} (other : op.writeSize = none)
    (state : StreamState) : (state.initiate op).writer = state.writer := by
  rw [writer, writer, initiate, writeSizes_other other]

/-- Only `do_write` does something to it. -/
theorem writer_invoke (kind : StreamKind) {call : StreamCall} (other : ∀ chunk, call ≠ .write chunk)
    (state : StreamState) : (kind.invoke call state).writer = state.writer := by
  cases call with
  | write chunk => exact absurd rfl (other chunk)
  | start | read => cases kind <;> exact state.writer_initiate rfl
  | setHost | setService => cases kind <;> rfl
  | stop =>
      cases kind with
      | tcpServer | tcpClient => rfl
      | tlsServer =>
          simp only [StreamKind.invoke, TlsServerStream.doStop]
          split
          · rw [StreamState.writer_initiate rfl, StreamState.writer_initiate rfl]
          · rfl

/-- A chunk is handed to a stream. -/
theorem writer_write (tls : Bool) (side : Side) (chunk : IoBuffer) (state : StreamState) :
    ((side.kind tls).invoke (.write chunk) state).writer =
      ⟨chunk ++ state.writer.held.drop chunk.length, chunk.length ::ₘ state.writer.underWay⟩ := by
  rw [Snapshot.invoke_write]
  exact congrArg (Writer.mk _) (writeSizes_write _ _)

/-- A write is done. -/
theorem StreamState.writer_retire_write {size : Nat} (pending : .write size ∈ state.pending) :
    size ∈ state.writer.underWay ∧ (state.retire (.write size)).writer =
      { state.writer with underWay := state.writer.underWay.erase size } := by
  have whole : size ::ₘ writeSizes (state.pending.erase (.write size)) =
      state.writer.underWay := by
    rw [← writeSizes_write, Multiset.cons_erase pending, writer]
  constructor
  · exact whole ▸ Multiset.mem_cons_self _ _
  · rw [← whole, Multiset.erase_cons_head]
    rfl

/-- Something else is done. -/
theorem StreamState.writer_retire_other {op : AsyncOp} (pending : op ∈ state.pending)
    (other : op.writeSize = none) : (state.retire op).writer = state.writer := by
  have whole := writeSizes_other other (state.pending.erase op)
  rw [Multiset.cons_erase pending] at whole
  rw [writer, writer, whole, retire]

/-- What a stream does by itself after a completion writes nothing. -/
theorem writer_change (side : Side) (op : AsyncOp) (completion : Completion) (state : StreamState) :
    ((side.upshot op completion).change state).writer = state.writer := by
  have sizes (ops : Multiset AsyncOp) :
      writeSizes (ops.filter (·.isWrite)) = writeSizes ops := by
    induction ops using Multiset.induction with
    | empty => rfl
    | cons op ops ih =>
        cases op with
        | write size =>
            rw [Multiset.filter_cons_of_pos _ (by rfl), writeSizes_write, writeSizes_write, ih]
        | _ =>
            rw [Multiset.filter_cons_of_neg _ (by simp [AsyncOp.isWrite]), ih,
              writeSizes_other rfl]
  rw [StreamState.writer, StreamState.writer, side.writeBuffer_change, ← sizes,
    Snapshot.filter_isWrite_change, sizes]

/-! ### Every stream is one -/

namespace Snapshot

/-- Both streams have done what a writer does with the chunks it is given. -/
def Writes (snapshot : Snapshot μ) : Prop :=
  ∀ side, Writer.run (writerEvents side snapshot.history) StreamState.initial.writer =
    some (snapshot.streams side).writer

variable {snapshot next : Snapshot μ} {tls : Bool} {id : Int32} {op : AsyncOp}
  {completion : Completion}

theorem Writes.invoke (tls : Bool) (call : Side × StreamCall) (writes : snapshot.Writes) :
    (snapshot.invoke tls call).Writes := by
  intro side'
  obtain ⟨side, call⟩ := call
  have history : (snapshot.invoke tls (side, call)).history =
      snapshot.history ++ [(side, .called call)] := rfl
  have streams : (snapshot.invoke tls (side, call)).streams =
      Function.update snapshot.streams side
        ((side.kind tls).invoke call (snapshot.streams side)) := rfl
  rw [history, streams, writerEvents_append]
  by_cases here : side' = side
  · subst here
    rw [Function.update_self]
    cases call with
    | write chunk =>
        rw [writer_write]
        simpa [writerEvents, writerEvent] using Writer.run_given (writes side') chunk
    | _ =>
        rw [writer_invoke _ (by simp)]
        exact (congrArg (Writer.run · _) (List.append_nil _)).trans (writes side')
  · rw [Function.update_of_ne here]
    cases call with
    | write chunk => simpa [writerEvents, writerEvent, Ne.symm here] using writes side'
    | _ => exact (congrArg (Writer.run · _) (List.append_nil _)).trans (writes side')

theorem Writes.retire (completion : Completion) (writes : snapshot.Writes)
    (pending : op ∈ (snapshot.streams side).pending) :
    (snapshot.retire side op completion).Writes := by
  intro side'
  have history : (snapshot.retire side op completion).history =
      snapshot.history ++ [(side, snapshot.completed side op completion)] := rfl
  have streams : (snapshot.retire side op completion).streams =
      Function.update snapshot.streams side ((snapshot.streams side).retire op) := rfl
  rw [history, streams, writerEvents_append]
  by_cases here : side' = side
  · subst here
    rw [Function.update_self]
    cases op with
    | write size =>
        obtain ⟨busy, same⟩ := StreamState.writer_retire_write pending
        rw [same]
        have done := @Writer.run_done UInt8 _ _ _ _ (writes side') size
          (if completion.ec.isError then none
            else some ((snapshot.streams side').writer.held.take size)) busy (by split <;> simp)
        rw [← done]
        cases failed : completion.ec.isError with
        | true => simp [writerEvents, writerEvent, completed, failed]
        | false =>
            simp [writerEvents, writerEvent, completed, failed, StreamState.moved,
              StreamState.written, StreamState.writer]
    | _ =>
        rw [StreamState.writer_retire_other pending rfl]
        exact (congrArg (Writer.run · _) (List.append_nil _)).trans (writes side')
  · rw [Function.update_of_ne here]
    cases op with
    | write size => simpa [writerEvents, writerEvent, completed, Ne.symm here] using writes side'
    | _ => exact (congrArg (Writer.run · _) (List.append_nil _)).trans (writes side')

theorem Writes.modifyStream (writes : snapshot.Writes) :
    (snapshot.modifyStream side (side.upshot op completion).change).Writes := by
  intro side'
  rw [history_modifyStream, streams_modifyStream]
  by_cases here : side' = side
  · subst here
    rw [Function.update_self, writer_change]
    exact writes side'
  · rw [Function.update_of_ne here]
    exact writes side'

theorem Writes.congr {other : Snapshot μ} (writes : snapshot.Writes)
    (streams : other.streams = snapshot.streams) (history : other.history = snapshot.history) :
    other.Writes := by
  intro side
  rw [streams, history]
  exact writes side

theorem Writes.invokes (tls : Bool) (calls : List (Side × StreamCall))
    (writes : snapshot.Writes) : (calls.foldl (Snapshot.invoke tls) snapshot).Writes := by
  induction calls generalizing snapshot with
  | nil => exact writes
  | cons call calls ih => exact ih (writes.invoke tls call)

variable [ReactiveState μ]

theorem writes_accepted (tls : Bool) (id : Int32) : (accepted tls id : Snapshot μ).Writes := by
  apply Writes.invoke
  intro side
  rfl

theorem Writes.complete (writes : snapshot.Writes)
    (pending : op ∈ (snapshot.streams side).pending)
    (finished : snapshot.complete tls side op completion = .ok next) : next.Writes := by
  have retired := writes.retire completion pending
  obtain rfl | ⟨session, outcome, -, rfl⟩ := complete_inv finished
  · exact retired.modifyStream
  · apply Writes.modifyStream
    exact (retired.invokes tls outcome.calls).congr rfl rfl

/-- In every run of a session by itself, whatever its protocol. -/
theorem writes_of_reachable (reachable : Reachable tls id snapshot) : snapshot.Writes := by
  induction reachable with
  | start => exact writes_accepted tls id
  | step _ pending _ finished writes => exact writes.complete pending finished

end Snapshot

/-- One chunk needs no spacing. -/
theorem spaced_of_one (few : (writes side history).length ≤ 1) : Spaced side history := by
  intro before member
  obtain ⟨after, whole⟩ := (List.mem_inits _ _).mp member
  rw [← received_wireEvents, ← whole, Lane.received_append, List.length_append] at few
  omega

/-- What has gone out has not failed. -/
theorem length_sent (succeeded : ∀ size ec bytes found,
      (side, .completed (.write size) ec bytes found) ∈ history → ec.isError = false) :
    (sent side history).length = (completedSizes side history).length := by
  induction history with
  | nil => rfl
  | cons line history ih =>
      have earlier := ih fun size ec bytes found member =>
        succeeded size ec bytes found (List.mem_cons_of_mem _ member)
      obtain ⟨side', happening⟩ := line
      cases happening with
      | called call =>
          cases call with
          | write chunk =>
              by_cases same : side' = side <;>
                simpa [sent, completedSizes, wireEvents, wireEvent, writerEvents, writerEvent,
                  Lane.delivered, Writer.doneSizes, same] using earlier
          | _ => exact earlier
      | completed op ec bytes found =>
          cases op with
          | write size =>
              by_cases same : side' = side
              · subst same
                have fine := succeeded size ec bytes found List.mem_cons_self
                simpa [sent, completedSizes, wireEvents, wireEvent, writerEvents, writerEvent,
                  Lane.delivered, Writer.doneSizes, fine] using earlier
              · simpa [sent, completedSizes, wireEvents, wireEvent, writerEvents, writerEvent,
                  Lane.delivered, Writer.doneSizes, same] using earlier
          | _ => exact earlier

/-! ### The streams of a server -/

/-- Each chunk that was handed to a stream has one write of its size, which is under way, or has
    failed, or has put that many bytes out. And while the chunks are handed over one at a time, what
    has gone out is a beginning of them. -/
def WritesKept (μ : Type) [ReactiveState μ] : Prop :=
  ∀ (world : World μ) (upstream : ServerStream), Reachable world → world.Accepted upstream →
    ∀ side, let history := world.conversation upstream
    ((writes side history).map List.length : Multiset Nat) =
        writeSizes (world.streams (upstream.endpoint side)).pending +
          (completedSizes side history : Multiset Nat) ∧
      ((sent side history).map List.length : Multiset Nat) ≤ completedSizes side history ∧
      (Spaced side history → sent side history <+: writes side history)

theorem writesKept [ReactiveState μ] : WritesKept μ := by
  intro world upstream reachable accepted side
  have written := Snapshot.writes_of_reachable (World.snapshot_reachable reachable accepted) side
  refine ⟨?_, ?_, ?_⟩
  · rw [← givenSizes_writerEvents]
    exact Writer.sizes_conserved written rfl
  · rw [sent, ← laneEvents_writerEvents]
    exact Writer.out_sizes_le written rfl
  · intro spaced
    rw [Spaced, ← laneEvents_writerEvents] at spaced
    obtain ⟨lane, ran, -, -⟩ := Writer.lane_of_run written rfl spaced
    rw [laneEvents_writerEvents] at ran
    rw [sent, ← received_wireEvents]
    exact Lane.delivered_prefix ran

theorem writeSizes_eq_zero {ops : Multiset AsyncOp} (idle : ∀ size, .write size ∉ ops) :
    writeSizes ops = 0 := by
  refine Multiset.eq_zero_of_forall_notMem fun size member => ?_
  obtain ⟨op, pending, own⟩ := (Multiset.mem_filterMap _ _).mp member
  cases op with
  | write size' => exact idle size' pending
  | _ => cases own

/-- While no write is under way and none has failed, all that was handed to a stream is out. -/
theorem sent_of_idle [ReactiveState μ] {world : World μ} {upstream : ServerStream}
    (reachable : Reachable world) (accepted : world.Accepted upstream)
    (idle : ∀ size, .write size ∉ (world.streams (upstream.endpoint side)).pending)
    (succeeded : ∀ size ec bytes found,
      (side, .completed (.write size) ec bytes found) ∈ world.conversation upstream →
        ec.isError = false) :
    ((sent side (world.conversation upstream)).map List.length : Multiset Nat) =
        (writes side (world.conversation upstream)).map List.length ∧
      (Spaced side (world.conversation upstream) →
        sent side (world.conversation upstream) = writes side (world.conversation upstream)) := by
  obtain ⟨kept, sizes, inOrder⟩ := writesKept world upstream reachable accepted side
  rw [writeSizes_eq_zero idle, Multiset.zero_add] at kept
  have count := length_sent succeeded
  constructor
  · rw [kept]
    refine Multiset.eq_of_le_of_card_le sizes (le_of_eq ?_)
    simpa using count.symm
  · intro spaced
    refine (inOrder spaced).eq_of_length ?_
    have all := congrArg Multiset.card kept
    rw [Multiset.coe_card, Multiset.coe_card, List.length_map] at all
    exact count.trans all.symm

end AmgiNetTools
