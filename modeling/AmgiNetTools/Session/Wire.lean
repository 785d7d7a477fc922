/-
Module: AmgiNetTools.Session.Wire
Layer: Session
Purpose: What a stream puts on the wire. A stream has one write buffer, so a chunk that is handed
  to it goes out as it was handed in only when the chunk before it is out. `Snapshot.Posts` says
  that this is so for both streams of a session: the chunks handed to each and those that went out
  are the events of a lane, and a write that is outstanding, or that has failed, is that of the
  lane's chunk. After a failed write a stream is handed nothing more. The invariant outlives the
  session, so it also tells about the writes that complete after the stop.
Main exports: sent, arrivals, wireEvents, FailedWrite, Snapshot.Posts, Snapshot.Posts.sent_prefix,
  Snapshot.Posts.prefix_of_offers, Snapshot.Posts.complete_served, Snapshot.posts_of_performs
-/
import AmgiNetTools.Session.Bounds
import AmgiNetTools.Session.Relay
import Mathlib.Data.List.Infix

namespace AmgiNetTools

variable {μ : Type}

/-! ### The two ends of a wire -/

/-- What a line reads from one end. -/
def arrival (side : Side) : Side × Happening μ → Option IoBuffer
  | (side', .completed .read ec bytes _) =>
      if side' = side ∧ ec.isError = false then some bytes else none
  | _ => none

/-- The chunks read from one end, in order, whether or not the session was still there. -/
def arrivals (side : Side) (history : History μ) : List IoBuffer :=
  history.filterMap (arrival side)

/-- A line as an event of the lane that writes to one end: a chunk was handed to the stream, or the
    write of it has completed without an error. -/
def wireEvent (side : Side) : Side × Happening μ → Option (Lane.Event IoBuffer)
  | (side', .called (.write chunk)) => if side' = side then some (.received chunk) else none
  | (side', .completed (.write _) ec bytes _) =>
      if side' = side ∧ ec.isError = false then some (.delivered bytes) else none
  | _ => none

/-- The events of the lane that writes to one end. -/
def wireEvents (side : Side) (history : History μ) : List (Lane.Event IoBuffer) :=
  history.filterMap (wireEvent side)

/-- The chunks that one end has put on the wire, in order. -/
def sent (side : Side) (history : History μ) : List IoBuffer :=
  Lane.delivered (wireEvents side history)

theorem arrivals_append (side : Side) (first second : History μ) :
    arrivals side (first ++ second) = arrivals side first ++ arrivals side second :=
  List.filterMap_append

theorem wireEvents_append (side : Side) (first second : History μ) :
    wireEvents side (first ++ second) = wireEvents side first ++ wireEvents side second :=
  List.filterMap_append

/-- What comes into the lane is what was handed to the stream. -/
theorem received_wireEvents (side : Side) (history : History μ) :
    Lane.received (wireEvents side history) = writes side history := by
  rw [Lane.received, wireEvents, List.filterMap_filterMap, writes]
  congr 1
  funext line
  obtain ⟨side', happening⟩ := line
  cases happening with
  | called call =>
      cases call with
      | write chunk => by_cases same : side' = side <;> simp [wireEvent, written, same]
      | _ => rfl
  | completed op ec bytes found =>
      cases op with
      | write size =>
          by_cases out : side' = side ∧ ec.isError = false <;> simp [wireEvent, written, out]
      | _ => rfl

@[simp] theorem wireEvents_nil (side : Side) : wireEvents side ([] : History μ) = [] := rfl

@[simp] theorem wireEvents_read (side side' : Side) (history : History μ) :
    wireEvents side ((side', .called .read) :: history) = wireEvents side history := rfl

@[simp] theorem wireEvents_start (side side' : Side) (history : History μ) :
    wireEvents side ((side', .called .start) :: history) = wireEvents side history := rfl

@[simp] theorem wireEvents_setHost (side side' : Side) (host : Text) (history : History μ) :
    wireEvents side ((side', .called (.setHost host)) :: history) = wireEvents side history := rfl

@[simp] theorem wireEvents_setService (side side' : Side) (service : Text) (history : History μ) :
    wireEvents side ((side', .called (.setService service)) :: history) =
      wireEvents side history := rfl

@[simp] theorem wireEvents_write (side side' : Side) (chunk : IoBuffer) (history : History μ) :
    wireEvents side ((side', .called (.write chunk)) :: history) =
      (if side' = side then [.received chunk] else []) ++ wireEvents side history := by
  by_cases same : side' = side <;> simp [wireEvents, wireEvent, same]

@[simp] theorem wireEvents_written (side side' : Side) (size : Nat) (ec : ErrorCode)
    (bytes : IoBuffer) (found : Option μ) (history : History μ) :
    wireEvents side ((side', .completed (.write size) ec bytes found) :: history) =
      (if side' = side ∧ ec.isError = false then [.delivered bytes] else []) ++
        wireEvents side history := by
  by_cases out : side' = side ∧ ec.isError = false <;> simp [wireEvents, wireEvent, out]

/-- Only a write puts something on the wire. -/
theorem wireEvents_completed {op : AsyncOp} (reads : ∀ size, op ≠ .write size) (side side' : Side)
    (ec : ErrorCode) (bytes : IoBuffer) (found : Option μ) (history : History μ) :
    wireEvents side ((side', .completed op ec bytes found) :: history) =
      wireEvents side history := by
  cases op with
  | write size => exact absurd rfl (reads size)
  | _ => rfl

/-- What a stop adds to a history hands nothing to a stream. -/
@[simp] theorem wireEvents_stopLines (side : Side) : wireEvents side (stopLines : History μ) = [] :=
  rfl

/-- The write of so many bytes to one end has failed. How many of them went out is not told. -/
def FailedWrite (side : Side) (size : Nat) (history : History μ) : Prop :=
  ∃ ec bytes found, ec.isError = true ∧ (side, .completed (.write size) ec bytes found) ∈ history

@[simp] theorem failedWrite_append {side : Side} {size : Nat} {first second : History μ} :
    FailedWrite side size (first ++ second) ↔
      FailedWrite side size first ∨ FailedWrite side size second := by
  simp only [FailedWrite, List.mem_append, and_or_left, exists_or]

@[simp] theorem not_failedWrite_nil (side : Side) (size : Nat) :
    ¬ FailedWrite side size ([] : History μ) := by
  simp [FailedWrite]

/-- A line that fails no write to one end. -/
theorem failedWrite_cons {side : Side} {size : Nat} {line : Side × Happening μ}
    {history : History μ} (other : ∀ ec bytes found, ec.isError = true →
      line ≠ (side, .completed (.write size) ec bytes found)) :
    FailedWrite side size (line :: history) ↔ FailedWrite side size history := by
  constructor
  · rintro ⟨ec, bytes, found, isError, member⟩
    exact ⟨ec, bytes, found, isError,
      (List.mem_cons.mp member).resolve_left (other ec bytes found isError).symm⟩
  · rintro ⟨ec, bytes, found, isError, member⟩
    exact ⟨ec, bytes, found, isError, List.mem_cons_of_mem _ member⟩

@[simp] theorem failedWrite_called (side side' : Side) (size : Nat) (call : StreamCall)
    (history : History μ) :
    FailedWrite side size ((side', .called call) :: history) ↔ FailedWrite side size history :=
  failedWrite_cons fun _ _ _ _ same => by cases same

@[simp] theorem failedWrite_success (side side' : Side) (size : Nat) (op : AsyncOp)
    (bytes : IoBuffer) (found : Option μ) (history : History μ) :
    FailedWrite side size ((side', .completed op .success bytes found) :: history) ↔
      FailedWrite side size history :=
  failedWrite_cons fun _ _ _ isError same => by
    cases same
    cases isError

/-- Only a write can be a write that failed. -/
theorem failedWrite_completed {op : AsyncOp} (reads : ∀ size, op ≠ .write size)
    (side side' : Side) (size : Nat) (ec : ErrorCode) (bytes : IoBuffer) (found : Option μ)
    (history : History μ) :
    FailedWrite side size ((side', .completed op ec bytes found) :: history) ↔
      FailedWrite side size history :=
  failedWrite_cons fun _ _ _ _ same => by
    cases same
    exact reads size rfl

/-- What a handler asks for is no completion. -/
theorem not_failedWrite_calls {side : Side} {size : Nat} (calls : List (Side × StreamCall)) :
    ¬ FailedWrite side size
      (calls.map fun call => (call.1, .called call.2) : History μ) := by
  rintro ⟨ec, bytes, found, -, member⟩
  obtain ⟨call, -, same⟩ := List.mem_map.mp member
  cases same

/-- No write of a transfer has failed. -/
theorem Relay.not_failedWrite {mode : μ} (transfer : Relay mode) (side : Side) (size : Nat) :
    ¬ FailedWrite side size transfer.trace := by
  rintro ⟨ec, bytes, found, isError, member⟩
  obtain ⟨_, _, _, same⟩ | ⟨_, same⟩ | ⟨_, _, same⟩ := transfer.line_cases member <;> cases same
  cases isError

/-- The chunks a transfer reads from one end are those that arrive there. -/
theorem arrivals_relay [DecidableEq μ] {mode : μ} (transfer : Relay mode) (source : Side) :
    arrivals source transfer.trace = chunksRead mode source transfer.trace := by
  obtain ⟨lanes, trace, sound⟩ := transfer
  dsimp only
  induction sound with
  | start => rfl
  | receive source' chunk _ idle ih =>
      rw [arrivals_append, Relay.chunksRead_append, ih, Relay.chunksRead_receiveLines]
      by_cases same : source' = source <;> simp [arrivals, arrival, same]
  | deliver source' chunk _ busy ih =>
      rw [arrivals_append, Relay.chunksRead_append, ih, Relay.chunksRead_deliverLines]
      simp [arrivals, arrival]

/-- What a transfer writes to one end is what it reads from the other. -/
theorem wire_relay {mode : μ} (transfer : Relay mode) (source : Side) :
    Lane.run (wireEvents source.opposite transfer.trace) = some (transfer.lanes source) := by
  obtain ⟨lanes, trace, sound⟩ := transfer
  dsimp only
  induction sound with
  | start => rfl
  | @receive lanes history source' chunk _ idle ih =>
      have ends : source'.opposite = source.opposite ↔ source' = source := by
        cases source <;> cases source' <;> simp [Side.opposite]
      rw [wireEvents_append, wireEvents_completed (by simp), wireEvents_write, wireEvents_nil,
        List.append_nil, if_congr ends rfl rfl]
      by_cases same : source' = source
      · subst same
        simpa using Lane.run_receive (ih.trans (congrArg some idle)) chunk
      · simpa [same, Function.update_of_ne (Ne.symm same)] using ih
  | @deliver lanes history source' chunk _ busy ih =>
      have ends : source'.opposite = source.opposite ↔ source' = source := by
        cases source <;> cases source' <;> simp [Side.opposite]
      simp only [wireEvents_append, wireEvents_written, wireEvents_read, wireEvents_nil,
        List.append_nil, ends, ErrorCode.isError_success, and_true]
      by_cases same : source' = source
      · subst same
        simpa using Lane.run_deliver (ih.trans (congrArg some busy))
      · simpa [same, Function.update_of_ne (Ne.symm same)] using ih

/-- A direction of a transfer whose source is being read. -/
theorem Relay.reading_of_pending {mode : μ} {transfer : Relay mode} {snapshot : Snapshot μ}
    (performs : snapshot.Performs transfer.tasks) {source : Side}
    (pending : .read ∈ (snapshot.streams source).pending) : transfer.lanes source = .reading := by
  obtain ⟨task, rest, split, isRead⟩ := performs.exists_task pending
  have member : (source, Task.read) ∈ transfer.tasks := by
    cases task with
    | read => exact split ▸ Multiset.mem_cons_self _ _
    | _ => cases isRead
  cases lane : transfer.lanes source with
  | reading => rfl
  | writing chunk => simpa [lane, Lane.inFlight] using inFlight_eq_nil member

/-- A write of a transfer is that of the direction from the other end. -/
theorem Relay.lane_of_write {mode : μ} {transfer : Relay mode} {side : Side} {chunk : IoBuffer}
    (member : (side, .write chunk) ∈ transfer.tasks) :
    transfer.lanes side.opposite = .writing chunk := by
  obtain ⟨source, which⟩ := transfer.exists_laneTask member
  cases lane : transfer.lanes source with
  | reading =>
      rw [lane] at which
      cases which
  | writing chunk' =>
      rw [lane] at which
      cases which
      rw [Side.opposite_opposite]
      exact lane

/-! ### Streams that put chunks on the wire one at a time -/

namespace Snapshot

/-- The stream at one end is in step with a lane: it has a write outstanding only when the lane is
    writing, and then that of the lane's chunk, which is still in its buffer. -/
structure InStep (lane : Lane IoBuffer) (state : StreamState) : Prop where
  single : state.pending.countP (·.isWrite) ≤ 1
  chunk (size : Nat) : .write size ∈ state.pending →
    lane = .writing (state.written size) ∧ (state.written size).length = size

/-- A write to one end that has failed was that of the lane's chunk, which is still in the buffer,
    and nothing was handed to the stream since. -/
def Halted (side : Side) (history : History μ) (lane : Lane IoBuffer) (state : StreamState) :
    Prop :=
  ∀ size, FailedWrite side size history →
    lane = .writing (state.written size) ∧ ∀ size', .write size' ∉ state.pending

/-- Both streams put the chunks they are handed on the wire one after the other, and none after one
    whose write has failed. -/
def Posts (snapshot : Snapshot μ) : Prop :=
  ∀ side, ∃ lane, Lane.run (wireEvents side snapshot.history) = some lane ∧
    InStep lane (snapshot.streams side) ∧ Halted side snapshot.history lane (snapshot.streams side)

variable {snapshot next : Snapshot μ} {side : Side} {op : AsyncOp} {completion : Completion}

/-- What is on the wire is the beginning of what was handed to the stream. -/
theorem Posts.sent_prefix (posts : snapshot.Posts) (side : Side) :
    sent side snapshot.history <+: writes side snapshot.history := by
  obtain ⟨lane, ran, -, -⟩ := posts side
  rw [sent, ← received_wireEvents]
  exact Lane.delivered_prefix ran

/-- While nothing is under way, all that was handed to a stream is out. -/
theorem sent_eq_writes {history : History μ}
    (ran : Lane.run (wireEvents side history) = some .reading) :
    sent side history = writes side history := by
  have whole := Lane.conservation ran
  rw [received_wireEvents, Lane.inFlight, List.append_nil] at whole
  exact whole.symm

/-- Bytes the stream at one end may have put on the wire by now: those of the writes that are out,
    and some of the write that is under way or has failed, as its buffer has them. -/
def Offers (side : Side) (bytes : IoBuffer) (snapshot : Snapshot μ) : Prop :=
  bytes <+: (sent side snapshot.history).flatten ∨
    ∃ size, (.write size ∈ (snapshot.streams side).pending ∨
        FailedWrite side size snapshot.history) ∧
      bytes <+: (sent side snapshot.history).flatten ++ (snapshot.streams side).written size

/-- Whatever is on the wire was handed to the stream, in this order. -/
theorem Posts.prefix_of_offers (posts : snapshot.Posts) {side : Side} {bytes : IoBuffer}
    (offers : snapshot.Offers side bytes) : bytes <+: (writes side snapshot.history).flatten := by
  rcases offers with out | ⟨size, begun, part⟩
  · exact out.trans (posts.sent_prefix side).flatten
  · obtain ⟨lane, ran, inStep, halted⟩ := posts side
    obtain rfl : lane = .writing ((snapshot.streams side).written size) := by
      rcases begun with pending | failed
      · exact (inStep.chunk size pending).1
      · exact (halted size failed).1
    rw [← received_wireEvents, Lane.conservation ran, List.flatten_append]
    simpa [Lane.inFlight, sent] using part

/-- A change that starts no write and leaves the buffer alone. -/
theorem InStep.mono {lane : Lane IoBuffer} {state state' : StreamState}
    (inStep : InStep lane state)
    (fewer : state'.pending.filter (·.isWrite) ≤ state.pending.filter (·.isWrite))
    (buffer : state'.writeBuffer = state.writeBuffer) : InStep lane state' where
  single := by
    have count := Multiset.card_le_card fewer
    rw [← Multiset.countP_eq_card_filter, ← Multiset.countP_eq_card_filter] at count
    exact count.trans inStep.single
  chunk size pending := by
    have kept := Multiset.mem_of_le fewer (Multiset.mem_filter.mpr ⟨pending, rfl⟩)
    rw [StreamState.written, buffer]
    exact inStep.chunk size (Multiset.mem_filter.mp kept).1

/-- Once its one write is done, a stream has none. -/
theorem InStep.write_notMem {lane : Lane IoBuffer} {state : StreamState} {size : Nat}
    (inStep : InStep lane state) (pending : .write size ∈ state.pending) (size' : Nat) :
    .write size' ∉ state.pending.erase (.write size) := by
  intro other
  have two := inStep.single
  rw [← Multiset.cons_erase pending, Multiset.countP_cons_of_pos _ (by rfl)] at two
  have one : 0 < (state.pending.erase (.write size)).countP (·.isWrite) :=
    Multiset.countP_pos.mpr ⟨.write size', other, rfl⟩
  omega

/-- Without a write outstanding, a stream is in step with any lane. -/
theorem InStep.of_no_write {state : StreamState} (lane : Lane IoBuffer)
    (none : ∀ size, .write size ∉ state.pending) : InStep lane state where
  single := by
    refine (Nat.le_of_eq (Multiset.countP_eq_zero.mpr fun op member isWrite => ?_)).trans
      (Nat.zero_le 1)
    cases op with
    | write size => exact none size member
    | _ => cases isWrite
  chunk size pending := absurd pending (none size)

theorem Halted.of_not_failed {history : History μ} (lane : Lane IoBuffer) (state : StreamState)
    (none : ∀ size, ¬ FailedWrite side size history) : Halted side history lane state :=
  fun size failed => absurd failed (none size)

/-- A stream that has put all its chunks on the wire has no failed write behind it. -/
theorem Halted.not_failed_of_reading {history : History μ} {state : StreamState}
    (halted : Halted side history .reading state) (size : Nat) :
    ¬ FailedWrite side size history := by
  intro failed
  cases (halted size failed).1

/-- A write that is outstanding is the first to fail. -/
theorem Halted.not_failed_of_pending {history : History μ} {lane : Lane IoBuffer}
    {state : StreamState} (halted : Halted side history lane state) {size : Nat}
    (pending : .write size ∈ state.pending) (size' : Nat) : ¬ FailedWrite side size' history :=
  fun failed => (halted size' failed).2 size pending

/-- A change that starts no write, fails none and leaves the buffer alone. -/
theorem Halted.mono {history history' : History μ} {lane : Lane IoBuffer}
    {state state' : StreamState} (halted : Halted side history lane state)
    (older : ∀ size, FailedWrite side size history' → FailedWrite side size history)
    (fewer : state'.pending.filter (·.isWrite) ≤ state.pending.filter (·.isWrite))
    (buffer : state'.writeBuffer = state.writeBuffer) : Halted side history' lane state' := by
  intro size failed
  obtain ⟨busy, quiet⟩ := halted size (older size failed)
  refine ⟨by rw [busy, StreamState.written, StreamState.written, buffer], fun size' pending => ?_⟩
  have kept := Multiset.mem_of_le fewer (Multiset.mem_filter.mpr ⟨pending, rfl⟩)
  exact quiet size' (Multiset.mem_filter.mp kept).1

/-- A completion fails a write only when it is the error of this write. -/
theorem failedWrite_retire {side' : Side} {size : Nat}
    (failed : FailedWrite side' size (snapshot.retire side op completion).history) :
    FailedWrite side' size snapshot.history ∨
      (side = side' ∧ op = .write size ∧ completion.ec.isError = true) := by
  rcases failedWrite_append.mp failed with before | ⟨ec, bytes, found, isError, now⟩
  · exact .inl before
  · injection List.mem_singleton.mp now with here same
    injection same with isWrite ecs
    exact .inr ⟨here.symm, isWrite.symm, ecs ▸ isError⟩

/-- Asio is done with the write of a lane's chunk: it is out, or it has failed and stays in the
    buffer. -/
theorem InStep.retire_write {lane : Lane IoBuffer} {size : Nat}
    (inStep : InStep lane (snapshot.streams side))
    (halted : Halted side snapshot.history lane (snapshot.streams side))
    (ran : Lane.run (wireEvents side snapshot.history) = some lane) (completion : Completion)
    (pending : .write size ∈ (snapshot.streams side).pending) :
    let next := snapshot.retire side (.write size) completion
    ∃ lane', Lane.run (wireEvents side next.history) = some lane' ∧
      InStep lane' ((snapshot.streams side).retire (.write size)) ∧
      Halted side next.history lane' ((snapshot.streams side).retire (.write size)) := by
  obtain ⟨busy, -⟩ := inStep.chunk size pending
  have fresh := halted.not_failed_of_pending pending
  have none := inStep.write_notMem pending
  have idle (lane' : Lane IoBuffer) : InStep lane' ((snapshot.streams side).retire (.write size)) :=
    .of_no_write lane' none
  have events : wireEvents side (snapshot.retire side (.write size) completion).history =
      wireEvents side snapshot.history ++
        wireEvents side [(side, snapshot.completed side (.write size) completion)] :=
    wireEvents_append ..
  cases failed : completion.ec.isError with
  | true =>
      refine ⟨lane, ?_, idle lane, fun size' after => ?_⟩
      · rw [events]
        simpa [completed, failed] using ran
      · obtain before | ⟨-, same, -⟩ := failedWrite_retire after
        · exact absurd before (fresh size')
        · cases same
          exact ⟨busy, none⟩
  | false =>
      rw [busy] at ran
      refine ⟨.reading, ?_, idle .reading, .of_not_failed _ _ fun size' after => ?_⟩
      · rw [events]
        simpa [completed, failed, StreamState.moved] using Lane.run_deliver ran
      · obtain before | ⟨-, -, isError⟩ := failedWrite_retire after
        · exact fresh size' before
        · simp [failed] at isError

/-- Nothing but its own writes is an event of a stream. -/
theorem wireEvents_retire {side' : Side} (other : ∀ size, side = side' → op ≠ .write size) :
    wireEvents side' (snapshot.retire side op completion).history =
      wireEvents side' snapshot.history := by
  have grown : (snapshot.retire side op completion).history =
      snapshot.history ++ [(side, snapshot.completed side op completion)] := rfl
  rw [grown, wireEvents_append, completed]
  cases op with
  | write size =>
      have apart : side ≠ side' := fun here => other size here rfl
      simp [apart]
  | _ =>
      rw [wireEvents_completed (by simp)]
      exact List.append_nil _

/-- Asio is done with an operation. -/
theorem Posts.retire (completion : Completion) (posts : snapshot.Posts)
    (pending : op ∈ (snapshot.streams side).pending) :
    (snapshot.retire side op completion).Posts := by
  intro side'
  obtain ⟨lane, ran, inStep, halted⟩ := posts side'
  -- Whatever else completes fails no write of this stream.
  have older (other : ∀ size, side = side' → op ≠ .write size) (size : Nat)
      (after : FailedWrite side' size (snapshot.retire side op completion).history) :
      FailedWrite side' size snapshot.history :=
    (failedWrite_retire after).resolve_right fun now => other size now.1 now.2.1
  by_cases here : side = side'
  · subst here
    have state : (snapshot.retire side op completion).streams side =
        (snapshot.streams side).retire op := Function.update_self ..
    have fewer : ((snapshot.streams side).retire op).pending.filter (·.isWrite) ≤
        (snapshot.streams side).pending.filter (·.isWrite) :=
      Multiset.filter_le_filter _ (Multiset.erase_le _ _)
    rw [state]
    cases op with
    | write size => exact inStep.retire_write halted ran completion pending
    | _ =>
        refine ⟨lane, ?_, inStep.mono fewer rfl, halted.mono (older (by simp)) fewer rfl⟩
        rw [wireEvents_retire (by simp), ran]
  · have state : (snapshot.retire side op completion).streams side' = snapshot.streams side' :=
      Function.update_of_ne (Ne.symm here) ..
    have other (size : Nat) (same : side = side') : op ≠ .write size := absurd same here
    rw [state, wireEvents_retire other]
    exact ⟨lane, ran, inStep, halted.mono (older other) le_rfl rfl⟩

/-- A chunk is handed to a stream that has put all earlier ones on the wire. -/
theorem Posts.write (tls : Bool) {chunk : IoBuffer} (posts : snapshot.Posts)
    (out : Lane.run (wireEvents side snapshot.history) = some .reading)
    (free : ∀ size, .write size ∉ (snapshot.streams side).pending) :
    (snapshot.invoke tls (side, .write chunk)).Posts := by
  intro side'
  obtain ⟨lane, ran, inStep, halted⟩ := posts side'
  have older (size : Nat)
      (after : FailedWrite side' size (snapshot.invoke tls (side, .write chunk)).history) :
      FailedWrite side' size snapshot.history :=
    (failedWrite_append.mp after).resolve_right (not_failedWrite_calls [_])
  have history : (snapshot.invoke tls (side, .write chunk)).history =
      snapshot.history ++ [(side, .called (.write chunk))] := rfl
  have streams : (snapshot.invoke tls (side, .write chunk)).streams =
      Function.update snapshot.streams side
        (TcpServerStream.doWrite chunk (snapshot.streams side)) := by
    rw [streams_invoke, invoke_write]
    rfl
  by_cases here : side = side'
  · subst here
    cases Option.some.inj (ran.symm.trans out)
    rw [streams, Function.update_self]
    refine ⟨.writing chunk, ?_, ⟨?_, ?_⟩, .of_not_failed _ _ fun size after =>
      halted.not_failed_of_reading size (older size after)⟩
    · rw [history, wireEvents_append]
      simpa using Lane.run_receive out chunk
    · have none := (InStep.of_no_write .reading free).single
      have zero : (snapshot.streams side).pending.countP (·.isWrite) = 0 :=
        Multiset.countP_eq_zero.mpr fun op member isWrite => by
          cases op with
          | write size => exact free size member
          | _ => cases isWrite
      rw [show (TcpServerStream.doWrite chunk (snapshot.streams side)).pending =
        .write chunk.length ::ₘ (snapshot.streams side).pending from rfl,
        Multiset.countP_cons_of_pos _ (by rfl), zero]
    · intro size pending
      rcases Multiset.mem_cons.mp pending with same | old
      · cases same
        simp [StreamState.written, TcpServerStream.doWrite, StreamState.initiate]
      · exact absurd old (free size)
  · rw [streams, Function.update_of_ne (Ne.symm here)]
    refine ⟨lane, ?_, inStep, halted.mono older le_rfl rfl⟩
    rw [history, wireEvents_append]
    simpa [here] using ran

/-- The pair is stopped. -/
theorem Posts.stopCalls (tls : Bool) (posts : snapshot.Posts) :
    (AmgiNetTools.stopCalls.foldl (invoke tls) snapshot).Posts := by
  intro side'
  obtain ⟨lane, ran, inStep, halted⟩ := posts side'
  have fewer :
      ((AmgiNetTools.stopCalls.foldl (invoke tls) snapshot).streams side').pending.filter
        (·.isWrite) ≤ (snapshot.streams side').pending.filter (·.isWrite) := by
    rcases @pending_stopCalls μ snapshot tls side' with same | closing
    · rw [same]
    · rw [closing, Multiset.filter_cons_of_neg _ (by decide),
        Multiset.filter_cons_of_neg _ (by decide)]
  have buffer : ((AmgiNetTools.stopCalls.foldl (invoke tls) snapshot).streams side').writeBuffer =
      (snapshot.streams side').writeBuffer := by
    cases side' <;> cases tls <;>
      simp [AmgiNetTools.stopCalls, streams_invoke, Side.kind, StreamKind.invoke,
        TlsServerStream.doStop, TcpServerStream.doStop, TcpClientStream.doStop]
    split <;> rfl
  refine ⟨lane, ?_, inStep.mono fewer buffer, halted.mono (fun size after => ?_) fewer buffer⟩
  · rw [history_invokes, wireEvents_append]
    exact (congrArg Lane.run (List.append_nil _)).trans ran
  · rw [history_invokes] at after
    exact (failedWrite_append.mp after).resolve_right (not_failedWrite_calls _)

theorem Posts.congr {other : Snapshot μ} (streams : other.streams = snapshot.streams)
    (history : other.history = snapshot.history) (posts : snapshot.Posts) : other.Posts := by
  intro side
  rw [streams, history]
  exact posts side

/-- A change that starts no write and leaves the buffer alone. -/
theorem Posts.modifyStream {f : StreamState → StreamState} (posts : snapshot.Posts)
    (quiet : ∀ state, (f state).pending.filter (·.isWrite) = state.pending.filter (·.isWrite))
    (buffer : ∀ state, (f state).writeBuffer = state.writeBuffer) :
    (snapshot.modifyStream side f).Posts := by
  intro side'
  obtain ⟨lane, ran, inStep, halted⟩ := posts side'
  refine ⟨lane, ran, ?_⟩
  by_cases here : side' = side
  · subst here
    rw [streams_modifyStream, Function.update_self]
    exact ⟨inStep.mono (quiet _).le (buffer _),
      halted.mono (fun _ => id) (quiet _).le (buffer _)⟩
  · rw [streams_modifyStream, Function.update_of_ne here]
    exact ⟨inStep, halted⟩

/-- What a stream does by itself after a completion is no write. -/
theorem filter_isWrite_change (side : Side) (op : AsyncOp) (completion : Completion)
    (state : StreamState) :
    ((side.upshot op completion).change state).pending.filter (·.isWrite) =
      state.pending.filter (·.isWrite) := by
  cases side <;> cases op <;> simp only [Side.upshot] <;> (try split) <;>
    (first | rfl | exact Multiset.filter_cons_of_neg _ (by decide))

/-- A completion keeps the wires in order when the requests of its handler do. -/
theorem Posts.complete_served [ReactiveState μ] {tls : Bool} (posts : snapshot.Posts)
    (pending : op ∈ (snapshot.streams side).pending)
    (finished : snapshot.complete tls side op completion = .ok next)
    (served : ∀ event session outcome, snapshot.session = some session →
      (side.upshot op completion).event = some event →
      ReactiveState.reaction session event = .ok outcome → next.session = outcome.next →
      ((outcome.requests.flatMap Request.calls).foldl (invoke tls)
        (snapshot.retire side op completion)).Posts) : next.Posts := by
  have alive : (snapshot.retire side op completion).session = snapshot.session := rfl
  have changed {between : Snapshot μ} (posts : between.Posts) :
      (between.modifyStream side (side.upshot op completion).change).Posts :=
    posts.modifyStream (filter_isWrite_change side op completion)
      (side.writeBuffer_change op completion)
  rw [Snapshot.complete, apply, alive] at finished
  split at finished
  · next event session raised present =>
      cases computed : ReactiveState.reaction session event with
      | error fault => simp [computed, Except.map] at finished
      | ok outcome =>
          simp only [computed, Except.map, Except.ok.injEq] at finished
          subst finished
          have asked := served event session outcome present raised computed rfl
          refine changed ?_
          cases gone : outcome.next with
          | some session' => refine asked.congr ?_ ?_ <;> simp [react, Reaction.calls, gone]
          | none =>
              refine (asked.stopCalls tls).congr ?_ ?_ <;>
                simp [react, Reaction.calls, gone, List.foldl_append]
  · cases finished
    exact changed (posts.retire completion pending)

/-- The handler a completion is reported to asks for nothing, or there is none. -/
theorem Posts.complete [ReactiveState μ] {tls : Bool} (posts : snapshot.Posts)
    (pending : op ∈ (snapshot.streams side).pending)
    (finished : snapshot.complete tls side op completion = .ok next)
    (quiet : ∀ event session outcome, snapshot.session = some session →
      ReactiveState.reaction session event = .ok outcome → next.session = outcome.next →
      outcome.requests = []) : next.Posts :=
  posts.complete_served pending finished fun event session outcome present _ computed same => by
    rw [quiet event session outcome present computed same]
    exact posts.retire completion pending

/-- A handler stops the session, and asks for nothing before. -/
theorem Posts.complete_stop [ReactiveState μ] {tls : Bool} (posts : snapshot.Posts)
    (pending : op ∈ (snapshot.streams side).pending)
    (finished : snapshot.complete tls side op completion = .ok next) (gone : next.session = none)
    (quiet : ∀ event session outcome, snapshot.session = some session →
      ReactiveState.reaction session event = .ok outcome → outcome.next = none →
      outcome.requests = []) : next.Posts :=
  posts.complete pending finished fun event session outcome present computed same =>
    quiet event session outcome present computed (same.symm.trans gone)

/-- What completes after the stop was handed to its stream before. -/
theorem posts_late [ReactiveState μ] {tls : Bool} (ended : snapshot.Ended)
    (pending : op ∈ (snapshot.streams side).pending)
    (finished : snapshot.complete tls side op completion = .ok next) (posts : snapshot.Posts) :
    next.Posts :=
  posts.complete pending finished fun _ _ _ present => absurd (ended.gone.symm.trans present)
    (by simp)

/-- The streams of a session that runs, from what it waits for and what has happened. -/
theorem posts_of_performs {tasks : Multiset (Side × Task)} (performs : snapshot.Performs tasks)
    (exclusive : snapshot.Exclusive) (lanes : Side → Lane IoBuffer)
    (ran : ∀ side, Lane.run (wireEvents side snapshot.history) = some (lanes side))
    (unfailed : ∀ side size, ¬ FailedWrite side size snapshot.history)
    (busy : ∀ side chunk, (side, .write chunk) ∈ tasks → lanes side = .writing chunk) :
    snapshot.Posts := by
  intro side
  refine ⟨lanes side, ran side, ⟨(exclusive side).2, fun size pending => ?_⟩,
    .of_not_failed _ _ (unfailed side)⟩
  obtain ⟨task, rest, split, isWrite⟩ := performs.exists_task pending
  cases task with
  | write chunk =>
      cases isWrite
      have member : (side, Task.write chunk) ∈ tasks := split ▸ Multiset.mem_cons_self _ _
      rw [performs.buffered side chunk member]
      exact ⟨busy side chunk member, rfl⟩
  | _ => cases isWrite

end Snapshot

end AmgiNetTools
