/-
Module: AmgiNetTools.Session.Closing
Layer: Session
Purpose: How the stream of a peer is closed. `do_stop` of a TLS stream starts two operations, and
  each of them closes the socket when it completes. They are started once, when the session goes, so
  a socket is open while its session uses it, and closed in the end. A plain stream is closed by
  nobody but its destructor.
Main exports: AsyncOp.IsClosing, completions, Snapshot.complete_inv, Snapshot.Closing,
  Snapshot.closing_of_reachable, ClosesOnce, closesOnce
-/
import AmgiNetTools.Session.Drain

namespace AmgiNetTools

variable {μ : Type}

/-- The operations of `do_stop` of a TLS stream. -/
def AsyncOp.IsClosing (op : AsyncOp) : Prop := op = .shutdown ∨ op = .nullWrite

/-- Whether a line is the completion of an operation of the peer's stream. -/
def completes (op : AsyncOp) : Side × Happening μ → Bool
  | (.server, .completed op' _ _ _) => op' = op
  | _ => false

/-- How many operations of a kind have completed on the peer's stream. -/
def completions (op : AsyncOp) (history : History μ) : Nat := history.countP (completes op)

theorem completions_append (op : AsyncOp) (first second : History μ) :
    completions op (first ++ second) = completions op first + completions op second :=
  List.countP_append

theorem completions_called (op : AsyncOp) (calls : List (Side × StreamCall)) :
    completions op (calls.map fun call => ((call.1, .called call.2) : Side × Happening μ)) = 0 := by
  refine List.countP_eq_zero.mpr fun line member => ?_
  obtain ⟨call, -, rfl⟩ := List.mem_map.mp member
  simp [completes]

/-! ### What leaves the closing of a stream alone -/

namespace StreamState

/-- Two states of a stream that differ in nothing that has to do with closing it. -/
structure Alike (state other : StreamState) : Prop where
  isOpen : state.isOpen = other.isOpen
  count (op : AsyncOp) : op.IsClosing → state.pending.count op = other.pending.count op

variable {state other third : StreamState}

theorem Alike.refl (state : StreamState) : state.Alike state := ⟨rfl, fun _ _ => rfl⟩

theorem Alike.trans (first : state.Alike other) (second : other.Alike third) : state.Alike third :=
  ⟨first.isOpen.trans second.isOpen,
    fun op closing => (first.count op closing).trans (second.count op closing)⟩

/-- An operation is started that closes nothing. -/
theorem alike_initiate {op : AsyncOp} (other : ¬ op.IsClosing) :
    (state.initiate op).Alike state where
  isOpen := rfl
  count op' closing := by
    refine Multiset.count_cons_of_ne ?_ _
    rintro rfl
    exact other closing

/-- Two streams that were closed alike. -/
theorem Alike.stop (tls : Bool) (alike : state.Alike other) :
    ((Side.server.kind tls).invoke .stop state).Alike
      ((Side.server.kind tls).invoke .stop other) := by
  cases tls with
  | false => exact alike
  | true =>
      simp only [Side.kind, if_true, StreamKind.invoke, TlsServerStream.doStop, alike.isOpen]
      split
      · constructor
        · exact alike.isOpen
        · intro op closing
          simp only [initiate, Multiset.count_cons, alike.count op closing]
      · exact alike

end StreamState

namespace Snapshot

variable {snapshot next : Snapshot μ} {tls : Bool} {id : Int32} {side : Side} {op : AsyncOp}
  {completion : Completion}

/-- No request has to do with closing. -/
theorem alike_request (tls : Bool) (request : Request) :
    ((request.calls.foldl (invoke tls) snapshot).streams .server).Alike
      (snapshot.streams .server) := by
  cases request with
  | readServer =>
      simp only [Request.calls, List.foldl, streams_invoke, invoke_read, streams_modifyStream,
        Function.update_self]
      exact StreamState.alike_initiate (by simp [AsyncOp.IsClosing])
  | writeServer buffer =>
      simp only [Request.calls, List.foldl, streams_invoke, invoke_write, streams_modifyStream,
        Function.update_self, TcpServerStream.doWrite]
      exact (StreamState.alike_initiate (by simp [AsyncOp.IsClosing])).trans
        ⟨rfl, fun _ _ => rfl⟩
  | readClient | writeClient | connect => exact .refl _

theorem alike_requests (tls : Bool) (requests : List Request) :
    (((requests.flatMap Request.calls).foldl (invoke tls) snapshot).streams .server).Alike
      (snapshot.streams .server) := by
  induction requests generalizing snapshot with
  | nil => exact .refl _
  | cons request requests ih =>
      rw [List.flatMap_cons, List.foldl_append]
      exact ih.trans (alike_request tls request)

/-- Nor has a completion handler, but for those of the closing operations. -/
theorem alike_change (completion : Completion) (other : side = .server → ¬ op.IsClosing) :
    ((snapshot.modifyStream side (side.upshot op completion).change).streams .server).Alike
      (snapshot.streams .server) := by
  cases side with
  | client => exact .refl _
  | server =>
      rw [streams_modifyStream, Function.update_self]
      have other := other rfl
      cases op with
      | handshake =>
          rw [Side.upshot]
          split
          · exact StreamState.alike_initiate (by simp [AsyncOp.IsClosing])
          · exact .refl _
      | shutdown | nullWrite => simp [AsyncOp.IsClosing] at other
      | read | write =>
          rw [Side.upshot]
          split <;> exact .refl _
      | resolve | connect => exact .refl _

/-! ### One completion -/

variable [ReactiveState μ]

/-- A completion changes its stream, after the handler of the session, if there is one. -/
theorem complete_inv (finished : snapshot.complete tls side op completion = .ok next) :
    next = (snapshot.retire side op completion).modifyStream side
        (side.upshot op completion).change ∨
      ∃ session outcome, snapshot.session = some session ∧
        next = ((snapshot.retire side op completion).react tls outcome).modifyStream side
          (side.upshot op completion).change := by
  have alive : (snapshot.retire side op completion).session = snapshot.session := rfl
  rw [complete, apply, alive] at finished
  split at finished
  · next event session _ present =>
      cases computed : ReactiveState.reaction session event with
      | error fault => simp [computed, Except.map] at finished
      | ok outcome =>
          simp only [computed, Except.map, Except.ok.injEq] at finished
          exact .inr ⟨session, outcome, present, finished.symm⟩
  · cases finished
    exact .inl rfl

omit [ReactiveState μ] in
/-- What completes is outstanding no more. -/
theorem count_retire (completion : Completion) (closing : AsyncOp)
    (pending : op ∈ (snapshot.streams side).pending) :
    ((snapshot.retire side op completion).streams .server).pending.count closing +
        completions closing (snapshot.retire side op completion).history =
      (snapshot.streams .server).pending.count closing + completions closing snapshot.history := by
  have line : (snapshot.retire side op completion).history =
      snapshot.history ++ [(side, snapshot.completed side op completion)] := rfl
  rw [line, completions_append]
  cases side with
  | client => simp [retire, completions, completes]
  | server =>
      have present := Multiset.count_pos.mpr pending
      by_cases same : op = closing
      · subst same
        simp only [retire, streams_modifyStream, Function.update_self, StreamState.retire,
          Multiset.count_erase_self, completions, completed, completes, List.countP_singleton,
          decide_true, if_true]
        omega
      · simp [retire, StreamState.retire, completions, completed, completes, same,
          Multiset.count_erase_of_ne (Ne.symm same)]

/-- Where the closing of a peer's stream stands: the operations of a TLS stream were started once,
    if the session is gone, and the stream is open until one of them completes. -/
structure Closing (tls : Bool) (snapshot : Snapshot μ) : Prop where
  once (op : AsyncOp) : op.IsClosing →
    (snapshot.streams .server).pending.count op + completions op snapshot.history =
      if tls && snapshot.session.isNone then 1 else 0
  opened : (snapshot.streams .server).isOpen = true ↔
    ∀ op : AsyncOp, op.IsClosing → completions op snapshot.history = 0

omit [ReactiveState μ] in
/-- A completion that closes nothing. -/
theorem Closing.congr {other : Snapshot μ} (closing : snapshot.Closing tls)
    (alike : (other.streams .server).Alike (snapshot.streams .server))
    (silent : ∀ op : AsyncOp, op.IsClosing →
      completions op other.history = completions op snapshot.history)
    (session : other.session.isNone = snapshot.session.isNone) : other.Closing tls where
  once op isClosing := by
    rw [alike.count op isClosing, silent op isClosing, session]
    exact closing.once op isClosing
  opened := by
    rw [alike.isOpen, closing.opened]
    refine forall₂_congr fun op isClosing => ?_
    rw [silent op isClosing]

omit [ReactiveState μ] in
/-- Nothing closes the stream of a session that is there. -/
theorem Closing.idle (closing : snapshot.Closing tls) (alive : snapshot.session ≠ none)
    (isClosing : op.IsClosing) :
    (snapshot.streams .server).pending.count op = 0 ∧ completions op snapshot.history = 0 := by
  have running : snapshot.session.isNone = false :=
    Option.isNone_eq_false_iff.mpr (Option.isSome_iff_ne_none.mpr alive)
  have total := closing.once op isClosing
  rw [running, Bool.and_false, if_neg Bool.false_ne_true] at total
  exact Nat.add_eq_zero_iff.mp total

omit [ReactiveState μ] in
theorem Closing.isOpen (closing : snapshot.Closing tls) (alive : snapshot.session ≠ none) :
    (snapshot.streams .server).isOpen = true :=
  closing.opened.mpr fun _ isClosing => (closing.idle alive isClosing).2

omit [ReactiveState μ] in
/-- The state of a peer's stream that is stopped. -/
theorem streams_stopCalls (tls : Bool) : (stopCalls.foldl (invoke tls) snapshot).streams .server =
    (Side.server.kind tls).invoke .stop (snapshot.streams .server) := rfl

omit [ReactiveState μ] in
/-- The last action of a session that goes: its TLS stream is closed. -/
theorem Closing.stop {other : Snapshot μ} (closing : snapshot.Closing tls)
    (alive : snapshot.session ≠ none) (gone : other.session = none)
    (streams : (other.streams .server).Alike
      ((Side.server.kind tls).invoke .stop (snapshot.streams .server)))
    (silent : ∀ op : AsyncOp, op.IsClosing →
      completions op other.history = completions op snapshot.history) : other.Closing tls := by
  have opened := closing.isOpen alive
  constructor
  · intro op isClosing
    obtain ⟨idle, silent'⟩ := closing.idle alive isClosing
    rw [silent op isClosing, streams.count op isClosing, silent', gone, Nat.add_zero]
    cases tls with
    | false => exact idle
    | true =>
        rcases isClosing with rfl | rfl
        · simp [Side.kind, StreamKind.invoke, TlsServerStream.doStop, opened, StreamState.initiate,
            idle]
        · simp [Side.kind, StreamKind.invoke, TlsServerStream.doStop, opened, StreamState.initiate,
            idle]
  · have still : (other.streams .server).isOpen = true := by
      rw [streams.isOpen]
      cases tls with
      | false => exact opened
      | true => simp [Side.kind, StreamKind.invoke, TlsServerStream.doStop, opened,
          StreamState.initiate]
    refine iff_of_true still fun op isClosing => ?_
    rw [silent op isClosing]
    exact (closing.idle alive isClosing).2

omit [ReactiveState μ] in
/-- An operation completes that closes nothing. -/
theorem alike_retire (completion : Completion) (pending : op ∈ (snapshot.streams side).pending)
    (other : side = .server → ¬ op.IsClosing) :
    ((snapshot.retire side op completion).streams .server).Alike (snapshot.streams .server) ∧
      ∀ closing : AsyncOp, closing.IsClosing →
        completions closing (snapshot.retire side op completion).history =
          completions closing snapshot.history := by
  have silent (closing : AsyncOp) (isClosing : closing.IsClosing) :
      completions closing (snapshot.retire side op completion).history =
        completions closing snapshot.history := by
    have line : (snapshot.retire side op completion).history =
        snapshot.history ++ [(side, snapshot.completed side op completion)] := rfl
    rw [line, completions_append]
    cases side with
    | client => rfl
    | server =>
        have apart : op ≠ closing := fun same => other rfl (same ▸ isClosing)
        simp [completions, completes, completed, apart]
  refine ⟨⟨?_, fun closing isClosing => ?_⟩, silent⟩
  · cases side <;> rfl
  · have total := count_retire completion closing pending
    rw [silent closing isClosing] at total
    exact Nat.add_right_cancel total

omit [ReactiveState μ] in
/-- An operation completes that closes the stream. -/
theorem Closing.close (closing : snapshot.Closing tls) (completion : Completion)
    (pending : op ∈ (snapshot.streams .server).pending) (isClosing : op.IsClosing) :
    ((snapshot.retire .server op completion).modifyStream .server StreamState.close).Closing
      tls := by
  constructor
  · intro op' isClosing'
    refine Eq.trans ?_ (closing.once op' isClosing')
    rw [← count_retire completion op' pending, streams_modifyStream, Function.update_self]
    rfl
  · have shut : ¬ (((snapshot.retire .server op completion).modifyStream .server
        StreamState.close).streams .server).isOpen = true := by
      simp [StreamState.close]
    refine iff_of_false shut fun none => ?_
    have one := none op isClosing
    rw [history_modifyStream, show (snapshot.retire .server op completion).history =
      snapshot.history ++ [(.server, snapshot.completed .server op completion)] from rfl,
      completions_append] at one
    simp [completions, completes, completed] at one

omit [ReactiveState μ] in
/-- A handler closes the stream when it leaves no session behind, and only then. -/
theorem Closing.react (closing : snapshot.Closing tls) (alive : snapshot.session ≠ none)
    (outcome : Reaction μ) (completion : Completion)
    (pending : op ∈ (snapshot.streams side).pending) (other : side = .server → ¬ op.IsClosing) :
    (((snapshot.retire side op completion).react tls outcome).modifyStream side
      (side.upshot op completion).change).Closing tls := by
  obtain ⟨retired, quiet⟩ := alike_retire completion pending other
  have calls := @history_react μ (snapshot.retire side op completion) tls outcome
  have silent (closing : AsyncOp) (isClosing : closing.IsClosing) :
      completions closing (((snapshot.retire side op completion).react tls
        outcome).modifyStream side (side.upshot op completion).change).history =
          completions closing snapshot.history := by
    rw [history_modifyStream, calls, completions_append, completions_called, Nat.add_zero]
    exact quiet closing isClosing
  have requests := @alike_requests μ (snapshot.retire side op completion) tls outcome.requests
  have asked := requests.trans retired
  have changed := @alike_change μ ((snapshot.retire side op completion).react tls outcome) side
    op completion other
  cases last : outcome.next with
  | some session =>
      refine closing.congr (changed.trans ?_) silent ?_
      · simpa [Snapshot.react, Reaction.calls, last] using asked
      · have running : snapshot.session.isNone = false :=
          Option.isNone_eq_false_iff.mpr (Option.isSome_iff_ne_none.mpr alive)
        simp [Snapshot.react, modifyStream, last, running]
  | none =>
      refine closing.stop alive (by simp [Snapshot.react, modifyStream, last])
        (changed.trans ?_) silent
      have stopped := StreamState.Alike.stop tls asked
      simpa [Snapshot.react, Reaction.calls, last, List.foldl_append, streams_stopCalls]
        using stopped

theorem closing_complete (closing : snapshot.Closing tls)
    (pending : op ∈ (snapshot.streams side).pending)
    (finished : snapshot.complete tls side op completion = .ok next) : next.Closing tls := by
  by_cases closes : side = .server ∧ op.IsClosing
  · obtain ⟨rfl, isClosing⟩ := closes
    have gone : snapshot.session = none := by
      by_contra alive
      exact absurd (closing.idle alive isClosing).1 (Multiset.count_pos.mpr pending).ne'
    obtain rfl | ⟨session, outcome, alive, -⟩ := complete_inv finished
    · have change : (Side.server.upshot op completion).change = StreamState.close := by
        rcases isClosing with rfl | rfl <;> rfl
      rw [change]
      exact closing.close completion pending isClosing
    · rw [gone] at alive
      cases alive
  · have other : side = .server → ¬ op.IsClosing := fun same isClosing => closes ⟨same, isClosing⟩
    obtain rfl | ⟨session, outcome, alive, rfl⟩ := complete_inv finished
    · obtain ⟨retired, silent⟩ := alike_retire completion pending other
      exact closing.congr ((alike_change completion other).trans retired) silent rfl
    · exact closing.react (by simp [alive]) outcome completion pending other

/-- In every run of a session by itself. -/
theorem closing_of_reachable (reachable : Reachable tls id snapshot) : snapshot.Closing tls := by
  induction reachable with
  | start =>
      have idle (op : AsyncOp) (isClosing : op.IsClosing) :
          ((accepted tls id : Snapshot μ).streams .server).pending.count op = 0 := by
        rcases isClosing with rfl | rfl <;> cases tls <;> rfl
      constructor
      · intro op isClosing
        rw [idle op isClosing]
        cases tls <;> rfl
      · cases tls <;> exact iff_of_true rfl fun op isClosing => rfl
  | step _ pending _ finished closing => exact closing_complete closing pending finished

end Snapshot

/-! ### The streams of a server -/

/-- While a session is in the map, the stream of its peer is open and nobody closes it. When it is
    gone, each closing operation was started once if the stream is a TLS stream, and never if it is
    a plain one; and the stream is open until the first of them has completed. -/
def ClosesOnce (μ : Type) [ReactiveState μ] : Prop :=
  ∀ (world : World μ) (upstream : ServerStream), Reachable world → world.Accepted upstream →
    let stream := world.streams (.server upstream)
    let done (op : AsyncOp) := completions op (world.conversation upstream)
    (world.sessions upstream.id ≠ none → stream.isOpen = true ∧
      ∀ op : AsyncOp, op.IsClosing → op ∉ stream.pending ∧ done op = 0) ∧
    (world.sessions upstream.id = none →
      (∀ op : AsyncOp, op.IsClosing →
        stream.pending.count op + done op = if upstream.tls then 1 else 0) ∧
      (stream.isOpen = true ↔
        (upstream.tls = true → ∀ op : AsyncOp, op.IsClosing → op ∈ stream.pending)))

theorem closesOnce [ReactiveState μ] : ClosesOnce μ := by
  intro world upstream reachable accepted
  have closing := Snapshot.closing_of_reachable (World.snapshot_reachable reachable accepted)
  constructor
  · intro present
    have alive : (world.snapshot upstream).session ≠ none := by
      simpa [World.snapshot] using present
    refine ⟨closing.isOpen alive, fun op isClosing => ?_⟩
    obtain ⟨idle, silent⟩ := closing.idle alive isClosing
    exact ⟨Multiset.count_eq_zero.mp idle, silent⟩
  · intro absent
    have gone : (world.snapshot upstream).session.isNone = true := by
      simp [World.snapshot, absent]
    have once := closing.once
    rw [gone] at once
    simp only [Bool.and_true] at once
    refine ⟨once, closing.opened.trans ?_⟩
    constructor
    · intro silent secure op isClosing
      have total := once op isClosing
      rw [silent op isClosing, secure, if_pos rfl, Nat.add_zero] at total
      exact Multiset.count_pos.mp (total ▸ Nat.one_pos)
    · intro waits op isClosing
      have total := once op isClosing
      cases secure : upstream.tls with
      | false =>
          rw [secure, if_neg Bool.false_ne_true] at total
          exact (Nat.add_eq_zero_iff.mp total).2
      | true =>
          have pending : 0 < ((world.snapshot upstream).streams .server).pending.count op :=
            Multiset.count_pos.mpr (waits secure op isClosing)
          rw [secure, if_pos rfl] at total
          omega

end AmgiNetTools
