/-
Module: AmgiNetTools.Session.Drain
Layer: Session
Purpose: The end of a session. Once it is stopped, what is outstanding completes and nothing
  follows; so the operations outstanding and the completions since the stop make a fixed number. And
  a session on which everything fails comes to its end: each failure lowers `Snapshot.weight`, since
  a handler answers an error with less than the operation that failed was worth.
Main exports: AsyncOp.weight, Snapshot.load, Snapshot.weight, Snapshot.Settles, Snapshot.Quiet,
  Snapshot.quiet_of_reachable, Snapshot.weight_complete, World.Failing, World.failing_bounded
-/
import AmgiNetTools.Library.Runs
import AmgiNetTools.Session.Advance
import AmgiNetTools.Session.Conversation
import Mathlib.Algebra.BigOperators.Group.Multiset.Basic
import Mathlib.Algebra.GroupWithZero.Nat

namespace AmgiNetTools

variable {μ : Type}

/-- How many failures an operation is good for. A resolve or a connect that fails may be answered,
    and the answer may fail. -/
def AsyncOp.weight : AsyncOp → Nat
  | .resolve _ _ | .connect => 2
  | .handshake | .read | .write _ | .shutdown | .nullWrite => 1

theorem AsyncOp.weight_of_outlives {op : AsyncOp} (outlives : op.Outlives) : op.weight = 1 := by
  cases op with
  | resolve | connect | handshake => cases outlives
  | _ => rfl

namespace Snapshot

/-- The weight of some operations. -/
def load (ops : Multiset (Side × AsyncOp)) : Nat :=
  (ops.map fun entry => entry.2.weight).sum

/-- The operations that are started to stop a pair. -/
def stopLoad (tls : Bool) : Nat := if tls then 2 else 0

/-- What is outstanding, and what stopping the session will add to it. -/
def weight (tls : Bool) (snapshot : Snapshot μ) : Nat :=
  load snapshot.outstanding + if snapshot.session.isSome then stopLoad tls else 0

@[simp] theorem load_zero : load 0 = 0 := rfl

@[simp] theorem load_cons (entry : Side × AsyncOp) (ops : Multiset (Side × AsyncOp)) :
    load (entry ::ₘ ops) = entry.2.weight + load ops := by
  simp [load]

theorem card_le_load (ops : Multiset (Side × AsyncOp)) : ops.card ≤ load ops := by
  induction ops using Multiset.induction with
  | empty => exact le_rfl
  | cons entry ops ih =>
      have positive : 1 ≤ entry.2.weight := by cases entry.2 <;> simp [AsyncOp.weight]
      rw [Multiset.card_cons, load_cons]
      omega

/-- The weight of the operations that some requests start. -/
def requestLoad (requests : List Request) : Nat :=
  (requests.map fun request => request.op.2.weight).sum

theorem load_startedOps (requests : List Request) (ops : Multiset (Side × AsyncOp)) :
    load (startedOps requests ops) = requestLoad requests + load ops := by
  induction requests generalizing ops with
  | nil => simp [startedOps, requestLoad]
  | cons request requests ih =>
      rw [startedOps, List.foldl_cons, ← startedOps, ih, load_cons, requestLoad, requestLoad,
        List.map_cons, List.sum_cons]
      omega

variable {snapshot next : Snapshot μ} {tls : Bool} {id : Int32} {side : Side} {op : AsyncOp}
  {completion : Completion} {session : Session μ} {event : SessionEvent}

theorem load_retire (completion : Completion) (pending : op ∈ (snapshot.streams side).pending) :
    op.weight + load (snapshot.retire side op completion).outstanding =
      load snapshot.outstanding := by
  have whole := congrArg load (cons_outstanding_retire pending)
  rw [load_cons] at whole
  exact whole

/-- Stopping a pair starts what closes a TLS stream, and nothing else. -/
theorem load_stopCalls (tls : Bool) : load (stopCalls.foldl (invoke tls) snapshot).outstanding ≤
    load snapshot.outstanding + stopLoad tls := by
  have client : (stopCalls.foldl (invoke tls) snapshot).outstanding =
      ((snapshot.invoke tls (.client, .stop)).modifyStream .server
        ((Side.server.kind tls).invoke .stop)).outstanding :=
    outstanding_congr rfl
  have idle : (snapshot.invoke tls (.client, .stop)).outstanding = snapshot.outstanding := by
    rw [outstanding_congr (streams_invoke tls (.client, .stop))]
    exact outstanding_of_pending rfl
  rw [client]
  cases tls with
  | false =>
      rw [outstanding_of_pending rfl, idle]
      exact Nat.le_add_right _ _
  | true =>
      cases opened : ((snapshot.invoke true (.client, .stop)).streams .server).isOpen with
      | false =>
          have kept : (((Side.server.kind true).invoke .stop)
              ((snapshot.invoke true (.client, .stop)).streams .server)).pending =
                ((snapshot.invoke true (.client, .stop)).streams .server).pending := by
            simp [Side.kind, StreamKind.invoke, TlsServerStream.doStop, opened]
          rw [outstanding_of_pending kept, idle]
          exact Nat.le_add_right _ _
      | true =>
          have twice : ((snapshot.invoke true (.client, .stop)).modifyStream .server
              ((Side.server.kind true).invoke .stop)).outstanding =
                (.server, .nullWrite) ::ₘ (.server, .shutdown) ::ₘ snapshot.outstanding := by
            rw [← idle]
            simp [outstanding, Side.kind, StreamKind.invoke, TlsServerStream.doStop, opened,
              StreamState.initiate, Multiset.cons_add]
          rw [twice]
          simp [AsyncOp.weight, stopLoad]
          omega

/-- What a handler leaves outstanding. -/
theorem load_react (tls : Bool) (outcome : Reaction μ) (snapshot : Snapshot μ) :
    load (snapshot.react tls outcome).outstanding ≤ requestLoad outcome.requests +
      load snapshot.outstanding + if outcome.next.isSome then 0 else stopLoad tls := by
  have served := @outstanding_requests μ snapshot tls outcome.requests
  have calls : (snapshot.react tls outcome).outstanding =
      (outcome.calls.foldl (invoke tls) snapshot).outstanding :=
    outstanding_congr rfl
  rw [calls, Reaction.calls, List.foldl_append, ← load_startedOps, ← served]
  cases outcome.next with
  | some session => simp
  | none => exact load_stopCalls tls

/-- A handler that is told something starts nothing by itself. -/
theorem pending_change (raised : (side.upshot op completion).event = some event)
    (state : StreamState) :
    ((side.upshot op completion).change state).pending = state.pending := by
  cases failed : completion.ec.isError with
  | true =>
      cases side <;> cases op <;>
        simp [Side.upshot, failed, Upshot.report, Upshot.proceed, StreamState.close]
  | false =>
      cases side <;> cases op <;>
        simp only [Side.upshot, failed, Bool.not_false, Bool.true_and, if_true, Upshot.report,
          Upshot.proceed, reduceCtorEq, Bool.false_eq_true, if_false] at raised ⊢
      -- A read of the remote reports in either case.
      all_goals first | rfl | (split <;> rfl)

/-! ### After the stop -/

section

variable [ReactiveState μ]

/-- What an event does to a session that has one. -/
theorem complete_of_event (alive : snapshot.session = some session)
    (raised : (side.upshot op completion).event = some event)
    (finished : snapshot.complete tls side op completion = .ok next) :
    ∃ outcome, ReactiveState.reaction session event = .ok outcome ∧
      next.session = outcome.next ∧
      next.outstanding = ((snapshot.retire side op completion).react tls outcome).outstanding ∧
      next.history = snapshot.history ++ (side, snapshot.completed side op completion) ::
        outcome.calls.map fun call => (call.1, .called call.2) := by
  have alive' : (snapshot.retire side op completion).session = some session := alive
  rw [complete, apply, raised, alive'] at finished
  cases computed : ReactiveState.reaction session event with
  | error fault => simp [computed, Except.map] at finished
  | ok outcome =>
      simp only [computed, Except.map, Except.ok.injEq] at finished
      subst finished
      refine ⟨outcome, rfl, rfl, outstanding_of_pending (pending_change raised _), ?_⟩
      rw [history_modifyStream, history_react, retire, List.append_assoc]
      rfl

/-- A completion that reports nothing leaves the session alone. -/
theorem session_of_silent (silent : (side.upshot op completion).event = none)
    (finished : snapshot.complete tls side op completion = .ok next) :
    next.session = snapshot.session := by
  rw [complete, apply, silent] at finished
  cases finished
  rfl

/-- Each late completion is one operation less. -/
theorem load_late (ended : snapshot.Ended) (pending : op ∈ (snapshot.streams side).pending)
    (finished : snapshot.complete tls side op completion = .ok next) :
    next.Ended ∧ load next.outstanding + 1 = load snapshot.outstanding ∧ ∃ bytes,
      next.history = snapshot.history ++ [(side, .completed op completion.ec bytes none)] := by
  obtain ⟨ended', -, bytes, history⟩ := ended_complete ended pending finished
  have outlives := ended.late side op pending
  refine ⟨ended', ?_, bytes, history⟩
  have gone : (snapshot.retire side op completion).session = none := ended.gone
  rw [complete, apply, gone] at finished
  split at finished
  · next same => cases same
  · cases finished
    rw [outstanding_of_pending (change_of_outlives outlives _),
      ← load_retire completion pending, AsyncOp.weight_of_outlives outlives,
      Nat.add_comm]

omit [ReactiveState μ] in
/-- A session that is gone was stopped. -/
theorem Conversed.ended_of_gone {Live Stopped : Snapshot μ → Prop}
    (conversed : snapshot.Conversed Live Stopped)
    (alive : Live snapshot → snapshot.session ≠ none) (gone : snapshot.session = none) :
    snapshot.Ended := by
  cases conversed with
  | live holds => exact absurd gone (alive holds)
  | ended ended => exact ended

/-- What a protocol asks of its sessions for them to come to an end. -/
structure Settles (μ : Type) [ReactiveState μ] (tls : Bool) (id : Int32) : Prop where
  ended {snapshot : Snapshot μ} : Reachable tls id snapshot → snapshot.session = none →
    snapshot.Ended
  light {snapshot : Snapshot μ} {session : Session μ} : Reachable tls id snapshot →
    snapshot.session = some session → snapshot.outstanding ≠ 0 ∧ load snapshot.outstanding ≤ 2
  /-- A handler that stops the session leaves one operation at most. -/
  brief {snapshot : Snapshot μ} {session : Session μ} {side : Side} {op : AsyncOp}
    {event : SessionEvent} {requests : List Request} : Reachable tls id snapshot →
    snapshot.session = some session → op ∈ (snapshot.streams side).pending →
    ReactiveState.reaction session event = .ok ⟨requests, none⟩ →
    requestLoad requests + load snapshot.outstanding ≤ op.weight + 1
  /-- A failure is answered with less than what failed. -/
  yields {snapshot : Snapshot μ} {session : Session μ} {side : Side} {op : AsyncOp}
    {completion : Completion} : Reachable tls id snapshot →
    snapshot.session = some session → op ∈ (snapshot.streams side).pending →
    completion.ec.isError = true → ∃ event outcome, (side.upshot op completion).event = some event ∧
      ReactiveState.reaction session event = .ok outcome ∧ requestLoad outcome.requests < op.weight

/-- A session that is gone. Its two streams were stopped, some operations have completed since, and
    with those that are outstanding they are few. -/
def Quiet (tls : Bool) (snapshot : Snapshot μ) : Prop :=
  ∃ before late : History μ, snapshot.history = before ++ stopLines ++ late ∧
    (∀ line ∈ late, IsLate line) ∧ late.length + load snapshot.outstanding ≤ 1 + stopLoad tls

theorem quiet_of_reachable (settles : Settles μ tls id) (reachable : Reachable tls id snapshot)
    (gone : snapshot.session = none) : snapshot.Quiet tls := by
  induction reachable with
  | start => cases gone
  | @step snapshot next side op completion earlier pending _ finished ih =>
      cases before : snapshot.session with
      | none =>
          obtain ⟨past, late, history, isLate, few⟩ := ih before
          obtain ⟨-, fewer, bytes, grown⟩ := load_late (settles.ended earlier before) pending
            finished
          refine ⟨past, late ++ [(side, .completed op completion.ec bytes none)], ?_, ?_, ?_⟩
          · rw [grown, history, List.append_assoc]
          · intro line member
            rcases List.mem_append.mp member with old | new
            · exact isLate line old
            · exact ⟨side, op, completion.ec, bytes, List.mem_singleton.mp new⟩
          · rw [List.length_append, List.length_singleton]
            omega
      | some session =>
          cases raised : (side.upshot op completion).event with
          | none =>
              rw [session_of_silent raised finished, before] at gone
              cases gone
          | some event =>
              obtain ⟨⟨requests, last⟩, computed, session', outstanding, history⟩ :=
                complete_of_event before raised finished
              obtain rfl : last = none := session'.symm.trans gone
              have brief := settles.brief earlier before pending computed
              have done := load_retire completion pending
              have left := load_react tls ⟨requests, none⟩ (snapshot.retire side op completion)
              simp only [Option.isSome_none, Bool.false_eq_true, if_false] at left
              refine ⟨snapshot.history ++ (side, snapshot.completed side op completion) ::
                calledLines requests, [], ?_, by simp, ?_⟩
              · rw [history]
                simp [Reaction.calls, stopCalls, stopLines, calledLines]
              · rw [outstanding, List.length_nil]
                omega

/-- Every failure lowers the weight of a session. -/
theorem weight_complete (settles : Settles μ tls id) (reachable : Reachable tls id snapshot)
    (pending : op ∈ (snapshot.streams side).pending) (failed : completion.ec.isError = true)
    (finished : snapshot.complete tls side op completion = .ok next) :
    next.weight tls < snapshot.weight tls := by
  cases before : snapshot.session with
  | none =>
      obtain ⟨ended, fewer, -⟩ := load_late (settles.ended reachable before) pending finished
      rw [weight, weight, before, ended.gone]
      omega
  | some session =>
      obtain ⟨event, outcome, raised, computed, less⟩ :=
        settles.yields reachable before pending failed
      obtain ⟨outcome', computed', session', outstanding, -⟩ :=
        complete_of_event before raised finished
      cases computed.symm.trans computed'
      have done := load_retire completion pending
      have left := load_react tls outcome (snapshot.retire side op completion)
      rw [weight, weight, before, session', outstanding]
      cases last : outcome.next with
      | none =>
          simp only [last, Option.isSome_none, Option.isSome_some, Bool.false_eq_true, if_false,
            if_true] at left ⊢
          omega
      | some session'' =>
          simp only [last, Option.isSome_some, if_true] at left ⊢
          omega

/-- No session is good for more than two failures, and those of closing a TLS stream. -/
theorem weight_le (settles : Settles μ tls id) (reachable : Reachable tls id snapshot) :
    snapshot.weight tls ≤ 2 + stopLoad tls := by
  cases found : snapshot.session with
  | none =>
      obtain ⟨before, late, -, -, few⟩ := quiet_of_reachable settles reachable found
      rw [weight, found]
      simp only [Option.isSome_none, Bool.false_eq_true, if_false]
      omega
  | some session =>
      have light := (settles.light reachable found).2
      rw [weight, found]
      simp only [Option.isSome_some, if_true]
      omega

end

end Snapshot

/-! ### Failures in the runs of a server -/

section

variable [ReactiveState μ] {upstream : ServerStream} {world next last : World μ} {event : IoEvent}

/-- The completion of an operation of a session. -/
def IoEvent.isOf (upstream : ServerStream) : IoEvent → Bool
  | .accept _ => false
  | .complete stream _ _ => (upstream.sideOf stream).isSome

/-- A turn of the event loop in which nothing succeeds for one session. The others do as they
    like. -/
def World.Failing (upstream : ServerStream) (event : IoEvent) (world next : World μ) : Prop :=
  event.Enabled world ∧ event.perform.run world = .ok ((), next) ∧
    ∀ side op completion, event = .complete (upstream.endpoint side) op completion →
      completion.ec.isError = true

namespace World

theorem isOf_iff : event.isOf upstream = true ↔
    ∃ side op completion, event = .complete (upstream.endpoint side) op completion := by
  cases event with
  | accept upstream' => simp [IoEvent.isOf]
  | complete stream op completion =>
      rw [IoEvent.isOf, Option.isSome_iff_exists]
      constructor
      · rintro ⟨side, found⟩
        exact ⟨side, op, completion, by rw [(upstream.sideOf_eq_some side).mp found]⟩
      · rintro ⟨side, _, _, same⟩
        cases same
        exact ⟨side, upstream.sideOf_endpoint side⟩

/-- A turn in which nothing succeeds for a session, as that session sees it. -/
theorem weight_failing (settles : Snapshot.Settles μ upstream.tls upstream.id)
    (failing : Failing upstream event world next) (reachable : Reachable world)
    (accepted : world.Accepted upstream) :
    (event.isOf upstream = true →
      (next.snapshot upstream).weight upstream.tls <
        (world.snapshot upstream).weight upstream.tls) ∧
    (event.isOf upstream = false →
      (next.snapshot upstream).weight upstream.tls ≤
        (world.snapshot upstream).weight upstream.tls) := by
  obtain ⟨enabled, done, fails⟩ := failing
  cases advance_of_accepted reachable enabled done (accepted_grows reachable done accepted) with
  | begins same =>
      subst same
      exact absurd rfl (enabled _ accepted)
  | completes side op completion same known pending finished =>
      have less := Snapshot.weight_complete settles (snapshot_reachable reachable known) pending
        (fails side op completion same) finished
      exact ⟨fun _ => less, fun _ => less.le⟩
  | idles known same elsewhere =>
      rw [same]
      refine ⟨fun own => ?_, fun _ => le_rfl⟩
      obtain ⟨side, op, completion, mine⟩ := isOf_iff.mp own
      exact absurd mine (elsewhere side op completion)

/-- When everything fails for a session from some moment on, few of its operations complete any
    more; and when none of them is left, neither is the session. -/
theorem failing_bounded (settles : Snapshot.Settles μ upstream.tls upstream.id)
    (reachable : Reachable world) (accepted : world.Accepted upstream) {events : List IoEvent}
    (trail : Runs.Trail (Failing upstream) events world last) :
    events.countP (IoEvent.isOf upstream) ≤ 2 + Snapshot.stopLoad upstream.tls ∧
      ((last.snapshot upstream).outstanding = 0 → last.sessions upstream.id = none) := by
  obtain ⟨⟨reachable', accepted'⟩, bound⟩ := @Runs.Trail.countP_add_le _ _ (Failing upstream)
    (fun world => Reachable world ∧ world.Accepted upstream) (IoEvent.isOf upstream)
    (fun world => (world.snapshot upstream).weight upstream.tls)
    (fun event world next failing holds =>
      ⟨holds.1.step ⟨event, failing.1, failing.2.1⟩, accepted_grows holds.1 failing.2.1 holds.2⟩)
    (fun event world next failing holds => (weight_failing settles failing holds.1 holds.2).1)
    (fun event world next failing holds => (weight_failing settles failing holds.1 holds.2).2)
    events world last trail ⟨reachable, accepted⟩
  constructor
  · have start := Snapshot.weight_le settles (snapshot_reachable reachable accepted)
    omega
  · intro idle
    have alone := snapshot_reachable reachable' accepted'
    cases found : last.sessions upstream.id with
    | none => rfl
    | some pair =>
        have alive : (last.snapshot upstream).session = some pair.session := by
          simp [snapshot, found]
        exact absurd idle (settles.light alone alive).1

end World

end

end AmgiNetTools
