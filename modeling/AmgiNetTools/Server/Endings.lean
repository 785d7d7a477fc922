/-
Module: AmgiNetTools.Server.Endings
Layer: Server
Purpose: The ends of the sessions of both proxies. A session that was stopped is done after few more
  completions, and a session on which everything fails is stopped after few failures. So neither a
  peer that goes away nor a network that does leaves anything behind.
Main exports: WindsDown, FailsFast, Socks5.settles, Http.settles, sessions_wind_down,
  failures_end_sessions, tls_streams_closed_once
-/
import AmgiNetTools.Http.Exact
import AmgiNetTools.Session.Closing
import AmgiNetTools.Socks5.Exact
import AmgiNetTools.Socks5.Transparent

namespace AmgiNetTools

variable {μ : Type}

/-! ### Failures of the operations a session waits for -/

/-- Some operation has some load. -/
theorem Snapshot.ne_zero_of_load {ops : Multiset (Side × AsyncOp)} (loaded : 0 < load ops) :
    ops ≠ 0 := by
  rintro rfl
  exact absurd loaded (Nat.lt_irrefl 0)

theorem Snapshot.load_eq_card {ops : Multiset (Side × AsyncOp)}
    (each : ∀ entry ∈ ops, entry.2.weight = 1) : load ops = ops.card := by
  rw [load, Multiset.map_congr rfl each, Multiset.map_const', Multiset.sum_replicate,
    Nat.nsmul_eq_mul, Nat.mul_one]

theorem AsyncOp.weight_pos (op : AsyncOp) : 0 < op.weight := by
  cases op <;> simp [weight]

namespace Side

variable {completion : Completion}

theorem event_of_failed_read (side : Side) (failed : completion.ec.isError = true) :
    (side.upshot .read completion).event = some (side.errorEvent completion.ec) := by
  obtain ⟨succeeded, -⟩ | raised := side.upshot_read completion
  · rw [failed] at succeeded
    cases succeeded
  · rw [raised]
    rfl

theorem event_of_failed_write (side : Side) (size : Nat) (failed : completion.ec.isError = true) :
    (side.upshot (.write size) completion).event = some (side.errorEvent completion.ec) := by
  obtain ⟨succeeded, -⟩ | raised := side.upshot_write size completion
  · rw [failed] at succeeded
    cases succeeded
  · rw [raised]
    rfl

end Side

namespace Relay

variable {mode : μ} (transfer : Relay mode)

/-- The operations of a transfer. -/
theorem op_of_laneTask (source : Side) (lane : Lane IoBuffer) :
    (laneTask source lane).2.op = .read ∨ ∃ size, (laneTask source lane).2.op = .write size := by
  cases lane with
  | reading => exact .inl rfl
  | writing chunk => exact .inr ⟨chunk.length, rfl⟩

theorem weight_laneTask (source : Side) (lane : Lane IoBuffer) :
    (laneTask source lane).2.op.weight = 1 := by
  cases lane <;> rfl

theorem load_tasks :
    Snapshot.load (transfer.tasks.map fun task => (task.1, task.2.op)) = 2 := by
  rw [tasks, Multiset.map_cons, Multiset.map_singleton, Snapshot.load_cons,
    ← Multiset.cons_zero, Snapshot.load_cons, Snapshot.load_zero]
  exact congrArg₂ (· + ·) (weight_laneTask _ _) (weight_laneTask _ _)

/-- An operation of a transfer that is outstanding is a read or a write. -/
theorem op_of_pending {snapshot : Snapshot μ} {side : Side} {op : AsyncOp}
    (performs : snapshot.Performs transfer.tasks) (pending : op ∈ (snapshot.streams side).pending) :
    op = .read ∨ ∃ size, op = .write size := by
  obtain ⟨task, rest, split, rfl⟩ := performs.exists_task pending
  obtain ⟨source, same⟩ := transfer.exists_laneTask (split ▸ Multiset.mem_cons_self _ _)
  have own := op_of_laneTask source (transfer.lanes source)
  rwa [← same] at own

end Relay

namespace Script

variable {Phase : Type} {script : Script μ Phase} {tls : Bool} {id : Int32} {phase : Phase}
  {snapshot : Snapshot μ} {side : Side} {task : Task}

/-- The load of a session with one task. -/
theorem InPhase.load_of_lone (within : script.InPhase tls id phase snapshot)
    (lone : script.tasks phase = {(side, task)}) :
    Snapshot.load snapshot.outstanding = task.op.weight := by
  rw [(within.alone lone).outstanding, Multiset.map_cons, Multiset.map_zero, Snapshot.load_cons,
    Snapshot.load_zero, Nat.add_zero]

theorem InPhase.load_of_transfer {mode : μ} (transfer : Relay mode)
    (within : script.InPhase tls id phase snapshot) (relays : script.tasks phase = transfer.tasks) :
    Snapshot.load snapshot.outstanding = 2 := by
  rw [within.performs.outstanding, relays]
  exact transfer.load_tasks

/-- A session waits for something, and for two operations at most. -/
theorem InPhase.light {mode : μ} (within : script.InPhase tls id phase snapshot)
    (waits : (∃ side task, script.tasks phase = {(side, task)} ∧ task.op.weight ≤ 2) ∨
      ∃ transfer : Relay mode, script.tasks phase = transfer.tasks) :
    snapshot.outstanding ≠ 0 ∧ Snapshot.load snapshot.outstanding ≤ 2 := by
  obtain ⟨side, task, lone, light⟩ | ⟨transfer, relays⟩ := waits
  · have load := within.load_of_lone lone
    exact ⟨Snapshot.ne_zero_of_load (load ▸ task.op.weight_pos), load.trans_le light⟩
  · have load := within.load_of_transfer transfer relays
    exact ⟨Snapshot.ne_zero_of_load (load ▸ Nat.two_pos), load.le⟩

/-- What is outstanding when its operation completes is nothing, or one operation of a transfer. -/
theorem InPhase.load_le {mode : μ} {op : AsyncOp} {limit : Nat}
    (within : script.InPhase tls id phase snapshot)
    (waits : (∃ side task, script.tasks phase = {(side, task)} ∧ task.op.weight ≤ limit) ∨
      ∃ transfer : Relay mode, script.tasks phase = transfer.tasks)
    (pending : op ∈ (snapshot.streams side).pending) :
    Snapshot.load snapshot.outstanding ≤ op.weight + 1 := by
  obtain ⟨side', task', lone, -⟩ | ⟨transfer, relays⟩ := waits
  · obtain ⟨-, rfl⟩ := (lone ▸ within.performs : snapshot.Performs {(side', task')}).only pending
    rw [within.load_of_lone lone]
    exact Nat.le_succ _
  · rw [within.load_of_transfer transfer relays]
    obtain rfl | ⟨size, rfl⟩ := transfer.op_of_pending (relays ▸ within.performs) pending
    · exact le_rfl
    · exact le_rfl

end Script

/-! ### SOCKS5 -/

namespace Socks5

variable [Platform] {tls : Bool} {id : Int32}

/-- A session waits for one operation, or transfers data. -/
theorem tasks_cases (phase : Phase) :
    (∃ side task, phase.tasks = {(side, task)} ∧ task.op.weight ≤ 2) ∨
      ∃ transfer : Relay Socks5State.dataTransferMode, phase.tasks = transfer.tasks := by
  cases phase with
  | relay exchange transfer => exact .inr ⟨transfer, rfl⟩
  | _ => exact .inl ⟨_, _, rfl, by simp [Task.op, AsyncOp.weight]⟩

/-- A failure stops the session, but for that of a resolve or a connect, which is answered. -/
theorem yields_of_phase {snapshot : Snapshot Socks5State} {side : Side} {op : AsyncOp}
    {completion : Completion} {phase : Phase} (within : script.InPhase tls id phase snapshot)
    (pending : op ∈ (snapshot.streams side).pending) (failed : completion.ec.isError = true) :
    ∃ event outcome, (side.upshot op completion).event = some event ∧
      ReactiveState.reaction ⟨phase.context id, phase.state⟩ event = .ok outcome ∧
      Snapshot.requestLoad outcome.requests < op.weight := by
  cases phase with
  | relay exchange transfer =>
      refine ⟨side.errorEvent completion.ec, .stop, ?_, relays.failed _ side completion.ec,
        op.weight_pos⟩
      obtain rfl | ⟨size, rfl⟩ := transfer.op_of_pending within.performs pending
      · exact side.event_of_failed_read failed
      · exact side.event_of_failed_write size failed
  | resolving exchange | connecting exchange =>
      obtain ⟨rfl, rfl⟩ := within.performs.only pending
      refine ⟨.clientError completion.ec, _, ?_, rfl, Nat.lt_succ_self 1⟩
      simp [Side.upshot, Task.op, failed, Upshot.report]
  | _ =>
      obtain ⟨rfl, rfl⟩ := within.performs.only pending
      refine ⟨.serverError completion.ec, .stop, ?_, rfl, AsyncOp.weight_pos _⟩
      simp [Side.upshot, Task.op, failed, Upshot.report]

theorem settles (tls : Bool) (id : Int32) : Snapshot.Settles Socks5State tls id where
  ended reachable gone := by
    have conversed := Snapshot.conversed_of_reachable (live_accepted tls id)
      (fun _ _ _ _ _ live pending finished => onward live pending finished) reachable
    refine conversed.ended_of_gone (fun live => ?_) gone
    obtain ⟨phase, within, -⟩ := live
    simp [within.session]
  light reachable alive := by
    obtain ⟨phase, -, within⟩ := possible_of_reachable reachable (by simp [alive])
    exact within.light (tasks_cases phase)
  brief reachable alive pending stops := by
    obtain ⟨phase, -, within⟩ := possible_of_reachable reachable (by simp [alive])
    have computed := Except.ok.inj stops
    have bare := requests_of_stop (congrArg Reaction.next computed)
    rw [computed] at bare
    obtain rfl : _ = [] := bare
    exact (Nat.zero_add _).trans_le (within.load_le (tasks_cases phase) pending)
  yields reachable alive pending failed := by
    obtain ⟨phase, -, within⟩ := possible_of_reachable reachable (by simp [alive])
    obtain rfl := Option.some.inj (alive.symm.trans within.session)
    exact yields_of_phase within pending failed

end Socks5

/-! ### HTTP -/

namespace Http

variable {tls : Bool} {id : Int32} {snapshot : Snapshot HttpState} {side : Side} {op : AsyncOp}
  {completion : Completion}

/-- A session waits for one operation, or tunnels. -/
theorem tasks_cases (phase : Phase) :
    (∃ side task, phase.tasks = {(side, task)} ∧ task.op.weight ≤ 2) ∨
      ∃ transfer : Relay HttpState.dataTransferMode, phase.tasks = transfer.tasks := by
  cases phase with
  | tunnel exchange connect transfer => exact .inr ⟨transfer, rfl⟩
  | _ => exact .inl ⟨_, _, rfl, by simp [Task.op, AsyncOp.weight]⟩

/-- A session that passes data on waits for two operations. -/
theorem Passing.load_eq {exchange : Exchange} {trace : History HttpState}
    {ops : Multiset (Side × AsyncOp)} {buffer : IoBuffer}
    (passing : Passing tls id exchange trace ops buffer snapshot) :
    Snapshot.load snapshot.outstanding = 2 ∧
      ∀ side op, op ∈ (snapshot.streams side).pending → op = .read ∨ ∃ size, op = .write size := by
  have crossing := passing.overlay.crossing
  rw [passing.outstanding]
  constructor
  · have each : ∀ entry ∈ ops, entry.2.weight = 1 := by
      intro entry member
      rcases crossing.oneWay entry member with rfl | ⟨size, rfl⟩
      · rfl
      · rfl
    rw [Snapshot.load_eq_card each, crossing.card_eq]
  · intro side op pending
    have member := Snapshot.mem_outstanding.mpr pending
    rw [passing.outstanding] at member
    rcases crossing.oneWay _ member with same | ⟨size, same⟩
    · cases same
      exact .inl rfl
    · cases same
      exact .inr ⟨size, rfl⟩

/-- A handler that stops asks for the error page at most, and for nothing while data passes. -/
theorem requests_of_stop {session : Session HttpState} {event : SessionEvent}
    {requests : List Request}
    (stops : ReactiveState.reaction session event = .ok ⟨requests, none⟩) :
    requests = [] ∨ session.state = .waitRequest ∧ requests = [.writeServer kHttpError500] := by
  obtain ⟨context, state⟩ := session
  have computed : reaction ⟨context, state⟩ event = .ok ⟨requests, none⟩ := stops
  unfold reaction at computed
  split at computed
  case h_3 buffer waits =>
    cases decoded : target buffer.bytes with
    | error fault => simp [decoded, Except.map] at computed
    | ok verdict =>
        cases verdict with
        | none =>
            simp only [decoded, Except.map, Except.ok.injEq, Reaction.mk.injEq, and_true]
              at computed
            exact .inr ⟨waits, computed.symm⟩
        | some address => simp [decoded, Except.map] at computed
  all_goals
    simp only [Reaction.stop, Reaction.stay, Except.ok.injEq, Reaction.mk.injEq, reduceCtorEq,
      and_false, and_true] at computed
  all_goals exact .inl computed.symm

/-- Every failure stops the session. -/
theorem yields_of_event {session : Session HttpState}
    (raised : (side.upshot op completion).event = some (side.errorEvent completion.ec)) :
    ∃ event outcome, (side.upshot op completion).event = some event ∧
      ReactiveState.reaction session event = .ok outcome ∧
      Snapshot.requestLoad outcome.requests < op.weight :=
  ⟨_, .stop, raised, reaction_error session completion.ec side, op.weight_pos⟩

theorem event_of_phase {phase : Phase} (within : script.InPhase tls id phase snapshot)
    (pending : op ∈ (snapshot.streams side).pending) (failed : completion.ec.isError = true) :
    (side.upshot op completion).event = some (side.errorEvent completion.ec) := by
  cases phase with
  | tunnel exchange connect transfer =>
      obtain rfl | ⟨size, rfl⟩ := transfer.op_of_pending within.performs pending
      · exact side.event_of_failed_read failed
      · exact side.event_of_failed_write size failed
  | _ =>
      obtain ⟨rfl, rfl⟩ := within.performs.only pending
      simp [Side.upshot, Task.op, failed, Upshot.report, Side.errorEvent]

/-- An operation of a session that passes data on weighs as much as any other. -/
theorem Passing.weight_of_pending {exchange : Exchange} {trace : History HttpState}
    {ops : Multiset (Side × AsyncOp)} {buffer : IoBuffer}
    (passing : Passing tls id exchange trace ops buffer snapshot)
    (pending : op ∈ (snapshot.streams side).pending) : op.weight = 1 := by
  obtain rfl | ⟨size, rfl⟩ := passing.load_eq.2 side op pending
  · rfl
  · rfl

/-- The error page takes the place of the read of the request. -/
theorem load_of_page {phase : Phase} (within : script.InPhase tls id phase snapshot)
    (waits : phase.state = .waitRequest) (pending : op ∈ (snapshot.streams side).pending) :
    Snapshot.requestLoad [.writeServer kHttpError500] + Snapshot.load snapshot.outstanding ≤
      op.weight + 1 := by
  cases phase with
  | handshake | request =>
      obtain ⟨rfl, rfl⟩ := within.performs.only pending
      rw [within.load_of_lone rfl, Nat.add_comm]
      exact le_rfl
  | _ => cases waits

theorem settles (tls : Bool) (id : Int32) : Snapshot.Settles HttpState tls id where
  ended reachable gone := by
    have conversed := Snapshot.conversed_of_reachable (live_accepted tls id)
      (fun _ _ _ _ _ live pending finished => onward live pending finished) reachable
    refine conversed.ended_of_gone (fun live => ?_) gone
    obtain ⟨phase, within, -⟩ | crossed := live
    · simp [within.session]
    · obtain ⟨_, _, _, _, _, session, _⟩ := crossed
      simp [session]
  light reachable alive := by
    obtain ⟨phase, -, within⟩ | ⟨exchange, trace, ops, buffer, -, passing⟩ :=
      possible_of_reachable reachable (by simp [alive])
    · exact within.light (tasks_cases phase)
    · have load := passing.load_eq.1
      exact ⟨Snapshot.ne_zero_of_load (load ▸ Nat.two_pos), load.le⟩
  brief reachable alive pending stops := by
    obtain ⟨phase, -, within⟩ | ⟨exchange, trace, ops, buffer, -, passing⟩ :=
      possible_of_reachable reachable (by simp [alive])
    · rcases requests_of_stop stops with rfl | ⟨waits, rfl⟩
      · exact (Nat.zero_add _).trans_le (within.load_le (tasks_cases phase) pending)
      · rw [Option.some.inj (alive.symm.trans within.session)] at waits
        exact load_of_page within waits pending
    · rcases requests_of_stop stops with rfl | ⟨waits, rfl⟩
      · rw [passing.load_eq.1, passing.weight_of_pending pending]
        exact le_rfl
      · rw [Option.some.inj (alive.symm.trans passing.session)] at waits
        cases waits
  yields reachable alive pending failed := by
    apply yields_of_event
    obtain ⟨phase, -, within⟩ | ⟨exchange, trace, ops, buffer, -, passing⟩ :=
      possible_of_reachable reachable (by simp [alive])
    · exact event_of_phase within pending failed
    · obtain rfl | ⟨size, rfl⟩ := passing.load_eq.2 _ _ pending
      · exact Side.event_of_failed_read _ failed
      · exact Side.event_of_failed_write _ size failed

end Http

/-! ### Both proxies -/

section

variable [ReactiveState μ]

/-- A session that is gone was stopped, and then nothing but completions has happened to it; with
    those that are still to come they are at most one, and at most two more where a TLS stream is
    closed. -/
def WindsDown (μ : Type) [ReactiveState μ] : Prop :=
  ∀ (world : World μ) (upstream : ServerStream), Reachable world → world.Accepted upstream →
    world.sessions upstream.id = none →
    ∃ before late, world.conversation upstream = before ++ stopLines ++ late ∧
      (∀ line ∈ late, IsLate line) ∧
      late.length + (world.snapshot upstream).outstanding.card ≤ if upstream.tls then 3 else 1

/-- From some moment on everything fails for a session, while the others go on. Then few of its
    operations complete any more, and the session is gone when the last of them has. -/
def FailsFast (μ : Type) [ReactiveState μ] : Prop :=
  ∀ (world last : World μ) (upstream : ServerStream) (events : List IoEvent), Reachable world →
    world.Accepted upstream → Runs.Trail (World.Failing upstream) events world last →
    events.countP (IoEvent.isOf upstream) ≤ (if upstream.tls then 4 else 2) ∧
      ((last.snapshot upstream).outstanding = 0 → last.sessions upstream.id = none)

theorem windsDown_of_settles (settles : ∀ tls id, Snapshot.Settles μ tls id) : WindsDown μ := by
  intro world upstream reachable accepted absent
  have gone : (world.snapshot upstream).session = none := by
    simp [World.snapshot, absent]
  obtain ⟨before, late, history, isLate, few⟩ := Snapshot.quiet_of_reachable (settles _ _)
    (World.snapshot_reachable reachable accepted) gone
  refine ⟨before, late, history, isLate, ?_⟩
  have card := Snapshot.card_le_load (world.snapshot upstream).outstanding
  have limit : 1 + Snapshot.stopLoad upstream.tls = if upstream.tls then 3 else 1 := by
    cases upstream.tls <;> rfl
  omega

theorem failsFast_of_settles (settles : ∀ tls id, Snapshot.Settles μ tls id) : FailsFast μ := by
  intro world last upstream events reachable accepted trail
  obtain ⟨few, idle⟩ := World.failing_bounded (settles _ _) reachable accepted trail
  refine ⟨few.trans_eq ?_, idle⟩
  cases upstream.tls <;> rfl

end

/-- In every run of either proxy, a session that was stopped is done after three more completions at
    most, or after one on a plain stream. -/
theorem sessions_wind_down [Platform] : WindsDown Socks5State ∧ WindsDown HttpState :=
  ⟨windsDown_of_settles Socks5.settles, windsDown_of_settles Http.settles⟩

/-- In every run of either proxy, a session on which everything fails is gone after four failures at
    most, or after two on a plain stream, and leaves nothing outstanding behind. -/
theorem failures_end_sessions [Platform] : FailsFast Socks5State ∧ FailsFast HttpState :=
  ⟨failsFast_of_settles Socks5.settles, failsFast_of_settles Http.settles⟩

/-- In every run of either proxy, the socket of a peer is open as long as its session is in the map;
    after that a TLS stream is closed once, by the first of the two operations that were started for
    it. -/
theorem tls_streams_closed_once [Platform] : ClosesOnce Socks5State ∧ ClosesOnce HttpState :=
  ⟨closesOnce, closesOnce⟩

end AmgiNetTools
