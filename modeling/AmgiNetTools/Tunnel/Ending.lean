/-
Module: AmgiNetTools.Tunnel.Ending
Layer: Tunnel
Purpose: The end of a tunnel session. Each failure makes a session leave, and starts two operations
  of the TLS close at most; and there are two directions to fail. So a session leaves twice at most,
  waits for four operations at most, and is done for after six failures, whatever the other sessions
  do.
Main exports: Tunnel.Session.Bounded, Tunnel.Session.bounded_of_reachable, Tunnel.Failing,
  tunnel_bounded, tunnel_failures_end_sessions
-/
import AmgiNetTools.Tunnel.Setup

namespace AmgiNetTools

namespace Tunnel

namespace Session

/-- The number of operations outstanding that are not of the TLS close. -/
def working (session : Session) : Nat := session.pending.countP fun op => ¬ op.IsClosing

/-- The number of operations outstanding of the TLS close. -/
def shutting (session : Session) : Nat := session.pending.countP Op.IsClosing

/-- How often the session has left. -/
def left (session : Session) : Nat := session.history.count .leave

/-- What a session waits for is bounded by how often it has left. -/
structure Bounded (session : Session) : Prop where
  working : session.working + session.left ≤ 2
  shutting : session.shutting ≤ 2 * session.left
  closes : session.history.count .close ≤ session.left

/-- How many failures a session is good for. -/
def weight (session : Session) : Nat := 3 * session.working + session.shutting

variable {session : Session} {op : Op} {completion : Completion}

theorem card_pending (session : Session) :
    session.pending.card = session.shutting + session.working :=
  Multiset.card_eq_countP_add_countP Op.IsClosing session.pending

theorem left_after : (session.after op completion).left =
    session.left + if op.succeeds completion then 0 else 1 := by
  rw [left, left, history_after, List.count_append]
  cases op.succeeds completion with
  | true => simp
  | false => cases (session.retire op completion).isOpen .remoteSock <;> simp

/-- An operation that completes was one of those outstanding. -/
theorem countP_erase (p : Op → Prop) [DecidablePred p] (pending : op ∈ session.pending) :
    session.pending.countP p = (session.pending.erase op).countP p + if p op then 1 else 0 := by
  rw [← Multiset.countP_cons, Multiset.cons_erase pending]

/-- What a completion leaves of the operations that are not of the close. -/
theorem working_after (pending : op ∈ session.pending) :
    (session.after op completion).working + (if op.IsClosing then 0 else 1) =
      session.working + if op.succeeds completion then (op.followers completion).card else 0 := by
  have others : (op.followers completion).countP (fun op => ¬ op.IsClosing) =
      (op.followers completion).card := by
    rw [Multiset.countP_eq_card]
    cases op with
    | shutdown | nullWrite => simp [Op.followers]
    | _ => simp [Op.followers, Op.IsClosing]
  have closers : (if (session.retire op completion).isOpen .remoteSock then
      {Op.nullWrite, Op.shutdown} else (0 : Multiset Op)).countP (fun op => ¬ op.IsClosing) =
        0 := by
    split <;> decide
  have whole := countP_erase (fun op => ¬ op.IsClosing) pending
  rw [working, working, pending_after, Multiset.countP_add, whole]
  have single : (if ¬ op.IsClosing then 1 else 0) = if op.IsClosing then 0 else 1 := by
    by_cases isClosing : op.IsClosing <;> simp [isClosing]
  cases op.succeeds completion with
  | true =>
      rw [if_pos rfl, if_pos rfl, others, single]
      omega
  | false =>
      rw [if_neg Bool.false_ne_true, if_neg Bool.false_ne_true, closers, single]
      omega

/-- What a completion leaves of the operations of the close. -/
theorem shutting_after (pending : op ∈ session.pending) :
    (session.after op completion).shutting + (if op.IsClosing then 1 else 0) ≤
      session.shutting + if op.succeeds completion then 0 else 2 := by
  have none : (op.followers completion).countP Op.IsClosing = 0 := by
    rw [Multiset.countP_eq_zero]
    cases op with
    | shutdown | nullWrite => simp [Op.followers]
    | _ => simp [Op.followers, Op.IsClosing]
  have closers : (if (session.retire op completion).isOpen .remoteSock then
      {Op.nullWrite, Op.shutdown} else (0 : Multiset Op)).countP Op.IsClosing ≤ 2 := by
    split <;> decide
  have whole := countP_erase Op.IsClosing pending
  rw [shutting, shutting, pending_after, Multiset.countP_add, whole]
  cases op.succeeds completion with
  | true =>
      rw [if_pos rfl, if_pos rfl, none]
      omega
  | false =>
      rw [if_neg Bool.false_ne_true, if_neg Bool.false_ne_true]
      omega

/-- An operation of the setup is alone, and its session has not left. -/
theorem alone_of_setup (reachable : session.Reachable) (isSetup : op.IsSetup)
    (pending : op ∈ session.pending) : session.working = 1 ∧ session.left = 0 := by
  cases setUp_of_reachable reachable with
  | made _ idle => simp [idle] at pending
  | connecting done next later order history waits =>
      have own := isSetup_of_order order
      have apart : ¬ next.IsClosing := by
        rintro (rfl | rfl) <;> exact own
      constructor
      · rw [working, waits, Multiset.countP_eq_card.mpr (by simpa using apart),
          Multiset.card_singleton]
      · rw [left, history, List.count_eq_zero]
        simp [succeededLines]
  | failed done next later order ec isError tail history closes waits =>
      rcases waits op pending with rfl | rfl <;> exact isSetup.elim
  | relays rest history once waits => exact absurd isSetup (waits op pending)

theorem bounded_after (reachable : session.Reachable) (pending : op ∈ session.pending)
    (bounded : session.Bounded) : (session.after op completion).Bounded := by
  have works := @working_after session op completion pending
  have shuts := @shutting_after session op completion pending
  have leaves := @left_after session op completion
  have closes := @count_close_after session op completion
  obtain ⟨few, shutting, closed⟩ := bounded
  cases goesOn : op.succeeds completion with
  | true =>
      simp only [goesOn, if_true, Bool.true_eq_false, false_and, if_false]
        at works shuts leaves closes
      have kept :
          (session.after op completion).working + (session.after op completion).left ≤ 2 := by
        cases op with
        | handshake =>
            obtain ⟨alone, stays⟩ := @alone_of_setup session .handshake reachable trivial pending
            simp [Op.IsClosing, Op.followers] at works
            omega
        | shutdown | nullWrite =>
            simp [Op.IsClosing, Op.followers] at works
            omega
        | _ =>
            simp [Op.IsClosing, Op.followers] at works
            omega
      exact ⟨kept, by omega, by omega⟩
  | false =>
      have apart : ¬ op.IsClosing := by
        rintro (rfl | rfl) <;> cases goesOn
      simp only [goesOn, Bool.false_eq_true, if_false, if_neg apart] at works shuts leaves
      have once : (if false = false ∧ (session.retire op completion).isOpen .remoteSock = true
          then 1 else 0) ≤ 1 := by
        split <;> decide
      rw [goesOn] at closes
      exact ⟨by omega, by omega, by omega⟩

theorem bounded_of_reachable (reachable : session.Reachable) : session.Bounded := by
  induction reachable with
  | made => exact ⟨Nat.zero_le 2, le_rfl, le_rfl⟩
  | accepted => exact ⟨Nat.le_succ 1, Nat.le_refl 0, Nat.le_refl 0⟩
  | after op completion reachable pending bounded => exact bounded_after reachable pending bounded

theorem weight_le (bounded : session.Bounded) : session.weight ≤ 6 := by
  obtain ⟨few, shutting, -⟩ := bounded
  rw [weight]
  omega

/-- Every failure leaves a session with less. -/
theorem weight_after (pending : op ∈ session.pending) (failed : completion.ec.isError = true) :
    (session.after op completion).weight < session.weight := by
  have works := @working_after session op completion pending
  have shuts := @shutting_after session op completion pending
  rw [weight, weight]
  by_cases isClosing : op.IsClosing
  · have goesOn : op.succeeds completion = true := by rcases isClosing with rfl | rfl <;> rfl
    have nothing : op.followers completion = 0 := by rcases isClosing with rfl | rfl <;> rfl
    simp only [goesOn, isClosing, nothing, if_true, Multiset.card_zero] at works shuts
    omega
  · have fails : op.succeeds completion = false := by
      cases op with
      | shutdown | nullWrite => simp [Op.IsClosing] at isClosing
      | _ => simp [Op.succeeds, failed]
    simp only [fails, isClosing, if_false, Bool.false_eq_true] at works shuts
    omega

end Session

/-! ### Failures in the runs of a server -/

/-- The completion of an operation of a session. -/
def Event.isOf (id : Nat) : Event → Bool
  | .complete id' _ _ => id' = id
  | .accepted _ | .signal => false

/-- A turn of the event loop in which nothing succeeds for one session. The others do as they
    like. -/
def Failing (id : Nat) (event : Event) (server next : Server) : Prop :=
  event.Enabled server ∧ next = event.perform server ∧
    ∀ op completion, event = .complete id op completion → completion.ec.isError = true

variable {id : Nat} {event : Event} {server next last : Server}

/-- A turn in which nothing succeeds for a session, as that session sees it. -/
theorem weight_failing (failing : Failing id event server next) (made : id < server.made) :
    (event.isOf id = true → (next.sessions id).weight < (server.sessions id).weight) ∧
      (event.isOf id = false → (next.sessions id).weight ≤ (server.sessions id).weight) := by
  obtain ⟨enabled, rfl, fails⟩ := failing
  cases event with
  | accepted ec =>
      refine ⟨fun own => Bool.noConfusion own, fun _ => ?_⟩
      cases turned enabled id with
      | kept same => rw [same]
      | accepted _ _ _ last => exact absurd last made.ne
      | completed _ _ happens => cases happens
  | signal => exact ⟨fun own => Bool.noConfusion own, fun _ => le_rfl⟩
  | complete id' op completion =>
      rw [perform_complete, Event.isOf, decide_eq_true_iff, decide_eq_false_iff_not]
      constructor
      · rintro rfl
        simpa [Server.modify] using Session.weight_after enabled.2.1 (fails op completion rfl)
      · intro other
        simp [Server.modify, Function.update_of_ne (Ne.symm other)]

end Tunnel

/-- In every run of a tunnel server, each session leaves twice at most, starts its TLS close no more
    often than it leaves, and waits for two operations at most, and one more each time it leaves. -/
theorem tunnel_bounded {server : Tunnel.Server} (reachable : Tunnel.Reachable server) (id : Nat) :
    (server.sessions id).history.count .leave ≤ 2 ∧
      (server.sessions id).history.count .close ≤ (server.sessions id).history.count .leave ∧
      (server.sessions id).pending.card ≤ 2 + (server.sessions id).history.count .leave := by
  obtain ⟨working, shutting, closes⟩ :=
    Tunnel.Session.bounded_of_reachable ((Tunnel.session_reachable reachable).2 id)
  rw [Tunnel.Session.card_pending]
  rw [Tunnel.Session.left] at working shutting closes
  exact ⟨by omega, closes, by omega⟩

/-- When everything fails for a session of a tunnel server from some moment on, six of its
    operations complete at most; and when none is left, the session is not in the set. -/
theorem tunnel_failures_end_sessions {server last : Tunnel.Server}
    (reachable : Tunnel.Reachable server) (id : Nat) (made : id < server.made)
    {events : List Tunnel.Event}
    (trail : Runs.Trail (Tunnel.Failing id) events server last) :
    events.countP (Tunnel.Event.isOf id) ≤ 6 ∧
      ((last.sessions id).pending = 0 → id ∉ last.manager) := by
  obtain ⟨⟨reachable', -⟩, bound⟩ := @Runs.Trail.countP_add_le _ _ (Tunnel.Failing id)
    (fun server => Tunnel.Reachable server ∧ id < server.made) (Tunnel.Event.isOf id)
    (fun server => (server.sessions id).weight)
    (fun event server next failing holds => by
      obtain ⟨enabled, rfl, -⟩ := failing
      exact ⟨holds.1.step enabled trivial, holds.2.trans_le Tunnel.made_le_perform⟩)
    (fun event server next failing holds => (Tunnel.weight_failing failing holds.2).1)
    (fun event server next failing holds => (Tunnel.weight_failing failing holds.2).2)
    events server last trail ⟨reachable, made⟩
  constructor
  · have start := Tunnel.Session.weight_le
      (Tunnel.Session.bounded_of_reachable ((Tunnel.session_reachable reachable).2 id))
    omega
  · intro idle here
    rcases (Tunnel.exact_of_reachable reachable').busy id here with
      ⟨op, -, waits⟩ | ⟨_, _, -, -, waits⟩
    · simp [idle] at waits
    · simp [idle] at waits

/-! ### A run -/

namespace Tunnel.Sample

/-- The read from the local peer fails. -/
def localFails : Event := .complete 1 (.read .localSock) { ec := eof }

/-- The read from the remote is aborted. -/
def remoteFails : Event := .complete 1 (.read .remoteSock) { ec := operationAborted }

/-- Both directions fail, after `Tunnel.Sample.connected`. -/
theorem failing_both : Runs.Trail (Failing 1) [localFails, remoteFails]
    (Server.play (ascii "h") (ascii "443") connected)
    (remoteFails.perform
      (localFails.perform (Server.play (ascii "h") (ascii "443") connected))) := by
  have first : Failing 1 localFails (Server.play (ascii "h") (ascii "443") connected)
      (localFails.perform (Server.play (ascii "h") (ascii "443") connected)) := by
    refine ⟨by decide, rfl, ?_⟩
    rintro op completion same
    cases same
    rfl
  have second : Failing 1 remoteFails
      (localFails.perform (Server.play (ascii "h") (ascii "443") connected))
      (remoteFails.perform
        (localFails.perform (Server.play (ascii "h") (ascii "443") connected))) := by
    refine ⟨by decide, rfl, ?_⟩
    rintro op completion same
    cases same
    rfl
  exact .concat (.concat (.nil _) first) second

end Tunnel.Sample

/-- After both have failed the session has left twice, and waits for four operations, which are the
    most. -/
theorem tunnel_bounded_sample :
    let server := Tunnel.Server.play (ascii "h") (ascii "443") Tunnel.Sample.abortedRead
    (server.sessions 1).history.count .leave = 2 ∧ (server.sessions 1).pending.card = 4 ∧
      (server.sessions 1).pending.card ≤ 2 + (server.sessions 1).history.count .leave :=
  ⟨by decide, by decide, (tunnel_bounded (Tunnel.Server.reachable_play _ _ _) 1).2.2⟩

theorem tunnel_failures_end_sessions_sample :
    [Tunnel.Sample.localFails, Tunnel.Sample.remoteFails].countP (Tunnel.Event.isOf 1) ≤ 6 :=
  (tunnel_failures_end_sessions (Tunnel.Server.reachable_play _ _ _) 1 (by decide)
    Tunnel.Sample.failing_both).1

end AmgiNetTools
