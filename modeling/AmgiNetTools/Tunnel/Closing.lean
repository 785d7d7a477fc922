/-
Module: AmgiNetTools.Tunnel.Closing
Layer: Tunnel
Purpose: How often a session starts its TLS close. `leave` stops a session also when it is not in
  the set any more, and `close()` asks only whether the remote socket is open. The close is started
  once exactly in the runs in which no other handler fails between the first failure and the
  completion that closes the socket.
Main exports: Tunnel.Session.ClosedOnce, Tunnel.Calm, tunnel_closed_once, tunnel_closed_twice
-/
import AmgiNetTools.Tunnel.Table

namespace AmgiNetTools

namespace Tunnel

/-- The TLS close sequence has been started once at most. -/
def Session.ClosedOnce (session : Session) : Prop := session.history.count .close ≤ 1

/-- A handler that fails finds its session in the set still, or its remote socket closed. -/
def Calm (server : Server) : Event → Prop
  | .complete id op completion =>
      op.succeeds completion = false →
        id ∈ server.manager ∨ (server.sessions id).isOpen .remoteSock = false
  | .accepted _ | .signal => True

/-! ### The close of one session -/

namespace Session

variable {session : Session} {op : Op} {completion : Completion}

/-- The close follows from a failure, and is under way from then on. -/
structure Closing (session : Session) : Prop where
  not_begun : .leave ∉ session.history → .close ∉ session.history
  begun : .leave ∈ session.history → session.isOpen .remoteSock = true →
    .close ∈ session.history

/-- Only a connect opens the remote socket. -/
theorem isOpen_retire (other : op ≠ .connect) :
    (session.retire op completion).isOpen = session.isOpen := by
  cases op with
  | connect => exact absurd rfl other
  | _ => rfl

/-- A handler that goes on closes the remote socket, or leaves it as it is. -/
theorem isOpen_proceed (isOpen : (session.proceed op completion).isOpen .remoteSock = true) :
    session.isOpen .remoteSock = true := by
  cases op with
  | shutdown | nullWrite => simp [proceed, setOpen] at isOpen
  | _ => exact isOpen

/-- A session that has left does not connect any more. -/
theorem not_connect (reachable : session.Reachable) (pending : op ∈ session.pending)
    (left : .leave ∈ session.history) : op ≠ .connect := by
  rintro rfl
  cases stage_of_reachable reachable with
  | made idle => simp [idle] at pending
  | setup op isSetup waits stays => exact stays left
  | relay lane active closing relaying =>
      rw [relaying.waits, Multiset.mem_add] at pending
      rcases pending with relays | closes
      · obtain ⟨source, -, own⟩ := eq_laneOp_of_mem relays
        cases at_ : lane source <;> rw [at_] at own <;> cases own
      · rcases relaying.closers _ closes with same | same <;> cases same

/-- The lines a completion adds about the close. -/
theorem count_close_after : (session.after op completion).history.count .close =
    session.history.count .close +
      if op.succeeds completion = false ∧
        (session.retire op completion).isOpen .remoteSock = true then 1 else 0 := by
  rw [history_after, List.count_append, List.count_cons_of_ne (by simp)]
  cases op.succeeds completion with
  | true => rfl
  | false => cases (session.retire op completion).isOpen .remoteSock <;> rfl

theorem closing_after (reachable : session.Reachable) (pending : op ∈ session.pending)
    (closing : session.Closing) : (session.after op completion).Closing := by
  cases goesOn : op.succeeds completion with
  | true =>
      have lines := @history_after session op completion
      rw [goesOn, if_pos rfl] at lines
      constructor
      · intro stays
        rw [stays_after goesOn] at stays
        simpa [lines] using closing.not_begun stays
      · intro left isOpen
        rw [stays_after goesOn] at left
        rw [after, if_pos goesOn] at isOpen
        have before := isOpen_proceed isOpen
        rw [isOpen_retire (not_connect reachable pending left)] at before
        rw [lines, List.mem_append]
        exact .inl (closing.begun left before)
  | false =>
      constructor
      · intro stays
        exact absurd (leaves_after goesOn) stays
      · intro _ isOpen
        rw [after, if_neg (by simp [goesOn]), stop, isOpen_close] at isOpen
        rw [← List.one_le_count_iff, count_close_after, if_pos ⟨goesOn, isOpen⟩]
        exact Nat.le_add_left 1 _

theorem closing_of_reachable (reachable : session.Reachable) : session.Closing := by
  induction reachable with
  | made => exact ⟨by simp, by simp⟩
  | accepted =>
      constructor <;> simp [accepted, setOpen, record, doResolve, initiate]
  | after op completion reachable pending closing => exact closing_after reachable pending closing

/-- A completion starts a second close exactly when it fails after the session has left, before the
    first close is done. -/
theorem closedOnce_after (reachable : session.Reachable) (pending : op ∈ session.pending) :
    (session.after op completion).ClosedOnce ↔ session.ClosedOnce ∧
      (op.succeeds completion = false → .leave ∉ session.history ∨
        session.isOpen .remoteSock = false) := by
  have closing := closing_of_reachable reachable
  rw [ClosedOnce, ClosedOnce, count_close_after]
  constructor
  · intro once
    refine ⟨Nat.le_of_add_right_le once, fun fails => ?_⟩
    by_contra restarts
    rw [not_or, not_not, Bool.not_eq_false] at restarts
    obtain ⟨left, isOpen⟩ := restarts
    have first := List.one_le_count_iff.mpr (closing.begun left isOpen)
    rw [isOpen_retire (not_connect reachable pending left), if_pos ⟨fails, isOpen⟩] at once
    omega
  · rintro ⟨once, calm⟩
    split
    · next restarts =>
        obtain ⟨fails, isOpen⟩ := restarts
        have stays : .leave ∉ session.history := by
          intro left
          rw [isOpen_retire (not_connect reachable pending left)] at isOpen
          rcases calm fails with stays | shut
          · exact stays left
          · rw [isOpen] at shut
            cases shut
        rw [List.count_eq_zero.mpr (closing.not_begun stays)]
    · exact once

end Session

/-! ### Runs -/

variable {server : Server} {event : Event}

theorem ReachableWhile.reachable {Allowed : Server → Event → Prop}
    (within : ReachableWhile Allowed server) : Reachable server := by
  induction within with
  | start remoteHost remoteService => exact .start remoteHost remoteService
  | step _ enabled _ ih => exact ih.step enabled trivial

/-- A session that waits for something is in the set until it leaves. -/
theorem mem_manager_iff (reachable : Reachable server) {id : Nat} {op : Op}
    (pending : op ∈ (server.sessions id).pending) :
    id ∈ server.manager ↔ .leave ∉ (server.sessions id).history := by
  rw [(listed_of_reachable reachable).member]
  rcases Session.history_of_reachable ((session_reachable reachable).2 id) with
    ⟨idle, -⟩ | ⟨rest, history, -, -⟩
  · simp [idle] at pending
  · refine and_iff_right ?_
    rw [history]
    exact List.mem_cons_self

/-- A turn of the event loop keeps every close single exactly when it is calm. -/
theorem closedOnce_perform (reachable : Reachable server) (enabled : event.Enabled server) :
    (∀ id, ((event.perform server).sessions id).ClosedOnce) ↔
      (∀ id, (server.sessions id).ClosedOnce) ∧ Calm server event := by
  obtain ⟨unused, each⟩ := session_reachable reachable
  cases event with
  | accepted ec =>
      rw [Calm, and_true]
      cases failed : ec.isError with
      | true =>
          rw [perform_rejected failed]
          rfl
      | false =>
          rw [perform_accepted failed]
          refine forall_congr' fun id => ?_
          by_cases same : id = server.made
          · subst same
            simp [Server.modify, Session.ClosedOnce, Session.accepted, Session.setOpen,
              Session.record, Session.doResolve, Session.initiate]
          · simp only [Server.modify, Function.update_of_ne same]
  | signal =>
      rw [Calm, and_true]
      rfl
  | complete id op completion =>
      obtain ⟨-, pending, -⟩ := enabled
      have own := @Session.closedOnce_after _ op completion (each id) pending
      rw [← mem_manager_iff reachable pending] at own
      rw [perform_complete]
      constructor
      · intro once
        have here := own.mp (by simpa [Server.modify] using once id)
        refine ⟨fun id' => ?_, here.2⟩
        by_cases same : id' = id
        · rw [same]
          exact here.1
        · simpa [Server.modify, same] using once id'
      · rintro ⟨once, calm⟩ id'
        by_cases same : id' = id
        · simpa [Server.modify, same] using own.mpr ⟨once id, calm⟩
        · simpa [Server.modify, same] using once id'

end Tunnel

/-- The runs that are calm throughout lead to the servers, among all that runs lead to, each of
    whose sessions has started its TLS close once at most. -/
theorem tunnel_closed_once (server : Tunnel.Server) :
    Tunnel.ReachableWhile Tunnel.Calm server ↔
      Tunnel.Reachable server ∧ ∀ id, (server.sessions id).ClosedOnce := by
  constructor
  · intro calm
    refine ⟨calm.reachable, ?_⟩
    induction calm with
    | start =>
        intro id
        exact Nat.zero_le 1
    | step within enabled calm once =>
        exact (Tunnel.closedOnce_perform within.reachable enabled).mpr ⟨once, calm⟩
  · rintro ⟨reachable, once⟩
    induction reachable with
    | start remoteHost remoteService => exact .start remoteHost remoteService
    | step reachable enabled _ ih =>
        obtain ⟨before, calm⟩ := (Tunnel.closedOnce_perform reachable enabled).mp once
        exact (ih before).step enabled calm

/-! ### A close that is started again -/

namespace Tunnel.Sample

/-- `operation_aborted`. -/
def operationAborted : ErrorCode := ⟨125⟩

/-- The local peer ends. The close aborts the read from the remote, whose handler runs before that
    of the shutdown. -/
def abortedRead : List Event :=
  connected ++
    [.complete 1 (.read .localSock) { ec := eof },
      .complete 1 (.read .remoteSock) { ec := operationAborted }]

end Tunnel.Sample

/-- After `Tunnel.Sample.abortedRead` the close has been started twice, and both shutdowns are
    outstanding. -/
theorem tunnel_closed_twice :
    Tunnel.Reachable (Tunnel.Server.play (ascii "h") (ascii "443") Tunnel.Sample.abortedRead) ∧
      ((Tunnel.Server.play (ascii "h") (ascii "443") Tunnel.Sample.abortedRead).sessions
        1).history.count .close = 2 ∧
      ((Tunnel.Server.play (ascii "h") (ascii "443") Tunnel.Sample.abortedRead).sessions
        1).pending.count .shutdown = 2 :=
  ⟨Tunnel.Server.reachable_play _ _ _, by decide, by decide⟩

end AmgiNetTools
