/-
Module: AmgiNetTools.Tunnel.Table
Layer: Tunnel
Purpose: The set of sessions of a tunnel server is that of the sessions that were started and have
  not left. Each of them waits for what its stage prescribes, and none comes back.
Main exports: Tunnel.Busy, Tunnel.Exact, tunnel_table_exact
-/
import AmgiNetTools.Library.Runs
import AmgiNetTools.Tunnel.Relay

namespace AmgiNetTools

namespace Tunnel

/-- `start()` was called on the session, and no handler has called `leave` for it. -/
def Session.Started (session : Session) : Prop :=
  .start ∈ session.history ∧ .leave ∉ session.history

instance : DecidablePred Session.Started := fun _ => inferInstanceAs (Decidable (_ ∧ _))

/-- One operation of the setup, or one of the relay in each direction. -/
def Busy (pending : Multiset Op) : Prop :=
  (∃ op, op.IsSetup ∧ pending = {op}) ∨
    ∃ toRemote toLocal, toRemote.Relays .localSock ∧ toLocal.Relays .remoteSock ∧
      pending = {toRemote, toLocal}

/-- The table tells which sessions run. -/
structure Exact (server : Server) : Prop where
  member (id : Nat) : id ∈ server.manager ↔ (server.sessions id).Started
  busy (id : Nat) : id ∈ server.manager → Busy (server.sessions id).pending
  joined_once (id : Nat) : .start ∈ (server.sessions id).history →
    (server.sessions id).history.count .join = 1
  never_returns (id : Nat) :
    Always (fun past line => line = .join → .leave ∉ past) (server.sessions id).history
  count : server.sesCount =
    ((Finset.range (server.made + 1)).filter fun id => (server.sessions id).Started).card

/-! ### The history of a session -/

namespace Session

variable {session : Session} {op : Op} {completion : Completion}

/-- A completion starts and joins nothing, and leaves when it fails. -/
theorem lines_after (session : Session) (op : Op) (completion : Completion) :
    ∃ lines, (session.after op completion).history = session.history ++ lines ∧
      .start ∉ lines ∧ .join ∉ lines ∧ (.leave ∈ lines ↔ op.succeeds completion = false) := by
  refine ⟨_, history_after, ?_⟩
  cases op.succeeds completion with
  | true => simp
  | false => cases (session.retire op completion).isOpen .remoteSock <;> simp

theorem started_after : (session.after op completion).Started ↔
    session.Started ∧ op.succeeds completion = true := by
  obtain ⟨lines, history, start, -, leave⟩ := lines_after session op completion
  rw [Started, Started, history, List.mem_append, List.mem_append, not_or, leave]
  simp only [start, or_false, Bool.not_eq_false, and_assoc]

/-- A session that waits for something was started and joined first of all, and once. -/
theorem history_of_reachable (reachable : session.Reachable) :
    (session.pending = 0 ∧ session.history = []) ∨
      ∃ rest, session.history = .start :: .join :: rest ∧ .start ∉ rest ∧ .join ∉ rest := by
  induction reachable with
  | made => exact .inl ⟨rfl, rfl⟩
  | accepted => exact .inr ⟨[], rfl, by simp, by simp⟩
  | @after session op completion _ pending ih =>
      right
      rcases ih with ⟨idle, -⟩ | ⟨rest, before, start, join⟩
      · simp [idle] at pending
      · obtain ⟨lines, history, start', join', -⟩ := lines_after session op completion
        refine ⟨rest ++ lines, ?_, ?_, ?_⟩
        · rw [history, before]
          rfl
        · rw [List.mem_append, not_or]
          exact ⟨start, start'⟩
        · rw [List.mem_append, not_or]
          exact ⟨join, join'⟩

theorem count_join (reachable : session.Reachable) (started : .start ∈ session.history) :
    session.history.count .join = 1 := by
  rcases history_of_reachable reachable with ⟨-, silent⟩ | ⟨rest, history, -, join⟩
  · rw [silent] at started
    cases started
  · rw [history, List.count_cons_of_ne (by decide), List.count_cons_self,
      List.count_eq_zero.mpr join]

theorem never_returns (reachable : session.Reachable) :
    Always (fun past line => line = .join → .leave ∉ past) session.history := by
  rcases history_of_reachable reachable with ⟨-, silent⟩ | ⟨rest, history, -, join⟩
  · rw [silent]
    exact .nil
  · rw [history, Always.cons_iff, Always.cons_iff]
    refine ⟨by simp, by simp, ?_⟩
    refine Always.of_forall fun past line member same => ?_
    exact absurd (same ▸ member) join

/-- What a session that has been started and has not left waits for. -/
theorem busy_of_started (reachable : session.Reachable) (started : session.Started) :
    Busy session.pending := by
  cases stage_of_reachable reachable with
  | made idle silent =>
      have start := started.1
      rw [silent] at start
      cases start
  | setup op isSetup waits => exact .inl ⟨op, isSetup, waits⟩
  | relay lane active closing relaying =>
      obtain ⟨rfl, rfl⟩ := relaying.running started.2
      refine .inr ⟨laneOp .localSock (lane .localSock), laneOp .remoteSock (lane .remoteSock),
        relays_laneOp _ _, relays_laneOp _ _, ?_⟩
      rw [relaying.waits, Multiset.add_zero]
      rfl

end Session

/-! ### The table -/

/-- Membership, and where the members are. -/
structure Listed (server : Server) : Prop where
  member (id : Nat) : id ∈ server.manager ↔ (server.sessions id).Started
  bounded (id : Nat) : id ∈ server.manager → id < server.made

variable {server : Server} {event : Event}

theorem listed_of_reachable {Allowed : Server → Event → Prop}
    (reachable : ReachableWhile Allowed server) : Listed server := by
  induction reachable with
  | start => exact ⟨fun id => by simp [Server.create, Server.startAccept, Session.Started],
      fun id member => by simp [Server.create, Server.startAccept] at member⟩
  | @step server event within enabled _ listed =>
      obtain ⟨member, bounded⟩ := listed
      cases event with
      | accepted ec =>
          cases failed : ec.isError with
          | true =>
              rw [perform_rejected failed]
              exact ⟨member, fun id here => Nat.lt_succ_of_lt (bounded id here)⟩
          | false =>
              rw [perform_accepted failed]
              constructor
              · intro id
                by_cases same : id = server.made
                · obtain ⟨remoteHost, remoteService, made⟩ :=
                    (session_reachable within).1 server.made le_rfl
                  simp [same, Server.modify, made, Session.accepted, Session.Started,
                    Session.setOpen, Session.record, Session.doResolve, Session.initiate]
                · simp [same, Server.modify, member]
              · intro id here
                rcases Finset.mem_insert.mp here with rfl | old
                · exact Nat.lt_succ_self _
                · exact Nat.lt_succ_of_lt (bounded id old)
      | signal => exact ⟨member, bounded⟩
      | complete id op completion =>
          rw [perform_complete]
          constructor
          · intro id'
            by_cases same : id' = id
            · subst same
              simp only [Server.modify, Function.update_self, Session.started_after, ← member]
              cases op.succeeds completion <;> simp
            · simp only [Server.modify, Function.update_of_ne same, ← member]
              cases op.succeeds completion <;> simp [same]
          · intro id' here
            refine bounded id' ?_
            cases goesOn : op.succeeds completion with
            | true => simpa [goesOn] using here
            | false => exact Finset.mem_of_mem_erase (by simpa [goesOn] using here)

theorem exact_of_reachable {Allowed : Server → Event → Prop}
    (reachable : ReachableWhile Allowed server) : Exact server where
  member := (listed_of_reachable reachable).member
  busy id here :=
    Session.busy_of_started ((session_reachable reachable).2 id)
      (((listed_of_reachable reachable).member id).mp here)
  joined_once id := Session.count_join ((session_reachable reachable).2 id)
  never_returns id := Session.never_returns ((session_reachable reachable).2 id)
  count := by
    have listed := listed_of_reachable reachable
    rw [Server.sesCount]
    congr 1
    ext id
    rw [Finset.mem_filter, ← listed.member, Finset.mem_range]
    constructor
    · intro here
      exact ⟨Nat.lt_succ_of_lt (listed.bounded id here), here⟩
    · exact And.right

end Tunnel

/-- In every run of a tunnel server, its table is exact, and the next completion of one session
    takes no other session out of it and puts none in. -/
theorem tunnel_table_exact {server : Tunnel.Server} (reachable : Tunnel.Reachable server) :
    Tunnel.Exact server ∧
      ∀ id op completion other, other ≠ id →
        (other ∈ ((Tunnel.Event.complete id op completion).perform server).manager ↔
          other ∈ server.manager) := by
  refine ⟨Tunnel.exact_of_reachable reachable, fun id op completion other apart => ?_⟩
  rw [Tunnel.perform_complete]
  cases op.succeeds completion with
  | true => exact Iff.rfl
  | false =>
      rw [if_neg Bool.false_ne_true, Finset.mem_erase]
      exact and_iff_right apart

namespace Tunnel.Sample

/-- A second session is being connected when the first one fails. -/
def twoSessions : List Event :=
  connected ++
    [.accepted .success,
      .complete 1 (.read .remoteSock) { ec := eof },
      .complete 1 (.read .localSock) { ec := eof }]

end Tunnel.Sample

/-- After `Tunnel.Sample.twoSessions` the second session is in the set, and the first has left. -/
theorem tunnel_table_exact_sample :
    (Tunnel.Server.play (ascii "h") (ascii "443") Tunnel.Sample.twoSessions).manager = {2} ∧
      Tunnel.Exact (Tunnel.Server.play (ascii "h") (ascii "443") Tunnel.Sample.twoSessions) :=
  ⟨by decide, (tunnel_table_exact (Tunnel.Server.reachable_play _ _ _)).1⟩

end AmgiNetTools
