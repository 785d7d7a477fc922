/-
Module: AmgiNetTools.Tunnel.Exact
Layer: Tunnel
Purpose: The servers of all runs, from both sides. Sessions of a tunnel share nothing but the set
  that lists them: whatever each can come to by itself they come to together, and nothing else
  happens.
Main exports: Tunnel.Session.Course, Tunnel.Server.Composed, Tunnel.composed_of_reachable,
  Tunnel.reachable_of_composed, tunnel_servers_exact
-/
import AmgiNetTools.Tunnel.Setup

namespace AmgiNetTools

namespace Tunnel

/-- A session that was made and not accepted. -/
def Session.unused (remoteHost remoteService : Text) : Session :=
  { remoteHost := remoteHost, remoteService := remoteService }

/-- What a session can come to by itself, from its accept on. -/
inductive Session.Course (remoteHost remoteService : Text) : Session → Prop where
  | accepted : Course remoteHost remoteService (unused remoteHost remoteService).accepted
  | after {session : Session} (op : Op) (completion : Completion) :
      Course remoteHost remoteService session → op ∈ session.pending →
      completion.bytes.length ≤ maxBuffSize →
      Course remoteHost remoteService (session.after op completion)

/-- A server put together from sessions that ran by themselves, and the set of those that run. -/
structure Server.Composed (server : Server) : Prop where
  made : 1 ≤ server.made
  session (id : Nat) :
    server.sessions id = .unused server.remoteHost server.remoteService ∨
      1 ≤ id ∧ id < server.made ∧
        (server.sessions id).Course server.remoteHost server.remoteService
  member (id : Nat) : id ∈ server.manager ↔ (server.sessions id).Started

variable {server : Server} {remoteHost remoteService : Text}

/-! ### Every server is composed -/

theorem one_le_made (reachable : Reachable server) : 1 ≤ server.made := by
  induction reachable with
  | start => exact le_rfl
  | step _ _ _ made => exact made.trans made_le_perform

theorem composed_of_reachable (reachable : Reachable server) : server.Composed := by
  refine ⟨one_le_made reachable, ?_, (listed_of_reachable reachable).member⟩
  induction reachable with
  | start => exact fun _ => .inl rfl
  | @step server event within enabled _ ih =>
      intro id
      obtain ⟨host, service⟩ := @remote_perform server event
      rw [host, service]
      have later := @made_le_perform server event
      cases turned enabled id with
      | kept same =>
          rw [same]
          rcases ih id with unused | ⟨after, before, course⟩
          · exact .inl unused
          · exact .inr ⟨after, before.trans_le later, course⟩
      | accepted ec happens succeeded last now =>
          rcases ih id with unused | ⟨-, before, -⟩
          · right
            rw [now, unused, last]
            refine ⟨one_le_made within, ?_, .accepted⟩
            rw [made_perform, happens]
            exact Nat.lt_succ_self _
          · exact absurd last before.ne
      | completed op completion happens pending now =>
          rcases ih id with unused | ⟨after, before, course⟩
          · simp [unused, Session.unused] at pending
          · rw [now]
            subst happens
            exact .inr ⟨after, before.trans_le later,
              course.after op completion pending enabled.2.2⟩

/-! ### Every composed server is one of some run -/

/-- A server that runs, has made `made` sessions and connects them to a host. -/
structure Ready (remoteHost remoteService : Text) (made : Nat) (server : Server) : Prop where
  reachable : Reachable server
  running : server.stopped = false
  made_eq : server.made = made
  host : server.remoteHost = remoteHost
  service : server.remoteService = remoteService

/-- The accept that is outstanding fails. -/
theorem Ready.reject {made : Nat} (ready : Ready remoteHost remoteService made server) :
    ∃ next, Ready remoteHost remoteService (made + 1) next ∧ next.sessions = server.sessions := by
  have enabled : (Event.accepted ⟨1⟩).Enabled server := ready.running
  have next := ready.reachable.step enabled trivial
  rw [perform_rejected rfl] at next
  exact ⟨_, ⟨next, ready.running, congrArg Nat.succ ready.made_eq, ready.host, ready.service⟩, rfl⟩

/-- The accept that is outstanding succeeds. -/
theorem Ready.accept {made : Nat} (ready : Ready remoteHost remoteService made server) :
    ∃ next, Ready remoteHost remoteService (made + 1) next ∧
      next.sessions = Function.update server.sessions made (server.sessions made).accepted := by
  have enabled : (Event.accepted .success).Enabled server := ready.running
  have next := ready.reachable.step enabled trivial
  rw [perform_accepted rfl] at next
  refine ⟨_, ⟨next, ready.running, congrArg Nat.succ ready.made_eq, ready.host, ready.service⟩, ?_⟩
  simp only [Server.modify, ready.made_eq]

/-- The accepts of a server may succeed and fail in any order. -/
theorem exists_accepted {made : Nat} (positive : 1 ≤ made) {initial : Nat → Session}
    (each : ∀ id, initial id = .unused remoteHost remoteService ∨
      1 ≤ id ∧ id < made ∧ initial id = (Session.unused remoteHost remoteService).accepted) :
    ∃ server, Ready remoteHost remoteService made server ∧ server.sessions = initial := by
  induction made, positive using Nat.le_induction generalizing initial with
  | base =>
      refine ⟨.create remoteHost remoteService, ⟨.start _ _, rfl, rfl, rfl, rfl⟩, ?_⟩
      funext id
      rcases each id with unused | ⟨after, before, -⟩
      · rw [unused]
        rfl
      · omega
  | succ made positive ih =>
      have earlier (id : Nat) : Function.update initial made (.unused remoteHost remoteService) id =
            .unused remoteHost remoteService ∨
          1 ≤ id ∧ id < made ∧
            Function.update initial made (.unused remoteHost remoteService) id =
              (Session.unused remoteHost remoteService).accepted := by
        by_cases same : id = made
        · left
          rw [same, Function.update_self]
        · rw [Function.update_of_ne same]
          rcases each id with unused | ⟨after, before, accepted⟩
          · exact .inl unused
          · exact .inr ⟨after, by omega, accepted⟩
      obtain ⟨server, ready, sessions⟩ := ih earlier
      -- The accept that is outstanding fails for a session that is to stay unused.
      rcases each made with unused | ⟨-, -, accepted⟩
      · obtain ⟨next, ready, kept⟩ := ready.reject
        refine ⟨next, ready, ?_⟩
        rw [kept, sessions, ← unused, Function.update_eq_self]
      · obtain ⟨next, ready, begun⟩ := ready.accept
        refine ⟨next, ready, ?_⟩
        rw [begun, sessions, Function.update_self, Function.update_idem, ← accepted,
          Function.update_eq_self]

/-- A session of a server can do what it can do by itself, while the others wait. -/
theorem exists_course {made id : Nat} {session : Session}
    (course : session.Course remoteHost remoteService)
    (ready : Ready remoteHost remoteService made server)
    (begun : server.sessions id = (Session.unused remoteHost remoteService).accepted) :
    ∃ next, Ready remoteHost remoteService made next ∧ next.sessions id = session ∧
      ∀ other ≠ id, next.sessions other = server.sessions other := by
  induction course with
  | accepted => exact ⟨server, ready, begun, fun _ _ => rfl⟩
  | @after session op completion _ pending fits ih =>
      obtain ⟨middle, ready, rfl, alone⟩ := ih
      have enabled : (Event.complete id op completion).Enabled middle :=
        ⟨ready.running, pending, fits⟩
      have next := ready.reachable.step enabled trivial
      rw [perform_complete] at next
      refine ⟨_, ⟨next, ready.running, ready.made_eq, ready.host, ready.service⟩, ?_, ?_⟩
      · simp [Server.modify]
      · intro other apart
        simp only [Server.modify, Function.update_of_ne apart]
        exact alone other apart

/-- Sessions come together to what each comes to by itself. -/
theorem exists_composed (composed : server.Composed) :
    ∃ next, Ready server.remoteHost server.remoteService server.made next ∧
      next.sessions = server.sessions := by
  have begins (id : Nat) : ∃ first : Session,
      (first = .unused server.remoteHost server.remoteService ∧ server.sessions id = first) ∨
        (1 ≤ id ∧ id < server.made) ∧
          first = (Session.unused server.remoteHost server.remoteService).accepted ∧
          (server.sessions id).Course server.remoteHost server.remoteService := by
    rcases composed.session id with unused | ⟨after, before, course⟩
    · exact ⟨_, .inl ⟨rfl, unused⟩⟩
    · exact ⟨_, .inr ⟨⟨after, before⟩, rfl, course⟩⟩
  choose initial begins using begins
  have each (id : Nat) : initial id = .unused server.remoteHost server.remoteService ∨
      1 ≤ id ∧ id < server.made ∧
        initial id = (Session.unused server.remoteHost server.remoteService).accepted := by
    rcases begins id with ⟨unused, -⟩ | ⟨⟨after, before⟩, accepted, -⟩
    · exact .inl unused
    · exact .inr ⟨after, before, accepted⟩
  obtain ⟨first, ready, sessions⟩ := exists_accepted composed.made each
  have onward (id : Nat) (_ : id ∈ List.range server.made) (state : Server)
      (ready : Ready server.remoteHost server.remoteService server.made state)
      (begun : state.sessions id = initial id) :
      ∃ next, Ready server.remoteHost server.remoteService server.made next ∧
        next.sessions id = server.sessions id ∧
        ∀ other ∈ List.range server.made, other ≠ id →
          (state.sessions other = initial other → next.sessions other = initial other) ∧
          (state.sessions other = server.sessions other →
            next.sessions other = server.sessions other) := by
    rcases begins id with ⟨-, unused⟩ | ⟨-, accepted, course⟩
    · exact ⟨state, ready, begun.trans unused.symm, fun _ _ _ =>
        ⟨fun same => same, fun same => same⟩⟩
    · obtain ⟨next, ready, done, alone⟩ := exists_course course ready (begun.trans accepted)
      refine ⟨next, ready, done, fun other _ apart => ?_⟩
      rw [alone other apart]
      exact ⟨fun same => same, fun same => same⟩
  obtain ⟨next, ready, done⟩ := Runs.assemble List.nodup_range onward ready
    fun id _ => congrFun sessions id
  refine ⟨next, ready, ?_⟩
  funext id
  by_cases inside : id ∈ List.range server.made
  · exact done id inside
  · -- Neither server has made this session.
    have later : ¬ id < server.made := mt List.mem_range.mpr inside
    have unused := (composed.session id).resolve_right fun made => later made.2.1
    have unused' := ((composed_of_reachable ready.reachable).session id).resolve_right
      fun made => later (ready.made_eq ▸ made.2.1)
    rw [unused, unused', ready.host, ready.service]

theorem reachable_of_composed (composed : server.Composed) : Reachable server := by
  obtain ⟨next, ⟨reachable, running, made, host, service⟩, sessions⟩ := exists_composed composed
  have manager : next.manager = server.manager := by
    ext id
    rw [(listed_of_reachable reachable).member, composed.member, sessions]
  have same : server = { next with stopped := server.stopped } := by
    cases server
    simp_all
  cases halted : server.stopped with
  | false =>
      rw [same, halted, ← running]
      exact reachable
  | true =>
      rw [same, halted]
      have enabled : Event.signal.Enabled next := running
      exact reachable.step enabled trivial

end Tunnel

/-- The servers of all runs are exactly those put together from sessions that ran by themselves,
    with the set of those that were started and have not left. -/
theorem tunnel_servers_exact (server : Tunnel.Server) :
    Tunnel.Reachable server ↔ server.Composed := by
  constructor
  · exact Tunnel.composed_of_reachable
  · exact Tunnel.reachable_of_composed

end AmgiNetTools
