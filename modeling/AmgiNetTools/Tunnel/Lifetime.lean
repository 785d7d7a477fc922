/-
Module: AmgiNetTools.Tunnel.Lifetime
Layer: Tunnel
Purpose: The session objects of a tunnel process. Nothing but `shared_ptr` keeps them: the set of
  the manager, the handlers of outstanding operations, and the handler of the accept. So an object
  is there exactly as long as one of these points to it; what was destroyed is never pointed to
  again, and no handler touches it.
Main exports: Tunnel.Process.Kept, Tunnel.Process.kept_of_reachable, tunnel_objects_exact
-/
import AmgiNetTools.Tunnel.Counter

namespace AmgiNetTools

namespace Tunnel

variable {server : Server} {event : Event} {id : Nat}

/-- Only sessions that were made are pointed to. -/
theorem inside_of_holds (reachable : Reachable server) (holds : server.Holds id) :
    1 ≤ id ∧ id ≤ server.made := by
  obtain ⟨made, _, _, none⟩ := Process.first_made reachable
  have nonzero (busy : (server.sessions id).pending ≠ 0) : 1 ≤ id := by
    refine Nat.one_le_iff_ne_zero.mpr fun zero => busy ?_
    rw [zero, none]
  rcases holds with member | busy | rfl
  · have busy := (exact_of_reachable reachable).busy id member
    have pending : (server.sessions id).pending ≠ 0 := by
      rcases busy with ⟨op, -, waits⟩ | ⟨_, _, -, -, waits⟩
      · simp [waits]
      · simp [waits]
    exact ⟨nonzero pending, ((listed_of_reachable reachable).bounded id member).le⟩
  · refine ⟨nonzero busy, ?_⟩
    by_contra later
    obtain ⟨_, _, unused⟩ := (session_reachable reachable).1 id (Nat.le_of_not_le later)
    exact busy (congrArg Session.pending unused)
  · exact ⟨made, le_rfl⟩

/-- A session that nothing points to is left alone, and nothing will point to it. -/
theorem free_perform (enabled : event.Enabled server) (inside : id ≤ server.made)
    (free : ¬ server.Holds id) :
    (event.perform server).sessions id = server.sessions id ∧
      ¬ (event.perform server).Holds id := by
  obtain ⟨absent, idle, other⟩ : id ∉ server.manager ∧ (server.sessions id).pending = 0 ∧
      id ≠ server.made := by
    simpa [Server.Holds, not_or] using free
  have earlier : id < server.made := Nat.lt_of_le_of_ne inside other
  have same : (event.perform server).sessions id = server.sessions id := by
    cases turned enabled id with
    | kept same => exact same
    | accepted _ _ _ last => exact absurd last other
    | completed op completion _ pending => simp [idle] at pending
  refine ⟨same, ?_⟩
  rintro (member | busy | last)
  · cases event with
    | accepted ec =>
        cases failed : ec.isError with
        | true =>
            rw [perform_rejected failed] at member
            exact absent member
        | false =>
            rw [perform_accepted failed] at member
            rcases Finset.mem_insert.mp member with new | old
            · exact other new
            · exact absent old
    | signal => exact absent member
    | complete id' op completion =>
        rw [perform_complete] at member
        split at member
        · exact absent member
        · exact absent (Finset.mem_of_mem_erase member)
  · rw [same] at busy
    exact busy idle
  · exact (earlier.trans_le made_le_perform).ne last

namespace Process

variable {process : Process} {step : Event} {Allowed : Event → Prop}

/-- Until the process ends, the objects that were destroyed are those nothing points to. -/
def Kept (process : Process) : Prop :=
  process.ended = false → ∀ id, id ∈ process.destroyed ↔
    (1 ≤ id ∧ id ≤ process.server.made) ∧ ¬ process.server.Holds id

theorem kept_create (remoteHost remoteService : Text) : (create remoteHost remoteService).Kept := by
  intro _ id
  constructor
  · intro gone
    exact absurd gone (Finset.notMem_empty id)
  · rintro ⟨⟨after, before⟩, free⟩
    exact absurd (.inr (.inr (Nat.le_antisymm before after))) free

theorem kept_turn {event : Tunnel.Event} (enabled : (Event.turn event).Enabled process)
    (kept : process.Kept) : ((Event.turn event).perform process).Kept := by
  intro _ id
  have made := @made_le_perform process.server event
  have server' : ((Event.turn event).perform process).server = event.perform process.server :=
    server_sweep.trans server_handle
  rw [destroyed_turn, Finset.mem_union, List.mem_toFinset, mem_released, mem_objects,
    holds_iff (ended_handle.trans enabled.1), destroyed_handle, server_handle, server']
  constructor
  · rintro (before | ⟨⟨inside, -⟩, free⟩)
    · obtain ⟨⟨after, most⟩, free⟩ := (kept enabled.1 id).mp before
      exact ⟨⟨after, most.trans made⟩, (free_perform enabled.2 most free).2⟩
    · exact ⟨inside, free⟩
  · rintro ⟨inside, free⟩
    by_cases before : id ∈ process.destroyed
    · exact .inl before
    · exact .inr ⟨⟨inside, before⟩, free⟩

theorem kept_of_reachable (reachable : ReachableWhile Allowed process) : process.Kept := by
  induction reachable with
  | start remoteHost remoteService => exact kept_create remoteHost remoteService
  | @step process event _ enabled _ _ kept =>
      cases event with
      | turn event => exact kept_turn enabled kept
      | tearDown => exact fun running => absurd (ended_tearDown.symm.trans running) (by simp)

/-- What a step leaves alone. -/
theorem untouched_perform (kept : process.Kept) (enabled : step.Enabled process)
    (gone : id ∈ process.destroyed) :
    id ∈ (step.perform process).destroyed ∧
      (step.perform process).server.sessions id = process.server.sessions id := by
  cases step with
  | turn event =>
      have server' : ((Event.turn event).perform process).server = event.perform process.server :=
        server_sweep.trans server_handle
      obtain ⟨inside, free⟩ := (kept enabled.1 id).mp gone
      rw [destroyed_turn, server']
      exact ⟨Finset.mem_union_left _ gone, (free_perform enabled.2 inside.2 free).1⟩
  | tearDown =>
      -- What is destroyed has no handler outstanding that could be dropped.
      have idle : (process.server.sessions id).pending = 0 := by
        by_contra busy
        exact ((kept enabled.1 id).mp gone).2 (.inr (.inl busy))
      rw [destroyed_tearDown, sessions_tearDown, ← idle]
      exact ⟨Finset.mem_union_left _ gone, rfl⟩

/-- Nothing is left when the process has ended. -/
theorem objects_of_ended (reachable : ReachableWhile Allowed process)
    (ended : process.ended = true) : process.objects = [] := by
  cases reachable with
  | start => cases ended
  | @step process event _ enabled _ _ =>
      cases event with
      | turn event =>
          rw [ended_turn, enabled.1] at ended
          cases ended
      | tearDown =>
          rw [List.eq_nil_iff_forall_not_mem]
          intro id member
          rw [mem_objects, destroyed_tearDown, made_tearDown, Finset.mem_union,
            List.mem_toFinset, mem_objects] at member
          obtain ⟨inside, left⟩ := member
          exact left (or_iff_not_imp_left.mpr fun alive => ⟨inside, alive⟩)

/-- Nothing points to a session when the process has ended. -/
theorem not_holds_of_ended (reachable : ReachableWhile Allowed process)
    (ended : process.ended = true) : ¬ process.Holds id := by
  cases reachable with
  | start => cases ended
  | @step process event _ enabled _ _ =>
      cases event with
      | turn event =>
          rw [ended_turn, enabled.1] at ended
          cases ended
      | tearDown =>
          rw [Holds, sessions_tearDown, manager_tearDown, ended_tearDown]
          simp

/-- As long as the process runs, there are the objects that something points to. -/
theorem mem_objects_iff (reachable : ReachableWhile Allowed process)
    (running : process.ended = false) : id ∈ process.objects ↔ process.Holds id := by
  rw [mem_objects, kept_of_reachable reachable running id, holds_iff running]
  constructor
  · rintro ⟨inside, notGone⟩
    by_contra free
    exact notGone ⟨inside, free⟩
  · intro holds
    exact ⟨inside_of_holds (server_reachable reachable running) holds, fun gone => gone.2 holds⟩

end Process

end Tunnel

/-- In every run of a tunnel process, a session object is there exactly as long as something points
    to it, and none is left when the process has ended. Whatever happens next, what was destroyed
    stays so, and is left as it was. -/
theorem tunnel_objects_exact {process : Tunnel.Process} (reachable : process.Reachable) :
    (∀ id, id ∈ process.objects ↔ process.Holds id) ∧
      (process.ended = true → process.objects = []) ∧
      ∀ (step : Tunnel.Process.Event) (id : Nat), step.Enabled process → id ∈ process.destroyed →
        id ∈ (step.perform process).destroyed ∧
          (step.perform process).server.sessions id = process.server.sessions id := by
  have kept := Tunnel.Process.kept_of_reachable reachable
  refine ⟨fun id => ?_, Tunnel.Process.objects_of_ended reachable,
    fun step id enabled gone => Tunnel.Process.untouched_perform kept enabled gone⟩
  cases ended : process.ended with
  | false => exact Tunnel.Process.mem_objects_iff reachable ended
  | true =>
      rw [Tunnel.Process.objects_of_ended reachable ended]
      exact ⟨fun member => absurd member List.not_mem_nil,
        fun holds => absurd holds (Tunnel.Process.not_holds_of_ended reachable ended)⟩

/-- After `Tunnel.Sample.secondFails` the session that failed is gone, and the others are there. -/
theorem tunnel_objects_exact_sample :
    let process := Tunnel.Process.play (ascii "h") (ascii "443") Tunnel.Sample.secondFails
    2 ∈ process.destroyed ∧ (1 ∈ process.objects ↔ process.Holds 1) :=
  ⟨by decide, (tunnel_objects_exact (Tunnel.Process.reachable_play _ _ (by simp))).1 1⟩

end AmgiNetTools
