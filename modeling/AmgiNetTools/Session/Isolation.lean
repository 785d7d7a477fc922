/-
Module: AmgiNetTools.Session.Isolation
Layer: Session
Purpose: Runs of a manager under any sequence of calls into it, and the isolation of its sessions:
  what belongs to an id after a run is what the events with that id alone produce.
Main exports: StreamManager.step, StreamManager.run, World.operations, run_restrict,
  sessions_isolated
-/
import AmgiNetTools.Http.Reactions
import AmgiNetTools.Library.Runs
import AmgiNetTools.Session.Locality
import AmgiNetTools.Socks5.Reactions

namespace AmgiNetTools

variable {μ : Type}

namespace StreamManager

/-- One call into the manager. -/
def step [SessionState μ] (event : ManagerEvent) (world : World μ) : Except Fault (World μ) :=
  ((dispatch event).run world).map Prod.snd

/-- A sequence of calls into a manager, from its start. -/
def run [SessionState μ] (events : List ManagerEvent) : Except Fault (World μ) :=
  Runs.run step events .empty

end StreamManager

namespace World

/-- A line of the history as an operation called on a stream with the given id. -/
def operation (id : Int32) (record : Record μ) : Option (Stream × StreamCall) :=
  match record.happening with
  | .called call => if record.stream.id = id then some (record.stream, call) else none
  | .completed _ _ _ _ => none

/-- The operations the manager has called on the streams with an id, in order. -/
def operations (id : Int32) (world : World μ) : List (Stream × StreamCall) :=
  world.history.filterMap (operation id)

/-- Only the history of the id matters. -/
theorem operations_filter (id : Int32) (history : List (Record μ)) :
    (history.filter fun record => record.stream.id = id).filterMap (operation id) =
      history.filterMap (operation id) := by
  induction history with
  | nil => rfl
  | cons record history ih =>
      obtain ⟨stream, happening⟩ := record
      by_cases mine : stream.id = id
      · rw [List.filter_cons_of_pos (by simpa using mine), List.filterMap_cons,
          List.filterMap_cons, ih]
      · rw [List.filter_cons_of_neg (by simpa using mine), List.filterMap_cons, ih]
        cases happening <;> simp [operation, mine]

theorem operations_eq_of_restrict_eq {id : Int32} {world world' : World μ}
    (same : world.restrict id = world'.restrict id) :
    world.operations id = world'.operations id := by
  rw [operations, operations, ← operations_filter, history_eq_of_restrict_eq same,
    operations_filter]

@[simp] theorem operations_restrict (id : Int32) (world : World μ) :
    (world.restrict id).operations id = world.operations id :=
  operations_filter id world.history

end World

namespace StreamManager

variable [ReactiveState μ] {world next : World μ} {event : ManagerEvent}

theorem step_eq (event : ManagerEvent) (coherent : world.Coherent) :
    step event world = effect event world := by
  rw [step, dispatch_eq event coherent]
  cases effect event world <;> rfl

theorem coherent_step {event : ManagerEvent} {world next : World μ}
    (stepped : step event world = .ok next) (coherent : world.Coherent) : next.Coherent :=
  coherent_effect coherent ((step_eq event coherent).symm.trans stepped)

theorem coherent_run {events : List ManagerEvent} (ran : run events = .ok world) :
    world.Coherent :=
  Runs.run_invariant (P := World.Coherent) (fun _ _ _ => coherent_step) ran World.coherent_empty

/-- What belongs to an id after a run is the whole outcome of the run of its own events. -/
theorem run_restrict {events : List ManagerEvent} (ran : run events = .ok world) (id : Int32) :
    run (events.filter fun event => event.id = id) = .ok (world.restrict id) := by
  have projected := Runs.run_project ManagerEvent.id World.restrict World.Coherent id
    (fun _ _ _ => coherent_step)
    (fun event state next stepped coherent other =>
      restrict_effect_other coherent ((step_eq event coherent).symm.trans stepped) other)
    (fun event state next stepped coherent mine => by
      subst mine
      rw [step_eq event (coherent.restrict event.id)]
      exact effect_restrict coherent ((step_eq event coherent).symm.trans stepped))
    ran World.coherent_empty
  rw [World.restrict_empty] at projected
  exact projected

/-- The operations on the streams of an id and the entry of its session, after a run of the manager
    and after the run of the events with that id alone. -/
theorem run_alone {events : List ManagerEvent} (ran : run events = .ok world) (id : Int32) :
    ∃ alone : World μ, run (events.filter fun event => event.id = id) = .ok alone ∧
      alone.operations id = world.operations id ∧ alone.sessions id = world.sessions id :=
  ⟨world.restrict id, run_restrict ran id, World.operations_restrict id world,
    World.sessions_restrict world id⟩

end StreamManager

/-- Sessions are isolated, in the SOCKS5 manager and in the HTTP manager alike. Whatever calls reach
    the manager and however those of different sessions interleave, the operations it calls on the
    streams of an id and the state of its session are those of the calls with that id alone; and the
    ids of every entry agree with its key. -/
theorem sessions_isolated [Platform] :
    (∀ (events : List ManagerEvent) (world : Socks5StreamManager),
      StreamManager.run events = .ok world →
      (∀ id : Int32, ∃ alone : Socks5StreamManager,
        StreamManager.run (events.filter fun event => event.id = id) = .ok alone ∧
        alone.operations id = world.operations id ∧ alone.sessions id = world.sessions id) ∧
      ∀ key pair, world.sessions key = some pair → pair.Owned key) ∧
    (∀ (events : List ManagerEvent) (world : HttpStreamManager),
      StreamManager.run events = .ok world →
      (∀ id : Int32, ∃ alone : HttpStreamManager,
        StreamManager.run (events.filter fun event => event.id = id) = .ok alone ∧
        alone.operations id = world.operations id ∧ alone.sessions id = world.sessions id) ∧
      ∀ key pair, world.sessions key = some pair → pair.Owned key) := by
  constructor
  · intro events world ran
    exact ⟨StreamManager.run_alone ran, StreamManager.coherent_run ran⟩
  · intro events world ran
    exact ⟨StreamManager.run_alone ran, StreamManager.coherent_run ran⟩

end AmgiNetTools
