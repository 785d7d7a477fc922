/-
Module: AmgiNetTools.Session.Dispatch
Layer: Session
Purpose: What a call into the manager does. An accepted stream gets an entry; every other event acts
  on the entry its id names, through the reaction of the session there, or does nothing when there
  is no such entry. The law needs the ids of each entry to agree with its key (`Coherent`), which
  every call keeps.
Main exports: World.Coherent, ManagerEvent.reaction, World.accept, dispatch_eq, coherent_dispatch
-/
import AmgiNetTools.Session.Reaction

namespace AmgiNetTools

variable {μ : Type}

/-- The ids of an entry agree with its key: the pair's, those of both streams, the session's. -/
structure SessionPair.Owned (key : Int32) (pair : SessionPair μ) : Prop where
  pair_id : pair.id = key
  server_id : pair.server.id = key
  client_id : pair.client.id = key
  session_id : pair.session.context.id = key

/-- The ids of every entry agree with its key. -/
def World.Coherent (world : World μ) : Prop :=
  ∀ key pair, world.sessions key = some pair → pair.Owned key

/-- The effect of `on_accept`. -/
def World.accept [SessionState μ] (upstream : ServerStream) (world : World μ) : World μ :=
  (world.invoke (.server upstream) .start).insert upstream.id
    { id := upstream.id
      server := upstream
      client := upstream.downstream
      session := { context := { id := upstream.id }, state := SessionState.initial } }

namespace ManagerEvent

/-- The reaction of a session to an event that carries its id; an accept is no such event. -/
def reaction [ReactiveState μ] (session : Session μ) : ManagerEvent → Except Fault (Reaction μ)
  | .accept _ => .ok (.stay session)
  | .readServer buffer _ => ReactiveState.reaction session (.serverRead buffer)
  | .writeServer buffer _ => ReactiveState.reaction session (.serverWrite buffer)
  | .errorServer ec _ => ReactiveState.reaction session (.serverError ec)
  | .connect buffer _ => ReactiveState.reaction session (.clientConnect buffer)
  | .readClient buffer _ => ReactiveState.reaction session (.clientRead buffer)
  | .writeClient buffer _ => ReactiveState.reaction session (.clientWrite buffer)
  | .errorClient ec _ => ReactiveState.reaction session (.clientError ec)
  | .stop _ | .stopStream _ | .close _ => .ok .stop

/-- Whether the event hands the manager a new connection. -/
def isAccept : ManagerEvent → Bool
  | .accept _ => true
  | _ => false

end ManagerEvent

namespace StreamManager

variable [ReactiveState μ] {world : World μ}

/-- The manager does `event` to the world. -/
def effect (event : ManagerEvent) (world : World μ) : Except Fault (World μ) :=
  match event with
  | .accept upstream => .ok (world.accept upstream)
  | event =>
      match world.sessions event.id with
      | none => .ok world
      | some pair =>
          (event.reaction pair.session).map fun outcome => world.react event.id pair outcome

theorem onAccept_run (upstream : ServerStream) :
    (onAccept upstream).run world = .ok ((), world.accept upstream) := by
  simp [onAccept, call_run, World.accept]

omit [ReactiveState μ] in
theorem stop_run (id : Int32) :
    (stop id).run world =
      match world.sessions id with
      | none => .ok ((), world)
      | some pair => .ok ((), world.react id pair .stop) := by
  cases found : world.sessions id with
  | none => simp [stop, find_run, found]
  | some pair =>
      have start : (stop id).run (world.react id pair ⟨[], some pair.session⟩) =
          .ok ((), world.react id pair ⟨[], none⟩) := stop_react
      rw [show (⟨[], some pair.session⟩ : Reaction μ) = .stay pair.session from rfl,
        World.react_stay found] at start
      exact start

/-- An event that carries the id of an entry runs the handler of the session there. -/
theorem handle_run_of_found (event : SessionEvent) {id : Int32} (coherent : world.Coherent) :
    (do if let some _ ← find (μ := μ) id then Session.handle id event).run world =
      (match world.sessions id with
        | none => .ok ((), world)
        | some pair =>
            (ReactiveState.reaction pair.session event).map
              fun outcome => ((), world.react id pair outcome)) := by
  cases found : world.sessions id with
  | none => simp [find_run, found]
  | some pair =>
      simp [find_run, found, Session.handle_run event found (coherent id pair found).session_id]

/-- What `dispatch` does, in one equation. -/
theorem dispatch_eq (event : ManagerEvent) (coherent : world.Coherent) :
    (dispatch event).run world = (effect event world).map fun next => ((), next) := by
  -- Both sides branch on whether the entry is there, and then agree.
  have agree (id : Int32) (outcome : SessionPair μ → Except Fault (Reaction μ)) :
      (match world.sessions id with
        | none => .ok ((), world)
        | some pair => (outcome pair).map fun outcome => ((), world.react id pair outcome)) =
      Except.map (fun next => ((), next))
        (match world.sessions id with
          | none => .ok world
          | some pair => (outcome pair).map fun outcome => world.react id pair outcome) := by
    cases world.sessions id with
    | none => rfl
    | some pair =>
        dsimp only
        cases outcome pair <;> rfl
  cases event with
  | accept upstream => exact onAccept_run upstream
  | readServer buffer stream =>
      exact (handle_run_of_found (.serverRead buffer) coherent).trans (agree _ _)
  | writeServer buffer stream =>
      exact (handle_run_of_found (.serverWrite buffer) coherent).trans (agree _ _)
  | errorServer ec stream =>
      exact (handle_run_of_found (.serverError ec) coherent).trans (agree _ _)
  | connect buffer stream =>
      exact (handle_run_of_found (.clientConnect buffer) coherent).trans (agree _ _)
  | readClient buffer stream =>
      exact (handle_run_of_found (.clientRead buffer) coherent).trans (agree _ _)
  | writeClient buffer stream =>
      exact (handle_run_of_found (.clientWrite buffer) coherent).trans (agree _ _)
  | errorClient ec stream =>
      exact (handle_run_of_found (.clientError ec) coherent).trans (agree _ _)
  | stop id => exact (stop_run id).trans (agree id fun _ => .ok .stop)
  | stopStream stream => exact (stop_run stream.id).trans (agree _ fun _ => .ok .stop)
  | close stream => exact (stop_run stream.id).trans (agree _ fun _ => .ok .stop)

end StreamManager

/-! ### The reactions of the manager's events -/

namespace ManagerEvent

variable [ReactiveState μ] {event : ManagerEvent} {session session' : Session μ}
  {outcome : Reaction μ}

theorem reaction_keepsId (computed : event.reaction session = .ok outcome)
    (next : outcome.next = some session') : session'.context.id = session.context.id := by
  cases event with
  | accept => cases computed; cases next; rfl
  | stop | stopStream | close => cases computed; cases next
  | _ => exact ReactiveState.keepsId session _ outcome session' computed next

theorem reaction_ne_dangling (event : ManagerEvent) (session : Session μ) :
    event.reaction session ≠ .error .dangling := by
  cases event with
  | accept | stop | stopStream | close => intro faulty; cases faulty
  | _ => exact ReactiveState.noDangling session _

end ManagerEvent

namespace StreamManager

variable [ReactiveState μ] {world next : World μ} {event : ManagerEvent}

theorem effect_of_event (isEvent : event.isAccept = false) :
    effect event world =
      match world.sessions event.id with
      | none => .ok world
      | some pair =>
          (event.reaction pair.session).map fun outcome => world.react event.id pair outcome := by
  cases event with
  | accept => cases isEvent
  | _ => rfl

/-- The two ways an event that is no accept can go. -/
theorem effect_cases (isEvent : event.isAccept = false) (done : effect event world = .ok next) :
    (world.sessions event.id = none ∧ next = world) ∨
    ∃ pair outcome, world.sessions event.id = some pair ∧
      event.reaction pair.session = .ok outcome ∧ next = world.react event.id pair outcome := by
  rw [effect_of_event isEvent] at done
  cases found : world.sessions event.id with
  | none =>
      rw [found] at done
      cases done
      exact Or.inl ⟨rfl, rfl⟩
  | some pair =>
      rw [found] at done
      cases computed : event.reaction pair.session with
      | error fault => simp [computed, Except.map] at done
      | ok outcome =>
          simp only [computed, Except.map, Except.ok.injEq] at done
          exact Or.inr ⟨pair, outcome, rfl, computed, done.symm⟩

end StreamManager

/-! ### Coherence -/

namespace World

theorem coherent_empty : (empty : World μ).Coherent := by
  intro key pair found
  cases found

theorem Coherent.accept [SessionState μ] {world : World μ} (coherent : world.Coherent)
    (upstream : ServerStream) : (world.accept upstream).Coherent := by
  intro key pair found
  simp only [World.accept, World.insert, sessions_invoke] at found
  cases taken : world.sessions upstream.id with
  | some old =>
      rw [taken] at found
      exact coherent key pair found
  | none =>
      simp only [taken] at found
      by_cases same : key = upstream.id
      · subst same
        rw [Function.update_self] at found
        cases found
        exact ⟨rfl, rfl, rfl, rfl⟩
      · rw [Function.update_of_ne same] at found
        exact coherent key pair found

theorem Coherent.react {world : World μ} (coherent : world.Coherent) {key : Int32}
    {pair : SessionPair μ} {outcome : Reaction μ} (found : world.sessions key = some pair)
    (keepsId : ∀ session, outcome.next = some session →
      session.context.id = pair.session.context.id) :
    (world.react key pair outcome).Coherent := by
  intro key' pair' found'
  by_cases same : key' = key
  · subst same
    rw [sessions_react, Function.update_self, Option.map_eq_some_iff] at found'
    obtain ⟨session, next, rfl⟩ := found'
    have owned := coherent key' pair found
    exact ⟨owned.pair_id, owned.server_id, owned.client_id,
      (keepsId session next).trans owned.session_id⟩
  · rw [sessions_react, Function.update_of_ne same] at found'
    exact coherent key' pair' found'

end World

namespace StreamManager

variable [ReactiveState μ] {world next : World μ} {event : ManagerEvent}

theorem coherent_effect (coherent : world.Coherent) (done : effect event world = .ok next) :
    next.Coherent := by
  cases isAccept : event.isAccept with
  | true =>
      cases event with
      | accept upstream =>
          cases done
          exact coherent.accept upstream
      | _ => cases isAccept
  | false =>
      obtain ⟨-, rfl⟩ | ⟨pair, outcome, found, computed, rfl⟩ := effect_cases isAccept done
      · exact coherent
      · exact coherent.react found fun session kept =>
          ManagerEvent.reaction_keepsId computed kept

end StreamManager

end AmgiNetTools
