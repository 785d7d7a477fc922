/-
Module: AmgiNetTools.Session.Locality
Layer: Session
Purpose: What belongs to one id: its map entry, the streams that carry it, and their history. Every
  function of the manager that is called with an id changes that part of the world only, and looks
  at that part only.
Main exports: World.restrict, restrict_effect_other, effect_restrict
-/
import AmgiNetTools.Session.Dispatch

namespace AmgiNetTools

variable {μ : Type}

namespace World

/-- The part of the world that belongs to an id. -/
def restrict (id : Int32) (world : World μ) : World μ :=
  { sessions := fun key => if key = id then world.sessions key else none
    streams := fun stream => if stream.id = id then world.streams stream else .initial
    history := world.history.filter fun record => record.stream.id = id }

variable {id : Int32} (world : World μ)

@[simp] theorem restrict_empty (id : Int32) : (empty : World μ).restrict id = empty := by
  simp [restrict, empty]

@[simp] theorem sessions_restrict (id : Int32) :
    (world.restrict id).sessions id = world.sessions id := by
  simp [restrict]

theorem streams_restrict {stream : Stream} (mine : stream.id = id) :
    (world.restrict id).streams stream = world.streams stream := by
  simp [restrict, mine]

/-- Two worlds agree on an id when they are equal after restriction. -/
theorem restrict_congr {world world' : World μ} (sessions : world.sessions id = world'.sessions id)
    (streams : ∀ stream : Stream, stream.id = id → world.streams stream = world'.streams stream)
    (history : world.history.filter (fun record => record.stream.id = id) =
      world'.history.filter fun record => record.stream.id = id) :
    world.restrict id = world'.restrict id := by
  simp only [restrict, history]
  congr 1
  · funext key
    split
    · next same => rw [same, sessions]
    · rfl
  · funext stream
    split
    · next same => exact streams stream same
    · rfl

theorem sessions_eq_of_restrict_eq {world world' : World μ}
    (same : world.restrict id = world'.restrict id) : world.sessions id = world'.sessions id := by
  rw [← sessions_restrict world, same, sessions_restrict]

theorem streams_eq_of_restrict_eq {world world' : World μ}
    (same : world.restrict id = world'.restrict id) {stream : Stream} (mine : stream.id = id) :
    world.streams stream = world'.streams stream := by
  rw [← streams_restrict world mine, same, streams_restrict world' mine]

theorem history_eq_of_restrict_eq {world world' : World μ}
    (same : world.restrict id = world'.restrict id) :
    world.history.filter (fun record => record.stream.id = id) =
      world'.history.filter fun record => record.stream.id = id :=
  congrArg World.history same

/-! ### Functions that act on another id -/

theorem restrict_invoke_other {stream : Stream} (other : stream.id ≠ id) (call : StreamCall) :
    (world.invoke stream call).restrict id = world.restrict id := by
  apply restrict_congr
  · rfl
  · intro stream' mine
    have apart : stream' ≠ stream := fun same => other (same ▸ mine)
    simp [invoke, Function.update_of_ne apart]
  · simp [invoke, List.filter_append, other]

theorem restrict_invokeAll_other {pair : SessionPair μ} (server : pair.server.id ≠ id)
    (client : pair.client.id ≠ id) (calls : List (Side × StreamCall)) :
    (world.invokeAll pair calls).restrict id = world.restrict id := by
  induction calls generalizing world with
  | nil => rfl
  | cons call calls ih =>
      obtain ⟨side, call⟩ := call
      have other : (pair.stream side).id ≠ id := by
        cases side
        · exact server
        · exact client
      rw [invokeAll, List.foldl_cons, ← invokeAll, ih, restrict_invoke_other world other]

theorem restrict_withSessions_other {key : Int32} (other : key ≠ id)
    (value : Option (SessionPair μ)) :
    restrict id { world with sessions := Function.update world.sessions key value } =
      world.restrict id := by
  apply restrict_congr
  · simp [Function.update_of_ne other.symm]
  · intro stream _
    rfl
  · rfl

theorem restrict_insert_other {key : Int32} (other : key ≠ id) (pair : SessionPair μ) :
    (world.insert key pair).restrict id = world.restrict id := by
  unfold insert
  split
  · rfl
  · exact restrict_withSessions_other world other (some pair)

theorem restrict_react_other {key : Int32} (other : key ≠ id) {pair : SessionPair μ}
    (owned : pair.Owned key) (outcome : Reaction μ) :
    (world.react key pair outcome).restrict id = world.restrict id := by
  have server : pair.server.id ≠ id := owned.server_id ▸ other
  have client : pair.client.id ≠ id := owned.client_id ▸ other
  rw [react, ← restrict_invokeAll_other world server client outcome.calls]
  simpa using restrict_withSessions_other (world.invokeAll pair outcome.calls) other
    (outcome.next.map fun session => { pair with session := session })

/-! ### Functions that act on the same id -/

theorem restrict_invoke {stream : Stream} (mine : stream.id = id) (call : StreamCall) :
    (world.invoke stream call).restrict id = (world.restrict id).invoke stream call := by
  simp only [restrict, invoke, List.filter_append, mine]
  congr 1
  · funext stream'
    by_cases same : stream' = stream
    · subst same
      simp [mine]
    · simp [Function.update_of_ne same]
  · simp [mine]

theorem restrict_invokeAll {pair : SessionPair μ} (server : pair.server.id = id)
    (client : pair.client.id = id) (calls : List (Side × StreamCall)) :
    (world.invokeAll pair calls).restrict id = (world.restrict id).invokeAll pair calls := by
  induction calls generalizing world with
  | nil => rfl
  | cons call calls ih =>
      obtain ⟨side, call⟩ := call
      have mine : (pair.stream side).id = id := by
        cases side
        · exact server
        · exact client
      simp only [invokeAll, List.foldl_cons] at ih ⊢
      rw [ih, restrict_invoke world mine]

theorem restrict_withSessions (value : Option (SessionPair μ)) :
    restrict id { world with sessions := Function.update world.sessions id value } =
      { world.restrict id with
        sessions := Function.update (world.restrict id).sessions id value } := by
  simp only [restrict]
  congr 1
  funext key
  by_cases same : key = id
  · subst same
    simp
  · simp [same]

theorem restrict_insert (pair : SessionPair μ) :
    (world.insert id pair).restrict id = (world.restrict id).insert id pair := by
  unfold insert
  rw [sessions_restrict]
  split
  · rfl
  · exact restrict_withSessions world (some pair)

theorem restrict_react {pair : SessionPair μ} (owned : pair.Owned id) (outcome : Reaction μ) :
    (world.react id pair outcome).restrict id = (world.restrict id).react id pair outcome := by
  have step := @restrict_withSessions μ id (world.invokeAll pair outcome.calls)
    (outcome.next.map fun session => { pair with session := session })
  rw [restrict_invokeAll world owned.server_id owned.client_id] at step
  simpa [react] using step

theorem Coherent.restrict {world : World μ} (coherent : world.Coherent) (id : Int32) :
    (world.restrict id).Coherent := by
  intro key pair found
  simp only [World.restrict] at found
  split at found
  · exact coherent key pair found
  · cases found

end World

namespace StreamManager

variable [ReactiveState μ] {world next : World μ} {event : ManagerEvent} {id : Int32}

/-- An event does nothing to what belongs to another id. -/
theorem restrict_effect_other (coherent : world.Coherent) (done : effect event world = .ok next)
    (other : event.id ≠ id) : next.restrict id = world.restrict id := by
  cases isAccept : event.isAccept with
  | true =>
      cases event with
      | accept upstream =>
          cases done
          have other : upstream.id ≠ id := other
          rw [World.accept, World.restrict_insert_other _ other]
          exact World.restrict_invoke_other world
            (show (Stream.server upstream).id ≠ id from other) .start
      | _ => cases isAccept
  | false =>
      obtain ⟨-, rfl⟩ | ⟨pair, outcome, found, -, rfl⟩ := effect_cases isAccept done
      · rfl
      · exact World.restrict_react_other world other (coherent _ _ found) outcome

/-- What an event does to its own id does not depend on the rest of the world. -/
theorem effect_restrict (coherent : world.Coherent) (done : effect event world = .ok next) :
    effect event (world.restrict event.id) = .ok (next.restrict event.id) := by
  cases isAccept : event.isAccept with
  | true =>
      cases event with
      | accept upstream =>
          cases done
          have started := World.restrict_invoke world
            (show (Stream.server upstream).id = upstream.id from rfl) .start
          simp only [effect, World.accept, ManagerEvent.id, World.restrict_insert]
          rw [started]
      | _ => cases isAccept
  | false =>
      rw [effect_of_event isAccept, World.sessions_restrict]
      obtain ⟨found, rfl⟩ | ⟨pair, outcome, found, computed, rfl⟩ := effect_cases isAccept done
      · rw [found]
      · rw [found]
        simp only [computed, Except.map]
        rw [World.restrict_react world (coherent _ _ found)]

end StreamManager

end AmgiNetTools
