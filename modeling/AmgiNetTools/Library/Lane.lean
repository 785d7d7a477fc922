/-
Module: AmgiNetTools.Library.Lane
Layer: Library
Purpose: One direction of a relay that has a buffer for a single chunk: it takes a chunk from the
  source only when the one before has been delivered. The rule of the module is conservation: what
  was received is what was delivered and then what is in flight.
Main exports: Lane, Lane.Event, Lane.run, Lane.run_append, Lane.conservation, Lane.delivered_prefix
-/
import Mathlib.Data.List.Basic
import Mathlib.Data.List.Induction

namespace AmgiNetTools

/-- What one direction of a relay is doing: reading from its source, or writing a chunk to its
    destination. -/
inductive Lane (α : Type) where
  | reading
  | writing (chunk : α)
deriving DecidableEq

namespace Lane

variable {α : Type}

/-- A chunk came in, or went out. -/
inductive Event (α : Type) where
  | received (chunk : α)
  | delivered (chunk : α)
deriving DecidableEq

/-- The chunk that came in and has not gone out yet. -/
def inFlight : Lane α → List α
  | reading => []
  | writing chunk => [chunk]

/-- The chunks that came in, in order. -/
def received (events : List (Event α)) : List α :=
  events.filterMap fun
    | .received chunk => some chunk
    | .delivered _ => none

/-- The chunks that went out, in order. -/
def delivered (events : List (Event α)) : List α :=
  events.filterMap fun
    | .received _ => none
    | .delivered chunk => some chunk

theorem received_append (first second : List (Event α)) :
    received (first ++ second) = received first ++ received second :=
  List.filterMap_append

theorem delivered_append (first second : List (Event α)) :
    delivered (first ++ second) = delivered first ++ delivered second :=
  List.filterMap_append

/-- A lane goes from reading to writing and back; no other event fits. -/
def step [DecidableEq α] : Lane α → Event α → Option (Lane α)
  | reading, .received chunk => some (writing chunk)
  | writing chunk, .delivered chunk' => if chunk' = chunk then some reading else none
  | reading, .delivered _ => none
  | writing _, .received _ => none

/-- Where a lane is after some events, if they fit. -/
def run [DecidableEq α] (events : List (Event α)) : Option (Lane α) :=
  events.foldlM step reading

section

variable [DecidableEq α] {events : List (Event α)} {lane : Lane α}

theorem run_concat (event : Event α) :
    run (events ++ [event]) = (run events).bind fun lane => lane.step event := by
  simp [run, List.foldlM_append]

/-- A lane that reads goes on as from the start. -/
theorem run_append {first : List (Event α)} (ran : run first = some reading)
    (second : List (Event α)) : run (first ++ second) = run second := by
  rw [run, List.foldlM_append, ← run, ran]
  rfl

theorem run_receive (ran : run events = some reading) (chunk : α) :
    run (events ++ [.received chunk]) = some (writing chunk) := by
  rw [run_concat, ran]
  rfl

theorem run_deliver {chunk : α} (ran : run events = some (writing chunk)) :
    run (events ++ [.delivered chunk]) = some reading := by
  rw [run_concat, ran]
  simp [step]

/-- Nothing is lost, doubled or reordered. -/
theorem conservation (ran : run events = some lane) :
    received events = delivered events ++ lane.inFlight := by
  induction events using List.reverseRecOn generalizing lane with
  | nil =>
      cases ran
      rfl
  | append_singleton events event ih =>
      rw [run_concat, Option.bind_eq_some_iff] at ran
      obtain ⟨before, ran, stepped⟩ := ran
      have earlier := ih ran
      rw [received, List.filterMap_append, ← received, delivered, List.filterMap_append,
        ← delivered, earlier]
      cases before with
      | reading =>
          cases event with
          | received chunk => cases stepped; simp [inFlight]
          | delivered chunk => cases stepped
      | writing chunk =>
          cases event with
          | received chunk' => cases stepped
          | delivered chunk' =>
              simp only [step] at stepped
              split at stepped
              · next same => cases stepped; simp [inFlight, same]
              · cases stepped

/-- What went out is the beginning of what came in. -/
theorem delivered_prefix (ran : run events = some lane) : delivered events <+: received events := by
  rw [conservation ran]
  exact List.prefix_append _ _

end

end Lane

end AmgiNetTools
