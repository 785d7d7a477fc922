/-
Module: AmgiNetTools.Library.Writer
Layer: Library
Purpose: A writer that has one buffer and no queue. Each chunk it is given is laid over what the
  buffer holds, and a write of it is under way from then on, whether or not others are; a write puts
  out what the buffer holds. Two rules: every chunk goes out once with its size, and while each
  chunk is given when all before are out, the writer is a lane.
Main exports: Writer, Writer.Event, Writer.run, Writer.sizes_conserved, Lane.Spaced,
  Writer.lane_of_run
-/
import AmgiNetTools.Library.Lane
import Mathlib.Data.List.Infix
import Mathlib.Data.Multiset.AddSub

namespace AmgiNetTools

/-- What a writer holds in its buffer, and the sizes of the writes that are under way. -/
structure Writer (α : Type) where
  held : List α
  underWay : Multiset Nat

/-- A chunk comes in only when all before have gone out. -/
def Lane.Spaced {α : Type} (events : List (Event α)) : Prop :=
  ∀ before ∈ events.inits, (received before).length ≤ (delivered before).length + 1

theorem Lane.Spaced.of_append {α : Type} {first second : List (Event α)}
    (spaced : Spaced (first ++ second)) : Spaced first := by
  intro before member
  refine spaced before ((List.mem_inits _ _).mpr ?_)
  exact ((List.mem_inits _ _).mp member).trans (List.prefix_append _ _)

theorem Lane.Spaced.all {α : Type} {events : List (Event α)} (spaced : Spaced events) :
    (received events).length ≤ (delivered events).length + 1 :=
  spaced events ((List.mem_inits _ _).mpr (List.prefix_refl _))

instance {α : Type} : DecidablePred (@Lane.Spaced α) :=
  fun events => inferInstanceAs (Decidable (∀ before ∈ events.inits, _))

namespace Writer

variable {α : Type}

/-- A chunk is given to the writer, or a write is done and has put something out or failed. -/
inductive Event (α : Type) where
  | given (chunk : List α)
  | done (size : Nat) (out : Option (List α))
deriving DecidableEq

def step [DecidableEq α] (writer : Writer α) : Event α → Option (Writer α)
  | .given chunk =>
      some ⟨chunk ++ writer.held.drop chunk.length, chunk.length ::ₘ writer.underWay⟩
  | .done size out =>
      if size ∈ writer.underWay ∧ (out = none ∨ out = some (writer.held.take size)) then
        some { writer with underWay := writer.underWay.erase size }
      else none

/-- What has become of a writer after some events, if they fit. -/
def run [DecidableEq α] (events : List (Event α)) (start : Writer α) : Option (Writer α) :=
  events.foldlM step start

/-- The sizes of the chunks it was given. -/
def givenSizes (events : List (Event α)) : List Nat :=
  events.filterMap fun
    | .given chunk => some chunk.length
    | .done _ _ => none

/-- The sizes of the writes that are done. -/
def doneSizes (events : List (Event α)) : List Nat :=
  events.filterMap fun
    | .given _ => none
    | .done size _ => some size

/-- What happens to a writer, as it looks to a lane. -/
def laneEvent : Event α → Option (Lane.Event (List α))
  | .given chunk => some (.received chunk)
  | .done _ (some bytes) => some (.delivered bytes)
  | .done _ none => none

def laneEvents (events : List (Event α)) : List (Lane.Event (List α)) :=
  events.filterMap laneEvent

theorem laneEvents_append (first second : List (Event α)) :
    laneEvents (first ++ second) = laneEvents first ++ laneEvents second :=
  List.filterMap_append

section

variable [DecidableEq α] {events : List (Event α)} {start writer : Writer α}

theorem run_concat (event : Event α) :
    run (events ++ [event]) start = (run events start).bind fun writer => writer.step event := by
  simp [run, List.foldlM_append]

theorem run_given (ran : run events start = some writer) (chunk : List α) :
    run (events ++ [.given chunk]) start =
      some ⟨chunk ++ writer.held.drop chunk.length, chunk.length ::ₘ writer.underWay⟩ := by
  rw [run_concat, ran]
  rfl

theorem run_done (ran : run events start = some writer) {size : Nat} {out : Option (List α)}
    (busy : size ∈ writer.underWay) (puts : out = none ∨ out = some (writer.held.take size)) :
    run (events ++ [.done size out]) start =
      some { writer with underWay := writer.underWay.erase size } := by
  rw [run_concat, ran]
  exact if_pos ⟨busy, puts⟩

/-- What a write that is done tells about the writer. -/
theorem step_done {next : Writer α} {size : Nat} {out : Option (List α)}
    (stepped : writer.step (.done size out) = some next) :
    size ∈ writer.underWay ∧ (out = none ∨ out = some (writer.held.take size)) ∧
      next = { writer with underWay := writer.underWay.erase size } := by
  rw [step] at stepped
  split at stepped
  · next fits =>
      cases stepped
      exact ⟨fits.1, fits.2, rfl⟩
  · cases stepped

/-- Every chunk goes out once, with its size, or is under way, or has failed. -/
theorem sizes_conserved (ran : run events start = some writer) (idle : start.underWay = 0) :
    (givenSizes events : Multiset Nat) = writer.underWay + (doneSizes events : Multiset Nat) := by
  induction events using List.reverseRecOn generalizing writer with
  | nil =>
      cases ran
      rw [idle]
      rfl
  | append_singleton events event ih =>
      rw [run_concat, Option.bind_eq_some_iff] at ran
      obtain ⟨before, ran, stepped⟩ := ran
      have earlier := ih ran
      rw [givenSizes, List.filterMap_append, ← givenSizes, doneSizes, List.filterMap_append,
        ← doneSizes, ← Multiset.coe_add, ← Multiset.coe_add, earlier]
      cases event with
      | given chunk =>
          cases stepped
          simp only [List.filterMap_cons, List.filterMap_nil, Multiset.coe_singleton,
            Multiset.coe_nil, Multiset.add_zero]
          rw [Multiset.cons_add, Multiset.add_comm, Multiset.singleton_add]
      | done size out =>
          obtain ⟨busy, -, rfl⟩ := step_done stepped
          simp only [List.filterMap_cons, List.filterMap_nil, Multiset.coe_singleton,
            Multiset.coe_nil, Multiset.add_zero]
          rw [← Multiset.add_assoc, Multiset.add_comm _ {size}, Multiset.singleton_add,
            ← Multiset.cons_add, Multiset.cons_erase busy]

/-- The buffer holds all of every write that is under way. -/
theorem size_le (ran : run events start = some writer) (idle : start.underWay = 0) {size : Nat}
    (busy : size ∈ writer.underWay) : size ≤ writer.held.length := by
  induction events using List.reverseRecOn generalizing writer size with
  | nil =>
      cases ran
      rw [idle] at busy
      exact absurd busy (Multiset.notMem_zero size)
  | append_singleton events event ih =>
      rw [run_concat, Option.bind_eq_some_iff] at ran
      obtain ⟨before, ran, stepped⟩ := ran
      cases event with
      | given chunk =>
          cases stepped
          rw [List.length_append, List.length_drop]
          rcases Multiset.mem_cons.mp busy with rfl | old
          · exact Nat.le_add_right _ _
          · have fits := ih ran old
            omega
      | done size out =>
          obtain ⟨-, -, rfl⟩ := step_done stepped
          exact ih ran (Multiset.mem_of_mem_erase busy)

/-- What goes out has the size of its write. -/
theorem out_sizes_le (ran : run events start = some writer) (idle : start.underWay = 0) :
    ((Lane.delivered (laneEvents events)).map List.length : Multiset Nat) ≤
      (doneSizes events : Multiset Nat) := by
  induction events using List.reverseRecOn generalizing writer with
  | nil => exact le_rfl
  | append_singleton events event ih =>
      rw [run_concat, Option.bind_eq_some_iff] at ran
      obtain ⟨before, ran, stepped⟩ := ran
      have earlier := ih ran
      rw [laneEvents_append, Lane.delivered_append, List.map_append, ← Multiset.coe_add,
        doneSizes, List.filterMap_append, ← doneSizes, ← Multiset.coe_add]
      cases event with
      | given chunk => exact Multiset.add_le_add_right earlier
      | done size out =>
          obtain ⟨busy, puts, -⟩ := step_done stepped
          refine (Multiset.add_le_add_right earlier).trans (Multiset.add_le_add_left ?_)
          rcases puts with rfl | rfl
          · exact Multiset.zero_le _
          · have fits := size_le ran idle busy
            refine le_of_eq ?_
            simp [laneEvents, laneEvent, Lane.delivered, Nat.min_eq_left fits]

/-- While chunks are given one at a time, a writer is a lane, and each chunk lies in the buffer
    until it is out. -/
theorem lane_of_run (ran : run events start = some writer) (idle : start.underWay = 0)
    (spaced : Lane.Spaced (laneEvents events)) :
    ∃ lane, Lane.run (laneEvents events) = some lane ∧
      writer.underWay ≤ (lane.inFlight.map List.length : Multiset Nat) ∧
      ∀ chunk ∈ lane.inFlight, writer.held.take chunk.length = chunk := by
  induction events using List.reverseRecOn generalizing writer with
  | nil =>
      cases ran
      exact ⟨.reading, rfl, idle.le, by simp [Lane.inFlight]⟩
  | append_singleton events event ih =>
      rw [run_concat, Option.bind_eq_some_iff] at ran
      obtain ⟨before, ran, stepped⟩ := ran
      rw [laneEvents_append] at spaced ⊢
      obtain ⟨lane, run, small, holds⟩ := ih ran spaced.of_append
      cases event with
      | given chunk =>
          cases stepped
          -- All chunks before are out, so no write is under way.
          have count := spaced.all
          rw [Lane.received_append, Lane.delivered_append, Lane.conservation run] at count
          obtain rfl : lane = .reading := by
            cases lane with
            | reading => rfl
            | writing chunk' =>
                simp [laneEvents, laneEvent, Lane.received, Lane.delivered, Lane.inFlight] at count
          have none : before.underWay = 0 := Multiset.le_zero.mp small
          refine ⟨.writing chunk, Lane.run_receive run chunk, ?_, ?_⟩
          · simp [none, Lane.inFlight]
          · simp [Lane.inFlight]
      | done size out =>
          obtain ⟨busy, puts, rfl⟩ := step_done stepped
          have own := Multiset.mem_of_le small busy
          cases lane with
          | reading => simp [Lane.inFlight] at own
          | writing chunk =>
              obtain rfl : size = chunk.length := by simpa [Lane.inFlight] using own
              have last : before.underWay.erase chunk.length = 0 := by
                have fewer := Multiset.erase_le_erase chunk.length small
                exact Multiset.le_zero.mp (by simpa [Lane.inFlight] using fewer)
              rcases puts with rfl | rfl
              · refine ⟨.writing chunk, (congrArg Lane.run (List.append_nil _)).trans run, ?_,
                  holds⟩
                rw [last]
                exact Multiset.zero_le _
              · rw [holds chunk (List.mem_singleton_self _)]
                exact ⟨.reading, Lane.run_deliver run, last.le, by simp [Lane.inFlight]⟩

end

end Writer

end AmgiNetTools
