/-
Module: AmgiNetTools.Library.Queries
Layer: Library
Purpose: Programs that ask for values by index, one after the other, and may let the next question
  depend on the answers. A program depends on nothing but the answers it asked for.
Main exports: Queries, Queries.run, Queries.asked, Queries.run_congr
-/
import Mathlib.Data.List.Basic

namespace AmgiNetTools

/-- A program that asks for values of type `β` by an index of type `ι`. -/
inductive Queries (ι β α : Type) where
  | done (value : α)
  | ask (index : ι) (next : β → Queries ι β α)

namespace Queries

variable {ι β α : Type}

/-- The result, when `answer` answers. -/
def run (answer : ι → β) : Queries ι β α → α
  | done value => value
  | ask index next => (next (answer index)).run answer

/-- The indices it asks for. -/
def asked (answer : ι → β) : Queries ι β α → List ι
  | done _ => []
  | ask index next => index :: (next (answer index)).asked answer

variable {answer answer' : ι → β}

@[simp] theorem run_done (value : α) : (done value : Queries ι β α).run answer = value := rfl

@[simp] theorem run_ask (index : ι) (next : β → Queries ι β α) :
    (ask index next).run answer = (next (answer index)).run answer := rfl

@[simp] theorem asked_done (value : α) : (done value : Queries ι β α).asked answer = [] := rfl

@[simp] theorem asked_ask (index : ι) (next : β → Queries ι β α) :
    (ask index next).asked answer = index :: (next (answer index)).asked answer := rfl

/-- Only the answers that were asked for matter. -/
theorem run_congr {program : Queries ι β α}
    (same : ∀ index ∈ program.asked answer, answer' index = answer index) :
    program.run answer' = program.run answer ∧ program.asked answer' = program.asked answer := by
  induction program with
  | done value => exact ⟨rfl, rfl⟩
  | ask index next ih =>
      rw [asked_ask, List.forall_mem_cons] at same
      rw [run_ask, run_ask, asked_ask, asked_ask, same.1]
      obtain ⟨result, questions⟩ := ih (answer index) same.2
      exact ⟨result, by rw [questions]⟩

end Queries

end AmgiNetTools
