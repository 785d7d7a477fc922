/-
Module: AmgiNetTools.Library.Tickets
Layer: Library
Purpose: Numbers drawn from a counter that is seen modulo a span. Among the numbers drawn less than
  one span ago no two look alike, and a number leaves that window only by growing one span old.
Main exports: Recent, Recent.draw, Recent.eq_of_mod_eq
-/
import Mathlib.Data.Nat.ModEq

namespace AmgiNetTools

/-- A number that was drawn less than `span` draws ago. -/
structure Recent (span drawn ticket : Nat) : Prop where
  is_drawn : ticket ≤ drawn
  is_recent : drawn < ticket + span

namespace Recent

variable {span drawn ticket first second : Nat}

/-- The last number drawn. -/
theorem last (positive : 0 < span) : Recent span drawn drawn :=
  ⟨le_rfl, Nat.lt_add_of_pos_right positive⟩

/-- One more draw leaves a number recent, unless it is one span old then. -/
theorem draw (recent : Recent span drawn ticket) (young : ticket + span ≠ drawn + 1) :
    Recent span (drawn + 1) ticket := by
  obtain ⟨isDrawn, isRecent⟩ := recent
  constructor
  · exact Nat.le_succ_of_le isDrawn
  · omega

/-- Recent numbers that look alike are the same. -/
theorem eq_of_mod_eq (recent : Recent span drawn first) (recent' : Recent span drawn second)
    (alike : first % span = second % span) : first = second := by
  have alike : first ≡ second [MOD span] := alike
  obtain ⟨isDrawn, isRecent⟩ := recent
  obtain ⟨isDrawn', isRecent'⟩ := recent'
  rcases le_total first second with before | after
  · exact Nat.ModEq.eq_of_abs_lt alike (by rw [abs_lt]; constructor <;> omega)
  · exact Nat.ModEq.eq_of_abs_lt alike (by rw [abs_lt]; constructor <;> omega)

end Recent

end AmgiNetTools
