/-
Module: AmgiNetTools.Library.Runs
Layer: Library
Purpose: Runs of a machine that handles a list of events and may fail on one. The two rules of the
  module are the invariant rule and the projection rule: when every event acts on the part of the
  state its key names, and on that part alone, running only the events of one key from its part of
  the state gives exactly that part of the full run. `Trail` are the runs of a machine that may go
  several ways, with the variant rule. The assembling rule is a converse of projection: it puts runs
  of the parts together. A run also leaves a history; `Always` is what holds of every line of a
  history, given the lines before it.
Main exports: Runs.run, Runs.run_append_ok, Runs.run_eq_error_iff, Runs.run_invariant,
  Runs.run_project, Runs.Trail, Runs.Trail.countP_add_le, Runs.assemble, Always
-/
import Mathlib.Data.List.Basic

namespace AmgiNetTools.Runs

variable {ε σ φ κ : Type}

/-- Handle the events in order, until one fails. -/
def run (step : ε → σ → Except φ σ) : List ε → σ → Except φ σ
  | [], state => .ok state
  | event :: events, state =>
      match step event state with
      | .ok next => run step events next
      | .error fault => .error fault

variable {step : ε → σ → Except φ σ}

@[simp] theorem run_nil (state : σ) : run step [] state = .ok state := rfl

theorem run_cons_ok {event : ε} {events : List ε} {state final : σ}
    (ran : run step (event :: events) state = .ok final) :
    ∃ next, step event state = .ok next ∧ run step events next = .ok final := by
  cases stepped : step event state with
  | error fault => simp [run, stepped] at ran
  | ok next => exact ⟨next, rfl, by simpa [run, stepped] using ran⟩

theorem run_cons {event : ε} {events : List ε} {state next : σ}
    (stepped : step event state = .ok next) :
    run step (event :: events) state = run step events next := by
  simp [run, stepped]

theorem run_append_ok {first second : List ε} {state final : σ} :
    run step (first ++ second) state = .ok final ↔
      ∃ middle, run step first state = .ok middle ∧ run step second middle = .ok final := by
  induction first generalizing state with
  | nil => simp
  | cons event events ih =>
      cases stepped : step event state with
      | error fault => simp [run, stepped]
      | ok next => simpa [run, stepped] using ih

/-- A run fails with the first event that fails. -/
theorem run_eq_error_iff {events : List ε} {state : σ} {fault : φ} :
    run step events state = .error fault ↔
      ∃ past event future middle, events = past ++ event :: future ∧
        run step past state = .ok middle ∧ step event middle = .error fault := by
  constructor
  · intro failed
    induction events generalizing state with
    | nil => cases failed
    | cons event events ih =>
        cases stepped : step event state with
        | error fault' =>
            rw [run, stepped] at failed
            cases failed
            exact ⟨[], event, events, state, rfl, rfl, stepped⟩
        | ok next =>
            rw [run_cons stepped] at failed
            obtain ⟨past, event', future, middle, split, ran, faulty⟩ := ih failed
            exact ⟨event :: past, event', future, middle, by rw [split, List.cons_append],
              (run_cons stepped).trans ran, faulty⟩
  · rintro ⟨past, event, future, middle, rfl, ran, faulty⟩
    induction past generalizing state with
    | nil =>
        cases ran
        simp [run, faulty]
    | cons first past ih =>
        obtain ⟨next, stepped, rest⟩ := run_cons_ok ran
        rw [List.cons_append, run_cons stepped]
        exact ih rest

/-- What every event preserves holds after every run. -/
theorem run_invariant {P : σ → Prop}
    (preserved : ∀ event state next, step event state = .ok next → P state → P next)
    {events : List ε} {state final : σ} (ran : run step events state = .ok final)
    (holds : P state) : P final := by
  induction events generalizing state with
  | nil =>
      cases ran
      exact holds
  | cons event events ih =>
      obtain ⟨next, stepped, rest⟩ := run_cons_ok ran
      exact ih rest (preserved event state next stepped holds)

/-- Running only the events of one key, from that key's part of the state. `I` is an invariant that
    keeps the parts apart. -/
theorem run_project [DecidableEq κ] (key : ε → κ) (part : κ → σ → σ) (I : σ → Prop) (k : κ)
    (preserved : ∀ event state next, step event state = .ok next → I state → I next)
    (other : ∀ event state next, step event state = .ok next → I state → key event ≠ k →
      part k next = part k state)
    (own : ∀ event state next, step event state = .ok next → I state → key event = k →
      step event (part k state) = .ok (part k next))
    {events : List ε} {state final : σ} (ran : run step events state = .ok final)
    (holds : I state) :
    run step (events.filter fun event => key event = k) (part k state) = .ok (part k final) := by
  induction events generalizing state with
  | nil =>
      cases ran
      rfl
  | cons event events ih =>
      obtain ⟨next, stepped, rest⟩ := run_cons_ok ran
      have tail := ih rest (preserved event state next stepped holds)
      by_cases mine : key event = k
      · rw [List.filter_cons_of_pos (by simpa using mine),
          run_cons (own event state next stepped holds mine)]
        exact tail
      · rw [List.filter_cons_of_neg (by simpa using mine),
          ← other event state next stepped holds mine]
        exact tail

/-- Some events in order, each a step of a machine that may go several ways. -/
inductive Trail (step : ε → σ → σ → Prop) : List ε → σ → σ → Prop where
  | nil (state : σ) : Trail step [] state state
  | concat {events : List ε} {event : ε} {first middle last : σ} : Trail step events first middle →
      step event middle last → Trail step (events ++ [event]) first last

/-- The variant rule: when the steps of some events lower a measure and no step raises it, a trail
    has no more of these events than the measure allows. -/
theorem Trail.countP_add_le {step : ε → σ → σ → Prop} {I : σ → Prop} {p : ε → Bool}
    {measure : σ → Nat} (preserved : ∀ event state next, step event state next → I state → I next)
    (lowers : ∀ event state next, step event state next → I state → p event = true →
      measure next < measure state)
    (keeps : ∀ event state next, step event state next → I state → p event = false →
      measure next ≤ measure state)
    {events : List ε} {first last : σ} (trail : Trail step events first last) (holds : I first) :
    I last ∧ events.countP p + measure last ≤ measure first := by
  induction trail with
  | nil state => exact ⟨holds, by simp⟩
  | @concat events event first middle last _ stepped ih =>
      obtain ⟨middleHolds, bound⟩ := ih holds
      refine ⟨preserved event middle last stepped middleHolds, ?_⟩
      rw [List.countP_append, List.countP_singleton]
      cases own : p event with
      | true =>
          have less := lowers event middle last stepped middleHolds own
          simp only [if_true]
          omega
      | false =>
          have kept := keeps event middle last stepped middleHolds own
          simp only [Bool.false_eq_true, if_false]
          omega

/-- The assembling rule: what can be brought about for each of some keys without spoiling it for the
    others can be brought about for all of them. -/
theorem assemble {Reach : σ → Prop} {Fresh Done : κ → σ → Prop} {keys : List κ}
    (distinct : keys.Nodup)
    (one : ∀ key ∈ keys, ∀ state, Reach state → Fresh key state →
      ∃ next, Reach next ∧ Done key next ∧ ∀ other ∈ keys, other ≠ key →
        (Fresh other state → Fresh other next) ∧ (Done other state → Done other next))
    {state : σ} (reach : Reach state) (fresh : ∀ key ∈ keys, Fresh key state) :
    ∃ next, Reach next ∧ ∀ key ∈ keys, Done key next := by
  have several (todo : List κ) (within : todo ⊆ keys) (distinct : todo.Nodup) (state : σ)
      (reach : Reach state) (fresh : ∀ key ∈ todo, Fresh key state) :
      ∃ next, Reach next ∧ (∀ key ∈ todo, Done key next) ∧
        ∀ other ∈ keys, other ∉ todo → Done other state → Done other next := by
    induction todo generalizing state with
    | nil =>
        refine ⟨state, reach, ?_, fun _ _ _ done => done⟩
        intro key member
        cases member
    | cons key todo ih =>
        obtain ⟨absent, distinct⟩ := List.nodup_cons.mp distinct
        obtain ⟨here, within⟩ := List.cons_subset.mp within
        rw [List.forall_mem_cons] at fresh
        have apart (other : κ) (member : other ∈ todo) : other ≠ key := by
          rintro rfl
          exact absent member
        obtain ⟨middle, reach, done, alone⟩ := one key here state reach fresh.1
        obtain ⟨next, reach, rest, kept⟩ := ih within distinct middle reach fun other member =>
          (alone other (within member) (apart other member)).1 (fresh.2 other member)
        refine ⟨next, reach, ?_, ?_⟩
        · rw [List.forall_mem_cons]
          exact ⟨kept key here absent done, rest⟩
        · intro other member outside before
          rw [List.mem_cons, not_or] at outside
          exact kept other member outside.2 ((alone other member outside.1).2 before)
  obtain ⟨next, reach, done, -⟩ := several keys (List.Subset.refl keys) distinct state reach fresh
  exact ⟨next, reach, done⟩

end AmgiNetTools.Runs

namespace AmgiNetTools

variable {α : Type}

/-- Every line of a history satisfies `P`, which also sees the lines before it. -/
def Always (P : List α → α → Prop) (history : List α) : Prop :=
  ∀ past line future, history = past ++ line :: future → P past line

namespace Always

variable {P Q : List α → α → Prop} {line : α} {first second history : List α}

@[simp] theorem nil : Always P [] := by
  intro past line future split
  simp at split

@[simp] theorem cons_iff :
    Always P (line :: history) ↔ P [] line ∧ Always (fun past => P (line :: past)) history := by
  constructor
  · intro always
    refine ⟨always [] line history rfl, fun past line' future split => ?_⟩
    exact always (line :: past) line' future (by rw [split, List.cons_append])
  · rintro ⟨here, later⟩ past line' future split
    cases past with
    | nil =>
        cases split
        exact here
    | cons head past =>
        cases split
        exact later past line' future rfl

@[simp] theorem append_iff :
    Always P (first ++ second) ↔
      Always P first ∧ Always (fun past => P (first ++ past)) second := by
  induction first generalizing P with
  | nil => simp
  | cons line first ih => simp [ih, and_assoc]

theorem of_forall (holds : ∀ past, ∀ line ∈ history, P past line) : Always P history := by
  rintro past line future rfl
  exact holds past line (by simp)

theorem imp (always : Always P history) (weaker : ∀ past line, P past line → Q past line) :
    Always Q history :=
  fun past line future split => weaker past line (always past line future split)

end Always

end AmgiNetTools
