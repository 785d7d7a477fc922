/-
Module: AmgiNetTools.Session.Conversation
Layer: Session
Purpose: The shape every conversation has. A session is live, in one of the phases of its protocol,
  until a completion stops it; from then on its history only gets the completions of what was still
  outstanding. A protocol supplies its phases and what one completion does in each; the rule of the
  module extends that to all runs.
Main exports: writes, connectLine, IsLate, Snapshot.Conversed, Snapshot.conversed_of_reachable,
  Script
-/
import AmgiNetTools.Session.Tasks

namespace AmgiNetTools

variable {μ : Type}

/-! ### What a history shows -/

/-- The buffer a line hands to `write` on the stream at one end. -/
def written (side : Side) : Side × Happening μ → Option IoBuffer
  | (side', .called (.write buffer)) => if side' = side then some buffer else none
  | _ => none

/-- The buffers handed to `write` on the stream at one end, in order. -/
def writes (side : Side) (history : History μ) : List IoBuffer :=
  history.filterMap (written side)

/-- The call that starts a connect. -/
def connectLine : Side × Happening μ := (.client, .called .start)

/-- The completion of an operation whose session is gone. -/
def IsLate (line : Side × Happening μ) : Prop :=
  ∃ side op ec bytes, line = (side, .completed op ec bytes none)

theorem writes_append (side : Side) (first second : History μ) :
    writes side (first ++ second) = writes side first ++ writes side second :=
  List.filterMap_append

@[simp] theorem writes_nil (side : Side) : writes side ([] : History μ) = [] := rfl

@[simp] theorem writes_completed (side side' : Side) (op : AsyncOp) (ec : ErrorCode)
    (bytes : IoBuffer) (found : Option μ) (history : History μ) :
    writes side ((side', .completed op ec bytes found) :: history) = writes side history := rfl

@[simp] theorem writes_write (side side' : Side) (buffer : IoBuffer) (history : History μ) :
    writes side ((side', .called (.write buffer)) :: history) =
      (if side' = side then [buffer] else []) ++ writes side history := by
  by_cases same : side' = side <;> simp [writes, written, same]

@[simp] theorem writes_read (side side' : Side) (history : History μ) :
    writes side ((side', .called .read) :: history) = writes side history := rfl

@[simp] theorem writes_start (side side' : Side) (history : History μ) :
    writes side ((side', .called .start) :: history) = writes side history := rfl

@[simp] theorem writes_setHost (side side' : Side) (host : Text) (history : History μ) :
    writes side ((side', .called (.setHost host)) :: history) = writes side history := rfl

@[simp] theorem writes_setService (side side' : Side) (service : Text) (history : History μ) :
    writes side ((side', .called (.setService service)) :: history) = writes side history := rfl

@[simp] theorem writes_stopLines (side : Side) : writes side (stopLines : History μ) = [] := rfl

theorem writes_late (side : Side) {late : History μ} (isLate : ∀ line ∈ late, IsLate line) :
    writes side late = [] := by
  refine List.filterMap_eq_nil_iff.mpr fun line member => ?_
  obtain ⟨side', op, ec, bytes, rfl⟩ := isLate line member
  rfl

/-! ### Live until stopped -/

namespace Snapshot

variable {snapshot : Snapshot μ}

/-- A session waits for one operation only. -/
theorem Performs.only {side side' : Side} {task : Task} {op : AsyncOp}
    (performs : snapshot.Performs {(side', task)})
    (pending : op ∈ (snapshot.streams side).pending) :
    side = side' ∧ op = task.op := by
  obtain ⟨task', rest, split, rfl⟩ := performs.exists_task pending
  have member : (side, task') ∈ ({(side', task)} : Multiset (Side × Task)) :=
    split ▸ Multiset.mem_cons_self _ _
  cases Multiset.mem_singleton.mp member
  exact ⟨rfl, rfl⟩

/-- A session is live, or it was stopped when it was `last`. -/
inductive Conversed (Live Stopped : Snapshot μ → Prop) (snapshot : Snapshot μ) : Prop where
  | live (holds : Live snapshot)
  | ended (gone : snapshot.Ended) (last : Snapshot μ) (stopped : Stopped last) (late : History μ)
      (grown : snapshot.history = last.history ++ late) (isLate : ∀ line ∈ late, IsLate line)
      (exclusive : last.Exclusive → snapshot.Exclusive)

/-- What one completion does to a live session tells what every run does. -/
theorem conversed_of_reachable [ReactiveState μ] {Live Stopped : Snapshot μ → Prop} {tls : Bool}
    {id : Int32} (start : Live (accepted tls id))
    (step : ∀ (snapshot next : Snapshot μ) (side : Side) (op : AsyncOp) (completion : Completion),
      Live snapshot → op ∈ (snapshot.streams side).pending →
      snapshot.complete tls side op completion = .ok next →
      Live next ∨ (next.Ended ∧ Stopped next))
    (reachable : Reachable tls id snapshot) : snapshot.Conversed Live Stopped := by
  induction reachable with
  | start => exact .live start
  | step _ pending _ finished earlier =>
      cases earlier with
      | live holds =>
          obtain ⟨live⟩ | ⟨gone, stopped⟩ := step _ _ _ _ _ holds pending finished
          · exact .live live
          · exact .ended gone _ stopped [] (by simp) (by simp) fun exclusive => exclusive
      | ended gone last stopped late grown isLate exclusive =>
          obtain ⟨gone', exclusive', bytes, history⟩ := ended_complete gone pending finished
          refine .ended gone' last stopped (late ++ [_])
            (by rw [history, grown,
              List.append_assoc]) ?_ fun before => exclusive' (exclusive before)
          intro line member
          rcases List.mem_append.mp member with member | member
          · exact isLate line member
          · exact ⟨_, _, _, _, List.mem_singleton.mp member⟩

end Snapshot

/-! ### Phases -/

/-- The phases of a protocol: what a session holds in each, what it waits for, and all that has
    happened by then. -/
structure Script (μ : Type) (Phase : Type) where
  state : Phase → μ
  context : Int32 → Phase → SessionContext
  tasks : Phase → Multiset (Side × Task)
  transcript : Bool → Phase → History μ

namespace Script

variable {Phase : Type} (script : Script μ Phase) (tls : Bool) (id : Int32)

/-- A session is in a phase. -/
structure InPhase (phase : Phase) (snapshot : Snapshot μ) : Prop where
  session : snapshot.session = some ⟨script.context id phase, script.state phase⟩
  performs : snapshot.Performs (script.tasks phase)
  history : snapshot.history = script.transcript tls phase

variable [ReactiveState μ]

/-- A session was stopped just now, by the completion of something it waited for. The handler made
    `requests` before it stopped. -/
structure StoppedIn (phase : Phase) (requests : List Request) (snapshot : Snapshot μ) : Prop where
  exclusive : snapshot.Exclusive
  cause : ∃ side task completion event, (side, task) ∈ script.tasks phase ∧
    side.upshot task.op completion = .report event ∧
    ReactiveState.reaction ⟨script.context id phase, script.state phase⟩ event =
      .ok ⟨requests, none⟩ ∧
    snapshot.history = script.transcript tls phase ++
      Snapshot.done side task completion (some (script.state phase)) ::
        (calledLines requests ++ stopLines)

variable {script} {tls} {id} {snapshot next : Snapshot μ} {phase phase' : Phase}
  {side : Side} {task : Task} {completion : Completion} {event : SessionEvent}
  {requests : List Request}

omit [ReactiveState μ] in
theorem InPhase.alone (within : script.InPhase tls id phase snapshot)
    (lone : script.tasks phase = {(side, task)}) : snapshot.Performs ((side, task) ::ₘ 0) := by
  rw [Multiset.cons_zero, ← lone]
  exact within.performs

/-- The handler of a lone task stops the session, perhaps after some requests. -/
theorem InPhase.stop (within : script.InPhase tls id phase snapshot)
    (lone : script.tasks phase = {(side, task)})
    (raised : side.upshot task.op completion = .report event)
    (stops : ReactiveState.reaction ⟨script.context id phase, script.state phase⟩ event =
      .ok ⟨requests, none⟩)
    (fit : Snapshot.Fit requests 0)
    (transfers : ∀ entry ∈ Snapshot.started requests 0, entry.2.IsTransfer)
    (few : (Snapshot.started requests 0).card ≤ 1)
    (finished : snapshot.complete tls side task.op completion = .ok next) :
    next.Ended ∧ script.StoppedIn tls id phase requests next := by
  obtain ⟨ended, exclusive, history⟩ := Snapshot.performs_stop (within.alone lone) within.session
    raised stops fit transfers finished
  refine ⟨ended, exclusive few, side, task, completion, event, ?_, raised, stops, ?_⟩
  · simp [lone]
  · rw [history, within.history]

/-- The handler of a lone task takes the session to another phase. -/
theorem InPhase.goOn (within : script.InPhase tls id phase snapshot)
    (lone : script.tasks phase = {(side, task)})
    (raised : side.upshot task.op completion = .report event)
    (goesOn : ReactiveState.reaction ⟨script.context id phase, script.state phase⟩ event =
      .ok ⟨requests, some ⟨script.context id phase', script.state phase'⟩⟩)
    (fit : Snapshot.Fit requests 0)
    (started : Snapshot.started requests 0 = script.tasks phase')
    (transcript : script.transcript tls phase' = script.transcript tls phase ++
      Snapshot.done side task completion (some (script.state phase)) :: calledLines requests)
    (finished : snapshot.complete tls side task.op completion = .ok next) :
    script.InPhase tls id phase' next := by
  obtain ⟨session, performs, history⟩ := Snapshot.performs_complete (within.alone lone)
    within.session raised goesOn fit finished
  exact ⟨session, started ▸ performs, by rw [history, transcript, within.history]⟩

/-- The stream of a lone task goes on by itself. -/
theorem InPhase.proceed (task task' : Task) (within : script.InPhase tls id phase snapshot)
    (lone : script.tasks phase = {(side, task)})
    (raised : side.upshot task.op completion = .proceed (StreamState.initiate task'.op))
    (reads : ∀ bytes, task' ≠ .write bytes) (lone' : script.tasks phase' = {(side, task')})
    (context : script.context id phase' = script.context id phase)
    (state : script.state phase' = script.state phase)
    (transcript : script.transcript tls phase' = script.transcript tls phase ++
      [Snapshot.done side task completion (some (script.state phase))])
    (finished : snapshot.complete tls side task.op completion = .ok next) :
    script.InPhase tls id phase' next := by
  obtain ⟨session, performs, history⟩ := Snapshot.performs_proceed (within.alone lone)
    within.session raised reads finished
  refine ⟨?_, ?_, ?_⟩
  · rw [session, context, state]
  · rw [lone']
    exact performs
  · rw [history, transcript, within.history]

end Script

end AmgiNetTools
