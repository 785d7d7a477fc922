/-
Module: AmgiNetTools.Session.Realize
Layer: Session
Purpose: The converse of `World.snapshot_reachable`. Whatever a session can come to by itself it
  comes to in the run of some server, so the phases of a protocol that are entered by the steps of
  this module are phases some peer and some remote bring about. A phase is entered with every
  history it can have whose reads bring what a read can bring.
Main exports: World.extend_of_snapshot, World.present_of_snapshot, ReadsFit,
  readsFit_of_reachable, Script.Entered, Script.Entered.goOn, Script.Entered.proceed,
  Relay.entered_of_readsFit
-/
import AmgiNetTools.Session.Returns
import AmgiNetTools.Session.Wire
import AmgiNetTools.Session.Advance

namespace AmgiNetTools

variable {μ : Type} [ReactiveState μ]

/-! ### Sessions of a server -/

namespace World

variable {upstream : ServerStream} {world : World μ} {side : Side} {op : AsyncOp}
  {completion : Completion}

/-- The entry of the id of an accepted stream is that of its session. -/
theorem entry_of_accepted (reachable : Reachable world) (accepted : world.Accepted upstream) :
    world.Entry upstream := by
  cases located_of_reachable reachable upstream.id with
  | unused _ _ silent => exact absurd rfl (silent _ accepted)
  | used upstream' mine _ entry _ _ silent =>
      exact upstream.eq_of_isSome_sideOf (silent _ accepted rfl) ▸ entry

/-- The server does what the session does by itself. -/
theorem finish_of_complete {next : Snapshot μ} (entry : world.Entry upstream)
    (completed : (world.snapshot upstream).complete upstream.tls side op completion = .ok next) :
    ∃ world', world.finish (upstream.endpoint side) op completion = .ok world' ∧
      world'.snapshot upstream = next := by
  cases done : world.finish (upstream.endpoint side) op completion with
  | ok world' =>
      have same := (snapshot_finish entry done).symm.trans completed
      exact ⟨world', rfl, Except.ok.inj same⟩
  | error fault =>
      -- The session would fail as well.
      obtain ⟨event, pair, raised, present, faulty⟩ := apply_eq_error_iff.mp done
      rw [ServerStream.side_endpoint] at raised
      rw [ServerStream.id_endpoint] at present
      have alive : ((world.snapshot upstream).retire side op completion).session =
          some pair.session := by
        simp only [Snapshot.retire, Snapshot.modifyStream, snapshot]
        exact congrArg (Option.map SessionPair.session) present
      rw [Snapshot.complete, Snapshot.apply, raised, alive] at completed
      simp [faulty, Except.map] at completed

/-- Whatever a session can come to by itself it can come to in a server that goes on, while the
    others wait. -/
theorem extend_of_snapshot {snapshot : Snapshot μ} (reachable : AmgiNetTools.Reachable world)
    (silent : ∀ record ∈ world.history, record.stream.id ≠ upstream.id)
    (alone : Snapshot.Reachable upstream.tls upstream.id snapshot) :
    ∃ next : World μ, AmgiNetTools.Reachable next ∧ next.Accepted upstream ∧
      next.snapshot upstream = snapshot ∧
      ∀ id ≠ upstream.id, next.restrict id = world.restrict id := by
  induction alone with
  | start =>
      cases located_of_reachable reachable upstream.id with
      | used upstream' mine known => exact absurd mine (silent _ known)
      | unused absent idle =>
          have foreign : ∀ record ∈ world.history, upstream.sideOf record.stream = none := by
            intro record member
            by_contra shared
            obtain ⟨side, found⟩ := Option.ne_none_iff_exists'.mp shared
            refine silent record member ?_
            rw [(upstream.sideOf_eq_some side).mp found, ServerStream.id_endpoint]
          have enabled : (IoEvent.accept upstream).Enabled world := silent
          refine ⟨_, reachable.step ⟨.accept upstream, enabled, perform_accept upstream⟩, ?_,
            snapshot_accept absent (fun side => idle _ (upstream.id_endpoint side)) foreign,
            fun id other => restrict_accept_other other.symm⟩
          rw [accept_eq absent]
          simp [Accepted, invoke, ServerStream.endpoint]
  | @step snapshot next side op completion _ pending fits completed ih =>
      obtain ⟨world, reachable, accepted, rfl, alone⟩ := ih
      have coherent := coherent_of_reachable reachable
      obtain ⟨world', finished, same⟩ :=
        finish_of_complete (entry_of_accepted reachable accepted) completed
      have done : (IoEvent.complete (upstream.endpoint side) op completion).perform.run world =
          .ok ((), world') := by
        rw [perform_complete _ _ _ coherent, finished]
        rfl
      have enabled : (IoEvent.complete (upstream.endpoint side) op completion).Enabled world :=
        ⟨pending, fits⟩
      refine ⟨world', reachable.step ⟨_, enabled, done⟩,
        accepted_grows reachable done accepted, same, fun id other => ?_⟩
      rw [← alone id other]
      exact restrict_finish_other coherent finished (by simpa using other.symm)

/-- Every snapshot of a session by itself is that of a session of a server. -/
theorem exists_of_snapshot {snapshot : Snapshot μ}
    (alone : Snapshot.Reachable upstream.tls upstream.id snapshot) :
    ∃ world : World μ, AmgiNetTools.Reachable world ∧ world.Accepted upstream ∧
      world.snapshot upstream = snapshot := by
  have silent : ∀ record ∈ (empty : World μ).history, record.stream.id ≠ upstream.id := by
    intro record member
    cases member
  obtain ⟨world, reachable, accepted, same, -⟩ := extend_of_snapshot .start silent alone
  exact ⟨world, reachable, accepted, same⟩

/-- A server has the session of every such snapshot in its map. -/
theorem present_of_snapshot {snapshot : Snapshot μ} {session : Session μ} {history : History μ}
    (alone : Snapshot.Reachable upstream.tls upstream.id snapshot)
    (alive : snapshot.session = some session) (told : snapshot.history = history) :
    ∃ world : World μ, AmgiNetTools.Reachable world ∧
      world.sessions upstream.id = some (upstream.pair session) ∧
      world.conversation upstream = history := by
  obtain ⟨world, reachable, accepted, rfl⟩ := exists_of_snapshot alone
  obtain ⟨pair, present, state⟩ := Option.map_eq_some_iff.mp alive
  have shape := entry_of_accepted reachable accepted pair present
  rw [state] at shape
  exact ⟨world, reachable, present.trans (congrArg some shape), told⟩

end World

/-! ### What is read -/

/-- Every read of a history has brought some bytes, and no more than its buffer holds. -/
def ReadsFit (history : History μ) : Prop :=
  ∀ side, ∀ bytes ∈ arrivals side history, 0 < bytes.length ∧ bytes.length ≤ maxBufferSize

section

variable {tls : Bool} {id : Int32} {side : Side} {op : AsyncOp} {completion : Completion}
  {snapshot next : Snapshot μ}

omit [ReactiveState μ] in
theorem readsFit_append {first second : History μ} :
    ReadsFit (first ++ second) ↔ ReadsFit first ∧ ReadsFit second := by
  simp only [ReadsFit, arrivals_append, List.forall_mem_append]
  exact forall_and

/-- A session that is gone stays gone. -/
theorem session_of_complete (finished : snapshot.complete tls side op completion = .ok next)
    (alive : next.session ≠ none) : ∃ session, snapshot.session = some session := by
  cases found : snapshot.session with
  | some session => exact ⟨session, rfl⟩
  | none =>
      have gone : (snapshot.retire side op completion).session = none := found
      rw [Snapshot.complete, Snapshot.apply, gone] at finished
      split at finished
      · next same => cases same
      · cases finished
        exact absurd gone alive

omit [ReactiveState μ] in
theorem arrivals_called (side : Side) (calls : List (Side × StreamCall)) :
    arrivals side (calls.map fun call => ((call.1, .called call.2) : Side × Happening μ)) = [] := by
  refine List.filterMap_eq_nil_iff.mpr fun line member => ?_
  obtain ⟨call, -, rfl⟩ := List.mem_map.mp member
  rfl

/-- What arrives with a completion is what it has read. -/
theorem arrivals_complete (finished : snapshot.complete tls side op completion = .ok next)
    (end_ : Side) : arrivals end_ next.history = arrivals end_ snapshot.history ++
      arrivals end_ [(side, snapshot.completed side op completion)] := by
  obtain ⟨-, grown⟩ | ⟨event, session, outcome, -, -, -, grown⟩ := Snapshot.complete_cases finished
  · rw [grown, arrivals_append]
  · rw [grown, ← List.singleton_append, arrivals_append, arrivals_append, arrivals_called,
      List.append_nil]

omit [ReactiveState μ] in
theorem readsFit_completed (fits : completion.Fits op) :
    ReadsFit [(side, snapshot.completed side op completion)] := by
  intro end_ bytes member
  obtain ⟨line, same, read⟩ := List.mem_filterMap.mp member
  cases List.mem_singleton.mp same
  cases op with
  | read =>
      simp only [Snapshot.completed, arrival] at read
      split at read
      · next good =>
          cases read
          have moved :
              (snapshot.streams side).moved .read completion = completion.buffer.bytes := by
            simp [StreamState.moved, good.2]
          rw [moved]
          exact fits rfl good.2
      · cases read
  | _ => cases read

/-- The reads of every session fit. -/
theorem readsFit_of_reachable (reachable : Snapshot.Reachable tls id snapshot) :
    ReadsFit snapshot.history := by
  induction reachable with
  | start =>
      intro side bytes member
      cases member
  | step _ _ fits finished earlier =>
      intro side bytes member
      rw [arrivals_complete finished, List.mem_append] at member
      exact member.elim (earlier side bytes) (readsFit_completed fits side bytes)

end

/-! ### Phases that are entered -/

namespace Script

variable {Phase : Type} (script : Script μ Phase) (tls : Bool) (id : Int32)

/-- Some run of a session leads into a phase. -/
def Entered (phase : Phase) : Prop :=
  ∃ snapshot, Snapshot.Reachable tls id snapshot ∧ script.InPhase tls id phase snapshot

variable {script} {tls} {id} {phase phase' : Phase} {side : Side} {event : SessionEvent}

/-- The handler of a lone task leads into another phase. -/
theorem Entered.goOn (requests : List Request) (task : Task) (completion : Completion)
    (entered : script.Entered tls id phase) (lone : script.tasks phase = {(side, task)})
    (fits : completion.Fits task.op) (raised : side.upshot task.op completion = .report event)
    (goesOn : ReactiveState.reaction ⟨script.context id phase, script.state phase⟩ event =
      .ok ⟨requests, some ⟨script.context id phase', script.state phase'⟩⟩)
    (fit : Snapshot.Fit requests 0)
    (started : Snapshot.started requests 0 = script.tasks phase')
    (transcript : script.transcript tls phase' = script.transcript tls phase ++
      Snapshot.done side task completion (some (script.state phase)) :: calledLines requests) :
    script.Entered tls id phase' := by
  obtain ⟨snapshot, reachable, within⟩ := entered
  have pending := (within.alone lone).mem_pending (Multiset.mem_cons_self _ _)
  have finished := @Snapshot.complete_report μ snapshot side task.op _ tls completion _ _ _
    within.session raised goesOn
  exact ⟨_, reachable.step pending fits finished,
    within.goOn lone raised goesOn fit started transcript finished⟩

/-- The stream of a lone task goes on by itself, into another phase. -/
theorem Entered.proceed (task task' : Task) (completion : Completion)
    (entered : script.Entered tls id phase) (lone : script.tasks phase = {(side, task)})
    (fits : completion.Fits task.op)
    (raised : side.upshot task.op completion = .proceed (StreamState.initiate task'.op))
    (reads : ∀ bytes, task' ≠ .write bytes) (lone' : script.tasks phase' = {(side, task')})
    (context : script.context id phase' = script.context id phase)
    (state : script.state phase' = script.state phase)
    (transcript : script.transcript tls phase' = script.transcript tls phase ++
      [Snapshot.done side task completion (some (script.state phase))]) :
    script.Entered tls id phase' := by
  obtain ⟨snapshot, reachable, within⟩ := entered
  have pending := (within.alone lone).mem_pending (Multiset.mem_cons_self _ _)
  have finished : snapshot.complete tls side task.op completion =
      .ok ((snapshot.retire side task.op completion).modifyStream side
        (StreamState.initiate task'.op)) := by
    rw [Snapshot.complete, raised]
    rfl
  exact ⟨_, reachable.step pending fits finished,
    within.proceed task task' lone raised reads lone' context state transcript finished⟩

end Script

/-! ### Transfers -/

namespace Relay

variable [DecidableEq μ] {mode : μ}

/-- Some run of a session leads into a transfer that began after `early`. -/
def Entered (tls : Bool) (id : Int32) (context : SessionContext) (early : History μ)
    (transfer : Relay mode) : Prop :=
  ∃ snapshot, Snapshot.Reachable tls id snapshot ∧
    snapshot.session = some ⟨transfer.context context, mode⟩ ∧
    snapshot.Performs transfer.tasks ∧ snapshot.history = early ++ transfer.trace

variable {tls : Bool} {id : Int32} {context : SessionContext} {early : History μ}
  {transfer : Relay mode} {source : Side} {chunk : IoBuffer}

theorem Entered.receive (relays : Relays mode) (entered : transfer.Entered tls id context early)
    (idle : transfer.lanes source = .reading)
    (fits : 0 < chunk.length ∧ chunk.length ≤ maxBufferSize) :
    (transfer.receive source chunk idle).Entered tls id context early := by
  obtain ⟨snapshot, reachable, alive, performs, history⟩ := entered
  have raised : source.upshot .read (.succeeded chunk) =
      .report (source.readEvent (Completion.succeeded chunk).buffer) := by
    cases source with
    | server => rfl
    | client =>
        have some_ : chunk ≠ [] := List.ne_nil_of_length_pos fits.1
        simp [Side.upshot, Side.readEvent, Completion.succeeded, Received.size, some_]
  have brought : (Completion.succeeded chunk).Fits .read := fun _ _ => fits
  have pending : .read ∈ (snapshot.streams source).pending := by
    refine performs.mem_pending (show (source, Task.read) ∈ transfer.tasks from ?_)
    rw [transfer.tasks_eq source, idle]
    exact Multiset.mem_cons_self _ _
  have finished := @Snapshot.complete_report μ snapshot source .read _ tls (.succeeded chunk) _ _ _
    alive raised (relays.received _ source _)
  obtain ⟨session, performs', history'⟩ | ⟨-, -, failed, -⟩ :=
    complete_reading relays idle performs alive finished
  · refine ⟨_, reachable.step pending brought finished, session, performs', ?_⟩
    rw [history', history, List.append_assoc]
    rfl
  · rw [raised] at failed
    cases source <;> cases failed

theorem Entered.deliver (relays : Relays mode) (entered : transfer.Entered tls id context early)
    (busy : transfer.lanes source = .writing chunk) :
    (transfer.deliver source chunk busy).Entered tls id context early := by
  obtain ⟨snapshot, reachable, alive, performs, history⟩ := entered
  have raised : source.opposite.upshot (.write chunk.length) (.succeeded []) =
      .report source.opposite.writeEvent := by
    cases source <;> rfl
  have pending : .write chunk.length ∈ (snapshot.streams source.opposite).pending := by
    refine performs.mem_pending (show (source.opposite, Task.write chunk) ∈ transfer.tasks from ?_)
    rw [transfer.tasks_eq source, busy]
    exact Multiset.mem_cons_self _ _
  have finished := @Snapshot.complete_report μ snapshot source.opposite (.write chunk.length) _ tls
    (.succeeded []) _ _ _ alive raised (relays.delivered _ source)
  obtain ⟨session, performs', history'⟩ | ⟨-, -, failed, -⟩ :=
    complete_writing relays busy performs alive finished
  · refine ⟨_, reachable.step pending (by rintro ⟨⟩) finished, session, performs', ?_⟩
    rw [history', history, List.append_assoc]
    rfl
  · rw [raised] at failed
    cases source <;> cases failed

/-- Once a transfer begins, it may go on in every way. -/
theorem entered_of_readsFit (relays : Relays mode)
    (begun : (start mode).Entered tls id context early) (fits : ReadsFit transfer.trace) :
    transfer.Entered tls id context early := by
  obtain ⟨lanes, trace, sound⟩ := transfer
  dsimp only at fits
  induction sound with
  | start => exact begun
  | @receive lanes history source chunk sound idle ih =>
      obtain ⟨earlier, now⟩ := readsFit_append.mp fits
      exact Entered.receive relays (ih earlier) idle
        (now source chunk (by simp [arrivals, arrival]))
  | @deliver lanes history source chunk sound busy ih =>
      exact Entered.deliver relays (ih (readsFit_append.mp fits).1) busy

end Relay

end AmgiNetTools
