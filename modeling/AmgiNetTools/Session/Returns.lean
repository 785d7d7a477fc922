/-
Module: AmgiNetTools.Session.Returns
Layer: Session
Purpose: Which calls into a manager do not return. A handler that goes on after it has stopped its
  own session would touch an erased entry, and a handler that throws ends the process. In the SOCKS5
  manager neither happens in any run. In the HTTP manager the only thing that happens is that the
  first buffer of a session cannot be parsed, and then the handler throws.
Main exports: StreamManager.step_eq_error_iff, perform_eq_error_iff, socks5_always_returns,
  http_throws_exactly
-/
import AmgiNetTools.Session.Completion
import AmgiNetTools.Session.Isolation

namespace AmgiNetTools

variable {μ : Type}

/-! ### Failures of a handler -/

theorem Except.map_eq_error_iff {α β ε : Type} {f : α → β} {computed : Except ε α} {fault : ε} :
    computed.map f = .error fault ↔ computed = .error fault := by
  cases computed with
  | error fault' => simp [Except.map]
  | ok value => simp [Except.map]

namespace StreamManager

variable [ReactiveState μ] {world : World μ} {event : ManagerEvent} {fault : Fault}

/-- An accept returns, and so does an event of a session that is gone. -/
theorem effect_eq_error_iff :
    effect event world = .error fault ↔
      ∃ pair, world.sessions event.id = some pair ∧ event.reaction pair.session = .error fault := by
  cases isAccept : event.isAccept with
  | true =>
      cases event with
      | accept upstream => simp [effect, ManagerEvent.reaction]
      | _ => cases isAccept
  | false =>
      rw [effect_of_event isAccept]
      cases found : world.sessions event.id with
      | none => simp
      | some pair => simp [Except.map_eq_error_iff]

/-- A call fails when the handler of its session does. -/
theorem step_eq_error_iff (coherent : world.Coherent) :
    step event world = .error fault ↔
      ∃ pair, world.sessions event.id = some pair ∧ event.reaction pair.session = .error fault := by
  rw [step_eq event coherent]
  exact effect_eq_error_iff

/-- A run of calls fails when one of them comes to a handler that fails. -/
theorem run_eq_error_iff {events : List ManagerEvent} :
    run (μ := μ) events = .error fault ↔
      ∃ past event future, ∃ world : World μ, ∃ pair, events = past ++ event :: future ∧
        run past = .ok world ∧ world.sessions event.id = some pair ∧
        event.reaction pair.session = .error fault := by
  rw [run, Runs.run_eq_error_iff]
  constructor
  · rintro ⟨past, event, future, world, split, ran, failed⟩
    obtain ⟨pair, present, faulty⟩ := (step_eq_error_iff (coherent_run ran)).mp failed
    exact ⟨past, event, future, world, pair, split, ran, present, faulty⟩
  · rintro ⟨past, event, future, world, pair, split, ran, present, faulty⟩
    exact ⟨past, event, future, world, split, ran,
      (step_eq_error_iff (coherent_run ran)).mpr ⟨pair, present, faulty⟩⟩

end StreamManager

namespace World

variable [ReactiveState μ] {world : World μ} {fault : Fault}

theorem apply_eq_error_iff {stream : Stream} {upshot : Upshot} :
    world.apply stream upshot = .error fault ↔
      ∃ event pair, upshot.event = some event ∧ world.sessions stream.id = some pair ∧
        ReactiveState.reaction pair.session event = .error fault := by
  unfold apply
  cases raised : upshot.event with
  | none => simp
  | some event =>
      dsimp only
      rw [Except.map_eq_error_iff, handle]
      cases found : world.sessions stream.id with
      | none => simp
      | some pair => simp [Except.map_eq_error_iff]

end World

/-- A turn of the event loop fails when the handler its completion is reported to does. -/
theorem perform_eq_error_iff [ReactiveState μ] {world : World μ} {event : IoEvent} {fault : Fault}
    (coherent : world.Coherent) :
    event.perform.run world = .error fault ↔
      ∃ stream op completion raised pair, event = .complete stream op completion ∧
        (stream.side.upshot op completion).event = some raised ∧
        world.sessions stream.id = some pair ∧
        ReactiveState.reaction pair.session raised = .error fault := by
  cases event with
  | accept upstream => simp [perform_accept]
  | complete stream op completion =>
      rw [perform_complete stream op completion coherent, Except.map_eq_error_iff, World.finish,
        World.apply_eq_error_iff]
      constructor
      · rintro ⟨raised, pair, isRaised, present, faulty⟩
        exact ⟨stream, op, completion, raised, pair, rfl, isRaised, present, faulty⟩
      · rintro ⟨stream', op', completion', raised, pair, same, isRaised, present, faulty⟩
        cases same
        exact ⟨raised, pair, isRaised, present, faulty⟩

/-! ### SOCKS5 -/

/-- No call into the SOCKS5 manager throws or touches a session that is gone, whatever was called
    before; and every turn of the event loop of a SOCKS5 server returns. -/
theorem socks5_always_returns [Platform] :
    (∀ events : List ManagerEvent, ∃ world : Socks5StreamManager,
      StreamManager.run events = .ok world) ∧
    ∀ world : Socks5StreamManager, Reachable world → ∀ event : IoEvent,
      ∃ next, event.perform.run world = .ok ((), next) := by
  constructor
  · intro events
    cases ran : StreamManager.run (μ := Socks5State) events with
    | ok world => exact ⟨world, rfl⟩
    | error fault =>
        obtain ⟨past, event, future, world, pair, -, -, -, faulty⟩ :=
          StreamManager.run_eq_error_iff.mp ran
        cases event <;> cases faulty
  · intro world reachable event
    cases done : event.perform.run world with
    | ok result => exact ⟨result.2, rfl⟩
    | error fault =>
        obtain ⟨stream, op, completion, raised, pair, -, -, -, faulty⟩ :=
          (perform_eq_error_iff (coherent_of_reachable reachable)).mp done
        cases faulty

/-! ### HTTP -/

namespace Http

/-- The handler of a session throws for the first buffer of a session, when the host or the service
    in it lies outside of it. -/
theorem reaction_eq_error_iff {session : Session HttpState} {event : SessionEvent} {fault : Fault} :
    reaction session event = .error fault ↔
      fault = .exception ∧ session.state = .waitRequest ∧
        ∃ buffer, event = .serverRead buffer ∧ target buffer.bytes = .error .exception := by
  constructor
  · intro faulty
    simp only [reaction] at faulty
    split at faulty
    case h_3 buffer waits =>
      rw [Except.map_eq_error_iff] at faulty
      cases target_error faulty
      exact ⟨rfl, waits, buffer, rfl, faulty⟩
    all_goals cases faulty
  · rintro ⟨rfl, waits, buffer, rfl, faulty⟩
    simp [reaction, waits, faulty, Except.map]

/-- Only the server stream reports a server read, and only that of a read without an error. -/
theorem raises_serverRead_iff {side : Side} {op : AsyncOp} {completion : Completion}
    {buffer : Received} :
    (side.upshot op completion).event = some (.serverRead buffer) ↔
      side = .server ∧ op = .read ∧ completion.ec.isError = false ∧
        completion.buffer = buffer := by
  cases side with
  | server =>
      cases failed : completion.ec.isError <;> cases op <;>
        simp [Side.upshot, failed, Upshot.report, Upshot.proceed]
  | client =>
      cases failed : completion.ec.isError <;> cases op <;>
        simp [Side.upshot, failed, Upshot.report, Upshot.proceed]
      -- Only a read of the client stream is left.
      split <;> simp

/-- The handler that a completion is reported to throws for the first buffer of a session only. -/
theorem raised_eq_error_iff {world : HttpStreamManager} {stream : Stream} {op : AsyncOp}
    {completion : Completion} {fault : Fault} :
    (∃ raised pair, (stream.side.upshot op completion).event = some raised ∧
      world.sessions stream.id = some pair ∧
      ReactiveState.reaction pair.session raised = .error fault) ↔
    fault = .exception ∧ ∃ self pair, stream = .server self ∧ op = .read ∧
      completion.ec.isError = false ∧ world.sessions self.id = some pair ∧
      pair.session.state = .waitRequest ∧ target completion.buffer.bytes = .error .exception := by
  constructor
  · rintro ⟨raised, pair, isRaised, present, faulty⟩
    obtain ⟨rfl, waits, buffer, rfl, throws⟩ := reaction_eq_error_iff.mp faulty
    obtain ⟨side, rfl, succeeded, rfl⟩ := raises_serverRead_iff.mp isRaised
    cases stream with
    | server self => exact ⟨rfl, self, pair, rfl, rfl, succeeded, present, waits, throws⟩
    | client self => cases side
  · rintro ⟨rfl, self, pair, rfl, rfl, succeeded, present, waits, throws⟩
    exact ⟨_, pair, raises_serverRead_iff.mpr ⟨rfl, rfl, succeeded, rfl⟩, present,
      reaction_eq_error_iff.mpr ⟨rfl, waits, _, rfl, throws⟩⟩

end Http

/-- The HTTP manager fails exactly when a session that waits for its request reads a buffer whose
    host or service cannot be taken out of it; what happens then is an exception. No run touches a
    session that is gone. -/
theorem http_throws_exactly :
    (∀ (events : List ManagerEvent) (fault : Fault),
      StreamManager.run (μ := HttpState) events = .error fault ↔
        fault = .exception ∧ ∃ past buffer stream future, ∃ world : HttpStreamManager, ∃ pair,
          events = past ++ .readServer buffer stream :: future ∧
          StreamManager.run past = .ok world ∧ world.sessions stream.id = some pair ∧
          pair.session.state = .waitRequest ∧ Http.target buffer.bytes = .error .exception) ∧
    ∀ world : HttpStreamManager, Reachable world → ∀ (event : IoEvent) (fault : Fault),
      event.perform.run world = .error fault ↔
        fault = .exception ∧ ∃ stream completion pair,
          event = .complete (.server stream) .read completion ∧ completion.ec.isError = false ∧
          world.sessions stream.id = some pair ∧ pair.session.state = .waitRequest ∧
          Http.target completion.buffer.bytes = .error .exception := by
  constructor
  · intro events fault
    rw [StreamManager.run_eq_error_iff]
    constructor
    · rintro ⟨past, event, future, world, pair, split, ran, present, faulty⟩
      cases event with
      | accept | stop | stopStream | close | errorServer | errorClient => cases faulty
      | readServer buffer stream =>
          obtain ⟨rfl, waits, buffer', same, throws⟩ := Http.reaction_eq_error_iff.mp faulty
          cases same
          exact ⟨rfl, past, buffer, stream, future, world, pair, split, ran, present, waits, throws⟩
      | writeServer | connect | readClient | writeClient =>
          obtain ⟨-, -, buffer, same, -⟩ := Http.reaction_eq_error_iff.mp faulty
          cases same
    · rintro ⟨rfl, past, buffer, stream, future, world, pair, split, ran, present, waits, throws⟩
      exact ⟨past, _, future, world, pair, split, ran, present,
        Http.reaction_eq_error_iff.mpr ⟨rfl, waits, buffer, rfl, throws⟩⟩
  · intro world reachable event fault
    rw [perform_eq_error_iff (coherent_of_reachable reachable)]
    constructor
    · rintro ⟨stream, op, completion, raised, pair, rfl, faulty⟩
      obtain ⟨rfl, self, pair, rfl, rfl, throws⟩ :=
        Http.raised_eq_error_iff.mp ⟨raised, pair, faulty⟩
      exact ⟨rfl, self, completion, pair, rfl, throws⟩
    · rintro ⟨rfl, self, completion, pair, rfl, throws⟩
      obtain ⟨raised, pair, faulty⟩ :=
        Http.raised_eq_error_iff.mpr ⟨rfl, self, pair, rfl, rfl, throws⟩
      exact ⟨_, _, completion, raised, pair, rfl, faulty⟩

end AmgiNetTools
