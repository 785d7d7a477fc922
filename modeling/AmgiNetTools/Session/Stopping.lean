/-
Module: AmgiNetTools.Session.Stopping
Layer: Session
Purpose: Stopping a session. Both streams are stopped once, in the step that erases the session, as
  the last thing that step does; afterwards the manager leaves the streams alone and the entry stays
  away. Every error that reaches a live session stops it, but for a failed connect of SOCKS5, which
  is answered first.
Main exports: StreamManager.Lifetime, StreamManager.lifetime_run, StopDiscipline, stopping_is_final
-/
import AmgiNetTools.Session.Isolation
import Mathlib.Data.List.Induction

namespace AmgiNetTools

variable {μ : Type}

/-! ### The operations of one step -/

/-- The operations a reaction calls on the streams of a pair. -/
def Reaction.operations (pair : SessionPair μ) (outcome : Reaction μ) :
    List (Stream × StreamCall) :=
  outcome.calls.map fun call => (pair.stream call.1, call.2)

/-- The two operations that stop a pair. -/
def SessionPair.stopOperations (pair : SessionPair μ) : List (Stream × StreamCall) :=
  [(.client pair.client, .stop), (.server pair.server, .stop)]

/-- No operation of the list is `stop`. -/
def NoStop (operations : List (Stream × StreamCall)) : Prop :=
  ∀ operation ∈ operations, operation.2 ≠ .stop

theorem NoStop.append {first second : List (Stream × StreamCall)} (one : NoStop first)
    (two : NoStop second) : NoStop (first ++ second) := by
  intro operation member
  rcases List.mem_append.mp member with member | member
  · exact one operation member
  · exact two operation member

theorem NoStop.not_mem {operations : List (Stream × StreamCall)} (none : NoStop operations)
    (stream : Stream) : (stream, StreamCall.stop) ∉ operations :=
  fun member => none _ member rfl

/-- The operations of the requests of a handler. -/
def Reaction.requested (pair : SessionPair μ) (outcome : Reaction μ) :
    List (Stream × StreamCall) :=
  (outcome.requests.flatMap Request.calls).map fun call => (pair.stream call.1, call.2)

theorem Reaction.noStop_requested (pair : SessionPair μ) (outcome : Reaction μ) :
    NoStop (outcome.requested pair) := by
  intro operation member
  simp only [requested, List.mem_map, List.mem_flatMap] at member
  obtain ⟨call, ⟨request, -, called⟩, rfl⟩ := member
  cases request <;> simp only [Request.calls, List.mem_cons, List.not_mem_nil, or_false] at called
  all_goals rcases called with rfl | rfl | rfl <;> simp

theorem Reaction.operations_some {pair : SessionPair μ} {outcome : Reaction μ}
    {session : Session μ} (kept : outcome.next = some session) :
    outcome.operations pair = outcome.requested pair := by
  simp [operations, requested, calls, kept]

theorem Reaction.operations_none {pair : SessionPair μ} {outcome : Reaction μ}
    (stopped : outcome.next = none) :
    outcome.operations pair = outcome.requested pair ++ pair.stopOperations := by
  simp [operations, requested, calls, stopped, stopCalls, SessionPair.stopOperations,
    SessionPair.stream]

namespace World

variable {id : Int32} (world : World μ)

theorem operations_invoke {stream : Stream} (mine : stream.id = id) (call : StreamCall) :
    (world.invoke stream call).operations id = world.operations id ++ [(stream, call)] := by
  simp [operations, invoke, List.filterMap_append, operation, mine]

theorem operations_invokeAll {pair : SessionPair μ} (owned : pair.Owned id)
    (calls : List (Side × StreamCall)) :
    (world.invokeAll pair calls).operations id =
      world.operations id ++ calls.map fun call => (pair.stream call.1, call.2) := by
  induction calls generalizing world with
  | nil => simp [invokeAll]
  | cons call calls ih =>
      have mine : (pair.stream call.1).id = id := by
        cases call.1
        · exact owned.server_id
        · exact owned.client_id
      rw [invokeAll, List.foldl_cons, ← invokeAll, ih, operations_invoke world mine]
      simp

theorem operations_react {pair : SessionPair μ} (owned : pair.Owned id) (outcome : Reaction μ) :
    (world.react id pair outcome).operations id =
      world.operations id ++ outcome.operations pair :=
  operations_invokeAll world owned outcome.calls

theorem operations_accept [SessionState μ] (upstream : ServerStream) :
    (world.accept upstream).operations upstream.id =
      world.operations upstream.id ++ [(.server upstream, .start)] := by
  have started := operations_invoke world
    (show (Stream.server upstream).id = upstream.id from rfl) .start
  rw [← started]
  unfold accept insert
  split <;> rfl

theorem sessions_accept [SessionState μ] {world : World μ} {upstream : ServerStream}
    (absent : world.sessions upstream.id = none) :
    ∃ pair, (world.accept upstream).sessions upstream.id = some pair := by
  simp [accept, insert, absent]

end World

/-! ### The lifetime of a session -/

/-- The ids of the accepted streams, in order. -/
def accepted (events : List ManagerEvent) : List Int32 :=
  (events.filter ManagerEvent.isAccept).map ManagerEvent.id

theorem accepted_append (first second : List ManagerEvent) :
    accepted (first ++ second) = accepted first ++ accepted second := by
  simp [accepted]

theorem accepted_event {event : ManagerEvent} (isEvent : event.isAccept = false) :
    accepted [event] = [] := by
  simp [accepted, isEvent]

theorem accepted_accept (upstream : ServerStream) : accepted [.accept upstream] =
    [upstream.id] := rfl

theorem not_mem_accepted {event : ManagerEvent} {id : Int32} (other : event.id ≠ id) :
    id ∉ accepted [event] := by
  intro member
  simp only [accepted, List.mem_map, List.mem_filter, List.mem_singleton] at member
  obtain ⟨_, ⟨rfl, -⟩, same⟩ := member
  exact other same

namespace StreamManager

/-- Where an id is in its life: not accepted yet, in the map, or stopped. Its streams are stopped in
    the last of these only, once each and last. -/
inductive Lifetime (id : Int32) (events : List ManagerEvent) (world : World μ) : Prop where
  | unknown (new : id ∉ accepted events) (absent : world.sessions id = none)
      (idle : world.operations id = [])
  | live (known : id ∈ accepted events) (pair : SessionPair μ)
      (present : world.sessions id = some pair) (running : NoStop (world.operations id))
  | stopped (known : id ∈ accepted events) (pair : SessionPair μ)
      (absent : world.sessions id = none) (before : List (Stream × StreamCall))
      (last : world.operations id = before ++ pair.stopOperations) (running : NoStop before)

variable [ReactiveState μ] {world next : World μ} {event : ManagerEvent}
  {events : List ManagerEvent} {id : Int32}

/-- One step of the lifetime, for an event that carries another id. -/
theorem lifetime_other (coherent : world.Coherent) (done : effect event world = .ok next)
    (other : event.id ≠ id) (life : Lifetime id events world) :
    Lifetime id (events ++ [event]) next := by
  have same := restrict_effect_other coherent done other
  have sessions := World.sessions_eq_of_restrict_eq same
  have operations := World.operations_eq_of_restrict_eq same
  cases life with
  | unknown new absent idle =>
      refine .unknown ?_ (sessions.trans absent) (operations.trans idle)
      rw [accepted_append, List.mem_append, not_or]
      exact ⟨new, not_mem_accepted other⟩
  | live known pair present running =>
      refine .live ?_ pair (sessions.trans present) (operations ▸ running)
      rw [accepted_append]
      exact List.mem_append_left _ known
  | stopped known pair absent before last running =>
      refine .stopped ?_ pair (sessions.trans absent) before (operations.trans last) running
      rw [accepted_append]
      exact List.mem_append_left _ known

/-- An accept finds the id unknown, since it is accepted once. -/
theorem lifetime_accept {upstream : ServerStream}
    (once : (accepted (events ++ [.accept upstream])).Nodup)
    (life : Lifetime upstream.id events world) :
    Lifetime upstream.id (events ++ [.accept upstream]) (world.accept upstream) := by
  have new : upstream.id ∉ accepted events := by
    rw [accepted_append, accepted_accept, List.nodup_append] at once
    exact fun known => once.2.2 _ known _ (List.mem_singleton_self _) rfl
  have known : upstream.id ∈ accepted (events ++ [.accept upstream]) := by
    rw [accepted_append, accepted_accept]
    exact List.mem_append_right _ (List.mem_singleton_self _)
  cases life with
  | unknown _ absent idle =>
      obtain ⟨pair, present⟩ := World.sessions_accept absent
      refine .live known pair present ?_
      have operations := World.operations_accept world upstream
      rw [idle] at operations
      intro operation member
      rw [operations] at member
      cases List.mem_singleton.mp member
      simp
  | live old => exact absurd old new
  | stopped old => exact absurd old new

/-- Another event with the id finds the session live, or nothing to act on. -/
theorem lifetime_event (coherent : world.Coherent) (isEvent : event.isAccept = false)
    (done : effect event world = .ok next) (life : Lifetime event.id events world) :
    Lifetime event.id (events ++ [event]) next := by
  have unchanged : accepted (events ++ [event]) = accepted events := by
    rw [accepted_append, accepted_event isEvent, List.append_nil]
  obtain ⟨absent, rfl⟩ | ⟨pair, outcome, present, -, rfl⟩ := effect_cases isEvent done
  · cases life with
    | unknown new absent idle => exact .unknown (unchanged ▸ new) absent idle
    | live _ pair present => simp [absent] at present
    | stopped known pair absent before last running =>
        exact .stopped (unchanged ▸ known) pair absent before last running
  · cases life with
    | unknown _ absent => simp [absent] at present
    | stopped _ _ absent => simp [absent] at present
    | live known pair' present' running =>
        have operations := World.operations_react world (coherent _ _ present) outcome
        have earlier := running.append (outcome.noStop_requested pair)
        cases kept : outcome.next with
        | some session =>
            refine .live (unchanged ▸ known) { pair with session := session } (by simp [kept]) ?_
            rw [operations, Reaction.operations_some kept]
            exact earlier
        | none =>
            refine .stopped (unchanged ▸ known) pair (by simp [kept])
              (world.operations event.id ++ outcome.requested pair) ?_ earlier
            rw [operations, Reaction.operations_none kept, List.append_assoc]

/-- One step of the lifetime, for an event that carries the id. -/
theorem lifetime_own (coherent : world.Coherent) (done : effect event world = .ok next)
    (once : (accepted (events ++ [event])).Nodup) (life : Lifetime event.id events world) :
    Lifetime event.id (events ++ [event]) next := by
  cases isAccept : event.isAccept with
  | true =>
      cases event with
      | accept upstream =>
          cases done
          exact lifetime_accept once life
      | _ => cases isAccept
  | false => exact lifetime_event coherent isAccept done life

theorem lifetime_step (coherent : world.Coherent) (done : effect event world = .ok next)
    (once : (accepted (events ++ [event])).Nodup) (life : Lifetime id events world) :
    Lifetime id (events ++ [event]) next := by
  by_cases mine : event.id = id
  · subst mine
    exact lifetime_own coherent done once life
  · exact lifetime_other coherent done mine life

/-- The last step of a run. -/
theorem run_concat_ok {events : List ManagerEvent} {event : ManagerEvent} {final : World μ} :
    run (events ++ [event]) = .ok final ↔
      ∃ world, run events = .ok world ∧ step event world = .ok final := by
  rw [run, Runs.run_append_ok]
  refine exists_congr fun world => and_congr_right fun _ => ?_
  cases stepped : step event world <;> simp [Runs.run, stepped]

/-- Every id is somewhere in its life after every run. -/
theorem lifetime_run (id : Int32) {events : List ManagerEvent} (once : (accepted events).Nodup)
    {world : World μ} (ran : run events = .ok world) : Lifetime id events world := by
  induction events using List.reverseRecOn generalizing world with
  | nil =>
      cases ran
      exact .unknown (by simp [accepted]) rfl rfl
  | append_singleton events event ih =>
      obtain ⟨before, ran, stepped⟩ := run_concat_ok.mp ran
      have coherent := coherent_run ran
      have earlier : (accepted events).Nodup := by
        rw [accepted_append] at once
        exact (List.nodup_append.mp once).1
      exact lifetime_step coherent ((step_eq event coherent).symm.trans stepped) once
        (ih earlier ran)

/-! ### After the stop -/

/-- An entry that is gone does not come back, and its streams are left alone. -/
theorem absent_step (coherent : world.Coherent) (done : effect event world = .ok next)
    (new : id ∉ accepted [event]) (absent : world.sessions id = none) :
    next.sessions id = none ∧ next.operations id = world.operations id := by
  by_cases mine : event.id = id
  · subst mine
    cases isAccept : event.isAccept with
    | true => simp [accepted, isAccept] at new
    | false =>
        obtain ⟨-, rfl⟩ | ⟨pair, outcome, present, -, -⟩ := effect_cases isAccept done
        · exact ⟨absent, rfl⟩
        · simp [absent] at present
  · have same := restrict_effect_other coherent done mine
    exact ⟨(World.sessions_eq_of_restrict_eq same).trans absent,
      World.operations_eq_of_restrict_eq same⟩

theorem absent_run {world : World μ} (coherent : world.Coherent) {final : World μ}
    (ran : Runs.run step events world = .ok final) (new : id ∉ accepted events)
    (absent : world.sessions id = none) :
    final.sessions id = none ∧ final.operations id = world.operations id := by
  induction events generalizing world with
  | nil =>
      cases ran
      exact ⟨absent, rfl⟩
  | cons event events ih =>
      obtain ⟨next, stepped, rest⟩ := Runs.run_cons_ok ran
      rw [show event :: events = [event] ++ events from rfl, accepted_append, List.mem_append,
        not_or] at new
      have one := absent_step coherent ((step_eq event coherent).symm.trans stepped) new.1 absent
      have more := ih (coherent_step stepped coherent) rest new.2 one.1
      exact ⟨more.1, more.2.trans one.2⟩

/-! ### The operations of one step -/

/-- What a step adds to the operations of an id: `stop` on both streams, at the end, when it erases
    the entry, and no `stop` when it does not. -/
theorem operations_step (coherent : world.Coherent) (done : effect event world = .ok next)
    (id : Int32) :
    (∃ pair during, world.sessions id = some pair ∧ next.sessions id = none ∧ NoStop during ∧
      next.operations id = world.operations id ++ (during ++ pair.stopOperations)) ∨
    ((world.sessions id = none ∨ next.sessions id ≠ none) ∧ ∃ during, NoStop during ∧
      next.operations id = world.operations id ++ during) := by
  by_cases mine : event.id = id
  · subst mine
    cases isAccept : event.isAccept with
    | true =>
        cases event with
        | accept upstream =>
            cases done
            refine .inr
              ⟨?_, [(.server upstream, .start)], ?_, World.operations_accept world upstream⟩
            · simp only [ManagerEvent.id]
              cases found : world.sessions upstream.id with
              | none => exact Or.inl rfl
              | some pair => simp [World.accept, World.insert, found]
            · intro operation member
              cases List.mem_singleton.mp member
              simp
        | _ => cases isAccept
    | false =>
        obtain ⟨absent, rfl⟩ | ⟨pair, outcome, present, -, rfl⟩ := effect_cases isAccept done
        · exact .inr ⟨Or.inl absent, [], by simp [NoStop], by simp⟩
        · have operations := World.operations_react world (coherent _ _ present) outcome
          cases kept : outcome.next with
          | some session =>
              refine .inr ⟨?_, outcome.requested pair, outcome.noStop_requested pair, ?_⟩
              · simp [kept]
              · rw [operations, Reaction.operations_some kept]
          | none =>
              refine .inl ⟨pair, outcome.requested pair, present, ?_,
                outcome.noStop_requested pair, ?_⟩
              · simp [kept]
              · rw [operations, Reaction.operations_none kept]
  · have same := restrict_effect_other coherent done mine
    have sessions := World.sessions_eq_of_restrict_eq same
    refine .inr ⟨?_, [], by simp [NoStop], ?_⟩
    · rw [sessions]
      exact (eq_or_ne _ _)
    · rw [World.operations_eq_of_restrict_eq same, List.append_nil]

end StreamManager

/-! ### The law -/

/-- Stop happens once and is final, for every sequence of calls into a manager in which each stream
    id is accepted once. -/
structure StopDiscipline (μ : Type) [SessionState μ] : Prop where
  /-- Neither stream of a session is stopped twice. -/
  once (events : List ManagerEvent) (world : World μ) :
    (accepted events).Nodup → StreamManager.run events = .ok world →
    ∀ stream : Stream, (world.operations stream.id).count (stream, .stop) ≤ 1
  /-- A step that erases a session stops its client stream and its server stream, and does nothing
    to them afterwards; no other step stops a stream. -/
  last (events : List ManagerEvent) (event : ManagerEvent) (world next : World μ) :
    StreamManager.run events = .ok world → StreamManager.step event world = .ok next →
    ∀ id : Int32,
      (∃ pair during, world.sessions id = some pair ∧ next.sessions id = none ∧ NoStop during ∧
        next.operations id = world.operations id ++
          (during ++ [(.client pair.client, .stop), (.server pair.server, .stop)])) ∨
      ((world.sessions id = none ∨ next.sessions id ≠ none) ∧ ∃ during, NoStop during ∧
        next.operations id = world.operations id ++ during)
  /-- No handler touches a session after it was erased. -/
  dangling (events : List ManagerEvent) (event : ManagerEvent) (world : World μ) :
    StreamManager.run events = .ok world → StreamManager.step event world ≠ .error .dangling
  /-- After a session was erased, its entry stays away and its streams are left alone. -/
  final (before after : List ManagerEvent) (world final : World μ) :
    (accepted (before ++ after)).Nodup → StreamManager.run before = .ok world →
    StreamManager.run (before ++ after) = .ok final →
    ∀ id ∈ accepted before, world.sessions id = none →
      final.sessions id = none ∧ final.operations id = world.operations id

/-- A session handles an error of its server stream by stopping. -/
def ServerErrorsStop (μ : Type) [SessionState μ] : Prop :=
  ∀ (events : List ManagerEvent) (ec : ErrorCode) (stream : ServerStream) (world next : World μ),
    StreamManager.run events = .ok world →
    StreamManager.step (.errorServer ec stream) world = .ok next →
    next.sessions stream.id = none

/-- A session that meets `exempt` aside, it handles an error of its client stream by stopping. -/
def ClientErrorsStop (μ : Type) [SessionState μ] (exempt : Session μ → Prop) : Prop :=
  ∀ (events : List ManagerEvent) (ec : ErrorCode) (stream : ClientStream) (world next : World μ),
    StreamManager.run events = .ok world →
    StreamManager.step (.errorClient ec stream) world = .ok next →
    (∀ pair, world.sessions stream.id = some pair → ¬ exempt pair.session) →
    next.sessions stream.id = none

namespace StreamManager

variable [ReactiveState μ]

theorem stopDiscipline : StopDiscipline μ where
  once events world once ran stream := by
    cases lifetime_run stream.id once ran with
    | unknown new absent idle => simp [idle]
    | live known pair present running =>
        exact (List.count_eq_zero.mpr (running.not_mem stream)).le.trans (Nat.zero_le 1)
    | stopped known pair absent before last running =>
        rw [last, List.count_append, List.count_eq_zero.mpr (running.not_mem stream), Nat.zero_add,
          SessionPair.stopOperations, List.count_cons, List.count_cons, List.count_nil]
        cases stream <;> simp <;> split <;> simp
  last events event world next ran stepped id := by
    have coherent := coherent_run ran
    exact operations_step coherent ((step_eq event coherent).symm.trans stepped) id
  dangling events event world ran faulty := by
    have coherent := coherent_run ran
    rw [step_eq event coherent] at faulty
    cases isAccept : event.isAccept with
    | true =>
        cases event with
        | accept => cases faulty
        | _ => cases isAccept
    | false =>
        rw [effect_of_event isAccept] at faulty
        cases found : world.sessions event.id with
        | none => simp [found] at faulty
        | some pair =>
            rw [found] at faulty
            cases computed : event.reaction pair.session with
            | ok outcome => simp [computed, Except.map] at faulty
            | error fault =>
                simp only [computed, Except.map, Except.error.injEq] at faulty
                subst faulty
                exact ManagerEvent.reaction_ne_dangling event pair.session computed
  final before after world final once ran ranAll id known absent := by
    obtain ⟨middle, ran', rest⟩ := Runs.run_append_ok.mp ranAll
    cases ran.symm.trans ran'
    rw [accepted_append, List.nodup_append] at once
    exact absent_run (coherent_run ran) rest
      (fun again => once.2.2 id known id again rfl) absent

/-- A live session whose reaction to an event is to stop is gone after it. -/
theorem sessions_of_stop {event : ManagerEvent} {world next : World μ} (coherent : world.Coherent)
    (stepped : step event world = .ok next) (isEvent : event.isAccept = false)
    (stops : ∀ pair, world.sessions event.id = some pair →
      event.reaction pair.session = .ok .stop) :
    next.sessions event.id = none := by
  obtain ⟨absent, rfl⟩ | ⟨pair, outcome, present, computed, rfl⟩ :=
    effect_cases isEvent ((step_eq event coherent).symm.trans stepped)
  · exact absent
  · rw [stops pair present] at computed
    cases computed
    simp [Reaction.stop]

theorem serverErrorsStop
    (stops : ∀ (session : Session μ) (ec : ErrorCode),
      ReactiveState.reaction session (.serverError ec) = .ok .stop) : ServerErrorsStop μ :=
  fun _ ec _ _ _ ran stepped =>
    sessions_of_stop (coherent_run ran) stepped rfl fun pair _ => stops pair.session ec

theorem clientErrorsStop {exempt : Session μ → Prop}
    (stops : ∀ (session : Session μ) (ec : ErrorCode), ¬ exempt session →
      ReactiveState.reaction session (.clientError ec) = .ok .stop) : ClientErrorsStop μ exempt :=
  fun _ ec _ _ _ ran stepped plain =>
    sessions_of_stop (coherent_run ran) stepped rfl
      fun pair present => stops pair.session ec (plain pair present)

end StreamManager

/-! ### The failed connect of SOCKS5 -/

namespace Socks5

/-- The events that end the write of an error reply, or the session from outside. -/
def endsReply : ManagerEvent → Bool
  | .writeServer _ _ | .errorServer _ _ | .stop _ | .stopStream _ | .close _ => true
  | .accept _ | .readServer _ _ | .connect _ _ | .readClient _ _ | .writeClient _ _
  | .errorClient _ _ => false

/-- The connect of a session is reported again, although asio completes it once. -/
def reconnects (id : Int32) : ManagerEvent → Prop
  | .connect _ stream => stream.id = id
  | _ => False

/-- A session in `socks5_connection_established`, whose connect has failed or is not done. -/
def Connecting (id : Int32) (world : Socks5StreamManager) : Prop :=
  ∃ pair, world.sessions id = some pair ∧ pair.session.state = .connectionEstablished

/-- A client error in `socks5_connection_established` is answered with a reply; the session is
    removed by the completion or the failure of that write (or from outside), and by nothing
    else. -/
def RefusalStops [Platform] : Prop :=
  ∀ (events after : List ManagerEvent) (ec : ErrorCode) (stream : ClientStream)
    (world next final : Socks5StreamManager) (pair : SessionPair Socks5State),
    (accepted (events ++ .errorClient ec stream :: after)).Nodup →
    StreamManager.run events = .ok world → world.sessions stream.id = some pair →
    pair.session.state = .connectionEstablished →
    StreamManager.step (.errorClient ec stream) world = .ok next →
    Runs.run StreamManager.step after next = .ok final →
    (∀ event ∈ after, ¬ reconnects stream.id event) →
    (∃ reply, next.operations stream.id =
      world.operations stream.id ++ [(.server pair.server, .write reply)]) ∧
    Connecting stream.id next ∧
    (final.sessions stream.id = none ↔
      ∃ event ∈ after, event.id = stream.id ∧ endsReply event = true)

variable [Platform] {world next : Socks5StreamManager} {event : ManagerEvent} {id : Int32}

/-- What an event does to a session that waits for the write of its error reply: an ending event
    stops it, any other but `on_connect` leaves it waiting. -/
theorem reaction_connecting {session : Session Socks5State}
    (waits : session.state = .connectionEstablished) (isEvent : event.isAccept = false)
    (once : ¬ reconnects event.id event) :
    ∃ outcome, event.reaction session = .ok outcome ∧
      if endsReply event then outcome.next = none
      else ∃ session', outcome.next = some session' ∧ session'.state = .connectionEstablished := by
  obtain ⟨context, state⟩ := session
  cases waits
  cases event with
  | accept => cases isEvent
  | connect => exact absurd rfl once
  | readServer | readClient | writeClient | errorClient => exact ⟨_, rfl, _, rfl, rfl⟩
  | writeServer | errorServer | stop | stopStream | close => exact ⟨_, rfl, rfl⟩

/-- A session that waits for the write of its error reply waits on, unless the event ends it. -/
theorem connecting_step (coherent : world.Coherent)
    (done : StreamManager.effect event world = .ok next) (waits : Connecting id world)
    (once : ¬ reconnects id event) :
    (event.id = id ∧ endsReply event = true ∧ next.sessions id = none) ∨
    (¬ (event.id = id ∧ endsReply event = true) ∧ Connecting id next) := by
  obtain ⟨pair, present, state⟩ := waits
  by_cases mine : event.id = id
  · subst mine
    cases isAccept : event.isAccept with
    | true =>
        cases event with
        | accept upstream =>
            cases done
            have present : world.sessions upstream.id = some pair := present
            exact .inr ⟨by simp [endsReply], pair, by
              simp [World.accept, World.insert, present, ManagerEvent.id], state⟩
        | _ => cases isAccept
    | false =>
        obtain ⟨outcome, computed, result⟩ := reaction_connecting state isAccept once
        obtain ⟨absent, -⟩ | ⟨pair', outcome', present', computed', rfl⟩ :=
          StreamManager.effect_cases isAccept done
        · simp [absent] at present
        · cases present.symm.trans present'
          cases computed.symm.trans computed'
          cases ends : endsReply event with
          | true =>
              rw [ends, if_pos rfl] at result
              exact .inl ⟨rfl, rfl, by simp [result]⟩
          | false =>
              rw [ends, if_neg Bool.false_ne_true] at result
              obtain ⟨session, kept, still⟩ := result
              exact .inr ⟨by simp, { pair with session := session }, by simp [kept], still⟩
  · have same := StreamManager.restrict_effect_other coherent done mine
    exact .inr ⟨fun both => mine both.1, pair,
      (World.sessions_eq_of_restrict_eq same).trans present, state⟩

/-- It waits until the first event that ends it, and is gone from then on. -/
theorem connecting_run {after : List ManagerEvent} {world final : Socks5StreamManager}
    (coherent : world.Coherent) (waits : Connecting id world) (known : id ∉ accepted after)
    (ran : Runs.run StreamManager.step after world = .ok final)
    (once : ∀ event ∈ after, ¬ reconnects id event) :
    final.sessions id = none ↔ ∃ event ∈ after, event.id = id ∧ endsReply event = true := by
  induction after generalizing world with
  | nil =>
      cases ran
      obtain ⟨pair, present, -⟩ := waits
      simp [present]
  | cons event after ih =>
      obtain ⟨next, stepped, rest⟩ := Runs.run_cons_ok ran
      have later : id ∉ accepted after := by
        rw [show event :: after = [event] ++ after from rfl, accepted_append, List.mem_append,
          not_or] at known
        exact known.2
      obtain ⟨here, ends, gone⟩ | ⟨goesOn, still⟩ := connecting_step coherent
        ((StreamManager.step_eq event coherent).symm.trans stepped) waits
        (once event List.mem_cons_self)
      · have away := StreamManager.absent_run (StreamManager.coherent_step stepped coherent) rest
          later gone
        exact iff_of_true away.1 ⟨event, List.mem_cons_self, here, ends⟩
      · rw [ih (StreamManager.coherent_step stepped coherent) still later rest
          fun event member => once event (List.mem_cons_of_mem _ member)]
        simp only [List.mem_cons, exists_eq_or_imp]
        exact (or_iff_right goesOn).symm

/-- The refusal itself: one write on the server stream, and the session stays. -/
theorem refusal_step {ec : ErrorCode} {stream : ClientStream} {pair : SessionPair Socks5State}
    (coherent : world.Coherent) (present : world.sessions stream.id = some pair)
    (state : pair.session.state = .connectionEstablished)
    (done : StreamManager.effect (.errorClient ec stream) world = .ok next) :
    (∃ reply, next.operations stream.id =
      world.operations stream.id ++ [(.server pair.server, .write reply)]) ∧
    Connecting stream.id next := by
  obtain ⟨absent, -⟩ | ⟨pair', outcome, present', computed, rfl⟩ :=
    StreamManager.effect_cases rfl done
  · exact absurd (absent.symm.trans present) (by simp)
  · cases present.symm.trans present'
    have owned := coherent _ _ present
    obtain ⟨key, server, client, context, session⟩ := pair
    cases state
    cases computed
    exact ⟨⟨_, World.operations_react world owned _⟩, _, Function.update_self .., rfl⟩

theorem refusalStops : RefusalStops := by
  intro events after ec stream world next final pair unique ran present state stepped ranAfter once
  have coherent := StreamManager.coherent_run ran
  have done := (StreamManager.step_eq _ coherent).symm.trans stepped
  obtain ⟨reply, waits⟩ := refusal_step coherent present state done
  refine ⟨reply, waits, ?_⟩
  have known : stream.id ∈ accepted events := by
    rw [accepted_append] at unique
    cases StreamManager.lifetime_run stream.id (List.nodup_append.mp unique).1 ran with
    | live known => exact known
    | unknown _ absent | stopped _ _ absent => exact absurd (absent.symm.trans present) (by simp)
  have later : stream.id ∉ accepted after := by
    rw [accepted_append, List.nodup_append] at unique
    exact fun again => unique.2.2 _ known _ again rfl
  exact connecting_run (StreamManager.coherent_step stepped coherent) waits later ranAfter once

end Socks5

/-- Both managers stop a session once and for good, at the first error that reaches it; but SOCKS5
    answers a failed connect first. -/
theorem stopping_is_final [Platform] :
    (StopDiscipline Socks5State ∧ ServerErrorsStop Socks5State ∧
      ClientErrorsStop Socks5State (fun session => session.state = .connectionEstablished) ∧
      Socks5.RefusalStops) ∧
    (StopDiscipline HttpState ∧ ServerErrorsStop HttpState ∧
      ClientErrorsStop HttpState fun _ => False) := by
  refine ⟨⟨StreamManager.stopDiscipline, StreamManager.serverErrorsStop ?_,
    StreamManager.clientErrorsStop ?_, Socks5.refusalStops⟩, StreamManager.stopDiscipline,
    StreamManager.serverErrorsStop ?_, StreamManager.clientErrorsStop ?_⟩
  · rintro ⟨context, state⟩ ec
    cases state <;> rfl
  · rintro ⟨context, state⟩ ec plain
    cases state with
    | connectionEstablished => exact absurd rfl plain
    | _ => rfl
  · rintro ⟨context, state⟩ ec
    cases state <;> rfl
  · rintro ⟨context, state⟩ ec -
    cases state <;> rfl

end AmgiNetTools
