/-
Module: AmgiNetTools.Http.Liveness
Layer: Http
Purpose: No session of an HTTP server hangs unnoticed. As long as it is in the map, an operation is
  outstanding on one of its streams, and the state it is in has a handler of its own for whatever
  the operation reports: the empty handlers of `http_state` are never called.
Main exports: Http.overrides, Http.handle_eq_pure_iff, Http.Expects, Http.expects_of_live,
  http_never_orphaned
-/
import AmgiNetTools.Session.Advance
import AmgiNetTools.Http.Tunnel

namespace AmgiNetTools

/-- An operation that brings a session on, when it completes. The two that close a stream do not. -/
def AsyncOp.Awaited : AsyncOp → Prop
  | .handshake | .read | .write _ | .resolve _ _ | .connect => True
  | .shutdown | .nullWrite => False

/-- The events of `on_read`, `on_write` and `on_connect`. -/
def SessionEvent.IsSuccess : SessionEvent → Prop
  | .serverRead _ | .clientRead _ | .clientConnect _ | .serverWrite _ | .clientWrite _ => True
  | .serverError _ | .clientError _ => False

namespace Http

/-- The handlers that the classes of `http_state.h` override. -/
def overrides : HttpState → SessionEvent → Bool
  | .waitRequest, .serverRead _ => true
  | .connectionEstablished, .clientConnect _ => true
  | .readyToTransferData, .clientWrite _ => true
  | .readyToTransferData, .serverWrite _ => true
  | .dataTransferMode, .serverRead _ => true
  | .dataTransferMode, .serverWrite _ => true
  | .dataTransferMode, .clientRead _ => true
  | .dataTransferMode, .clientWrite _ => true
  | _, _ => false

/-- What no class overrides is the empty handler of `http_state`. -/
theorem handle_of_not_overrides {state : HttpState} {event : SessionEvent}
    (success : event.IsSuccess) (base : overrides state event = false) (session : Int32) :
    SessionState.handle state session event = pure () := by
  cases event with
  | serverError ec | clientError ec => cases success
  | serverRead buffer => cases state <;> first | rfl | cases base
  | clientRead buffer => cases state <;> first | rfl | cases base
  | clientConnect buffer => cases state <;> first | rfl | cases base
  | serverWrite buffer => cases state <;> first | rfl | cases base
  | clientWrite buffer => cases state <;> first | rfl | cases base

/-- A handler that is overridden asks for something, so the session does not stand still. -/
theorem requests_of_overrides {session : Session HttpState} {event : SessionEvent}
    {outcome : Reaction HttpState} (handled : overrides session.state event = true)
    (computed : reaction session event = .ok outcome) : outcome.requests ≠ [] := by
  obtain ⟨context, state⟩ := session
  cases state <;> cases event <;> try cases handled
  case waitRequest.serverRead buffer =>
    cases parsed : target buffer.bytes with
    | error fault => simp [reaction, parsed, Except.map] at computed
    | ok verdict =>
        simp only [reaction, parsed, Except.map] at computed
        cases verdict <;> cases computed <;> simp
  all_goals
    cases computed
    simp

/-- The handler of a success is the empty one exactly when no class overrides it. -/
theorem handle_eq_pure_iff {state : HttpState} {event : SessionEvent} (success : event.IsSuccess)
    (session : Int32) :
    SessionState.handle state session event = pure () ↔ overrides state event = false := by
  refine ⟨fun empty => ?_, fun base => handle_of_not_overrides success base session⟩
  by_contra handled
  have handled : overrides state event = true := by simpa using handled
  -- In any entry, the handler calls what its requests ask for.
  let alone : Session HttpState := { context := { id := session }, state := state }
  let upstream : ServerStream := { tls := false, conn := 0, id := session }
  have ran := ReactiveState.handle_stay World.empty session (upstream.pair alone) alone event rfl
  rw [show alone.state = state from rfl, empty] at ran
  cases computed : ReactiveState.reaction alone event with
  | error fault =>
      rw [computed] at ran
      cases ran
  | ok outcome =>
      rw [computed] at ran
      have asks : outcome.requests ≠ [] :=
        @requests_of_overrides alone event outcome handled computed
      have histories := congrArg (fun result => result.2.history) (Except.ok.inj ran)
      simp only [World.react, World.history_invokeAll] at histories
      obtain ⟨request, rest, same⟩ := List.exists_cons_of_ne_nil asks
      cases request <;> simp [Reaction.calls, Reaction.stay, same, Request.calls] at histories

/-- The operations whose completion each state has a handler for. -/
def Expects : HttpState → Side × AsyncOp → Prop
  | .waitRequest, entry => entry = (.server, .handshake) ∨ entry = (.server, .read)
  | .connectionEstablished, entry =>
      (∃ host service, entry = (.client, .resolve host service)) ∨ entry = (.client, .connect)
  | .readyToTransferData, entry => ∃ side size, entry = (side, .write size)
  | .dataTransferMode, entry =>
      (∃ side, entry = (side, .read)) ∨ ∃ side size, entry = (side, .write size)

variable {state : HttpState} {side : Side} {op : AsyncOp} {completion : Completion}
  {event : SessionEvent}

theorem awaited_of_expects (expects : Expects state (side, op)) : op.Awaited := by
  cases state with
  | waitRequest => rcases expects with same | same <;> cases same <;> trivial
  | connectionEstablished =>
      rcases expects with ⟨_, _, same⟩ | same <;> cases same <;> trivial
  | readyToTransferData =>
      obtain ⟨_, _, same⟩ := expects
      cases same
      trivial
  | dataTransferMode =>
      rcases expects with ⟨_, same⟩ | ⟨_, _, same⟩ <;> cases same <;> trivial

/-- The event of a read that a read reports, if it is not an error. -/
theorem event_of_read (raised : (side.upshot .read completion).event = some event)
    (success : event.IsSuccess) : event = side.readEvent completion.buffer := by
  obtain ⟨-, reported⟩ | reported := side.upshot_read completion
  · rw [reported] at raised
    exact (Option.some.inj raised).symm
  · rw [reported] at raised
    cases raised
    cases side <;> cases success

theorem event_of_write {size : Nat}
    (raised : (side.upshot (.write size) completion).event = some event)
    (success : event.IsSuccess) : event = side.writeEvent := by
  obtain ⟨-, reported⟩ | reported := side.upshot_write size completion
  · rw [reported] at raised
    exact (Option.some.inj raised).symm
  · rw [reported] at raised
    cases raised
    cases side <;> cases success

/-- The handshake and the resolve report errors only. -/
theorem not_success_of_step (step : (side, op) = (.server, .handshake) ∨
      ∃ host service, (side, op) = (.client, .resolve host service))
    (raised : (side.upshot op completion).event = some event) : ¬ event.IsSuccess := by
  intro success
  rcases step with same | ⟨host, service, same⟩
  · cases same
    cases failed : completion.ec.isError with
    | false => simp [Side.upshot, failed, Upshot.proceed] at raised
    | true =>
        simp only [Side.upshot, failed, Upshot.report] at raised
        cases raised
        cases success
  · cases same
    cases failed : completion.ec.isError with
    | false => simp [Side.upshot, failed, Upshot.proceed] at raised
    | true =>
        simp only [Side.upshot, failed, Upshot.report] at raised
        cases raised
        cases success

/-- The event of a connect that a connect reports, if it is not an error. -/
theorem event_of_connect (raised : (Side.client.upshot .connect completion).event = some event)
    (success : event.IsSuccess) : ∃ buffer, event = .clientConnect buffer := by
  cases failed : completion.ec.isError with
  | false =>
      simp only [Side.upshot, failed, Upshot.report] at raised
      cases raised
      exact ⟨_, rfl⟩
  | true =>
      simp only [Side.upshot, failed, Upshot.report] at raised
      cases raised
      cases success

/-- What an expected operation reports is handled. -/
theorem overrides_of_expects (expects : Expects state (side, op))
    (raised : (side.upshot op completion).event = some event) (success : event.IsSuccess) :
    overrides state event = true := by
  cases state with
  | waitRequest =>
      rcases expects with same | same
      · exact absurd success (not_success_of_step (.inl same) raised)
      · cases same
        rw [event_of_read raised success]
        rfl
  | connectionEstablished =>
      rcases expects with step | same
      · exact absurd success (not_success_of_step (.inr step) raised)
      · cases same
        obtain ⟨buffer, rfl⟩ := event_of_connect raised success
        rfl
  | readyToTransferData =>
      obtain ⟨side', size, same⟩ := expects
      cases same
      rw [event_of_write raised success]
      cases side <;> rfl
  | dataTransferMode =>
      rcases expects with ⟨side', same⟩ | ⟨side', size, same⟩
      · cases same
        rw [event_of_read raised success]
        cases side <;> rfl
      · cases same
        rw [event_of_write raised success]
        cases side <;> rfl

/-- The tasks of each phase. -/
theorem expects_of_task {phase : Phase} {task : Task} (member : (side, task) ∈ phase.tasks) :
    Expects phase.state (side, task.op) := by
  cases phase with
  | tunnel exchange tunnels transfer =>
      obtain ⟨source, same⟩ := transfer.exists_laneTask member
      cases lane : transfer.lanes source with
      | reading =>
          rw [lane] at same
          cases same
          exact .inl ⟨_, rfl⟩
      | writing chunk =>
          rw [lane] at same
          cases same
          exact .inr ⟨_, _, rfl⟩
  | handshake =>
      cases Multiset.mem_singleton.mp member
      exact .inl rfl
  | request =>
      cases Multiset.mem_singleton.mp member
      exact .inr rfl
  | resolving exchange =>
      cases Multiset.mem_singleton.mp member
      exact .inl ⟨_, _, rfl⟩
  | connecting exchange =>
      cases Multiset.mem_singleton.mp member
      exact .inr rfl
  | answering exchange tunnels | forwarding exchange forwards =>
      cases Multiset.mem_singleton.mp member
      exact ⟨_, _, rfl⟩

theorem tasks_ne_zero (phase : Phase) : phase.tasks ≠ 0 := by
  cases phase with
  | tunnel exchange tunnels transfer =>
      rw [Phase.tasks, Relay.tasks]
      exact Multiset.cons_ne_zero
  | _ => exact Multiset.singleton_ne_zero _

/-- A session that runs waits for something, and for nothing that its state does not expect. -/
theorem expects_of_live {tls : Bool} {id : Int32} {snapshot : Snapshot HttpState}
    {session : Session HttpState} (live : Live tls id snapshot)
    (alive : snapshot.session = some session) :
    snapshot.outstanding ≠ 0 ∧ ∀ entry ∈ snapshot.outstanding, Expects session.state entry := by
  rcases live with ⟨phase, within, -⟩ | crossed
  · have state : session.state = phase.state :=
      congrArg Session.state (Option.some.inj (alive.symm.trans within.session))
    rw [within.performs.outstanding, state]
    constructor
    · intro none
      exact tasks_ne_zero phase (Multiset.map_eq_zero.mp none)
    · intro entry member
      obtain ⟨⟨side, task⟩, waited, rfl⟩ := Multiset.mem_map.mp member
      have waited : (side, task) ∈ phase.tasks := waited
      exact expects_of_task waited
  · obtain ⟨exchange, forwards, count, trace, crossing, session', -⟩ := crossed
    have state : session.state = .dataTransferMode :=
      congrArg Session.state (Option.some.inj (alive.symm.trans session'))
    rw [state]
    constructor
    · intro none
      have two := crossing.card_eq
      rw [none] at two
      cases two
    · intro entry member
      rcases crossing.oneWay entry member with rfl | ⟨size, rfl⟩
      · exact .inl ⟨_, rfl⟩
      · exact .inr ⟨_, _, rfl⟩

end Http

/-- In every run of an HTTP server, a session in the map waits for an operation on one of its
    streams, and whatever success a completion of one of its streams reports to it, the state it is
    in overrides the handler, so the handler that is dispatched is not the empty one. -/
theorem http_never_orphaned {world : HttpStreamManager} (reachable : Reachable world) {key : Int32}
    {pair : SessionPair HttpState} (present : world.sessions key = some pair) :
    (∃ entry ∈ world.outstanding pair, entry.2.Awaited) ∧
      ∀ (stream : Stream) (op : AsyncOp) (completion : Completion) (event : SessionEvent),
        stream.id = key → op ∈ (world.streams stream).pending →
        (stream.side.upshot op completion).event = some event → event.IsSuccess →
        Http.overrides pair.session.state event = true ∧
          SessionState.handle pair.session.state key event ≠ pure () := by
  obtain ⟨-, own, session, -⟩ := World.entry_of_reachable reachable present
  have live := Http.live_of_present reachable present
  obtain ⟨busy, expects⟩ := Http.expects_of_live live session
  constructor
  · rw [outstanding_of_present reachable present]
    obtain ⟨⟨side, op⟩, member⟩ := Multiset.exists_mem_of_ne_zero busy
    exact ⟨_, member, Http.awaited_of_expects (expects _ member)⟩
  · intro stream op completion event same pending raised success
    obtain ⟨side, rfl⟩ := World.endpoint_of_pending reachable (same ▸ present) pending
    rw [ServerStream.side_endpoint] at raised
    have handled := Http.overrides_of_expects (expects _ (Snapshot.mem_outstanding.mpr pending))
      raised success
    refine ⟨handled, fun empty => ?_⟩
    rw [(Http.handle_eq_pure_iff success key).mp empty] at handled
    cases handled

/-- In the run of `Http.Sample.forwarding`, a read of the peer is outstanding, and what it reads is
    handled. -/
theorem http_never_orphaned_sample :
    ∃ pair, (World.play Http.Sample.forwarding : HttpStreamManager).sessions 7 = some pair ∧
      (∃ entry ∈ (World.play Http.Sample.forwarding : HttpStreamManager).outstanding pair,
        entry.2.Awaited) ∧
      Http.overrides pair.session.state (.serverRead ⟨[1], fun _ => 0⟩) = true := by
  have orphanage := http_never_orphaned (World.reachable_play Http.Sample.forwarding)
    (show (World.play Http.Sample.forwarding : HttpStreamManager).sessions 7 = some _ from rfl)
  exact ⟨_, rfl, orphanage.1, (orphanage.2 (.server Http.Sample.peer) .read (.succeeded [1]) _ rfl
    (by decide) rfl trivial).1⟩

end AmgiNetTools
