/-
Module: AmgiNetTools.Server.Serving
Layer: Server
Purpose: Servers go on. Whatever peers and remotes do, and even when ids collide, a server that was
  not told to stop has an accept outstanding. A SOCKS5 server gets through every turn of its event
  loop; an HTTP server gets through all but one kind, which ends it.
Main exports: Server.Serving, Server.serving_of_reachable, Server.perform_eq_error_iff,
  servers_keep_serving
-/
import AmgiNetTools.Server.Sessions
import AmgiNetTools.Session.Returns

namespace AmgiNetTools

namespace Server

variable {μ : Type} [ReactiveState μ] {tls : Bool} {server server' : Server μ} {event : ServerEvent}
  {fault : Fault}

/-- What holds of a server in every run. -/
structure Serving (tls : Bool) (server : Server μ) : Prop where
  coherent : server.world.Coherent
  secure : server.tls = tls
  streamId : server.streamId = Int32.ofNat server.made
  accepting : server.accepting = some (.numbered tls server.made)
  running : server.stopped = !server.isOpen

omit [ReactiveState μ] in
/-- `start_accept()` makes the next stream. -/
theorem Serving.startAccept {world : World μ} (serving : server.Serving tls)
    (coherent : world.Coherent) :
    ({ server with world := world, accepting := none } : Server μ).startAccept.Serving tls where
  coherent := coherent
  secure := serving.secure
  streamId := by
    simp only [Server.startAccept, serving.streamId, Int32.ofNat_add]
    rfl
  accepting := by
    simp only [Server.startAccept, serving.streamId, serving.secure, Int32.ofNat_add,
      ServerStream.numbered]
    rfl
  running := serving.running

/-- Whatever the outcome of an accept, its handler returns and starts the next. -/
theorem Serving.perform_accepted (serving : server.Serving tls) (running : server.stopped = false)
    (ec : ErrorCode) :
    (ServerEvent.accepted ec).perform server = .ok (({ server with
      world := if ec.isError then server.world
        else server.world.accept (.numbered tls server.made)
      accepting := none } : Server μ).startAccept) := by
  have isOpen : server.isOpen = true := by
    simpa [running] using serving.running
  rw [ServerEvent.perform, serving.accepting]
  cases failed : ec.isError with
  | true => simp [onAccepted, isOpen, failed]
  | false => simp [onAccepted, isOpen, failed, StreamManager.onAccept_run]

/-- A turn of the event loop fails when the handler of a session does. -/
theorem perform_eq_error_iff (serving : server.Serving tls) (running : server.stopped = false) :
    event.perform server = .error fault ↔
      ∃ stream op completion raised pair, event = .complete stream op completion ∧
        (stream.side.upshot op completion).event = some raised ∧
        server.world.sessions stream.id = some pair ∧
        ReactiveState.reaction pair.session raised = .error fault := by
  cases event with
  | accepted ec => simp [serving.perform_accepted running]
  | signal => simp [ServerEvent.perform]
  | complete stream op completion =>
      have failed := @AmgiNetTools.perform_eq_error_iff μ _ server.world
        (.complete stream op completion) fault serving.coherent
      simp only [IoEvent.complete.injEq] at failed
      simp only [ServerEvent.perform, ServerEvent.complete.injEq]
      rw [← failed]
      cases (IoEvent.complete stream op completion).perform.run server.world with
      | error fault' => simp [bind, Except.bind]
      | ok result => simp

theorem Serving.perform (serving : server.Serving tls) (enabled : event.Enabled server)
    (done : event.perform server = .ok server') : server'.Serving tls := by
  cases event with
  | accepted ec =>
      rw [serving.perform_accepted enabled.1] at done
      cases done
      apply serving.startAccept
      split
      · exact serving.coherent
      · exact serving.coherent.accept _
  | signal =>
      cases done
      exact ⟨serving.coherent, serving.secure, serving.streamId, serving.accepting, rfl⟩
  | complete stream op completion =>
      simp only [ServerEvent.perform,
        perform_complete stream op completion serving.coherent] at done
      cases finished : server.world.finish stream op completion with
      | error fault => simp [finished, Except.map, bind, Except.bind] at done
      | ok next =>
          simp only [finished, Except.map, except_ok_bind, except_pure, Except.ok.injEq] at done
          subst done
          have coherent : (World.retire stream op completion server.world).Coherent :=
            serving.coherent
          exact ⟨World.coherent_apply coherent finished, serving.secure, serving.streamId,
            serving.accepting, serving.running⟩

theorem serving_of_reachable (reachable : Reachable tls server) : server.Serving tls := by
  induction reachable with
  | start => exact ⟨World.coherent_empty, rfl, rfl, rfl, rfl⟩
  | step _ enabled _ done serving => exact serving.perform enabled done

end Server

/-- Until a server is told to stop, it has an accept outstanding, for the stream it made last. Every
    turn of the event loop of a SOCKS5 server returns. A turn of that of an HTTP server does not
    exactly when a session that waits for its request reads a buffer whose host or service cannot be
    taken out of it. -/
theorem servers_keep_serving [Platform] (tls : Bool) :
    (∀ server : Server Socks5State, Server.Reachable tls server → server.stopped = false →
      server.accepting = some (.numbered tls server.made) ∧
      ∀ event : ServerEvent, ∃ server', event.perform server = .ok server') ∧
    ∀ server : Server HttpState, Server.Reachable tls server → server.stopped = false →
      server.accepting = some (.numbered tls server.made) ∧
      ∀ (event : ServerEvent) (fault : Fault), event.perform server = .error fault ↔
        fault = .exception ∧ ∃ stream completion pair,
          event = .complete (.server stream) .read completion ∧ completion.ec.isError = false ∧
          server.world.sessions stream.id = some pair ∧ pair.session.state = .waitRequest ∧
          Http.target completion.buffer.bytes = .error .exception := by
  constructor
  · intro server reachable running
    have serving := Server.serving_of_reachable reachable
    refine ⟨serving.accepting, fun event => ?_⟩
    cases done : event.perform server with
    | ok server' => exact ⟨server', rfl⟩
    | error fault =>
        obtain ⟨stream, op, completion, raised, pair, -, -, -, faulty⟩ :=
          (Server.perform_eq_error_iff serving running).mp done
        cases faulty
  · intro server reachable running
    have serving := Server.serving_of_reachable reachable
    refine ⟨serving.accepting, fun event fault => ?_⟩
    rw [Server.perform_eq_error_iff serving running]
    constructor
    · rintro ⟨stream, op, completion, raised, pair, rfl, faulty⟩
      obtain ⟨rfl, self, pair, rfl, rfl, throws⟩ :=
        Http.raised_eq_error_iff.mp ⟨raised, pair, faulty⟩
      exact ⟨rfl, self, completion, pair, rfl, throws⟩
    · rintro ⟨rfl, self, completion, pair, rfl, throws⟩
      obtain ⟨raised, pair, faulty⟩ :=
        Http.raised_eq_error_iff.mpr ⟨rfl, self, pair, rfl, rfl, throws⟩
      exact ⟨_, _, completion, raised, pair, rfl, faulty⟩

end AmgiNetTools
