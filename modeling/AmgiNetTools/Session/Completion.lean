/-
Module: AmgiNetTools.Session.Completion
Layer: Session
Purpose: What a completion of asio does, in one equation: the operation is taken off the outstanding
  ones, the session of the stream reacts to the event the completion handler reports (if it reports
  one and the session is still there), and the stream goes on by itself (the read after a handshake,
  the connect after a resolve, the close of a socket).
Main exports: Upshot, Side.upshot, World.finish, perform_complete, step_cases,
  coherent_of_reachable, World.restrict_finish_other
-/
import AmgiNetTools.Session.Locality
import AmgiNetTools.Transport.IoContext

namespace AmgiNetTools

variable {μ : Type}

/-- What a completion handler does: it reports an event to the manager, or none, and changes its own
    stream. -/
structure Upshot where
  event : Option SessionEvent
  change : StreamState → StreamState

namespace Upshot

/-- The handler that only reports. -/
def report (event : SessionEvent) : Upshot := { event := some event, change := id }

/-- The handler that only changes its stream. -/
def proceed (change : StreamState → StreamState) : Upshot := { event := none, change := change }

end Upshot

/-- The completion handlers of the stream at one end of a session. -/
def Side.upshot (side : Side) (op : AsyncOp) (completion : Completion) : Upshot :=
  match side, op with
  | .server, .handshake =>
      if !completion.ec.isError then .proceed (.initiate .read)
      else .report (.serverError completion.ec)
  | .server, .read =>
      if !completion.ec.isError then .report (.serverRead completion.buffer)
      else .report (.serverError completion.ec)
  | .server, .write _ =>
      if !completion.ec.isError then .report (.serverWrite [])
      else .report (.serverError completion.ec)
  | .server, .shutdown | .server, .nullWrite =>
      { event := if completion.ec.isError then some (.serverError completion.ec) else none
        change := StreamState.close }
  | .client, .resolve _ _ =>
      if !completion.ec.isError then .proceed (.initiate .connect)
      else .report (.clientError completion.ec)
  | .client, .connect =>
      if !completion.ec.isError then .report (.clientConnect [])
      else .report (.clientError completion.ec)
  | .client, .read =>
      if !completion.ec.isError && completion.buffer.size != 0 then
        .report (.clientRead completion.buffer.bytes)
      else .report (.clientError completion.ec)
  | .client, .write _ =>
      if !completion.ec.isError then .report (.clientWrite [])
      else .report (.clientError completion.ec)
  | .server, .resolve _ _ | .server, .connect => .proceed id
  | .client, .handshake | .client, .shutdown | .client, .nullWrite => .proceed id

namespace World

/-- An event reaches the session of an id, or finds it gone. -/
def handle [ReactiveState μ] (id : Int32) (event : SessionEvent) (world : World μ) :
    Except Fault (World μ) :=
  match world.sessions id with
  | none => .ok world
  | some pair => (ReactiveState.reaction pair.session event).map (world.react id pair)

/-- What a completion handler does to the world. -/
def apply [ReactiveState μ] (stream : Stream) (upshot : Upshot) (world : World μ) :
    Except Fault (World μ) :=
  match upshot.event with
  | none => .ok (world.modifyStream stream upshot.change)
  | some event => (world.handle stream.id event).map (modifyStream stream upshot.change)

/-- Asio completes an operation of a stream. -/
def finish [ReactiveState μ] (stream : Stream) (op : AsyncOp) (completion : Completion)
    (world : World μ) : Except Fault (World μ) :=
  (world.retire stream op completion).apply stream (stream.side.upshot op completion)

variable {world : World μ}

@[simp] theorem sessions_modifyStream (stream : Stream) (f : StreamState → StreamState) :
    (world.modifyStream stream f).sessions = world.sessions := rfl

theorem modifyStream_id (stream : Stream) : modifyStream stream id world = world := by
  simp [modifyStream]

theorem apply_report [ReactiveState μ] (stream : Stream) (event : SessionEvent) :
    world.apply stream (.report event) = world.handle stream.id event := by
  have same : modifyStream (μ := μ) stream id = id := funext fun _ => modifyStream_id stream
  simp only [apply, Upshot.report, same]
  cases world.handle stream.id event <;> rfl

end World

/-! ### The completion handlers -/

section

variable [ReactiveState μ] {world : World μ}

/-- A report to the manager is an event at the session of the stream. -/
theorem report_run (event : SessionEvent) (id : Int32) (coherent : world.Coherent) :
    (do if let some _ ← StreamManager.find (μ := μ) id then Session.handle id event).run world =
      (world.handle id event).map fun next => ((), next) := by
  refine (StreamManager.handle_run_of_found event coherent).trans ?_
  rw [World.handle]
  cases world.sessions id with
  | none => rfl
  | some pair =>
      dsimp only
      cases ReactiveState.reaction pair.session event <;> rfl

omit [ReactiveState μ] in
/-- Every kind of server stream reads alike. -/
theorem ServerStream.invoke_read (self : ServerStream) :
    self.kind.invoke .read = StreamState.initiate .read := by
  unfold kind
  split <;> rfl

omit [ReactiveState μ] in
theorem ServerStream.doRead_run (self : ServerStream) :
    (self.doRead (μ := μ)).run world =
      .ok ((), world.modifyStream (.server self) (StreamState.initiate .read)) := by
  simp [doRead, invoke_read]

theorem ServerStream.handleError_run (self : ServerStream) (ec : ErrorCode)
    (coherent : world.Coherent) :
    (self.handleError (μ := μ) ec).run world =
      (world.handle self.id (.serverError ec)).map fun next => ((), next) :=
  report_run (.serverError ec) self.id coherent

theorem ServerStream.complete_run (self : ServerStream) (op : AsyncOp) (completion : Completion)
    (coherent : world.Coherent) :
    (self.complete op completion).run world =
      (world.apply (.server self) (Side.server.upshot op completion)).map
        fun next => ((), next) := by
  have failure := self.handleError_run completion.ec coherent
  cases op with
  | resolve | connect =>
      simp only [complete, Side.upshot, World.apply, Upshot.proceed, World.modifyStream_id]
      rfl
  | handshake =>
      cases failed : completion.ec.isError with
      | false =>
          simp [complete, Side.upshot, failed, doRead_run, World.apply, Upshot.proceed, Except.map]
      | true => simpa [complete, Side.upshot, failed, World.apply_report] using failure
  | read =>
      cases failed : completion.ec.isError with
      | false =>
          simp only [complete, Side.upshot, failed, Bool.not_false, if_true, World.apply_report]
          exact report_run (.serverRead completion.buffer) self.id coherent
      | true => simpa [complete, Side.upshot, failed, World.apply_report] using failure
  | write =>
      cases failed : completion.ec.isError with
      | false =>
          simp only [complete, Side.upshot, failed, Bool.not_false, if_true, World.apply_report]
          exact report_run (.serverWrite []) self.id coherent
      | true => simpa [complete, Side.upshot, failed, World.apply_report] using failure
  | shutdown | nullWrite =>
      cases failed : completion.ec.isError with
      | false => simp [complete, Side.upshot, failed, World.apply, Except.map]
      | true =>
          simp only [complete, Side.upshot, failed, if_true, World.apply, StateT.run_bind, failure,
            Stream.id_server]
          cases world.handle self.id (.serverError completion.ec) <;> rfl

theorem ClientStream.handleError_run (self : ClientStream) (ec : ErrorCode)
    (coherent : world.Coherent) :
    (self.handleError (μ := μ) ec).run world =
      (world.handle self.id (.clientError ec)).map fun next => ((), next) :=
  report_run (.clientError ec) self.id coherent

theorem ClientStream.complete_run (self : ClientStream) (op : AsyncOp) (completion : Completion)
    (coherent : world.Coherent) :
    (self.complete op completion).run world =
      (world.apply (.client self) (Side.client.upshot op completion)).map
        fun next => ((), next) := by
  have failure := self.handleError_run completion.ec coherent
  cases op with
  | handshake | shutdown | nullWrite =>
      simp only [complete, Side.upshot, World.apply, Upshot.proceed, World.modifyStream_id]
      rfl
  | resolve =>
      cases failed : completion.ec.isError with
      | false =>
          simp only [complete, Side.upshot, failed, Bool.not_false, if_true]
          rfl
      | true => simpa [complete, Side.upshot, failed, World.apply_report] using failure
  | connect =>
      cases failed : completion.ec.isError with
      | false =>
          simp only [complete, Side.upshot, failed, Bool.not_false, if_true, World.apply_report]
          exact report_run (.clientConnect []) self.id coherent
      | true => simpa [complete, Side.upshot, failed, World.apply_report] using failure
  | write =>
      cases failed : completion.ec.isError with
      | false =>
          simp only [complete, Side.upshot, failed, Bool.not_false, if_true, World.apply_report]
          exact report_run (.clientWrite []) self.id coherent
      | true => simpa [complete, Side.upshot, failed, World.apply_report] using failure
  | read =>
      cases good : !completion.ec.isError && completion.buffer.size != 0 with
      | false =>
          simp only [complete, Side.upshot, good, Bool.false_eq_true, if_false, World.apply_report]
          exact failure
      | true =>
          simp only [complete, Side.upshot, good, if_true, World.apply_report]
          exact report_run (.clientRead completion.buffer.bytes) self.id coherent

/-- The event loop completes an operation: one equation for all three stream classes. -/
theorem perform_complete (stream : Stream) (op : AsyncOp) (completion : Completion)
    (coherent : world.Coherent) :
    (IoEvent.complete stream op completion).perform.run world =
      (world.finish stream op completion).map fun next => ((), next) := by
  have retired : (world.retire stream op completion).Coherent := coherent
  cases stream with
  | server self => exact self.complete_run op completion retired
  | client self => exact self.complete_run op completion retired

theorem finish_of_perform {stream : Stream} {op : AsyncOp} {completion : Completion}
    {next : World μ} (coherent : world.Coherent)
    (done : (IoEvent.complete stream op completion).perform.run world = .ok ((), next)) :
    world.finish stream op completion = .ok next := by
  rw [perform_complete stream op completion coherent] at done
  cases finished : world.finish stream op completion with
  | error fault => simp [finished, Except.map] at done
  | ok world' =>
      simp only [finished, Except.map, Except.ok.injEq, Prod.mk.injEq, true_and] at done
      rw [done]

theorem perform_accept (upstream : ServerStream) :
    (IoEvent.accept upstream).perform.run world = .ok ((), world.accept upstream) :=
  StreamManager.onAccept_run upstream

end

/-! ### Coherence and locality -/

namespace World

variable [ReactiveState μ] {world next : World μ}

/-- The two ways a completion handler can go. -/
theorem apply_cases {stream : Stream} {upshot : Upshot}
    (done : world.apply stream upshot = .ok next) :
    ((upshot.event = none ∨ world.sessions stream.id = none) ∧
      next = world.modifyStream stream upshot.change) ∨
    ∃ event pair outcome, upshot.event = some event ∧ world.sessions stream.id = some pair ∧
      ReactiveState.reaction pair.session event = .ok outcome ∧
      next = (world.react stream.id pair outcome).modifyStream stream upshot.change := by
  unfold apply at done
  cases raised : upshot.event with
  | none =>
      rw [raised] at done
      cases done
      exact .inl ⟨.inl rfl, rfl⟩
  | some event =>
      rw [raised] at done
      dsimp only [handle] at done
      cases found : world.sessions stream.id with
      | none =>
          rw [found] at done
          cases done
          exact .inl ⟨.inr rfl, rfl⟩
      | some pair =>
          rw [found] at done
          cases computed : ReactiveState.reaction pair.session event with
          | error fault => simp [computed, Except.map] at done
          | ok outcome =>
              simp only [computed, Except.map, Except.ok.injEq] at done
              exact .inr ⟨event, pair, outcome, rfl, rfl, computed, done.symm⟩

theorem coherent_apply {stream : Stream} {upshot : Upshot} (coherent : world.Coherent)
    (done : world.apply stream upshot = .ok next) : next.Coherent := by
  obtain ⟨-, rfl⟩ | ⟨event, pair, outcome, -, found, computed, rfl⟩ := apply_cases done
  · exact coherent
  · exact coherent.react found fun session kept =>
      ReactiveState.keepsId pair.session event outcome session computed kept

omit [ReactiveState μ] in
theorem restrict_modifyStream_other {id : Int32} {stream : Stream} (other : stream.id ≠ id)
    (f : StreamState → StreamState) :
    (world.modifyStream stream f).restrict id = world.restrict id := by
  apply restrict_congr
  · rfl
  · intro stream' mine
    have apart : stream' ≠ stream := fun same => other (same ▸ mine)
    simp [modifyStream, Function.update_of_ne apart]
  · rfl

omit [ReactiveState μ] in
theorem restrict_retire_other {id : Int32} {stream : Stream} (other : stream.id ≠ id) (op : AsyncOp)
    (completion : Completion) :
    (world.retire stream op completion).restrict id = world.restrict id := by
  apply restrict_congr
  · rfl
  · intro stream' mine
    have apart : stream' ≠ stream := fun same => other (same ▸ mine)
    simp [retire, Function.update_of_ne apart]
  · simp [retire, List.filter_append, other]

/-- A completion does nothing to what belongs to another id. -/
theorem restrict_finish_other {id : Int32} {stream : Stream} {op : AsyncOp}
    {completion : Completion}
    (coherent : world.Coherent) (done : world.finish stream op completion = .ok next)
    (other : stream.id ≠ id) : next.restrict id = world.restrict id := by
  rw [← @restrict_retire_other μ world id stream other op completion]
  obtain ⟨-, rfl⟩ | ⟨event, pair, outcome, -, found, -, rfl⟩ := apply_cases done
  · exact restrict_modifyStream_other other _
  · have owned : pair.Owned stream.id := coherent _ _ found
    rw [restrict_modifyStream_other other, restrict_react_other _ other owned]

theorem restrict_accept_other {id : Int32} {upstream : ServerStream} (other : upstream.id ≠ id) :
    (world.accept upstream).restrict id = world.restrict id := by
  rw [accept, restrict_insert_other _ other]
  exact restrict_invoke_other world (show (Stream.server upstream).id ≠ id from other) .start

end World

/-- A turn of the event loop, in terms of the two functions above. -/
theorem step_cases [ReactiveState μ] {world next : World μ} (coherent : world.Coherent)
    (stepped : Step world next) :
    (∃ upstream : ServerStream, (IoEvent.accept upstream).Enabled world ∧
      next = world.accept upstream) ∨
    ∃ stream op completion, (IoEvent.complete stream op completion).Enabled world ∧
      world.finish stream op completion = .ok next := by
  obtain ⟨event, enabled, done⟩ := stepped
  cases event with
  | accept upstream =>
      rw [perform_accept] at done
      cases done
      exact .inl ⟨upstream, enabled, rfl⟩
  | complete stream op completion =>
      exact .inr ⟨stream, op, completion, enabled, finish_of_perform coherent done⟩

theorem coherent_of_reachable [ReactiveState μ] {world : World μ} (reachable : Reachable world) :
    world.Coherent := by
  induction reachable with
  | start => exact World.coherent_empty
  | step _ stepped coherent =>
      obtain ⟨upstream, -, rfl⟩ | ⟨stream, op, completion, -, done⟩ := step_cases coherent stepped
      · exact coherent.accept upstream
      · exact World.coherent_apply
          (show (World.retire stream op completion _).Coherent from coherent) done

end AmgiNetTools
