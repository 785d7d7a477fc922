/-
Module: AmgiNetTools.Session.Bounds
Layer: Session
Purpose: The size of what sessions write. No stream checks that a buffer fits into its
  `write_buffer_`, so it has to follow from what the handlers keep true of their sessions, as no
  read returns more than `max_buffer_size`. A protocol says what that is and shows that each
  reaction keeps it; the rule of the module extends it to all runs, and to the copies.
Main exports: Keeps, World.Bounded, World.bounded_of_reachable
-/
import AmgiNetTools.Session.Completion

namespace AmgiNetTools

variable {μ : Type}

/-- A call that writes at most `max_buffer_size` bytes, if it writes. -/
def StreamCall.Bounded : StreamCall → Prop
  | .write event => event.length ≤ maxBufferSize
  | .start | .stop | .read | .setHost _ | .setService _ => True

/-- A request that writes at most `max_buffer_size` bytes, if it writes. -/
def Request.Bounded : Request → Prop
  | .writeServer buffer | .writeClient buffer => buffer.length ≤ maxBufferSize
  | .readServer | .readClient | .connect _ _ => True

/-- An event that brings at most `max_buffer_size` bytes. -/
def SessionEvent.Bounded : SessionEvent → Prop
  | .serverRead buffer => buffer.size ≤ maxBufferSize
  | .clientRead buffer => buffer.length ≤ maxBufferSize
  | .clientConnect _ | .serverWrite _ | .clientWrite _ | .serverError _ | .clientError _ => True

/-- What a protocol keeps true of its sessions, so that they write no more than fits. -/
structure Keeps [ReactiveState μ] (Good : Session μ → Prop) : Prop where
  initial (id : Int32) : Good { context := { id := id }, state := SessionState.initial }
  requests (session : Session μ) (event : SessionEvent) (outcome : Reaction μ) :
    Good session → event.Bounded → ReactiveState.reaction session event = .ok outcome →
      ∀ request ∈ outcome.requests, request.Bounded
  next (session : Session μ) (event : SessionEvent) (outcome : Reaction μ) (session' : Session μ) :
    Good session → event.Bounded → ReactiveState.reaction session event = .ok outcome →
      outcome.next = some session' → Good session'

namespace World

/-- The sessions are good, all that was written fits, and no copy has left its `write_buffer_`. -/
structure Bounded (Good : Session μ → Prop) (world : World μ) : Prop where
  sessions (key : Int32) (pair : SessionPair μ) :
    world.sessions key = some pair → Good pair.session
  writes : ∀ record ∈ world.history, ∀ buffer, record.happening = .called (.write buffer) →
    buffer.length ≤ maxBufferSize
  buffers (stream : Stream) : (world.streams stream).writeBuffer.length = maxBufferSize

end World

/-! ### Streams -/

theorem length_copyInto {event : IoBuffer} {buffer : List UInt8}
    (fits : event.length ≤ buffer.length) : (copyInto event buffer).length = buffer.length := by
  rw [copyInto, List.length_append, List.length_drop]
  omega

/-- A bounded call keeps the size of `write_buffer_`. -/
theorem StreamKind.length_invoke (kind : StreamKind) {call : StreamCall} (bounded : call.Bounded)
    {state : StreamState} (whole : state.writeBuffer.length = maxBufferSize) :
    (kind.invoke call state).writeBuffer.length = maxBufferSize := by
  cases call with
  | write event =>
      have copied : (copyInto event state.writeBuffer).length = maxBufferSize := by
        rw [length_copyInto (whole ▸ bounded), whole]
      cases kind <;> exact copied
  | stop =>
      cases kind with
      | tlsServer =>
          simp only [invoke, TlsServerStream.doStop]
          split <;> exact whole
      | tcpServer | tcpClient => exact whole
  | start | read | setHost host | setService service => cases kind <;> exact whole

/-- A stream that goes on by itself writes nothing. -/
theorem Side.writeBuffer_change (side : Side) (op : AsyncOp) (completion : Completion)
    (state : StreamState) :
    ((side.upshot op completion).change state).writeBuffer = state.writeBuffer := by
  cases side <;> cases op <;> simp only [upshot] <;> (try split) <;> rfl

/-- A bounded read is reported as a bounded event. -/
theorem Side.bounded_event {side : Side} {op : AsyncOp} {completion : Completion}
    {event : SessionEvent} (raised : (side.upshot op completion).event = some event)
    (fits : completion.Fits op) : event.Bounded := by
  cases op with
  | read =>
      cases side with
      | server =>
          cases failed : completion.ec.isError with
          | false =>
              simp only [upshot, failed] at raised
              cases raised
              exact (fits rfl failed).2
          | true =>
              simp only [upshot, failed] at raised
              cases raised
              trivial
      | client =>
          cases good : !completion.ec.isError && completion.buffer.size != 0 with
          | false =>
              simp only [upshot, good] at raised
              cases raised
              trivial
          | true =>
              simp only [upshot, good] at raised
              cases raised
              simp only [Bool.and_eq_true, Bool.not_eq_true'] at good
              exact (fits rfl good.1).2
  | _ =>
      cases side <;> cases failed : completion.ec.isError <;>
        simp [upshot, failed, Upshot.report, Upshot.proceed] at raised <;> cases raised <;> trivial

/-! ### Worlds -/

namespace World

variable {Good : Session μ → Prop} {world next : World μ}

theorem bounded_empty : Bounded Good (empty : World μ) where
  sessions _ _ present := by cases present
  writes := by simp [empty]
  buffers _ := List.length_replicate

theorem Bounded.invoke (bounded : world.Bounded Good) (stream : Stream) {call : StreamCall}
    (fits : call.Bounded) : (world.invoke stream call).Bounded Good where
  sessions := bounded.sessions
  writes record member buffer written := by
    rcases List.mem_append.mp member with old | new
    · exact bounded.writes record old buffer written
    · cases List.mem_singleton.mp new
      cases written
      exact fits
  buffers stream' := by
    by_cases same : stream' = stream
    · subst same
      simpa [World.invoke] using stream'.kind.length_invoke fits (bounded.buffers stream')
    · simpa [World.invoke, Function.update_of_ne same] using bounded.buffers stream'

theorem Bounded.invokeAll (bounded : world.Bounded Good) (pair : SessionPair μ)
    {calls : List (Side × StreamCall)} (fits : ∀ call ∈ calls, call.2.Bounded) :
    (world.invokeAll pair calls).Bounded Good := by
  induction calls generalizing world with
  | nil => exact bounded
  | cons call calls ih =>
      rw [List.forall_mem_cons] at fits
      exact ih (bounded.invoke (pair.stream call.1) fits.1) fits.2

/-- The calls of a handler are bounded when its requests are. -/
theorem bounded_calls {outcome : Reaction μ}
    (fits : ∀ request ∈ outcome.requests, request.Bounded) :
    ∀ call ∈ outcome.calls, call.2.Bounded := by
  intro call member
  rcases List.mem_append.mp member with asked | stopped
  · obtain ⟨request, among, member⟩ := List.mem_flatMap.mp asked
    have fits := fits request among
    cases request with
    | readServer | readClient | writeServer buffer | writeClient buffer =>
        cases List.mem_singleton.mp member
        exact fits
    | connect host service =>
        simp only [Request.calls, List.mem_cons, List.not_mem_nil, or_false] at member
        rcases member with rfl | rfl | rfl <;> trivial
  · split at stopped
    · cases stopped
    · simp only [stopCalls, List.mem_cons, List.not_mem_nil, or_false] at stopped
      rcases stopped with rfl | rfl <;> trivial

theorem Bounded.react (bounded : world.Bounded Good) (key : Int32) (pair : SessionPair μ)
    {outcome : Reaction μ} (fits : ∀ request ∈ outcome.requests, request.Bounded)
    (good : ∀ session, outcome.next = some session → Good session) :
    (world.react key pair outcome).Bounded Good := by
  have called := bounded.invokeAll pair (bounded_calls fits)
  refine ⟨?_, called.writes, called.buffers⟩
  intro key' pair' present
  by_cases same : key' = key
  · subst same
    rw [sessions_react, Function.update_self, Option.map_eq_some_iff] at present
    obtain ⟨session, left, rfl⟩ := present
    exact good session left
  · rw [sessions_react, Function.update_of_ne same] at present
    exact bounded.sessions key' pair' present

theorem Bounded.modifyStream (bounded : world.Bounded Good) (stream : Stream)
    {f : StreamState → StreamState} (keeps : ∀ state, (f state).writeBuffer = state.writeBuffer) :
    (world.modifyStream stream f).Bounded Good where
  sessions := bounded.sessions
  writes := bounded.writes
  buffers stream' := by
    by_cases same : stream' = stream
    · subst same
      simpa [World.modifyStream, keeps] using bounded.buffers stream'
    · simpa [World.modifyStream, Function.update_of_ne same] using bounded.buffers stream'

theorem Bounded.retire (bounded : world.Bounded Good) (stream : Stream) (op : AsyncOp)
    (completion : Completion) : (world.retire stream op completion).Bounded Good where
  sessions := bounded.sessions
  writes record member buffer written := by
    rcases List.mem_append.mp member with old | new
    · exact bounded.writes record old buffer written
    · cases List.mem_singleton.mp new
      cases written
  buffers := (bounded.modifyStream stream (f := StreamState.retire op) fun _ => rfl).buffers

variable [ReactiveState μ] (keeps : Keeps Good)
include keeps

theorem Bounded.accept (bounded : world.Bounded Good) (upstream : ServerStream) :
    (world.accept upstream).Bounded Good := by
  have started := bounded.invoke (.server upstream) (show StreamCall.start.Bounded from trivial)
  refine ⟨?_, ?_, ?_⟩
  · intro key pair present
    simp only [World.accept, insert] at present
    split at present
    · exact started.sessions key pair present
    · by_cases same : key = upstream.id
      · subst same
        simp only [Function.update_self] at present
        cases present
        exact keeps.initial upstream.id
      · simp only [Function.update_of_ne same] at present
        exact started.sessions key pair present
  · simp only [World.accept, insert]
    split <;> exact started.writes
  · simp only [World.accept, insert]
    split <;> exact started.buffers

theorem Bounded.finish {stream : Stream} {op : AsyncOp} {completion : Completion}
    (bounded : world.Bounded Good) (fits : completion.Fits op)
    (done : world.finish stream op completion = .ok next) : next.Bounded Good := by
  have retired := bounded.retire stream op completion
  have change := stream.side.writeBuffer_change op completion
  obtain ⟨-, rfl⟩ | ⟨event, pair, outcome, raised, present, computed, rfl⟩ := apply_cases done
  · exact retired.modifyStream stream change
  · have good := bounded.sessions stream.id pair present
    have brought := Side.bounded_event raised fits
    have reacted := retired.react stream.id pair
      (keeps.requests pair.session event outcome good brought computed)
      fun session left => keeps.next pair.session event outcome session good brought computed left
    exact reacted.modifyStream stream change

/-- What a protocol keeps holds in every run. -/
theorem bounded_of_reachable (reachable : Reachable world) : world.Bounded Good := by
  induction reachable with
  | start => exact bounded_empty
  | step earlier stepped bounded =>
      obtain ⟨upstream, -, rfl⟩ | ⟨stream, op, completion, enabled, done⟩ :=
        step_cases (coherent_of_reachable earlier) stepped
      · exact bounded.accept keeps upstream
      · exact bounded.finish keeps enabled.2 done

end World

end AmgiNetTools
