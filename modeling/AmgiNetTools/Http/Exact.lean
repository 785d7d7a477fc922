/-
Module: AmgiNetTools.Http.Exact
Layer: Http
Purpose: What an HTTP session goes through, exactly. The phases are as in `Http.Conversation`. After
  a request that was sent on the two reads of the peer share a read buffer and the two writes to the
  remote a write buffer, and `Overlay` keeps that buffer: a chunk is laid over the one before, and
  what a write puts on the wire is what lies in the buffer when it completes. With it the histories
  of the sessions that run are known exactly, and the counters with them.
Main exports: Http.Possible, Http.entered_of_possible, Http.Overlay, Http.Passing,
  http_conversations_exact
-/
import AmgiNetTools.Session.Realize
import AmgiNetTools.Http.Tunnel

namespace AmgiNetTools

namespace Http

variable {tls : Bool} {id : Int32} {exchange : Exchange}

/-- A phase some session comes to. Only a TLS stream has a handshake, and every read brings what a
    read can bring. -/
structure Possible (tls : Bool) (phase : Phase) : Prop where
  secure : phase = .handshake → tls = true
  fits : ReadsFit (phase.transcript tls)

/-! ### Every possible phase is entered -/

theorem entered_handshake : script.Entered true id .handshake := by
  refine ⟨_, .start, rfl, ⟨rfl, ?_⟩, rfl⟩
  intro side bytes member
  simp [script, Phase.tasks] at member

theorem entered_request : script.Entered tls id .request := by
  cases tls with
  | true =>
      exact entered_handshake.proceed .handshake .read (.succeeded []) rfl (by rintro ⟨⟩) rfl
        (by simp) rfl rfl rfl rfl
  | false =>
      refine ⟨_, .start, rfl, ⟨rfl, ?_⟩, rfl⟩
      intro side bytes member
      simp [script, Phase.tasks] at member

theorem entered_resolving (fits : ReadsFit (Transcript.requested tls exchange)) :
    script.Entered tls id (.resolving exchange) := by
  have brought : (Completion.succeeded exchange.message).Fits .read := fun _ _ =>
    (readsFit_append.mp fits).2 .server _ (by simp [arrivals, arrival, Completion.succeeded])
  have raised : Side.server.upshot .read (.succeeded exchange.message) =
      .report (.serverRead (Completion.succeeded exchange.message).buffer) := rfl
  refine entered_request.goOn [.connect exchange.target.host exchange.target.service] .read _ rfl
    brought raised ?_ (Snapshot.fit_single _) rfl ?_
  · have decoded := exchange.decoded
    simp [script, ReactiveState.reaction, reaction, Phase.state, Phase.context, Phase.accepted,
      Completion.succeeded, decoded, Except.map]
  · simp [script, Phase.transcript, Transcript.requested, Snapshot.done, Task.op, Task.moved,
      Phase.state, Request.calls, Completion.succeeded]

theorem entered_connecting (fits : ReadsFit (Transcript.resolved tls exchange)) :
    script.Entered tls id (.connecting exchange) :=
  (entered_resolving (readsFit_append.mp fits).1).proceed
    (.resolve exchange.target.host exchange.target.service) .connect (.succeeded []) rfl
    (by rintro ⟨⟩) rfl (by simp) rfl rfl rfl (by simp [script, Phase.transcript,
      Transcript.resolved, Snapshot.done, Task.op, Task.moved, Phase.state, Completion.succeeded])

theorem readsFit_resolved (fits : ReadsFit (Transcript.connected tls exchange)) :
    ReadsFit (Transcript.resolved tls exchange) := (readsFit_append.mp fits).1

theorem entered_answering (connect : exchange.method = .kConnect)
    (fits : ReadsFit (Transcript.connected tls exchange)) :
    script.Entered tls id (.answering exchange connect) := by
  have saved := (savedResponse_eq_kHttpDone exchange.decoded).mpr connect
  refine (entered_connecting (readsFit_resolved fits)).goOn [.writeServer kHttpDone] .connect
    (.succeeded []) rfl (by rintro ⟨⟩) rfl ?_ (Snapshot.fit_single _) rfl ?_
  · simp [script, ReactiveState.reaction, reaction, Phase.state, Phase.context, Phase.accepted,
      saved]
  · simp [script, Phase.transcript, Transcript.connected, Snapshot.done, Task.op, Task.moved,
      Phase.state, Request.calls, Completion.succeeded]

theorem entered_forwarding (forwards : exchange.method ≠ .kConnect)
    (fits : ReadsFit (Transcript.connected tls exchange)) :
    script.Entered tls id (.forwarding exchange forwards) := by
  have kept : savedResponse exchange.message = exchange.message := if_neg forwards
  have other : exchange.message ≠ kHttpDone := fun same =>
    forwards ((savedResponse_eq_kHttpDone exchange.decoded).mp (kept.trans same))
  refine (entered_connecting (readsFit_resolved fits)).goOn [.writeClient exchange.message] .connect
    (.succeeded []) rfl (by rintro ⟨⟩) rfl ?_ (Snapshot.fit_single _) rfl ?_
  · simp [script, ReactiveState.reaction, reaction, Phase.state, Phase.context, Phase.accepted,
      kept, other]
  · simp [script, Phase.transcript, Transcript.connected, Snapshot.done, Task.op, Task.moved,
      Phase.state, Request.calls, Completion.succeeded]

/-- Both reads of the tunnel are started when the answer is out. -/
theorem entered_start (connect : exchange.method = .kConnect)
    (fits : ReadsFit (Transcript.established tls exchange)) :
    script.Entered tls id (.tunnel exchange connect (.start _)) := by
  have context : (Phase.tunnel exchange connect (.start _)).context id =
      (Phase.answering exchange connect).context id := Relay.context_start rfl rfl
  refine (entered_answering connect (readsFit_append.mp fits).1).goOn [.readServer, .readClient]
    (.write kHttpDone) (.succeeded []) rfl (by rintro ⟨⟩) rfl ?_ Relay.fit_start
    Relay.tasks_start ?_
  · rw [show script.context id (.tunnel exchange connect (.start _)) = _ from context]
    rfl
  · simp [script, Phase.transcript, Transcript.established, Relay.start, Snapshot.done, Task.op,
      Task.moved, Phase.state, Request.calls, Completion.succeeded]

theorem entered_tunnel (connect : exchange.method = .kConnect)
    {transfer : Relay HttpState.dataTransferMode}
    (fits : ReadsFit (Transcript.established tls exchange ++ transfer.trace)) :
    script.Entered tls id (.tunnel exchange connect transfer) := by
  obtain ⟨early, late⟩ := readsFit_append.mp fits
  obtain ⟨snapshot, reachable, within⟩ := @entered_start tls id exchange connect early
  have begun : (Relay.start HttpState.dataTransferMode).Entered tls id
      (Phase.accepted id exchange) (Transcript.established tls exchange) :=
    ⟨snapshot, reachable, within.session, within.performs, within.history⟩
  obtain ⟨snapshot', reachable', session, performs, history⟩ :=
    Relay.entered_of_readsFit relays begun late
  exact ⟨snapshot', reachable', session, performs, history⟩

theorem entered_of_possible {phase : Phase} (possible : Possible tls phase) :
    script.Entered tls id phase := by
  have fits := possible.fits
  cases phase with
  | handshake =>
      obtain rfl := possible.secure rfl
      exact entered_handshake
  | request => exact entered_request
  | resolving exchange => exact entered_resolving fits
  | connecting exchange => exact entered_connecting fits
  | answering exchange connect => exact entered_answering connect (readsFit_append.mp fits).1
  | forwarding exchange forwards => exact entered_forwarding forwards (readsFit_append.mp fits).1
  | tunnel exchange connect transfer => exact entered_tunnel connect fits

/-! ### After a forwarded request, exactly -/

/-- The histories of a session that has sent `message` on, with what is outstanding at their end and
    what lies in the write buffer towards the remote. -/
inductive Overlay (message : IoBuffer) :
    History HttpState → Multiset (Side × AsyncOp) → IoBuffer → Prop where
  | start : Overlay message [] {(.server, .read), (.server, .read)} message
  | receive {trace : History HttpState} {ops : Multiset (Side × AsyncOp)} {buffer : IoBuffer}
      (chunk : IoBuffer) :
      Overlay message trace ((.server, .read) ::ₘ ops) buffer →
      Overlay message
        (trace ++ [(.server, .completed .read .success chunk (some .dataTransferMode)),
          (.client, .called (.write chunk))])
        ((.client, .write chunk.length) ::ₘ ops) (copyInto chunk buffer)
  | deliver {trace : History HttpState} {ops : Multiset (Side × AsyncOp)} {buffer : IoBuffer}
      (size : Nat) :
      Overlay message trace ((.client, .write size) ::ₘ ops) buffer →
      Overlay message
        (trace ++ [(.client, .completed (.write size) .success (buffer.take size)
            (some .dataTransferMode)), (.server, .called .read)])
        ((.server, .read) ::ₘ ops) buffer

namespace Overlay

variable {message buffer : IoBuffer} {trace : History HttpState}
  {ops : Multiset (Side × AsyncOp)}

theorem crossing (overlay : Overlay message trace ops buffer) : Crossing trace ops := by
  induction overlay with
  | start => exact .start
  | receive chunk _ ih => exact ih.receive chunk
  | @deliver trace ops buffer size _ ih => exact ih.deliver size (buffer.take size)

theorem length_le_copyInto (chunk buffer : IoBuffer) :
    buffer.length ≤ (copyInto chunk buffer).length := by
  rw [copyInto, List.length_append, List.length_drop]
  omega

/-- The buffer holds all of every write that is under way. -/
theorem size_le (overlay : Overlay message trace ops buffer) {size : Nat}
    (member : (.client, .write size) ∈ ops) : size ≤ buffer.length := by
  induction overlay with
  | start => simp at member
  | @receive trace ops buffer chunk _ ih =>
      rcases Multiset.mem_cons.mp member with same | old
      · cases same
        rw [copyInto, List.length_append]
        exact Nat.le_add_right _ _
      · exact (ih (Multiset.mem_cons_of_mem old)).trans (length_le_copyInto chunk buffer)
  | deliver size' _ ih =>
      rcases Multiset.mem_cons.mp member with same | old
      · cases same
      · exact ih (Multiset.mem_cons_of_mem old)

end Overlay

/-- What a session that has sent its request on holds: both counters count from the transfer on. -/
def passingSession (id : Int32) (exchange : Exchange) (trace : History HttpState) :
    Session HttpState :=
  ⟨{ Phase.accepted id exchange with
      transferredBytesToRemote :=
        UInt64.ofNat (chunksRead .dataTransferMode .server trace).flatten.length },
    .dataTransferMode⟩

/-- A session that has sent a request on and transfers data now. -/
structure Passing (tls : Bool) (id : Int32) (exchange : Exchange) (trace : History HttpState)
    (ops : Multiset (Side × AsyncOp)) (buffer : IoBuffer) (snapshot : Snapshot HttpState) :
    Prop where
  overlay : Overlay exchange.message trace ops buffer
  outstanding : snapshot.outstanding = ops
  session : snapshot.session = some (passingSession id exchange trace)
  history : snapshot.history = Transcript.forwarded tls exchange ++ trace
  buffered : (snapshot.streams .client).written buffer.length = buffer

variable {snapshot : Snapshot HttpState} {trace : History HttpState} {buffer : IoBuffer}
  {ops : Multiset (Side × AsyncOp)} {completion : Completion}

/-- A buffer keeps what it is overlaid with, and the rest of what it held. -/
theorem take_copyInto_buffer {chunk whole : IoBuffer} (holds : whole.take buffer.length = buffer) :
    (copyInto chunk whole).take (copyInto chunk buffer).length = copyInto chunk buffer := by
  have rest : (whole.drop chunk.length).take (buffer.length - chunk.length) =
      buffer.drop chunk.length := by
    rw [← holds, List.drop_take, List.length_take]
    have fits : buffer.length ≤ whole.length := by
      have := congrArg List.length holds
      rw [List.length_take] at this
      omega
    rw [Nat.min_eq_left fits]
  rw [copyInto, copyInto, List.length_append, List.length_drop, List.take_length_add_append, rest]

/-- What the requests of a transfer do to the buffer towards the remote. -/
theorem writeBuffer_writeClient (snapshot : Snapshot HttpState) (side : Side) (op : AsyncOp)
    (completion : Completion) (chunk : IoBuffer) (session : Session HttpState) :
    ((((snapshot.retire side op completion).react tls
      ⟨[.writeClient chunk], some session⟩).streams .client).writeBuffer) =
      copyInto chunk (snapshot.streams .client).writeBuffer := by
  cases side <;> simp [Snapshot.react, Reaction.calls, Request.calls, Snapshot.streams_invoke,
    Snapshot.invoke_write, TcpServerStream.doWrite, StreamState.initiate, Snapshot.retire,
    StreamState.retire]

theorem writeBuffer_readServer (snapshot : Snapshot HttpState) (side : Side) (op : AsyncOp)
    (completion : Completion) (requests : List Request)
    (reads : ∀ request ∈ requests, request = .readServer) (session : Session HttpState) :
    ((((snapshot.retire side op completion).react tls ⟨requests, some session⟩).streams
      .client).writeBuffer) = (snapshot.streams .client).writeBuffer := by
  have retired : ((snapshot.retire side op completion).streams .client).writeBuffer =
      (snapshot.streams .client).writeBuffer := by
    cases side <;> simp [Snapshot.retire, StreamState.retire]
  rw [← retired]
  generalize snapshot.retire side op completion = before
  simp only [Snapshot.react, Reaction.calls, List.append_nil]
  induction requests generalizing before with
  | nil => rfl
  | cons request requests ih =>
      rw [List.forall_mem_cons] at reads
      obtain ⟨rfl, reads⟩ := reads
      rw [List.flatMap_cons, List.foldl_append, ih reads]
      simp [Request.calls, Snapshot.streams_invoke]

/-- The counter towards the remote after a chunk more was read. -/
theorem passingSession_receive (exchange : Exchange) (trace : History HttpState)
    (chunk : IoBuffer) :
    passingSession id exchange
        (trace ++ [(.server, .completed .read .success chunk (some .dataTransferMode)),
          (.client, .called (.write chunk))]) =
      ⟨(passingSession id exchange trace).context.count .server chunk.length,
        .dataTransferMode⟩ := by
  have read : chunksRead .dataTransferMode .server
      (trace ++ [(.server, .completed .read .success chunk (some .dataTransferMode)),
        (.client, .called (.write chunk))]) =
      chunksRead .dataTransferMode .server trace ++ [chunk] := by
    rw [Relay.chunksRead_append]
    exact congrArg _ (Relay.chunksRead_receiveLines .server .server chunk)
  simp [passingSession, read, SessionContext.count, UInt64.ofNat_add]

/-- A write leaves the counter as it is. -/
theorem passingSession_deliver (exchange : Exchange) (trace : History HttpState) (size : Nat)
    (bytes : IoBuffer) :
    passingSession id exchange
        (trace ++ [(.client, .completed (.write size) .success bytes (some .dataTransferMode)),
          (.server, .called .read)]) = passingSession id exchange trace := by
  have read : chunksRead .dataTransferMode .server
      (trace ++ [(.client, .completed (.write size) .success bytes (some .dataTransferMode)),
        (.server, .called .read)]) = chunksRead .dataTransferMode .server trace := by
    rw [Relay.chunksRead_append]
    simp [chunksRead, laneEvents, laneEvent, Lane.received, Side.opposite]
  rw [passingSession, read, passingSession]

/-- A chunk of the peer is laid over the buffer. -/
theorem Passing.receive (passing : Passing tls id exchange trace ((.server, .read) ::ₘ ops) buffer
      snapshot) (succeeded : completion.ec.isError = false) :
    ∃ next, snapshot.complete tls .server .read completion = .ok next ∧
      Passing tls id exchange
        (trace ++ [(.server, .completed .read .success completion.buffer.bytes
            (some .dataTransferMode)), (.client, .called (.write completion.buffer.bytes))])
        ((.client, .write completion.buffer.bytes.length) ::ₘ ops)
        (copyInto completion.buffer.bytes buffer) next := by
  have ec := ErrorCode.eq_success succeeded
  have raised : Side.server.upshot .read completion = .report (.serverRead completion.buffer) := by
    simp [Side.upshot, succeeded]
  have computed : ReactiveState.reaction (passingSession id exchange trace)
      (.serverRead completion.buffer) = .ok ⟨[.writeClient completion.buffer.bytes], _⟩ := rfl
  have finished := @Snapshot.complete_report _ snapshot .server .read _ tls completion _ _ _
    passing.session raised computed
  obtain ⟨session, outstanding, history⟩ := Snapshot.outstanding_complete passing.outstanding
    passing.session raised computed finished
  refine ⟨_, finished, passing.overlay.receive _, outstanding, ?_, ?_, ?_⟩
  · rw [session, passingSession_receive]
    rfl
  · rw [history, passing.history, Snapshot.completed, passing.session]
    simp [StreamState.moved, ec, Request.calls, passingSession]
  · have holds := passing.buffered
    rw [StreamState.written] at holds ⊢
    rw [writeBuffer_writeClient]
    exact take_copyInto_buffer holds

/-- A write puts on the wire what lies in the buffer. -/
theorem Passing.deliver {size : Nat} (passing : Passing tls id exchange trace
      ((.client, .write size) ::ₘ ops) buffer snapshot)
    (succeeded : completion.ec.isError = false) :
    ∃ next, snapshot.complete tls .client (.write size) completion = .ok next ∧
      Passing tls id exchange
        (trace ++ [(.client, .completed (.write size) .success (buffer.take size)
            (some .dataTransferMode)), (.server, .called .read)])
        ((.server, .read) ::ₘ ops) buffer next := by
  have ec := ErrorCode.eq_success succeeded
  have raised : Side.client.upshot (.write size) completion = .report (.clientWrite []) := by
    simp [Side.upshot, succeeded]
  have computed : ReactiveState.reaction (passingSession id exchange trace) (.clientWrite []) =
      .ok ⟨[.readServer], some (passingSession id exchange trace)⟩ := rfl
  have finished := @Snapshot.complete_report _ snapshot .client (.write size) _ tls completion _ _ _
    passing.session raised computed
  obtain ⟨session, outstanding, history⟩ := Snapshot.outstanding_complete passing.outstanding
    passing.session raised computed finished
  refine ⟨_, finished, passing.overlay.deliver _, outstanding, ?_, ?_, ?_⟩
  · rw [session, passingSession_deliver]
  · have moved : (snapshot.streams .client).written size = buffer.take size := by
      have fits := passing.overlay.size_le (Multiset.mem_cons_self _ _)
      have holds := passing.buffered
      rw [StreamState.written] at holds ⊢
      rw [← holds, List.take_take, Nat.min_eq_left fits]
    rw [history, passing.history, Snapshot.completed, passing.session]
    simp [StreamState.moved, ec, Request.calls, passingSession, moved]
  · rw [StreamState.written, writeBuffer_readServer _ _ _ _ _ (by simp)]
    exact passing.buffered

/-- The request was written, so it is what the buffer holds. -/
theorem Passing.start {forwards : exchange.method ≠ .kConnect}
    (within : script.InPhase tls id (.forwarding exchange forwards) snapshot)
    (succeeded : completion.ec.isError = false) :
    ∃ next, snapshot.complete tls .client (.write exchange.message.length) completion = .ok next ∧
      Passing tls id exchange [] {(.server, .read), (.server, .read)} exchange.message next := by
  have ec := ErrorCode.eq_success succeeded
  have raised : Side.client.upshot (.write exchange.message.length) completion =
      .report (.clientWrite []) := by
    simp [Side.upshot, succeeded]
  have alone : snapshot.outstanding = (.client, .write exchange.message.length) ::ₘ 0 :=
    (within.alone rfl).outstanding
  have finished := @Snapshot.complete_report _ snapshot .client (.write exchange.message.length) _
    tls completion _ _ _ within.session raised rfl
  obtain ⟨session, outstanding, history⟩ := Snapshot.outstanding_complete alone within.session
    raised rfl finished
  have moved := (within.alone rfl).moved completion
  refine ⟨_, finished, .start, outstanding, session, ?_, ?_⟩
  · rw [history, within.history, Snapshot.completed, within.session]
    rw [show (snapshot.streams .client).moved (.write exchange.message.length) completion = _
      from moved]
    simp [script, Phase.transcript, Transcript.forwarded, Task.moved, ec, Request.calls,
      Phase.state]
  · have holds := within.performs.buffered .client exchange.message
      (Multiset.mem_singleton_self _)
    rw [StreamState.written] at holds ⊢
    rw [writeBuffer_readServer _ _ _ _ _ (by simp)]
    exact holds

/-- Every history of that kind whose reads fit is one of some run. -/
theorem entered_passing (forwards : exchange.method ≠ .kConnect)
    (overlay : Overlay exchange.message trace ops buffer)
    (fits : ReadsFit (Transcript.forwarded tls exchange ++ trace)) :
    ∃ snapshot, Snapshot.Reachable tls id snapshot ∧
      Passing tls id exchange trace ops buffer snapshot := by
  obtain ⟨early, late⟩ := readsFit_append.mp fits
  induction overlay with
  | start =>
      obtain ⟨snapshot, reachable, within⟩ :=
        @entered_forwarding tls id exchange forwards (readsFit_append.mp early).1
      obtain ⟨next, finished, passing⟩ := Passing.start within
        (show (Completion.succeeded []).ec.isError = false from rfl)
      have pending := (within.alone rfl).mem_pending (Multiset.mem_cons_self _ _)
      exact ⟨next, reachable.step pending (by rintro ⟨⟩) finished, passing⟩
  | @receive trace ops buffer chunk _ ih =>
      obtain ⟨before, now⟩ := readsFit_append.mp late
      have brought : (Completion.succeeded chunk).Fits .read := fun _ _ =>
        now .server chunk (by simp [arrivals, arrival])
      obtain ⟨snapshot, reachable, passing⟩ := ih (readsFit_append.mpr ⟨early, before⟩) before
      obtain ⟨next, finished, passing'⟩ := passing.receive
        (show (Completion.succeeded chunk).ec.isError = false from rfl)
      have pending : .read ∈ (snapshot.streams .server).pending := by
        rw [← Snapshot.mem_outstanding, passing.outstanding]
        exact Multiset.mem_cons_self _ _
      exact ⟨next, reachable.step pending brought finished, passing'⟩
  | @deliver trace ops buffer size _ ih =>
      obtain ⟨before, -⟩ := readsFit_append.mp late
      obtain ⟨snapshot, reachable, passing⟩ := ih (readsFit_append.mpr ⟨early, before⟩) before
      obtain ⟨next, finished, passing'⟩ := passing.deliver
        (show (Completion.succeeded []).ec.isError = false from rfl)
      have pending : .write size ∈ (snapshot.streams .client).pending := by
        rw [← Snapshot.mem_outstanding, passing.outstanding]
        exact Multiset.mem_cons_self _ _
      exact ⟨next, reachable.step pending (by rintro ⟨⟩) finished, passing'⟩

/-! ### Nothing else happens -/

variable {next : Snapshot HttpState} {side : Side} {op : AsyncOp}

/-- An error ends a session, whatever it was doing. -/
theorem gone_of_error {session : Session HttpState} (present : snapshot.session = some session)
    (raised : side.upshot op completion = .report (side.errorEvent completion.ec))
    (finished : snapshot.complete tls side op completion = .ok next) : next.session = none := by
  rw [Snapshot.complete_report present raised (reaction_error session completion.ec side)]
    at finished
  cases finished
  rfl

/-- Whatever completes, the session is gone or passes data on. -/
theorem Passing.step (passing : Passing tls id exchange trace ops buffer snapshot)
    (pending : op ∈ (snapshot.streams side).pending)
    (finished : snapshot.complete tls side op completion = .ok next)
    (alive : next.session ≠ none) :
    ∃ trace' ops' buffer', Passing tls id exchange trace' ops' buffer' next := by
  have member := Snapshot.mem_outstanding.mpr pending
  rw [passing.outstanding] at member
  have oneWay := passing.overlay.crossing.oneWay _ member
  obtain ⟨rest, rfl⟩ := Multiset.exists_cons_of_mem member
  cases failed : completion.ec.isError with
  | true =>
      refine absurd (gone_of_error passing.session ?_ finished) alive
      rcases oneWay with same | ⟨size, same⟩
      · cases same
        simp [Side.upshot, failed, Side.errorEvent]
      · cases same
        simp [Side.upshot, failed, Side.errorEvent]
  | false =>
      rcases oneWay with same | ⟨size, same⟩
      · cases same
        obtain ⟨next', finished', passing'⟩ := passing.receive failed
        cases finished.symm.trans finished'
        exact ⟨_, _, _, passing'⟩
      · cases same
        obtain ⟨next', finished', passing'⟩ := passing.deliver failed
        cases finished.symm.trans finished'
        exact ⟨_, _, _, passing'⟩

/-- The line that tells that a request was sent on. -/
def IsForwarded (line : Side × Happening HttpState) : Prop :=
  ∃ size bytes, line =
    (.client, .completed (.write size) .success bytes (some .readyToTransferData))

theorem not_isForwarded_transcript (phase : Phase) {line : Side × Happening HttpState}
    (member : line ∈ phase.transcript tls) : ¬ IsForwarded line := by
  rintro ⟨size, bytes, rfl⟩
  cases phase with
  | tunnel exchange connect transfer =>
      rw [Phase.transcript, List.mem_append] at member
      rcases member with early | late
      · cases tls <;> simp [Transcript.established, Transcript.connected, Transcript.resolved,
          Transcript.requested, Transcript.opening] at early
      · obtain ⟨_, _, _, same⟩ | ⟨_, same⟩ | ⟨_, _, same⟩ := transfer.line_cases late <;> cases same
  | _ =>
      cases tls <;> simp [Phase.transcript, Transcript.connected, Transcript.resolved,
        Transcript.requested, Transcript.opening] at member

/-- Only the write of a request leads out of the phases. -/
theorem not_crossed {phase : Phase} (within : script.InPhase tls id phase snapshot)
    (other : ∀ exchange forwards, phase ≠ .forwarding exchange forwards)
    (pending : op ∈ (snapshot.streams side).pending)
    (finished : snapshot.complete tls side op completion = .ok next) :
    ¬ Crossed tls id next := by
  rintro ⟨exchange, forwards, count, trace, -, -, history⟩
  have now : (.client, .completed (.write exchange.message.length) .success exchange.message
      (some .readyToTransferData)) ∈ next.history := by
    rw [history, List.mem_append]
    exact .inl (by simp [Transcript.forwarded])
  have before : ∀ line ∈ snapshot.history, ¬ IsForwarded line := by
    rw [within.history]
    exact fun line => not_isForwarded_transcript phase
  have sent : (side, snapshot.completed side op completion) =
      (.client, .completed (.write exchange.message.length) .success exchange.message
        (some .readyToTransferData)) := by
    obtain ⟨-, grown⟩ | ⟨event, session, outcome, -, -, -, grown⟩ :=
      Snapshot.complete_cases finished
    · rw [grown, List.mem_append, List.mem_singleton] at now
      exact (now.resolve_left fun old => before _ old ⟨_, _, rfl⟩).symm
    · rw [grown, List.mem_append, List.mem_cons] at now
      rcases now with old | new | call
      · exact absurd ⟨_, _, rfl⟩ (before _ old)
      · exact new.symm
      · obtain ⟨_, -, same⟩ := List.mem_map.mp call
        injection same with _ called
        cases called
  rw [Snapshot.completed, within.session] at sent
  injection sent with client completed
  injection completed with _ _ _ state
  have ready : phase.state = .readyToTransferData := Option.some.inj state
  cases phase with
  | forwarding exchange forwards => exact other exchange forwards rfl
  | answering exchange connect =>
      obtain ⟨server, -⟩ := within.performs.only pending
      rw [client] at server
      cases server
  | _ => cases ready

/-- A request that was written leads out of the phases, and nothing else that goes on does. -/
theorem phase_step {phase : Phase} (within : script.InPhase tls id phase snapshot)
    (secure : phase = .handshake → tls = true) (pending : op ∈ (snapshot.streams side).pending)
    (finished : snapshot.complete tls side op completion = .ok next)
    (alive : next.session ≠ none) :
    (∃ phase', script.InPhase tls id phase' next ∧ (phase' = .handshake → tls = true)) ∨
      ∃ exchange trace ops buffer, exchange.method ≠ .kConnect ∧
        Passing tls id exchange trace ops buffer next := by
  by_cases forwarding : ∃ exchange forwards, phase = .forwarding exchange forwards
  · obtain ⟨exchange, forwards, rfl⟩ := forwarding
    obtain ⟨rfl, rfl⟩ := within.performs.only pending
    cases failed : completion.ec.isError with
    | true =>
        refine absurd (gone_of_error within.session ?_ finished) alive
        simp [Side.upshot, Task.op, failed, Side.errorEvent]
    | false =>
        obtain ⟨next', finished', passing⟩ := Passing.start within failed
        cases finished.symm.trans finished'
        exact .inr ⟨exchange, _, _, _, forwards, passing⟩
  · obtain (live | crossed) | ⟨ended, -⟩ := onward (.inl ⟨phase, within, secure⟩) pending finished
    · exact .inl live
    · refine absurd crossed (not_crossed within ?_ pending finished)
      exact fun exchange forwards same => forwarding ⟨exchange, forwards, same⟩
    · exact absurd ended.gone alive

/-- A session that runs is in a phase, or passes data on. -/
theorem phase_of_reachable (reachable : Snapshot.Reachable tls id snapshot)
    (alive : snapshot.session ≠ none) :
    (∃ phase, script.InPhase tls id phase snapshot ∧ (phase = .handshake → tls = true)) ∨
      ∃ exchange trace ops buffer, exchange.method ≠ .kConnect ∧
        Passing tls id exchange trace ops buffer snapshot := by
  induction reachable with
  | start =>
      obtain live | crossed := live_accepted tls id
      · exact .inl live
      · obtain ⟨_, _, _, _, _, session, _⟩ := crossed
        have state : HttpState.waitRequest = .dataTransferMode :=
          congrArg Session.state (Option.some.inj session)
        cases state
  | @step snapshot next side op completion _ pending _ finished ih =>
      obtain ⟨session, before⟩ := session_of_complete finished alive
      rcases ih (by simp [before]) with ⟨phase, within, secure⟩ | crossed
      · exact phase_step within secure pending finished alive
      · obtain ⟨exchange, trace, ops, buffer, forwards, passing⟩ := crossed
        obtain ⟨trace', ops', buffer', passing'⟩ := passing.step pending finished alive
        exact .inr ⟨exchange, trace', ops', buffer', forwards, passing'⟩

theorem possible_of_reachable (reachable : Snapshot.Reachable tls id snapshot)
    (alive : snapshot.session ≠ none) :
    (∃ phase, Possible tls phase ∧ script.InPhase tls id phase snapshot) ∨
      ∃ exchange trace ops buffer, exchange.method ≠ .kConnect ∧
        Passing tls id exchange trace ops buffer snapshot := by
  obtain ⟨phase, within, secure⟩ | crossed := phase_of_reachable reachable alive
  · refine .inl ⟨phase, ⟨secure, ?_⟩, within⟩
    rw [show phase.transcript tls = _ from within.history.symm]
    exact readsFit_of_reachable reachable
  · exact .inr crossed

end Http

/-- The sessions in the maps of HTTP servers, with what they hold and all that has happened to them,
    are exactly the possible phases, and the sessions that have sent a request on and lay what they
    read since over each other. -/
theorem http_conversations_exact (upstream : ServerStream) (session : Session HttpState)
    (history : History HttpState) :
    (∃ world : HttpStreamManager, Reachable world ∧
      world.sessions upstream.id = some (upstream.pair session) ∧
      world.conversation upstream = history) ↔
    (∃ phase : Http.Phase, Http.Possible upstream.tls phase ∧
      session = ⟨phase.context upstream.id, phase.state⟩ ∧
      history = phase.transcript upstream.tls) ∨
    ∃ (exchange : Http.Exchange) (trace : History HttpState) (ops : Multiset (Side × AsyncOp))
      (buffer : IoBuffer), exchange.method ≠ .kConnect ∧
      Http.Overlay exchange.message trace ops buffer ∧
      ReadsFit (Http.Transcript.forwarded upstream.tls exchange ++ trace) ∧
      session = Http.passingSession upstream.id exchange trace ∧
      history = Http.Transcript.forwarded upstream.tls exchange ++ trace := by
  constructor
  · rintro ⟨world, reachable, present, rfl⟩
    obtain ⟨accepted, -, alive, -⟩ := World.entry_of_reachable reachable present
    obtain ⟨phase, possible, within⟩ | ⟨exchange, trace, ops, buffer, forwards, passing⟩ :=
      Http.possible_of_reachable (World.snapshot_reachable reachable accepted) (by simp [alive])
    · exact .inl ⟨phase, possible, Option.some.inj (alive.symm.trans within.session),
        within.history⟩
    · have fits := readsFit_of_reachable (World.snapshot_reachable reachable accepted)
      rw [passing.history] at fits
      exact .inr ⟨exchange, trace, ops, buffer, forwards, passing.overlay, fits,
        Option.some.inj (alive.symm.trans passing.session), passing.history⟩
  · rintro (⟨phase, possible, rfl, rfl⟩ | ⟨exchange, trace, ops, buffer, forwards, overlay, fits,
      rfl, rfl⟩)
    · obtain ⟨snapshot, alone, within⟩ :=
        @Http.entered_of_possible upstream.tls upstream.id phase possible
      exact World.present_of_snapshot alone within.session within.history
    · obtain ⟨snapshot, alone, passing⟩ :=
        @Http.entered_passing upstream.tls upstream.id exchange trace buffer ops forwards overlay
          fits
      exact World.present_of_snapshot alone passing.session passing.history

end AmgiNetTools
