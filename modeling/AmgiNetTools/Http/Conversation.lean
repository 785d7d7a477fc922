/-
Module: AmgiNetTools.Http.Conversation
Layer: Http
Purpose: What an HTTP session goes through: request, resolve, connect, and then one of two ends. A
  CONNECT is answered and becomes a tunnel that relays both ways. Any other request is sent on, and
  then the session reads its peer twice over and its remote never; that end is `Crossed`, whose
  buffers can be used twice, so it is told by its operations and not by its tasks.
Main exports: Http.Exchange, Http.Phase, Http.Phase.transcript, Http.Crossing, Http.Live,
  Http.Stopped, Http.conversed
-/
import AmgiNetTools.Session.Relay
import AmgiNetTools.Http.Reactions

namespace AmgiNetTools.Http

/-- A request that `http_wait_request` accepts. -/
structure Exchange where
  message : IoBuffer
  target : Target
  decoded : Http.target message = .ok (some target)

/-- The method the parser found. -/
def Exchange.method (exchange : Exchange) : RequestMethod :=
  (getHeaders exchange.message).method

/-- The 200 reply is not itself a request. -/
theorem target_kHttpDone : Http.target kHttpDone = .ok none := by
  decide

/-- What was saved of a request tells its method. -/
theorem savedResponse_eq_kHttpDone {message : IoBuffer} {target : Target}
    (decoded : Http.target message = .ok (some target)) :
    savedResponse message = kHttpDone ↔ (getHeaders message).method = .kConnect := by
  unfold savedResponse
  constructor
  · intro saved
    by_contra other
    rw [if_neg other] at saved
    rw [saved, target_kHttpDone] at decoded
    cases decoded
  · intro connect
    rw [if_pos connect]

/-- Where a conversation is, as long as each of its buffers is used once. -/
inductive Phase where
  | handshake
  | request
  | resolving (exchange : Exchange)
  | connecting (exchange : Exchange)
  | answering (exchange : Exchange) (tunnels : exchange.method = .kConnect)
  | forwarding (exchange : Exchange) (forwards : exchange.method ≠ .kConnect)
  | tunnel (exchange : Exchange) (tunnels : exchange.method = .kConnect)
      (transfer : Relay HttpState.dataTransferMode)

namespace Phase

/-- The state object of the session. -/
def state : Phase → HttpState
  | handshake | request => .waitRequest
  | resolving _ | connecting _ => .connectionEstablished
  | answering _ _ | forwarding _ _ => .readyToTransferData
  | tunnel _ _ _ => .dataTransferMode

/-- The context of a session whose request was accepted. -/
def accepted (id : Int32) (exchange : Exchange) : SessionContext :=
  { id := id
    response := savedResponse exchange.message
    host := exchange.target.host
    service := exchange.target.service }

/-- The context of the session. -/
def context (id : Int32) : Phase → SessionContext
  | handshake | request => { id := id }
  | resolving exchange | connecting exchange => accepted id exchange
  | answering exchange _ | forwarding exchange _ => accepted id exchange
  | tunnel exchange _ transfer => transfer.context (accepted id exchange)

/-- What the session waits for. -/
def tasks : Phase → Multiset (Side × Task)
  | handshake => {(.server, .handshake)}
  | request => {(.server, .read)}
  | resolving exchange => {(.client, .resolve exchange.target.host exchange.target.service)}
  | connecting _ => {(.client, .connect)}
  | answering _ _ => {(.server, .write kHttpDone)}
  | forwarding exchange _ => {(.client, .write exchange.message)}
  | tunnel _ _ transfer => transfer.tasks

end Phase

/-! ### What has happened by each phase -/

namespace Transcript

/-- The start, and the handshake of a TLS stream. -/
def opening (tls : Bool) : History HttpState :=
  (.server, .called .start) ::
    if tls then [(.server, .completed .handshake .success [] (some .waitRequest))] else []

/-- The request came, and its host is being resolved. -/
def requested (tls : Bool) (exchange : Exchange) : History HttpState :=
  opening tls ++
    [(.server, .completed .read .success exchange.message (some .waitRequest)),
      (.client, .called (.setHost exchange.target.host)),
      (.client, .called (.setService exchange.target.service)),
      (.client, .called .start)]

/-- The host is resolved, and the connect is under way. -/
def resolved (tls : Bool) (exchange : Exchange) : History HttpState :=
  requested tls exchange ++
    [(.client, .completed (.resolve exchange.target.host exchange.target.service) .success []
      (some .connectionEstablished))]

/-- The remote is connected. -/
def connected (tls : Bool) (exchange : Exchange) : History HttpState :=
  resolved tls exchange ++
    [(.client, .completed .connect .success [] (some .connectionEstablished))]

/-- The 200 reply is out, and both ends are being read. -/
def established (tls : Bool) (exchange : Exchange) : History HttpState :=
  connected tls exchange ++
    [(.server, .called (.write kHttpDone)),
      (.server, .completed (.write kHttpDone.length) .success kHttpDone
        (some .readyToTransferData)),
      (.server, .called .read),
      (.client, .called .read)]

/-- The request is out, and the peer is being read twice. -/
def forwarded (tls : Bool) (exchange : Exchange) : History HttpState :=
  connected tls exchange ++
    [(.client, .called (.write exchange.message)),
      (.client, .completed (.write exchange.message.length) .success exchange.message
        (some .readyToTransferData)),
      (.server, .called .read),
      (.server, .called .read)]

end Transcript

/-- All that has happened by a phase. -/
def Phase.transcript (tls : Bool) : Phase → History HttpState
  | handshake => [(.server, .called .start)]
  | request => Transcript.opening tls
  | resolving exchange => Transcript.requested tls exchange
  | connecting exchange => Transcript.resolved tls exchange
  | answering exchange _ => Transcript.connected tls exchange ++
      [(.server, .called (.write kHttpDone))]
  | forwarding exchange _ =>
      Transcript.connected tls exchange ++ [(.client, .called (.write exchange.message))]
  | tunnel exchange _ transfer => Transcript.established tls exchange ++ transfer.trace

/-! ### After a forwarded request -/

/-- The histories of a session that has sent a request on, with what is outstanding at their end. A
    chunk read from the peer is written to the remote, and the peer is read again after that. -/
inductive Crossing : History HttpState → Multiset (Side × AsyncOp) → Prop where
  | start : Crossing [] {(.server, .read), (.server, .read)}
  | receive {trace : History HttpState} {ops : Multiset (Side × AsyncOp)} (chunk : IoBuffer) :
      Crossing trace ((.server, .read) ::ₘ ops) →
      Crossing (trace ++ [(.server, .completed .read .success chunk (some .dataTransferMode)),
          (.client, .called (.write chunk))])
        ((.client, .write chunk.length) ::ₘ ops)
  | deliver {trace : History HttpState} {ops : Multiset (Side × AsyncOp)} (size : Nat)
      (bytes : IoBuffer) :
      Crossing trace ((.client, .write size) ::ₘ ops) →
      Crossing
        (trace ++ [(.client, .completed (.write size) .success bytes (some .dataTransferMode)),
          (.server, .called .read)])
        ((.server, .read) ::ₘ ops)

/-- A read of the peer or a write to the remote. -/
def IsOneWay (entry : Side × AsyncOp) : Prop :=
  entry = (.server, .read) ∨ ∃ size, entry = (.client, .write size)

namespace Crossing

variable {trace : History HttpState} {ops : Multiset (Side × AsyncOp)}

/-- Two operations are outstanding all along. -/
theorem card_eq (crossing : Crossing trace ops) : ops.card = 2 := by
  induction crossing with
  | start => rfl
  | receive chunk _ ih => simpa using ih
  | deliver size bytes _ ih => simpa using ih

/-- Both operations go the same way. -/
theorem oneWay (crossing : Crossing trace ops) : ∀ entry ∈ ops, IsOneWay entry := by
  induction crossing with
  | start => simp [IsOneWay]
  | receive chunk _ ih =>
      intro entry member
      rcases Multiset.mem_cons.mp member with rfl | member
      · exact .inr ⟨chunk.length, rfl⟩
      · exact ih entry (Multiset.mem_cons_of_mem member)
  | deliver size bytes _ ih =>
      intro entry member
      rcases Multiset.mem_cons.mp member with rfl | member
      · exact .inl rfl
      · exact ih entry (Multiset.mem_cons_of_mem member)

/-- The peer is read and the remote is written, and nothing else happens. -/
theorem line_cases (crossing : Crossing trace ops) {line : Side × Happening HttpState}
    (member : line ∈ trace) :
    (∃ chunk, line = (.server, .completed .read .success chunk (some .dataTransferMode))) ∨
      (∃ size bytes, line = (.client, .completed (.write size) .success bytes
        (some .dataTransferMode))) ∨
      line = (.server, .called .read) ∨ ∃ chunk, line = (.client, .called (.write chunk)) := by
  induction crossing with
  | start => cases member
  | receive chunk _ ih =>
      rcases List.mem_append.mp member with member | member
      · exact ih member
      · simp only [List.mem_cons, List.not_mem_nil, or_false] at member
        rcases member with rfl | rfl
        · exact .inl ⟨chunk, rfl⟩
        · exact .inr (.inr (.inr ⟨chunk, rfl⟩))
  | deliver size bytes _ ih =>
      rcases List.mem_append.mp member with member | member
      · exact ih member
      · simp only [List.mem_cons, List.not_mem_nil, or_false] at member
        rcases member with rfl | rfl
        · exact .inr (.inl ⟨size, bytes, rfl⟩)
        · exact .inr (.inr (.inl rfl))

end Crossing

/-! ### Every run goes through the phases -/

/-- The phases of HTTP. -/
def script : Script HttpState Phase where
  state := Phase.state
  context := Phase.context
  tasks := Phase.tasks
  transcript := Phase.transcript

/-- A session that has sent a request on and transfers data now. -/
inductive Crossed (tls : Bool) (id : Int32) (snapshot : Snapshot HttpState) : Prop where
  | intro (exchange : Exchange) (forwards : exchange.method ≠ .kConnect) (count : UInt64)
      (trace : History HttpState) (crossing : Crossing trace snapshot.outstanding)
      (session : snapshot.session =
        some ⟨{ Phase.accepted id exchange with transferredBytesToRemote := count },
          .dataTransferMode⟩)
      (history : snapshot.history = Transcript.forwarded tls exchange ++ trace)

/-- A session that runs. Only a TLS stream has a handshake. -/
def Live (tls : Bool) (id : Int32) (snapshot : Snapshot HttpState) : Prop :=
  (∃ phase, script.InPhase tls id phase snapshot ∧ (phase = .handshake → tls = true)) ∨
    Crossed tls id snapshot

/-- A session that had sent a request on and was stopped just now, by an error. -/
inductive CrossedStop (tls : Bool) (snapshot : Snapshot HttpState) : Prop where
  | intro (exchange : Exchange) (forwards : exchange.method ≠ .kConnect)
      (trace : History HttpState) (ops : Multiset (Side × AsyncOp)) (crossing : Crossing trace ops)
      (side : Side) (op : AsyncOp) (ec : ErrorCode) (failed : ec.isError = true)
      (history : snapshot.history = Transcript.forwarded tls exchange ++ trace ++
        (side, .completed op ec [] (some .dataTransferMode)) :: stopLines)

/-- A session that was stopped just now. -/
def Stopped (tls : Bool) (id : Int32) (snapshot : Snapshot HttpState) : Prop :=
  (∃ phase requests, script.StoppedIn tls id phase requests snapshot) ∨ CrossedStop tls snapshot

/-- What a completion may lead to. -/
def Onward (tls : Bool) (id : Int32) (next : Snapshot HttpState) : Prop :=
  Live tls id next ∨ (next.Ended ∧ Stopped tls id next)

theorem relays : Relays HttpState.dataTransferMode where
  received _ source _ := by cases source <;> rfl
  delivered _ source := by cases source <;> rfl
  failed _ side _ := by cases side <;> rfl

theorem live_accepted (tls : Bool) (id : Int32) : Live tls id (.accepted tls id) := by
  cases tls with
  | true =>
      refine .inl ⟨.handshake, ⟨rfl, ⟨rfl, ?_⟩, rfl⟩, fun _ => rfl⟩
      intro side bytes member
      simp [script, Phase.tasks] at member
  | false =>
      refine .inl ⟨.request, ⟨rfl, ⟨rfl, ?_⟩, rfl⟩, by simp⟩
      intro side bytes member
      simp [script, Phase.tasks] at member

variable {tls : Bool} {id : Int32} {snapshot next : Snapshot HttpState} {side : Side} {op : AsyncOp}
  {completion : Completion}

/-- Every state stops on every error. -/
theorem reaction_error (session : Session HttpState) (ec : ErrorCode) (side : Side) :
    ReactiveState.reaction session (side.errorEvent ec) = .ok .stop := by
  obtain ⟨context, state⟩ := session
  cases side <;> cases state <;> rfl

/-- A lone task fails. -/
theorem onward_of_error {phase : Phase} (task : Task)
    (within : script.InPhase tls id phase snapshot) (lone : phase.tasks = {(side, task)})
    (raised : side.upshot task.op completion = .report (side.errorEvent completion.ec))
    (finished : snapshot.complete tls side task.op completion = .ok next) : Onward tls id next := by
  obtain ⟨ended, stopped⟩ := within.stop lone raised (reaction_error _ _ _) trivial
    (by simp [Snapshot.started]) (by simp [Snapshot.started]) finished
  exact .inr ⟨ended, .inl ⟨phase, [], stopped⟩⟩

/-- The phase after a lone task that succeeded. -/
theorem onward_of_goOn {phase : Phase} (phase' : Phase) (task : Task) (event : SessionEvent)
    (request : Request) (within : script.InPhase tls id phase snapshot)
    (lone : phase.tasks = {(side, task)})
    (raised : side.upshot task.op completion = .report event)
    (goesOn : reaction ⟨phase.context id, phase.state⟩ event =
      .ok ⟨[request], some ⟨phase'.context id, phase'.state⟩⟩)
    (started : Snapshot.started [request] 0 = phase'.tasks)
    (transcript : phase'.transcript tls = phase.transcript tls ++
      Snapshot.done side task completion (some phase.state) :: calledLines [request])
    (finished : snapshot.complete tls side task.op completion = .ok next)
    (later : phase' ≠ .handshake) : Onward tls id next :=
  .inl (.inl ⟨phase',
    within.goOn lone raised goesOn (Snapshot.fit_single request) started transcript finished,
    fun first => absurd first later⟩)

theorem onward_handshake (within : script.InPhase tls id .handshake snapshot) (secure : tls = true)
    (finished : snapshot.complete tls .server .handshake completion = .ok next) :
    Onward tls id next := by
  cases failed : completion.ec.isError with
  | false =>
      have ec := ErrorCode.eq_success failed
      refine .inl (.inl ⟨.request, within.proceed .handshake .read rfl
        (by simp [Side.upshot, failed, Task.op]) (by simp) rfl rfl rfl ?_ finished, by simp⟩)
      simp [script, Phase.transcript, Transcript.opening, secure, Snapshot.done, Task.op,
        Task.moved, ec, Phase.state]
  | true =>
      exact onward_of_error .handshake within rfl
        (by simp [Side.upshot, failed, Task.op, Side.errorEvent]) finished

/-- The first buffer is a request, or is answered with an error. -/
theorem onward_request (within : script.InPhase tls id .request snapshot)
    (finished : snapshot.complete tls .server .read completion = .ok next) :
    Onward tls id next := by
  obtain ⟨succeeded, raised⟩ | raised := Side.server.upshot_read completion
  · have ec := ErrorCode.eq_success succeeded
    cases decoded : target completion.buffer.bytes with
    | error fault =>
        -- The handler throws, so there is no next state.
        have alive : (snapshot.retire .server .read completion).session = some _ := within.session
        rw [Snapshot.complete, raised, Snapshot.apply, alive] at finished
        simp [Upshot.report, Side.readEvent, ReactiveState.reaction, reaction, script, Phase.state,
          decoded, Except.map] at finished
    | ok verdict =>
        cases verdict with
        | none =>
            obtain ⟨ended, stopped⟩ := within.stop rfl raised
              (show ReactiveState.reaction _ _ = .ok ⟨[.writeServer kHttpError500], none⟩ by
                simp [ReactiveState.reaction, reaction, script, Phase.state, Side.readEvent,
                  decoded, Except.map])
              (Snapshot.fit_single _) (by simp [Snapshot.started, Request.task, Task.IsTransfer])
              (by simp [Snapshot.started]) finished
            exact .inr ⟨ended, .inl ⟨.request, _, stopped⟩⟩
        | some address =>
            let exchange : Exchange := ⟨completion.buffer.bytes, address, decoded⟩
            exact onward_of_goOn (.resolving exchange) .read _
              (.connect address.host address.service)
              within rfl raised
              (by simp [reaction, Phase.state, Phase.context, Phase.accepted, Side.readEvent,
                decoded, exchange, Except.map])
              rfl (by simp [Phase.transcript, Transcript.requested, Snapshot.done, Task.op,
                Task.moved, ec, Phase.state, Request.calls, exchange]) finished (by simp)
  · exact onward_of_error .read within rfl raised finished

theorem onward_resolving {exchange : Exchange}
    (within : script.InPhase tls id (.resolving exchange) snapshot)
    (finished : snapshot.complete tls .client
      (.resolve exchange.target.host exchange.target.service) completion = .ok next) :
    Onward tls id next := by
  cases failed : completion.ec.isError with
  | false =>
      have ec := ErrorCode.eq_success failed
      refine .inl (.inl ⟨.connecting exchange, within.proceed
        (.resolve exchange.target.host exchange.target.service) .connect rfl
        (by simp [Side.upshot, failed, Task.op]) (by simp) rfl rfl rfl ?_ finished, by simp⟩)
      simp [script, Phase.transcript, Transcript.resolved, Snapshot.done, Task.op, Task.moved, ec,
        Phase.state]
  | true =>
      exact onward_of_error (.resolve exchange.target.host exchange.target.service) within rfl
        (by simp [Side.upshot, failed, Task.op, Side.errorEvent]) finished

/-- What was saved decides where the first write goes. -/
theorem onward_connecting {exchange : Exchange}
    (within : script.InPhase tls id (.connecting exchange) snapshot)
    (finished : snapshot.complete tls .client .connect completion = .ok next) :
    Onward tls id next := by
  cases failed : completion.ec.isError with
  | false =>
      have ec := ErrorCode.eq_success failed
      have saved := savedResponse_eq_kHttpDone exchange.decoded
      have raised : Side.client.upshot .connect completion = .report (.clientConnect []) := by
        simp [Side.upshot, failed]
      by_cases connect : exchange.method = .kConnect
      · exact onward_of_goOn (.answering exchange connect) .connect _ (.writeServer kHttpDone)
          within
          rfl raised
          (by simp [reaction, Phase.state, Phase.context, Phase.accepted, saved.mpr connect])
          rfl (by simp [Phase.transcript, Transcript.connected, Snapshot.done, Task.op, Task.moved,
            ec, Phase.state, Request.calls]) finished (by simp)
      · have kept : savedResponse exchange.message = exchange.message := if_neg connect
        have other : exchange.message ≠ kHttpDone := fun same =>
          connect (saved.mp (kept.trans same))
        exact onward_of_goOn (.forwarding exchange connect) .connect _
          (.writeClient exchange.message) within rfl raised
          (by simp [reaction, Phase.state, Phase.context, Phase.accepted, kept, other])
          rfl (by simp [Phase.transcript, Transcript.connected, Snapshot.done, Task.op, Task.moved,
            ec, Phase.state, Request.calls]) finished (by simp)
  | true =>
      exact onward_of_error .connect within rfl
        (by simp [Side.upshot, failed, Task.op, Side.errorEvent]) finished

/-- The tunnel begins with a read of both ends. -/
theorem onward_answering {exchange : Exchange} {tunnels : exchange.method = .kConnect}
    (within : script.InPhase tls id (.answering exchange tunnels) snapshot)
    (finished : snapshot.complete tls .server (.write kHttpDone.length) completion = .ok next) :
    Onward tls id next := by
  obtain ⟨succeeded, raised⟩ | raised := Side.server.upshot_write kHttpDone.length completion
  · have ec := ErrorCode.eq_success succeeded
    have context : (Phase.tunnel exchange tunnels (.start _)).context id =
        (Phase.answering exchange tunnels).context id :=
      Relay.context_start rfl rfl
    refine .inl (.inl ⟨.tunnel exchange tunnels (.start _),
      within.goOn rfl raised ?_ Relay.fit_start Relay.tasks_start ?_
      finished, by simp⟩)
    · rw [show script.context id (.tunnel exchange tunnels (.start _)) = _ from context]
      rfl
    · simp [script, Phase.transcript, Transcript.established, Relay.start, Snapshot.done, Task.op,
        Task.moved, ec, Phase.state, Request.calls]
  · exact onward_of_error (.write kHttpDone) within rfl raised finished

/-- Once the request is out, the peer is read twice. -/
theorem onward_forwarding {exchange : Exchange} {forwards : exchange.method ≠ .kConnect}
    (within : script.InPhase tls id (.forwarding exchange forwards) snapshot)
    (finished : snapshot.complete tls .client
      (.write exchange.message.length) completion = .ok next) :
    Onward tls id next := by
  obtain ⟨succeeded, raised⟩ | raised := Side.client.upshot_write exchange.message.length completion
  · have ec := ErrorCode.eq_success succeeded
    have fit : Snapshot.Fit [.readServer, .readServer] 0 := by
      refine ⟨?_, ?_, trivial⟩
      · intro side bytes other same
        simp [Request.task] at same
      · intro side bytes other same
        simp [Request.task] at same
    obtain ⟨session, performs, history⟩ := Snapshot.performs_complete (within.alone rfl)
      within.session raised rfl fit finished
    refine .inl (.inr ⟨exchange, forwards, 0, [], ?_, session, ?_⟩)
    · rw [performs.outstanding]
      exact .start
    · rw [history, within.history]
      simp [script, Phase.transcript, Transcript.forwarded, Snapshot.done, Task.op, Task.moved, ec,
        Phase.state, Request.calls]
  · exact onward_of_error (.write exchange.message) within rfl raised finished

/-- An error stops a session that has sent its request on. -/
theorem onward_crossed_error (crossed : Crossed tls id snapshot)
    (pending : op ∈ (snapshot.streams side).pending) (failed : completion.ec.isError = true)
    (raised : side.upshot op completion = .report (side.errorEvent completion.ec))
    (finished : snapshot.complete tls side op completion = .ok next) : Onward tls id next := by
  obtain ⟨exchange, forwards, count, trace, crossing, session, history⟩ := crossed
  obtain ⟨ops, split⟩ := Multiset.exists_cons_of_mem (Snapshot.mem_outstanding.mpr pending)
  have outlives : ∀ entry ∈ Snapshot.startedOps [] ops, entry.2.Outlives := by
    intro entry member
    rcases crossing.oneWay entry (split ▸ Multiset.mem_cons_of_mem member) with rfl | ⟨size, rfl⟩
    · trivial
    · trivial
  obtain ⟨ended, after⟩ := Snapshot.ended_of_stop split session raised
    (reaction_error _ completion.ec side) outlives finished
  refine .inr
    ⟨ended, .inr ⟨exchange, forwards, trace, _, crossing, side, op, completion.ec, failed, ?_⟩⟩
  rw [after, history, Snapshot.completed, session]
  cases op <;> simp [StreamState.moved, failed]

/-- Each read of the peer is followed by a write to the remote, and each such write by a read. -/
theorem onward_crossed (crossed : Crossed tls id snapshot)
    (pending : op ∈ (snapshot.streams side).pending)
    (finished : snapshot.complete tls side op completion = .ok next) : Onward tls id next := by
  have whole := crossed
  obtain ⟨exchange, forwards, count, trace, crossing, session, history⟩ := crossed
  have member := Snapshot.mem_outstanding.mpr pending
  obtain ⟨ops, split⟩ := Multiset.exists_cons_of_mem member
  rw [split] at crossing
  cases failed : completion.ec.isError with
  | true =>
      refine onward_crossed_error whole pending failed ?_ finished
      rcases crossing.oneWay _ (Multiset.mem_cons_self _ _) with same | ⟨size, same⟩
      · cases same
        simp [Side.upshot, failed, Side.errorEvent]
      · cases same
        simp [Side.upshot, failed, Side.errorEvent]
  | false =>
      have ec := ErrorCode.eq_success failed
      rcases crossing.oneWay _ (Multiset.mem_cons_self _ _) with same | ⟨size, same⟩
      · cases same
        have raised : Side.server.upshot .read completion =
          .report (.serverRead completion.buffer) := by
          simp [Side.upshot, failed]
        obtain ⟨session', outstanding, after⟩ :=
          Snapshot.outstanding_complete split session raised rfl finished
        have now : next.outstanding =
          (.client, .write completion.buffer.bytes.length) ::ₘ ops := outstanding
        have onward := crossing.receive completion.buffer.bytes
        rw [← now] at onward
        refine .inl (.inr ⟨exchange, forwards, _, _, onward, session', ?_⟩)
        rw [after, history, Snapshot.completed, session]
        simp [StreamState.moved, ec, Request.calls]
      · cases same
        have raised : Side.client.upshot (.write size) completion = .report (.clientWrite []) := by
          simp [Side.upshot, failed]
        obtain ⟨session', outstanding, after⟩ :=
          Snapshot.outstanding_complete split session raised rfl finished
        have now : next.outstanding = (.server, .read) ::ₘ ops := outstanding
        have onward := crossing.deliver size ((snapshot.streams .client).written size)
        rw [← now] at onward
        refine .inl (.inr ⟨exchange, forwards, _, _, onward, session', ?_⟩)
        rw [after, history, Snapshot.completed, session]
        simp [StreamState.moved, ec, Request.calls]

theorem onward_tunnel {exchange : Exchange} {tunnels : exchange.method = .kConnect}
    {transfer : Relay HttpState.dataTransferMode}
    (within : script.InPhase tls id (.tunnel exchange tunnels transfer) snapshot)
    (pending : op ∈ (snapshot.streams side).pending)
    (finished : snapshot.complete tls side op completion = .ok next) : Onward tls id next := by
  obtain ⟨transfer', lines, trace, session, performs, history⟩ |
      ⟨ended, exclusive, task, member, raised, history⟩ :=
    Relay.relay_complete relays within.performs within.session pending finished
  · refine .inl (.inl ⟨.tunnel exchange tunnels transfer', ⟨session, performs, ?_⟩, by simp⟩)
    rw [history, within.history]
    simp [script, Phase.transcript, trace]
  · refine .inr
      ⟨ended, .inl ⟨.tunnel exchange tunnels transfer, [], exclusive, side, task, completion,
      _, member, raised, reaction_error _ _ _, ?_⟩⟩
    rw [history, within.history]
    rfl

/-- What a completion does to a session that runs, whatever phase it is in. -/
theorem onward (live : Live tls id snapshot) (pending : op ∈ (snapshot.streams side).pending)
    (finished : snapshot.complete tls side op completion = .ok next) : Onward tls id next := by
  rcases live with ⟨phase, within, secure⟩ | crossed
  · cases phase with
    | tunnel exchange tunnels transfer => exact onward_tunnel within pending finished
    | handshake =>
        obtain ⟨rfl, rfl⟩ := within.performs.only pending
        exact onward_handshake within (secure rfl) finished
    | request =>
        obtain ⟨rfl, rfl⟩ := within.performs.only pending
        exact onward_request within finished
    | resolving exchange =>
        obtain ⟨rfl, rfl⟩ := within.performs.only pending
        exact onward_resolving within finished
    | connecting exchange =>
        obtain ⟨rfl, rfl⟩ := within.performs.only pending
        exact onward_connecting within finished
    | answering exchange tunnels =>
        obtain ⟨rfl, rfl⟩ := within.performs.only pending
        exact onward_answering within finished
    | forwarding exchange forwards =>
        obtain ⟨rfl, rfl⟩ := within.performs.only pending
        exact onward_forwarding within finished
  · exact onward_crossed crossed pending finished

/-- Every session of an HTTP server is in a phase, or was stopped in one. -/
theorem conversed {world : HttpStreamManager} {upstream : ServerStream}
    (reachable : Reachable world) (accepted : world.Accepted upstream) :
    (world.snapshot upstream).Conversed (Live upstream.tls upstream.id)
      (Stopped upstream.tls upstream.id) :=
  Snapshot.conversed_of_reachable (live_accepted _ _)
    (fun _ _ _ _ _ live pending finished => onward live pending finished)
    (World.snapshot_reachable reachable accepted)

/-- A session in the map of an HTTP server runs. -/
theorem live_of_present {world : HttpStreamManager} {key : Int32} {pair : SessionPair HttpState}
    (reachable : Reachable world) (present : world.sessions key = some pair) :
    Live pair.server.tls pair.server.id (world.snapshot pair.server) := by
  obtain ⟨accepted, -, session, -⟩ := World.entry_of_reachable reachable present
  cases conversed reachable accepted with
  | live holds => exact holds
  | ended ended => exact absurd (session.symm.trans ended.gone) (by simp)

end AmgiNetTools.Http
