/-
Module: AmgiNetTools.Socks5.Conversation
Layer: Socks5
Purpose: What a SOCKS5 session is for, as a sequence of phases: greeting, method reply, request,
  resolve, connect, connect reply, data transfer. A phase says what the session holds, what it waits
  for, and all that has happened so far. Every run of a session goes through these phases until a
  completion stops it.
Main exports: Socks5.Exchange, Socks5.Phase, Socks5.Phase.transcript, Socks5.Live, Socks5.Stopped,
  Socks5.conversed
-/
import AmgiNetTools.Session.Conversation
import AmgiNetTools.Session.Relay
import AmgiNetTools.Socks5.Reactions

namespace AmgiNetTools.Socks5

/-- A request both parsers accept, and the greeting before it. -/
structure Exchange [Platform] where
  greeting : Received
  message : Received
  host : Text
  service : Text
  decoded : target message = some (host, service)

/-- The answer to a greeting, as bytes. -/
def methodReply (greeting : Received) : IoBuffer := [version, authMode greeting]

/-- The answer to a request: the request, with a code in place of its command. -/
def Exchange.reply [Platform] (exchange : Exchange) (code : UInt8) : IoBuffer :=
  exchange.message.bytes.set 1 code

/-- Where a conversation is. A refusal knows whether the host was resolved, and the error. -/
inductive Phase [Platform] where
  | handshake
  | greeting
  | methodReply (greeting : Received)
  | request (greeting : Received)
  | resolving (exchange : Exchange)
  | connecting (exchange : Exchange)
  | refusal (exchange : Exchange) (resolved : Bool) (ec : ErrorCode) (failed : ec.isError = true)
  | success (exchange : Exchange)
  | relay (exchange : Exchange) (transfer : Relay Socks5State.dataTransferMode)

namespace Phase

variable [Platform]

/-- The state object of the session. -/
def state : Phase → Socks5State
  | handshake | greeting => .authRequest
  | methodReply _ | request _ => .connectionRequest
  | resolving _ | connecting _ | refusal _ _ _ _ => .connectionEstablished
  | success _ => .readyToTransferData
  | relay _ _ => .dataTransferMode

/-- The context of a session whose connect is answered with `code`. -/
def answered (id : Int32) (exchange : Exchange) (code : UInt8) : SessionContext :=
  { id := id
    response := exchange.reply code
    host := exchange.host
    service := exchange.service }

/-- The context of the session. -/
def context (id : Int32) : Phase → SessionContext
  | handshake | greeting => { id := id }
  | methodReply message | request message => { id := id, response := Socks5.methodReply message }
  | resolving exchange | connecting exchange =>
      { id := id
        response := exchange.message.bytes
        host := exchange.host
        service := exchange.service }
  | refusal exchange _ ec _ => answered id exchange (getResponseErrorCode ec)
  | success exchange => answered id exchange Responses.succeeded
  | relay exchange transfer => transfer.context (answered id exchange Responses.succeeded)

/-- What the session waits for. -/
def tasks : Phase → Multiset (Side × Task)
  | handshake => {(.server, .handshake)}
  | greeting | request _ => {(.server, .read)}
  | methodReply message => {(.server, .write (Socks5.methodReply message))}
  | resolving exchange => {(.client, .resolve exchange.host exchange.service)}
  | connecting _ => {(.client, .connect)}
  | refusal exchange _ ec _ => {(.server, .write (exchange.reply (getResponseErrorCode ec)))}
  | success exchange => {(.server, .write (exchange.reply Responses.succeeded))}
  | relay _ transfer => transfer.tasks

end Phase

/-! ### What has happened by each phase -/

namespace Transcript

/-- The start, and the handshake of a TLS stream. -/
def opening (tls : Bool) : History Socks5State :=
  (.server, .called .start) ::
    if tls then [(.server, .completed .handshake .success [] (some .authRequest))] else []

/-- The greeting came, and its answer is being written. -/
def greeted (tls : Bool) (greeting : Received) : History Socks5State :=
  opening tls ++
    [(.server, .completed .read .success greeting.bytes (some .authRequest)),
      (.server, .called (.write (methodReply greeting)))]

/-- The answer is out, and the request is being read. -/
def negotiated (tls : Bool) (greeting : Received) : History Socks5State :=
  greeted tls greeting ++
    [(.server, .completed (.write 2) .success (methodReply greeting) (some .connectionRequest)),
      (.server, .called .read)]

variable [Platform]

/-- The request came, and its host is being resolved. -/
def requested (tls : Bool) (exchange : Exchange) : History Socks5State :=
  negotiated tls exchange.greeting ++
    [(.server, .completed .read .success exchange.message.bytes (some .connectionRequest)),
      (.client, .called (.setHost exchange.host)),
      (.client, .called (.setService exchange.service)),
      (.client, .called .start)]

/-- The host is resolved, and the connect is under way. -/
def resolved (tls : Bool) (exchange : Exchange) : History Socks5State :=
  requested tls exchange ++
    [(.client, .completed (.resolve exchange.host exchange.service) .success []
      (some .connectionEstablished))]

/-- The resolve or the connect failed, and the reply is being written. -/
def refused (tls : Bool) (exchange : Exchange) (resolved : Bool) (ec : ErrorCode) :
    History Socks5State :=
  (if resolved then Transcript.resolved tls exchange else requested tls exchange) ++
    [(.client, .completed
        (if resolved then .connect else .resolve exchange.host exchange.service) ec []
        (some .connectionEstablished)),
      (.server, .called (.write (exchange.reply (getResponseErrorCode ec))))]

/-- The remote is connected, and the reply is being written. -/
def connected (tls : Bool) (exchange : Exchange) : History Socks5State :=
  resolved tls exchange ++
    [(.client, .completed .connect .success [] (some .connectionEstablished)),
      (.server, .called (.write (exchange.reply Responses.succeeded)))]

/-- The reply is out, and both ends are being read. -/
def established (tls : Bool) (exchange : Exchange) : History Socks5State :=
  connected tls exchange ++
    [(.server, .completed (.write (exchange.reply Responses.succeeded).length) .success
        (exchange.reply Responses.succeeded) (some .readyToTransferData)),
      (.server, .called .read),
      (.client, .called .read)]

end Transcript

/-- All that has happened by a phase. -/
def Phase.transcript [Platform] (tls : Bool) : Phase → History Socks5State
  | handshake => [(.server, .called .start)]
  | greeting => Transcript.opening tls
  | methodReply message => Transcript.greeted tls message
  | request message => Transcript.negotiated tls message
  | resolving exchange => Transcript.requested tls exchange
  | connecting exchange => Transcript.resolved tls exchange
  | refusal exchange resolved ec _ => Transcript.refused tls exchange resolved ec
  | success exchange => Transcript.connected tls exchange
  | relay exchange transfer => Transcript.established tls exchange ++ transfer.trace

/-! ### Every run goes through the phases -/

variable [Platform] {tls : Bool} {id : Int32} {snapshot next : Snapshot Socks5State} {side : Side}
  {op : AsyncOp} {completion : Completion}

/-- The phases of SOCKS5. -/
def script : Script Socks5State Phase where
  state := Phase.state
  context := Phase.context
  tasks := Phase.tasks
  transcript := Phase.transcript

/-- A session that runs. Only a TLS stream has a handshake. -/
def Live (tls : Bool) (id : Int32) (snapshot : Snapshot Socks5State) : Prop :=
  ∃ phase, script.InPhase tls id phase snapshot ∧ (phase = .handshake → tls = true)

/-- A session that was stopped just now. -/
def Stopped (tls : Bool) (id : Int32) (snapshot : Snapshot Socks5State) : Prop :=
  ∃ phase, script.StoppedIn tls id phase [] snapshot

/-- What a completion may lead to. -/
def Onward (tls : Bool) (id : Int32) (next : Snapshot Socks5State) : Prop :=
  Live tls id next ∨ (next.Ended ∧ Stopped tls id next)

theorem relays : Relays Socks5State.dataTransferMode where
  received _ source _ := by cases source <;> rfl
  delivered _ source := by cases source <;> rfl
  failed _ side _ := by cases side <;> rfl

theorem live_accepted (tls : Bool) (id : Int32) : Live tls id (.accepted tls id) := by
  cases tls with
  | true =>
      refine ⟨.handshake, ⟨rfl, ⟨rfl, ?_⟩, rfl⟩, fun _ => rfl⟩
      intro side bytes member
      simp [script, Phase.tasks] at member
  | false =>
      refine ⟨.greeting, ⟨rfl, ⟨rfl, ?_⟩, rfl⟩, by simp⟩
      intro side bytes member
      simp [script, Phase.tasks] at member

/-- A lone task fails where the state only stops on errors. -/
theorem onward_of_stop {phase : Phase} (task : Task) (event : SessionEvent)
    (within : script.InPhase tls id phase snapshot) (lone : phase.tasks = {(side, task)})
    (raised : side.upshot task.op completion = .report event)
    (stops : reaction ⟨phase.context id, phase.state⟩ event = .stop)
    (finished : snapshot.complete tls side task.op completion = .ok next) : Onward tls id next := by
  obtain ⟨ended, stopped⟩ := within.stop lone raised (congrArg Except.ok stops) trivial
    (by simp [Snapshot.started]) (by simp [Snapshot.started]) finished
  exact .inr ⟨ended, phase, stopped⟩

/-- The phase after a lone task of the server stream that succeeded. -/
theorem onward_of_goOn {phase : Phase} (phase' : Phase) (task : Task) (event : SessionEvent)
    (requests : List Request) (within : script.InPhase tls id phase snapshot)
    (lone : phase.tasks = {(side, task)})
    (raised : side.upshot task.op completion = .report event)
    (goesOn : reaction ⟨phase.context id, phase.state⟩ event =
      ⟨requests, some ⟨phase'.context id, phase'.state⟩⟩)
    (started : Snapshot.started requests 0 = phase'.tasks)
    (fit : Snapshot.Fit requests 0)
    (transcript : phase'.transcript tls = phase.transcript tls ++
      Snapshot.done side task completion (some phase.state) :: calledLines requests)
    (finished : snapshot.complete tls side task.op completion = .ok next)
    (later : phase' ≠ .handshake) :
    Onward tls id next :=
  .inl ⟨phase',
    within.goOn lone raised (congrArg Except.ok goesOn) fit started transcript finished,
    fun first => absurd first later⟩

theorem onward_handshake (within : script.InPhase tls id .handshake snapshot) (secure : tls = true)
    (finished : snapshot.complete tls .server .handshake completion = .ok next) :
    Onward tls id next := by
  cases failed : completion.ec.isError with
  | false =>
      have ec := ErrorCode.eq_success failed
      refine .inl ⟨.greeting, within.proceed .handshake .read rfl
        (by simp [Side.upshot, failed, Task.op]) (by simp) rfl rfl rfl ?_ finished, by simp⟩
      simp [script, Phase.transcript, Transcript.opening, secure, Snapshot.done, Task.op,
        Task.moved, ec, Phase.state]
  | true =>
      exact onward_of_stop .handshake (.serverError completion.ec) within rfl
        (by simp [Side.upshot, failed, Task.op]) rfl finished

theorem onward_greeting (within : script.InPhase tls id .greeting snapshot)
    (finished : snapshot.complete tls .server .read completion = .ok next) :
    Onward tls id next := by
  obtain ⟨succeeded, raised⟩ | raised := Side.server.upshot_read completion
  · have ec := ErrorCode.eq_success succeeded
    exact onward_of_goOn (.methodReply completion.buffer) .read _ _ within rfl raised
      rfl rfl (Snapshot.fit_single _) (by simp [Phase.transcript, Transcript.greeted, Snapshot.done,
        Task.op, Task.moved, ec, Phase.state, Request.calls, methodReply]) finished (by simp)
  · exact onward_of_stop .read _ within rfl raised rfl finished

theorem onward_methodReply {greeting : Received}
    (within : script.InPhase tls id (.methodReply greeting) snapshot)
    (finished : snapshot.complete tls .server (.write 2) completion = .ok next) :
    Onward tls id next := by
  obtain ⟨succeeded, raised⟩ | raised := Side.server.upshot_write 2 completion
  · have ec := ErrorCode.eq_success succeeded
    exact onward_of_goOn (.request greeting) (.write (methodReply greeting)) _ _ within rfl raised
      rfl rfl (Snapshot.fit_single _) (by simp [Phase.transcript, Transcript.negotiated,
        Snapshot.done, Task.op, Task.moved, ec, Phase.state, Request.calls,
        methodReply]) finished (by simp)
  · exact onward_of_stop (.write (methodReply greeting)) _ within rfl raised rfl finished

theorem onward_request {greeting : Received}
    (within : script.InPhase tls id (.request greeting) snapshot)
    (finished : snapshot.complete tls .server .read completion = .ok next) :
    Onward tls id next := by
  obtain ⟨succeeded, raised⟩ | raised := Side.server.upshot_read completion
  · have ec := ErrorCode.eq_success succeeded
    cases decoded : target completion.buffer with
    | none =>
        exact onward_of_stop .read _ within rfl raised (by
          simp [reaction, Phase.state, Side.readEvent, decoded]) finished
    | some address =>
        obtain ⟨host, service⟩ := address
        let exchange : Exchange := ⟨greeting, completion.buffer, host, service, decoded⟩
        exact onward_of_goOn (.resolving exchange) .read _ [.connect host service] within rfl raised
          (by simp [reaction, Phase.state, Phase.context, Side.readEvent, decoded, exchange])
          rfl (Snapshot.fit_single _) (by simp [Phase.transcript, Transcript.requested,
            Snapshot.done, Task.op, Task.moved, ec, Phase.state, Request.calls,
            exchange]) finished (by simp)
  · exact onward_of_stop .read _ within rfl raised rfl finished

theorem onward_resolving {exchange : Exchange}
    (within : script.InPhase tls id (.resolving exchange) snapshot)
    (finished : snapshot.complete tls .client (.resolve exchange.host exchange.service) completion =
      .ok next) : Onward tls id next := by
  cases failed : completion.ec.isError with
  | false =>
      have ec := ErrorCode.eq_success failed
      refine .inl ⟨.connecting exchange, within.proceed
        (.resolve exchange.host exchange.service) .connect rfl
        (by simp [Side.upshot, failed, Task.op]) (by simp) rfl rfl rfl ?_ finished, by simp⟩
      simp [script, Phase.transcript, Transcript.resolved, Snapshot.done, Task.op, Task.moved, ec,
        Phase.state]
  | true =>
      exact onward_of_goOn (.refusal exchange false completion.ec failed)
        (.resolve exchange.host exchange.service) (.clientError completion.ec) _ within rfl
        (by simp [Side.upshot, failed, Task.op]) rfl rfl (Snapshot.fit_single _)
        (by simp [Phase.transcript, Transcript.refused, Snapshot.done, Task.op, Task.moved, failed,
          Phase.state, Request.calls]; rfl) finished (by simp)

theorem onward_connecting {exchange : Exchange}
    (within : script.InPhase tls id (.connecting exchange) snapshot)
    (finished : snapshot.complete tls .client .connect completion = .ok next) :
    Onward tls id next := by
  cases failed : completion.ec.isError with
  | false =>
      have ec := ErrorCode.eq_success failed
      exact onward_of_goOn (.success exchange) .connect (.clientConnect []) _ within rfl
        (by simp [Side.upshot, failed, Task.op]) rfl rfl
        (Snapshot.fit_single _) (by simp [Phase.transcript, Transcript.connected, Snapshot.done,
          Task.op, Task.moved, ec, Phase.state, Request.calls]; rfl) finished (by simp)
  | true =>
      exact onward_of_goOn (.refusal exchange true completion.ec failed) .connect
        (.clientError completion.ec) _ within rfl (by simp [Side.upshot, failed,
          Task.op]) rfl rfl (Snapshot.fit_single _)
        (by simp [Phase.transcript, Transcript.refused, Snapshot.done, Task.op, Task.moved, failed,
          Phase.state, Request.calls]; rfl) finished (by simp)

/-- The write of an error reply is the last thing of a session, whether it succeeds or not. -/
theorem onward_refusal {exchange : Exchange} {resolved : Bool} {ec : ErrorCode}
    {failed : ec.isError = true}
    (within : script.InPhase tls id (.refusal exchange resolved ec failed) snapshot)
    (finished : snapshot.complete tls .server
      (.write (exchange.reply (getResponseErrorCode ec)).length) completion = .ok next) :
    Onward tls id next := by
  obtain ⟨-, raised⟩ | raised := Side.server.upshot_write
    (exchange.reply (getResponseErrorCode ec)).length completion
  · exact onward_of_stop (.write (exchange.reply (getResponseErrorCode ec))) _ within rfl
      raised rfl finished
  · exact onward_of_stop (.write (exchange.reply (getResponseErrorCode ec))) _ within rfl
      raised rfl finished

theorem onward_success {exchange : Exchange}
    (within : script.InPhase tls id (.success exchange) snapshot)
    (finished : snapshot.complete tls .server
      (.write (exchange.reply Responses.succeeded).length) completion = .ok next) :
    Onward tls id next := by
  obtain ⟨succeeded, raised⟩ | raised := Side.server.upshot_write
    (exchange.reply Responses.succeeded).length completion
  · have ec := ErrorCode.eq_success succeeded
    have context : (Phase.relay exchange (.start _)).context id =
      (Phase.success exchange).context id :=
      Relay.context_start rfl rfl
    refine onward_of_goOn (.relay exchange (.start _)) (.write (exchange.reply Responses.succeeded))
      _ [.readServer, .readClient] within rfl raised
      ?_ Relay.tasks_start Relay.fit_start ?_ finished (by simp)
    · rw [context]
      rfl
    · simp [Phase.transcript, Transcript.established, Relay.start, Snapshot.done, Task.op,
        Task.moved, ec, Phase.state, Request.calls]
  · exact onward_of_stop (.write (exchange.reply Responses.succeeded)) _ within rfl raised rfl
      finished

theorem onward_relay {exchange : Exchange} {transfer : Relay Socks5State.dataTransferMode}
    (within : script.InPhase tls id (.relay exchange transfer) snapshot)
    (pending : op ∈ (snapshot.streams side).pending)
    (finished : snapshot.complete tls side op completion = .ok next) : Onward tls id next := by
  obtain ⟨transfer', lines, trace, session, performs, history⟩ |
      ⟨ended, exclusive, task, member, raised, history⟩ :=
    Relay.relay_complete relays within.performs within.session pending finished
  · refine .inl ⟨.relay exchange transfer', ⟨session, performs, ?_⟩, by simp⟩
    rw [history, within.history]
    simp [script, Phase.transcript, trace]
  · refine .inr
      ⟨ended, .relay exchange transfer, exclusive, side, task, completion, _, member, raised,
      relays.failed _ _ _, ?_⟩
    rw [history, within.history]
    rfl

/-- What a completion does to a session that runs, whatever phase it is in. -/
theorem onward (live : Live tls id snapshot) (pending : op ∈ (snapshot.streams side).pending)
    (finished : snapshot.complete tls side op completion = .ok next) : Onward tls id next := by
  obtain ⟨phase, within, secure⟩ := live
  cases phase with
  | relay exchange transfer => exact onward_relay within pending finished
  | handshake =>
      obtain ⟨rfl, rfl⟩ := within.performs.only pending
      exact onward_handshake within (secure rfl) finished
  | greeting =>
      obtain ⟨rfl, rfl⟩ := within.performs.only pending
      exact onward_greeting within finished
  | methodReply greeting =>
      obtain ⟨rfl, rfl⟩ := within.performs.only pending
      exact onward_methodReply within finished
  | request greeting =>
      obtain ⟨rfl, rfl⟩ := within.performs.only pending
      exact onward_request within finished
  | resolving exchange =>
      obtain ⟨rfl, rfl⟩ := within.performs.only pending
      exact onward_resolving within finished
  | connecting exchange =>
      obtain ⟨rfl, rfl⟩ := within.performs.only pending
      exact onward_connecting within finished
  | refusal exchange resolved ec failed =>
      obtain ⟨rfl, rfl⟩ := within.performs.only pending
      exact onward_refusal within finished
  | success exchange =>
      obtain ⟨rfl, rfl⟩ := within.performs.only pending
      exact onward_success within finished

/-- Every session of a SOCKS5 server is in a phase, or was stopped in one. -/
theorem conversed {world : Socks5StreamManager} {upstream : ServerStream}
    (reachable : Reachable world) (accepted : world.Accepted upstream) :
    (world.snapshot upstream).Conversed (Live upstream.tls upstream.id)
      (Stopped upstream.tls upstream.id) :=
  Snapshot.conversed_of_reachable (live_accepted _ _)
    (fun _ _ _ _ _ live pending finished => onward live pending finished)
    (World.snapshot_reachable reachable accepted)

/-- The history of a session is the transcript of a phase, and after it perhaps the completion that
    stopped the session, the stop, and late completions. -/
theorem conversation_cases {world : Socks5StreamManager} {upstream : ServerStream}
    (reachable : Reachable world) (accepted : world.Accepted upstream) :
    ∃ phase : Phase, world.conversation upstream = phase.transcript upstream.tls ∨
      ∃ side task completion late, (side, task) ∈ phase.tasks ∧ (∀ line ∈ late, IsLate line) ∧
        world.conversation upstream = phase.transcript upstream.tls ++
          Snapshot.done side task completion (some phase.state) :: (stopLines ++ late) := by
  cases conversed reachable accepted with
  | live holds =>
      obtain ⟨phase, within, -⟩ := holds
      exact ⟨phase, .inl within.history⟩
  | ended _ last stopped late grown isLate =>
      obtain ⟨phase, -, side, task, completion, event, member, -, -, history⟩ := stopped
      refine ⟨phase, .inr ⟨side, task, completion, late, member, isLate, grown.trans ?_⟩⟩
      rw [history]
      simp [script]

/-- A session in the map of a SOCKS5 server is in a phase. -/
theorem live_of_present {world : Socks5StreamManager} {key : Int32}
    {pair : SessionPair Socks5State} (reachable : Reachable world)
    (present : world.sessions key = some pair) :
    ∃ phase : Phase, (phase = .handshake → pair.server.tls = true) ∧
      pair.session = ⟨phase.context pair.server.id, phase.state⟩ ∧
      (world.snapshot pair.server).Performs phase.tasks ∧
      world.conversation pair.server = phase.transcript pair.server.tls := by
  obtain ⟨accepted, -, session, -⟩ := World.entry_of_reachable reachable present
  cases conversed reachable accepted with
  | live holds =>
      obtain ⟨phase, within, secure⟩ := holds
      exact ⟨phase, secure, Option.some.inj (session.symm.trans within.session), within.performs,
        within.history⟩
  | ended ended => exact absurd (session.symm.trans ended.gone) (by simp)

end AmgiNetTools.Socks5
