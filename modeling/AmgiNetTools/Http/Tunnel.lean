/-
Module: AmgiNetTools.Http.Tunnel
Layer: Http
Purpose: The two ends of an HTTP session. A CONNECT tunnel waits for exactly what its state
  prescribes and relays both ways, losing, doubling and reordering nothing. A session that sent
  another request on has two operations towards the remote and none back, in every state it reaches.
Main exports: Http.requests, Http.Discipline, http_tunnel_integrity, http_forward_one_way
-/
import AmgiNetTools.Session.Transfer
import AmgiNetTools.Http.Conversation

namespace AmgiNetTools

namespace Http

/-- The buffers read while a session waits for its request. -/
def requests (history : History HttpState) : List IoBuffer :=
  chunksRead .waitRequest .server history

/-- What is outstanding in each state of a session whose request is CONNECT. -/
def Discipline (tls : Bool) (outstanding : Multiset (Side × AsyncOp)) : HttpState → Prop
  | .waitRequest =>
      outstanding = {(.server, .read)} ∨ (tls = true ∧ outstanding = {(.server, .handshake)})
  | .connectionEstablished =>
      (∃ host service, outstanding = {(.client, .resolve host service)}) ∨
        outstanding = {(.client, .connect)}
  | .readyToTransferData => ∃ size, outstanding = {(.server, .write size)}
  | .dataTransferMode => TwoWay outstanding

/-! ### The request of a session -/

theorem requests_append (first second : History HttpState) :
    requests (first ++ second) = requests first ++ requests second :=
  Relay.chunksRead_append ..

theorem requests_cons (line : Side × Happening HttpState) (history : History HttpState) :
    requests (line :: history) = requests [line] ++ requests history :=
  requests_append [line] history

variable {tls : Bool} {id : Int32} {exchange : Exchange}

theorem requests_opening : requests (Transcript.opening tls) = [] := by
  cases tls <;> rfl

theorem requests_requested : requests (Transcript.requested tls exchange) = [exchange.message] := by
  cases tls <;> rfl

theorem requests_connected : requests (Transcript.connected tls exchange) = [exchange.message] := by
  rw [Transcript.connected, Transcript.resolved, requests_append, requests_append,
    requests_requested]
  rfl

/-- Nothing but the completion of a read in `waitRequest` is a request. -/
theorem requests_eq_nil {history : History HttpState}
    (later : ∀ bytes, (.server, .completed .read .success bytes (some .waitRequest)) ∉ history) :
    requests history = [] := by
  apply List.eq_nil_iff_forall_not_mem.mpr
  intro bytes member
  exact later bytes (Relay.mem_chunksRead.mp member)

theorem requests_transfer (transfer : Relay HttpState.dataTransferMode) :
    requests transfer.trace = [] := by
  refine requests_eq_nil fun bytes member => ?_
  obtain ⟨_, _, _, same⟩ | ⟨_, same⟩ | ⟨_, _, same⟩ := transfer.line_cases member <;> cases same

theorem requests_crossing {trace : History HttpState} {ops : Multiset (Side × AsyncOp)}
    (crossing : Crossing trace ops) : requests trace = [] := by
  refine requests_eq_nil fun bytes member => ?_
  obtain ⟨_, same⟩ | ⟨_, _, same⟩ | same | ⟨_, same⟩ := crossing.line_cases member <;> cases same

/-- The request of a session by each phase. -/
theorem requests_transcript (phase : Phase) : requests (phase.transcript tls) =
    match phase with
    | .handshake | .request => []
    | .resolving exchange | .connecting exchange | .answering exchange _ | .forwarding exchange _
    | .tunnel exchange _ _ => [exchange.message] := by
  cases phase with
  | handshake => rfl
  | request => exact requests_opening
  | resolving exchange => exact requests_requested
  | connecting exchange =>
      rw [Phase.transcript, Transcript.resolved, requests_append, requests_requested]
      rfl
  | answering exchange tunnels | forwarding exchange forwards =>
      rw [Phase.transcript, requests_append, requests_connected]
      rfl
  | tunnel exchange tunnels transfer =>
      rw [Phase.transcript, Transcript.established, requests_append, requests_append,
        requests_connected, requests_transfer]
      rfl

theorem requests_forwarded : requests (Transcript.forwarded tls exchange) = [exchange.message] := by
  rw [Transcript.forwarded, requests_append, requests_connected]
  rfl

/-! ### The tunnel -/

/-- The tasks of a phase are what its state prescribes, unless a request is being sent on. -/
theorem discipline_tasks (phase : Phase) (secure : phase = .handshake → tls = true)
    (tunnels : ∀ message ∈ requests (phase.transcript tls),
      (getHeaders message).method = .kConnect) :
    Discipline tls (phase.tasks.map fun task => (task.1, task.2.op)) phase.state := by
  rw [requests_transcript] at tunnels
  cases phase with
  | handshake => exact .inr ⟨secure rfl, rfl⟩
  | request => exact .inl rfl
  | resolving exchange => exact .inl ⟨_, _, rfl⟩
  | connecting exchange => exact .inr rfl
  | answering exchange tunnels => exact ⟨_, rfl⟩
  | forwarding exchange forwards => exact absurd (tunnels _ (List.mem_singleton_self _)) forwards
  | tunnel exchange tunnels transfer => exact twoWay_tasks transfer

/-- Nothing is relayed before the transfer. -/
theorem laneEvents_established (source : Side) :
    laneEvents .dataTransferMode source (Transcript.established tls exchange) = [] := by
  cases tls <;>
    simp [laneEvents, laneEvent, Transcript.established, Transcript.connected, Transcript.resolved,
      Transcript.requested, Transcript.opening]

/-- A session whose request is CONNECT, or has not come yet, is in a phase. -/
theorem phase_of_tunnel {world : HttpStreamManager} {key : Int32} {pair : SessionPair HttpState}
    (reachable : Reachable world) (present : world.sessions key = some pair)
    (tunnels : ∀ message ∈ requests (world.conversation pair.server),
      (getHeaders message).method = .kConnect) :
    ∃ phase : Phase, (phase = .handshake → pair.server.tls = true) ∧
      script.InPhase pair.server.tls pair.server.id phase (world.snapshot pair.server) := by
  rcases live_of_present reachable present with ⟨phase, within, secure⟩ | crossed
  · exact ⟨phase, secure, within⟩
  · obtain ⟨exchange, forwards, count, trace, crossing, session, history⟩ := crossed
    refine absurd (tunnels exchange.message ?_) forwards
    rw [show world.conversation pair.server = _ from history, requests_append, requests_forwarded]
    exact List.mem_append_left _ (List.mem_singleton_self _)

/-! ### The way after another request -/

/-- Two operations that go one way do not go both. -/
theorem not_twoWay {ops : Multiset (Side × AsyncOp)} (oneWay : ∀ entry ∈ ops, IsOneWay entry) :
    ¬ TwoWay ops := by
  rintro ⟨toRemote, toLocal, rfl, -, local'⟩
  have back := oneWay toLocal (by simp)
  rcases local' with rfl | ⟨size, rfl⟩ <;> rcases back with same | ⟨_, same⟩ <;> cases same

/-- A session that transfers data and has sent another request on. -/
theorem crossed_of_forward {world : HttpStreamManager} {key : Int32} {pair : SessionPair HttpState}
    (reachable : Reachable world) (present : world.sessions key = some pair)
    (relaying : pair.session.state = .dataTransferMode)
    (forwards : ∃ message ∈ requests (world.conversation pair.server),
      (getHeaders message).method ≠ .kConnect) :
    Crossed pair.server.tls pair.server.id (world.snapshot pair.server) := by
  obtain ⟨-, -, session, -⟩ := World.entry_of_reachable reachable present
  rcases live_of_present reachable present with ⟨phase, within, -⟩ | crossed
  · obtain ⟨message, member, other⟩ := forwards
    rw [show world.conversation pair.server = _ from within.history] at member
    have state := congrArg Session.state (Option.some.inj (session.symm.trans within.session))
    rw [relaying] at state
    cases phase with
    | tunnel exchange tunnels transfer =>
        have request := requests_transcript (.tunnel exchange tunnels transfer) ▸ member
        rw [List.mem_singleton.mp request] at other
        exact absurd tunnels other
    | _ => cases state
  · exact crossed

end Http

/-! ### Two runs

A peer on a plain TCP connection asks for port 80 of a host, by CONNECT or by GET. -/

namespace Http.Sample

def peer : ServerStream := { tls := false, conn := 0, id := 7 }

def tunnelRequest : IoBuffer := ascii "CONNECT h:80 HTTP/1.1\r\nHost: h\r\n\r\n"

/-- The parser takes the scheme for the service. -/
def forwardRequest : IoBuffer := ascii "GET http://h/ HTTP/1.1\r\nHost: h\r\n\r\n"

/-- The run until the remote is connected. -/
def connected (request : IoBuffer) (service : Text) : List IoEvent :=
  [.accept peer,
    .complete (.server peer) .read (.succeeded request),
    .complete (.client peer.downstream) (.resolve (ascii "h") service) (.succeeded []),
    .complete (.client peer.downstream) .connect (.succeeded [])]

/-- The 200 reply is out, and the peer sends three bytes. -/
def tunnelling : List IoEvent :=
  connected tunnelRequest (ascii "80") ++
    [.complete (.server peer) (.write kHttpDone.length) (.succeeded []),
      .complete (.server peer) .read (.succeeded [1, 2, 3])]

/-- The request is out. -/
def forwarding : List IoEvent :=
  connected forwardRequest (ascii "http") ++
    [.complete (.client peer.downstream) (.write forwardRequest.length) (.succeeded [])]

end Http.Sample

/-- In every run of an HTTP server, a session whose request is CONNECT waits for exactly what its
    state prescribes, and its tunnel is intact in both directions. -/
theorem http_tunnel_integrity {world : HttpStreamManager} (reachable : Reachable world)
    {key : Int32}
    {pair : SessionPair HttpState} (present : world.sessions key = some pair)
    (tunnels : ∀ message ∈ Http.requests (world.conversation pair.server),
      (Http.getHeaders message).method = .kConnect) :
    Http.Discipline pair.server.tls (world.outstanding pair) pair.session.state ∧
      (pair.session.state = .dataTransferMode →
        ∀ source, Intact .dataTransferMode pair source world) := by
  obtain ⟨-, -, session, -⟩ := World.entry_of_reachable reachable present
  obtain ⟨phase, secure, within⟩ := Http.phase_of_tunnel reachable present tunnels
  have state : pair.session.state = phase.state :=
    congrArg Session.state (Option.some.inj (session.symm.trans within.session))
  have history : world.conversation pair.server = phase.transcript pair.server.tls := within.history
  rw [history] at tunnels
  constructor
  · have discipline := Http.discipline_tasks phase secure tunnels
    have outstanding := within.performs.outstanding
    rw [outstanding_of_present reachable present, state]
    exact outstanding ▸ discipline
  · intro relaying source
    rw [state] at relaying
    cases phase with
    | tunnel exchange connect transfer =>
        exact intact_of_relay reachable present within.performs history
          (Http.laneEvents_established source)
    | _ => cases relaying

/-- In the run of `Http.Sample.tunnelling`, three bytes are on their way to the remote. -/
theorem http_tunnel_integrity_sample :
    ∃ pair, (World.play Http.Sample.tunnelling : HttpStreamManager).sessions 7 = some pair ∧
      Http.Discipline false
        ((World.play Http.Sample.tunnelling : HttpStreamManager).outstanding pair)
        .dataTransferMode ∧
      Intact .dataTransferMode pair .server (World.play Http.Sample.tunnelling) := by
  have integrity := http_tunnel_integrity (World.reachable_play Http.Sample.tunnelling)
    (show (World.play Http.Sample.tunnelling : HttpStreamManager).sessions 7 = some _ from rfl)
    (by decide)
  exact ⟨_, rfl, integrity.1, integrity.2 rfl .server⟩

/-- In every run of an HTTP server, a session that transfers data after another request than CONNECT
    does not relay both ways: it waits for two operations towards the remote, and it has never read
    the remote. -/
theorem http_forward_one_way {world : HttpStreamManager} (reachable : Reachable world) {key : Int32}
    {pair : SessionPair HttpState} (present : world.sessions key = some pair)
    (relaying : pair.session.state = .dataTransferMode)
    (forwards : ∃ message ∈ Http.requests (world.conversation pair.server),
      (Http.getHeaders message).method ≠ .kConnect) :
    ¬ TwoWay (world.outstanding pair) ∧
      (world.outstanding pair).card = 2 ∧
      (∀ entry ∈ world.outstanding pair, Http.IsOneWay entry) ∧
      (.client, .called .read) ∉ world.conversation pair.server := by
  obtain ⟨exchange, other, count, trace, crossing, session, history⟩ :=
    Http.crossed_of_forward reachable present relaying forwards
  rw [outstanding_of_present reachable present]
  refine ⟨Http.not_twoWay crossing.oneWay, crossing.card_eq, crossing.oneWay, fun read => ?_⟩
  rw [show world.conversation pair.server = _ from history, List.mem_append] at read
  rcases read with early | late
  · cases tls : pair.server.tls <;>
      simp [tls, Http.Transcript.forwarded, Http.Transcript.connected, Http.Transcript.resolved,
        Http.Transcript.requested, Http.Transcript.opening] at early
  · obtain ⟨_, same⟩ | ⟨_, _, same⟩ | same | ⟨_, same⟩ := crossing.line_cases late <;> cases same

/-- In the run of `Http.Sample.forwarding` the session waits for two reads of its peer, and hangs
    when the peer waits for the answer. -/
theorem http_forward_one_way_sample :
    ∃ pair, (World.play Http.Sample.forwarding : HttpStreamManager).sessions 7 = some pair ∧
      ((World.play Http.Sample.forwarding : HttpStreamManager).outstanding pair).card = 2 ∧
      ¬ TwoWay ((World.play Http.Sample.forwarding : HttpStreamManager).outstanding pair) := by
  have oneWay := http_forward_one_way (World.reachable_play Http.Sample.forwarding)
    (show (World.play Http.Sample.forwarding : HttpStreamManager).sessions 7 = some _ from rfl)
    rfl ⟨Http.Sample.forwardRequest, by decide, by decide⟩
  exact ⟨_, rfl, oneWay.2.1, oneWay.1⟩

/-- After a GET was sent on, the peer is read twice and the remote is not read. -/
theorem http_forward_reads_peer_twice :
    ∃ pair, (World.play Http.Sample.forwarding : HttpStreamManager).sessions 7 = some pair ∧
      pair.session.state = .dataTransferMode ∧
      (Http.getHeaders Http.Sample.forwardRequest).method = .kGet ∧
      (World.play Http.Sample.forwarding : HttpStreamManager).outstanding pair =
        {(.server, .read), (.server, .read)} ∧
      ¬ TwoWay ((World.play Http.Sample.forwarding : HttpStreamManager).outstanding pair) := by
  refine ⟨_, rfl, rfl, by decide, by decide, ?_⟩
  apply Http.not_twoWay
  exact fun entry member => .inl ((Multiset.mem_replicate (n := 2)).mp member).2

end AmgiNetTools
