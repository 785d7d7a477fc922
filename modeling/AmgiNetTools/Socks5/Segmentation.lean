/-
Module: AmgiNetTools.Socks5.Segmentation
Layer: Socks5
Purpose: How much of a SOCKS5 session depends on the reads TCP cuts the bytes of a client into.
  Every read is taken for one whole message, and nothing is kept back from it or waited for. So a
  session serves its client exactly when the greeting and the request come in a read each; the
  payload may come in any reads.
Main exports: Socks5.Client, Socks5.Settled, Socks5.Served, Socks5.SegmentationInsensitive,
  socks5_segmentation
-/
import AmgiNetTools.Session.Segments
import AmgiNetTools.Socks5.Order

namespace AmgiNetTools

namespace Socks5

/-! ### The law -/

/-- A client, by the messages it sends. The greeting offers to go without authentication. -/
structure Client where
  greeting : Greeting
  offers : Auth.noAuth ∈ greeting.methods
  request : ConnectRequest
  payload : IoBuffer

namespace Client

variable (client : Client) (cut : List IoBuffer)

/-- All a client sends. -/
def bytes : IoBuffer := client.greeting.bytes ++ client.request.bytes ++ client.payload

/-- Pieces of what the client sends, none of them empty. -/
def IsCut : Prop := cut.flatten = client.bytes ∧ ∀ piece ∈ cut, piece ≠ []

/-- The greeting is a piece, and the request is the next. -/
def IsAligned : Prop :=
  ∃ pieces, cut = client.greeting.bytes :: client.request.bytes :: pieces

/-- The request of the client is for a host with that text. -/
def Wants [Platform] (host : Text) : Prop := client.request.address.host = some host ∧ host ≠ []

end Client

/-- A session has read the pieces of `cut`, nothing failed, and it waits for reads only. If it waits
    for the peer, it has read all pieces. -/
structure Settled (cut : List IoBuffer) (upstream : ServerStream) (world : Socks5StreamManager) :
    Prop where
  pieces : peerReads (world.conversation upstream) <+: cut
  smooth : ∀ line ∈ world.conversation upstream, Smooth line
  waits (side : Side) (op : AsyncOp) :
    op ∈ ((world.snapshot upstream).streams side).pending → op = .read
  complete : .read ∈ ((world.snapshot upstream).streams .server).pending →
    peerReads (world.conversation upstream) = cut

/-- The clauses of `Settled` on a given run, one by one. -/
theorem Settled.of_sides {cut : List IoBuffer} {upstream : ServerStream}
    {world : Socks5StreamManager} (pieces : peerReads (world.conversation upstream) <+: cut)
    (smooth : ∀ line ∈ world.conversation upstream, Smooth line)
    (server : ∀ op ∈ ((world.snapshot upstream).streams .server).pending, op = .read)
    (client : ∀ op ∈ ((world.snapshot upstream).streams .client).pending, op = .read)
    (complete : .read ∈ ((world.snapshot upstream).streams .server).pending →
      peerReads (world.conversation upstream) = cut) : Settled cut upstream world where
  pieces := pieces
  smooth := smooth
  waits side := by
    cases side with
    | server => exact server
    | client => exact client
  complete := complete

theorem Settled.generic {cut : List IoBuffer} {upstream : ServerStream}
    {world : Socks5StreamManager} (settled : Settled cut upstream world) :
    AmgiNetTools.Settled cut upstream world :=
  ⟨settled.pieces, settled.smooth, settled.waits, settled.complete⟩

/-- The client was served: one connect, to the host and the port of its request; the two replies of
    a success; and the payload for the remote, all of it on the wire. -/
structure Served (client : Client) (host : Text) (history : History Socks5State) : Prop where
  connects : [(.client, .called (.setHost host)),
    (.client, .called (.setService (portToString client.request.port))), connectLine] <:+: history
  once : history.count connectLine = 1
  replies : (writes .server history).take 2 =
    [[version, Auth.noAuth], client.request.bytes.set 1 Responses.succeeded]
  forwarded : (writes .client history).flatten = client.payload
  delivered : chunksDelivered .dataTransferMode .server history = writes .client history

/-- Every client is served, whatever its bytes are cut into. -/
def SegmentationInsensitive [Platform] : Prop :=
  ∀ (client : Client) (host : Text), client.Wants host → ∀ cut, client.IsCut cut →
    ∀ world : Socks5StreamManager, Reachable world → ∀ upstream, world.Accepted upstream →
      Settled cut upstream world → Served client host (world.conversation upstream)

/-! ### The reads of each phase -/

variable [Platform] {tls : Bool} {exchange : Exchange} {greeting : Received}

omit [Platform] in
theorem peerReads_opening : peerReads (Transcript.opening tls) = [] := by
  cases tls <;> rfl

omit [Platform] in
theorem peerReads_negotiated : peerReads (Transcript.negotiated tls greeting) =
    [greeting.bytes] := by
  simp [Transcript.negotiated, Transcript.greeted, peerReads_append, peerReads_opening]
  rfl

theorem peerReads_established : peerReads (Transcript.established tls exchange) =
    [exchange.greeting.bytes, exchange.message.bytes] := by
  cases tls <;> rfl

theorem peerReads_transfer (transfer : Relay Socks5State.dataTransferMode) :
    peerReads ((Phase.relay exchange transfer).transcript tls) =
      exchange.greeting.bytes :: exchange.message.bytes ::
        chunksRead .dataTransferMode .server transfer.trace := by
  rw [Phase.transcript, peerReads_append, peerReads_established, peerReads_relay]
  rfl

/-! ### Why a session stops -/

/-- Without errors, a transfer does not stop. -/
theorem not_stop_of_relay {transfer : Relay Socks5State.dataTransferMode} {context : SessionContext}
    {side : Side} {task : Task} {completion : Completion} {event : SessionEvent}
    {found : Option Socks5State} (member : (side, task) ∈ transfer.tasks)
    (raised : side.upshot task.op completion = .report event)
    (smooth : Smooth (Snapshot.done side task completion found)) :
    (reaction ⟨context, .dataTransferMode⟩ event).next ≠ none := by
  obtain ⟨source, same⟩ := transfer.exists_laneTask member
  cases lane : transfer.lanes source with
  | reading =>
      rw [lane] at same
      cases same
      cases raised.symm.trans (upshot_read_of_smooth smooth)
      have received := Except.ok.inj (relays.received context side completion.buffer)
      simp [received]
  | writing chunk =>
      rw [lane] at same
      cases same
      cases raised.symm.trans (upshot_write_of_smooth smooth)
      have delivered := Except.ok.inj (relays.delivered context source)
      simp [delivered]

/-- Without errors, a session is stopped by a message the parsers of requests do not accept. -/
theorem rejected_of_stop {phase : Phase} {id : Int32} {side : Side} {task : Task}
    {completion : Completion} {event : SessionEvent} (member : (side, task) ∈ phase.tasks)
    (raised : side.upshot task.op completion = .report event)
    (stops : (reaction ⟨phase.context id, phase.state⟩ event).next = none)
    (calm : ∀ line ∈ phase.transcript tls, Smooth line)
    (smooth : Smooth (Snapshot.done side task completion (some phase.state))) :
    ∃ greeting, phase = .request greeting ∧ (side, task) = (.server, .read) ∧
      target completion.buffer = none := by
  have succeeded := smooth.1
  cases phase with
  | relay exchange transfer => exact absurd stops (not_stop_of_relay member raised smooth)
  | request greeting =>
      cases Multiset.mem_singleton.mp member
      cases raised.symm.trans (upshot_read_of_smooth smooth)
      refine ⟨greeting, rfl, rfl, ?_⟩
      by_contra accepted
      obtain ⟨address, decoded⟩ := Option.ne_none_iff_exists'.mp accepted
      simp [reaction, Phase.state, Side.readEvent, decoded] at stops
  | refusal exchange resolved ec failed =>
      have smooth := calm (.client, .completed
        (if resolved then .connect else .resolve exchange.host exchange.service) ec []
        (some .connectionEstablished)) (by simp [Phase.transcript, Transcript.refused])
      exact absurd failed (by simp [smooth.1])
  | handshake | resolving exchange =>
      cases Multiset.mem_singleton.mp member
      simp [Side.upshot, succeeded, Task.op, Upshot.proceed, Upshot.report] at raised
  | greeting =>
      cases Multiset.mem_singleton.mp member
      cases raised.symm.trans (upshot_read_of_smooth smooth)
      cases stops
  | methodReply greeting | success exchange =>
      cases Multiset.mem_singleton.mp member
      cases raised.symm.trans (upshot_write_of_smooth smooth)
      cases stops
  | connecting exchange =>
      cases Multiset.mem_singleton.mp member
      simp [Side.upshot, succeeded, Task.op, Upshot.report] at raised
      cases raised
      cases stops

/-! ### Sessions that wait for reads only -/

/-- Where a session that waits for reads only can be. -/
inductive Stage (cut : List IoBuffer) (tls : Bool) (snapshot : Snapshot Socks5State) : Prop where
  /-- It relays. -/
  | relaying (exchange : Exchange) (transfer : Relay Socks5State.dataTransferMode)
      (performs : snapshot.Performs transfer.tasks)
      (history : snapshot.history = (Phase.relay exchange transfer).transcript tls)
  /-- It waits for the greeting or for the request, and no piece is left. -/
  | waiting (idle : connectLine ∉ snapshot.history) (few : cut.length ≤ 1)
  /-- It was stopped by the second piece. -/
  | rejected (idle : connectLine ∉ snapshot.history) (greeting message : Received)
      (stopped : target message = none)
      (pieces : [greeting.bytes, message.bytes] <+: peerReads snapshot.history)

/-- A session that runs. -/
theorem stage_of_live {cut : List IoBuffer} {world : Socks5StreamManager} {upstream : ServerStream}
    {phase : Phase}
    (within : script.InPhase upstream.tls upstream.id phase (world.snapshot upstream))
    (settled : Settled cut upstream world) :
    Stage cut upstream.tls (world.snapshot upstream) := by
  have reads {side : Side} {task : Task} (member : (side, task) ∈ phase.tasks) : task.op = .read :=
    settled.waits side task.op (within.performs.mem_pending member)
  have history : (world.snapshot upstream).history = phase.transcript upstream.tls := within.history
  have complete (member : (Side.server, Task.read) ∈ phase.tasks) :
      peerReads (phase.transcript upstream.tls) = cut := by
    rw [← history]
    exact settled.complete (within.performs.mem_pending member)
  cases phase with
  | relay exchange transfer => exact .relaying exchange transfer within.performs history
  | greeting =>
      have cut := complete (Multiset.mem_singleton_self _)
      rw [Phase.transcript, peerReads_opening] at cut
      refine .waiting ?_ (by simp [← cut])
      rw [history]
      cases upstream.tls <;> simp [Phase.transcript, Transcript.opening, connectLine]
  | request greeting =>
      have cut := complete (Multiset.mem_singleton_self _)
      rw [Phase.transcript, peerReads_negotiated] at cut
      refine .waiting ?_ (by simp [← cut])
      rw [history]
      exact List.count_eq_zero.mp count_negotiated
  | _ => cases reads (Multiset.mem_singleton_self _)

theorem stage_of_settled {cut : List IoBuffer} {world : Socks5StreamManager}
    {upstream : ServerStream} (reachable : Reachable world) (accepted : world.Accepted upstream)
    (settled : Settled cut upstream world) : Stage cut upstream.tls (world.snapshot upstream) := by
  cases conversed reachable accepted with
  | live holds =>
      obtain ⟨phase, within, -⟩ := holds
      exact stage_of_live within settled
  | ended _ last stopped late grown isLate =>
      obtain ⟨phase, -, side, task, completion, event, member, raised, stops, history⟩ := stopped
      have shape : world.conversation upstream = phase.transcript upstream.tls ++
          Snapshot.done side task completion (some phase.state) :: (stopLines ++ late) :=
        grown.trans (by rw [history]; simp [script])
      have smooth := settled.smooth
      rw [shape] at smooth
      obtain ⟨greeting, rfl, same, unwanted⟩ := rejected_of_stop member raised
        (congrArg Reaction.next (Except.ok.inj stops))
        (fun line member => smooth line (List.mem_append_left _ member)) (smooth _ (by simp))
      cases same
      refine .rejected ?_ greeting completion.buffer unwanted ?_
      · rw [show (world.snapshot upstream).history = _ from shape, List.mem_append, not_or]
        exact ⟨List.count_eq_zero.mp count_negotiated,
          fun member => (quiet_ending isLate _ member).connect rfl⟩
      · have succeeded := (smooth _ (List.mem_append_right _ (List.mem_cons_self ..))).1
        rw [show (world.snapshot upstream).history = _ from shape, peerReads_append,
          Phase.transcript, peerReads_negotiated]
        refine ⟨peerReads (stopLines ++ late), ?_⟩
        simp [Snapshot.done, Task.op, Task.moved, peerReads, readFromPeer, succeeded]

/-! ### What a transfer shows -/

section

variable {client : Client} {host : Text} {cut : List IoBuffer} {world : Socks5StreamManager}
  {upstream : ServerStream} {transfer : Relay Socks5State.dataTransferMode}

omit [Platform] in
/-- Both directions of a settled transfer wait for reads. -/
theorem reading_of_settled (performs : (world.snapshot upstream).Performs transfer.tasks)
    (settled : Settled cut upstream world) (source : Side) : transfer.lanes source = .reading :=
  settled.generic.reading performs source

/-- A settled transfer has read all pieces. -/
theorem cut_of_relaying (performs : (world.snapshot upstream).Performs transfer.tasks)
    (history : world.conversation upstream = (Phase.relay exchange transfer).transcript tls)
    (settled : Settled cut upstream world) :
    cut = exchange.greeting.bytes :: exchange.message.bytes ::
      chunksRead .dataTransferMode .server transfer.trace := by
  have reads : (Side.server, Task.read) ∈ transfer.tasks := by
    rw [transfer.tasks_eq .server, reading_of_settled performs settled]
    exact Multiset.mem_cons_self _ _
  rw [← settled.complete (performs.mem_pending reads), history, peerReads_transfer]

/-- What is written to the remote is what the transfer reads from the peer. -/
theorem writes_remote (exchange : Exchange) (transfer : Relay Socks5State.dataTransferMode) :
    writes .client ((Phase.relay exchange transfer).transcript tls) =
      chunksRead .dataTransferMode .server transfer.trace := by
  have early : writes .client (Transcript.established tls exchange) = [] := by
    cases tls <;> rfl
  have relayed := transfer.writes_opposite .server
  rw [Phase.transcript, writes_append, early, List.nil_append, ← relayed]
  rfl

theorem replies_relay (exchange : Exchange) (transfer : Relay Socks5State.dataTransferMode) :
    (writes .server ((Phase.relay exchange transfer).transcript tls)).take 2 =
      [methodReply exchange.greeting, exchange.reply Responses.succeeded] := by
  rw [writes_transcript]
  rfl

/-- The connect of a transfer. -/
theorem connects_relay (exchange : Exchange) (transfer : Relay Socks5State.dataTransferMode) :
    [(.client, .called (.setHost exchange.host)), (.client, .called (.setService exchange.service)),
      connectLine] <:+: (Phase.relay exchange transfer).transcript tls := by
  refine List.IsInfix.trans ?_ requested_prefix_relay.isInfix
  exact ⟨Transcript.negotiated tls exchange.greeting ++
    [(.server, .completed .read .success exchange.message.bytes (some .connectionRequest))], [],
    by simp [Transcript.requested, connectLine]⟩

/-- A request is known by its reply. -/
theorem message_of_reply {request : ConnectRequest} {code : UInt8}
    (same : exchange.reply code = request.bytes.set 1 code) :
    exchange.message.bytes = request.bytes := by
  have whole : exchange.message.bytes.set 1 tcpConnection = exchange.message.bytes := by
    obtain ⟨inside, command⟩ := List.getElem?_eq_some_iff.mp (command_of_target exchange.decoded)
    rw [← command, List.set_getElem_self]
  have back := congrArg (fun bytes => bytes.set 1 tcpConnection) same
  simp only [Exchange.reply, List.set_set, whole] at back
  exact back

end

/-- A transfer that follows the messages of a client serves it, once the payload is delivered. -/
theorem served_relay {client : Client} {host : Text}
    {transfer : Relay Socks5State.dataTransferMode}
    (greeting : exchange.greeting.bytes = client.greeting.bytes)
    (message : exchange.message.bytes = client.request.bytes)
    (address : exchange.host = host ∧ exchange.service = portToString client.request.port)
    (payload : (chunksRead .dataTransferMode .server transfer.trace).flatten = client.payload)
    (idle : transfer.lanes .server = .reading) :
    Served client host ((Phase.relay exchange transfer).transcript tls) := by
  have accepts : authMode exchange.greeting = Auth.noAuth := by
    rw [authMode_eq, if_neg]
    rw [greeting, refused_bytes, not_not]
    exact client.offers
  have delivered := transfer.conservation .server
  rw [idle, Lane.inFlight, List.append_nil] at delivered
  have connects := @connects_relay _ tls exchange transfer
  have started := connects.subset (by simp : connectLine ∈ _)
  rw [address.1, address.2] at connects
  refine ⟨connects, ?_, ?_, ?_, ?_⟩
  · exact Nat.le_antisymm (count_connect _) (List.count_pos_iff.mpr started)
  · rw [replies_relay, methodReply, accepts, Exchange.reply, message]
  · rw [writes_remote, payload]
  · rw [writes_remote, chunksDelivered_relay, ← delivered]

/-! ### Served exactly when aligned -/

section

variable {client : Client} {host : Text} {cut : List IoBuffer} {world : Socks5StreamManager}
  {upstream : ServerStream} (reachable : Reachable world) (accepted : world.Accepted upstream)
  (settled : Settled cut upstream world) (isCut : client.IsCut cut)
include reachable accepted settled isCut

theorem aligned_of_served (served : Served client host (world.conversation upstream)) :
    client.IsAligned cut := by
  have started : connectLine ∈ world.conversation upstream :=
    List.count_pos_iff.mp (served.once ▸ Nat.one_pos)
  cases stage_of_settled reachable accepted settled with
  | waiting idle => exact absurd started idle
  | rejected idle => exact absurd started idle
  | relaying exchange transfer performs history =>
      have history : world.conversation upstream = _ := history
      have whole := cut_of_relaying performs history settled
      have replies := served.replies
      rw [history, replies_relay, List.cons.injEq, List.cons.injEq] at replies
      have message := message_of_reply replies.2.1
      have forwarded := served.forwarded
      rw [history, writes_remote] at forwarded
      have total := isCut.1
      rw [whole, List.flatten_cons, List.flatten_cons, forwarded, message, Client.bytes,
        ← List.append_assoc, List.append_cancel_right_eq, List.append_cancel_right_eq] at total
      exact ⟨_, by rw [whole, total, message]⟩

theorem served_of_aligned (wants : client.Wants host)
    (long : requestHeaderMinLength ≤ client.request.bytes.length) (aligned : client.IsAligned cut) :
    Served client host (world.conversation upstream) := by
  obtain ⟨pieces, shape⟩ := aligned
  have decoded {message : Received} (sent : message.bytes = client.request.bytes) :
      target message = some (host, portToString client.request.port) :=
    target_bytes sent long wants.1 wants.2
  cases stage_of_settled reachable accepted settled with
  | waiting _ few =>
      rw [shape] at few
      simp at few
  | rejected _ greeting message unwanted first =>
      have first := first.trans settled.pieces
      rw [shape, List.cons_prefix_cons, List.cons_prefix_cons] at first
      rw [decoded first.2.1] at unwanted
      cases unwanted
  | relaying exchange transfer performs history =>
      have history : world.conversation upstream = _ := history
      have whole := cut_of_relaying performs history settled
      rw [shape, List.cons.injEq, List.cons.injEq] at whole
      obtain ⟨greeting, message, chunks⟩ := whole
      have address := exchange.decoded.symm.trans (decoded message.symm)
      rw [Option.some.injEq, Prod.mk.injEq] at address
      have total := isCut.1
      rw [shape, List.flatten_cons, List.flatten_cons, ← List.append_assoc] at total
      have payload := List.append_cancel_left total
      rw [history]
      exact served_relay greeting.symm message.symm address (chunks ▸ payload)
        (reading_of_settled performs settled .server)

end

end Socks5

/-- A SOCKS5 session depends on how the bytes of its client are cut up to the payload. Once nothing
    is left but reads, and nothing has failed, the session has connected to the host and the port of
    the request, sent the replies of a success and forwarded the payload if and only if the greeting
    and the request came in a read each. -/
theorem socks5_segmentation [Platform] {client : Socks5.Client} {host : Text}
    (wants : client.Wants host)
    (long : Socks5.requestHeaderMinLength ≤ client.request.bytes.length) {cut : List IoBuffer}
    (isCut : client.IsCut cut) {world : Socks5StreamManager} (reachable : Reachable world)
    {upstream : ServerStream} (accepted : world.Accepted upstream)
    (settled : Socks5.Settled cut upstream world) :
    Socks5.Served client host (world.conversation upstream) ↔ client.IsAligned cut := by
  constructor
  · intro served
    exact Socks5.aligned_of_served reachable accepted settled isCut served
  · intro aligned
    exact Socks5.served_of_aligned reachable accepted settled isCut wants long aligned

/-! ### Two ways to cut what one client sends -/

namespace Socks5.Sample

/-- Asks for 127.0.0.1, port 80, and has three bytes for it. -/
def client : Client where
  greeting := { methods := [Auth.noAuth], short := by decide }
  offers := by decide
  request := { reserved := 0, address := .ipv4 [127, 0, 0, 1] rfl, port := 80 }
  payload := [1, 2, 3]

/-- The three bytes have gone to the remote. -/
def relayed : List IoEvent :=
  relaying ++ [.complete (.client peer.downstream) (.write 3) (.succeeded [])]

/-- The greeting comes in two reads. -/
def splitGreeting : List IoEvent :=
  [.accept peer,
    .complete (.server peer) .read (.succeeded [5, 1]),
    .complete (.server peer) (.write 2) (.succeeded []),
    .complete (.server peer) .read (.succeeded [0])]

/-- Asks for a host with a name of two bytes, and has nothing for it. -/
def shortName : Client where
  greeting := client.greeting
  offers := client.offers
  request := { reserved := 0, address := .dom (ascii "io") (by decide), port := 80 }
  payload := []

/-- Greeting and request come in a read each. -/
def namingShort : List IoEvent :=
  [.accept peer,
    .complete (.server peer) .read (.succeeded [5, 1, 0]),
    .complete (.server peer) (.write 2) (.succeeded []),
    .complete (.server peer) .read (.succeeded shortName.request.bytes)]

end Socks5.Sample

section

attribute [local instance] Socks5.Sample.platform

theorem Socks5.Sample.settled_relayed :
    Socks5.Settled [[5, 1, 0], Socks5.Sample.request, [1, 2, 3]] Socks5.Sample.peer
      (World.play Socks5.Sample.relayed) :=
  .of_sides (by decide) (by decide) (by decide) (by decide) (by decide)

/-- The client of `Socks5.Sample.relayed` is served. -/
theorem socks5_segmentation_sample :
    Socks5.Served Socks5.Sample.client (ascii "127.0.0.1")
      ((World.play Socks5.Sample.relayed : Socks5StreamManager).conversation
        Socks5.Sample.peer) := by
  have wants : Socks5.Sample.client.Wants (ascii "127.0.0.1") := ⟨by decide, by decide⟩
  have isCut : Socks5.Sample.client.IsCut [[5, 1, 0], Socks5.Sample.request, [1, 2, 3]] :=
    ⟨by decide, by decide⟩
  exact (socks5_segmentation wants (by decide) isCut (World.reachable_play _) (by decide)
    Socks5.Sample.settled_relayed).mpr ⟨_, rfl⟩

/-- The same client gets its connect when each message comes in one read, and does not when the
    greeting comes in two. Nor does a client whose request is shorter than
    `request_header_min_length`. -/
theorem socks5_segmentation_matters :
    (Socks5.Settled [[5, 1, 0], Socks5.Sample.request, [1, 2, 3]] Socks5.Sample.peer
        (World.play Socks5.Sample.relayed) ∧
      connectLine ∈ (World.play Socks5.Sample.relayed : Socks5StreamManager).conversation
        Socks5.Sample.peer) ∧
    (Socks5.Settled [[5, 1], [0], Socks5.Sample.request, [1, 2, 3]] Socks5.Sample.peer
        (World.play Socks5.Sample.splitGreeting) ∧
      connectLine ∉ (World.play Socks5.Sample.splitGreeting : Socks5StreamManager).conversation
        Socks5.Sample.peer) ∧
    (Socks5.Settled [[5, 1, 0], Socks5.Sample.shortName.request.bytes] Socks5.Sample.peer
        (World.play Socks5.Sample.namingShort) ∧
      connectLine ∉ (World.play Socks5.Sample.namingShort : Socks5StreamManager).conversation
        Socks5.Sample.peer) ∧
    ¬ Socks5.SegmentationInsensitive := by
  have split : Socks5.Settled [[5, 1], [0], Socks5.Sample.request, [1, 2, 3]] Socks5.Sample.peer
      (World.play Socks5.Sample.splitGreeting) :=
    .of_sides (by decide) (by decide) (by decide) (by decide) (by decide)
  have short : Socks5.Settled [[5, 1, 0], Socks5.Sample.shortName.request.bytes]
      Socks5.Sample.peer (World.play Socks5.Sample.namingShort) :=
    .of_sides (by decide) (by decide) (by decide) (by decide) (by decide)
  refine ⟨⟨Socks5.Sample.settled_relayed, by decide⟩, ⟨split, by decide⟩, ⟨short, by decide⟩,
    fun insensitive => ?_⟩
  have served := insensitive Socks5.Sample.client (ascii "127.0.0.1") ⟨by decide, by decide⟩
    [[5, 1], [0], Socks5.Sample.request, [1, 2, 3]] ⟨by decide, by decide⟩ _
    (World.reachable_play Socks5.Sample.splitGreeting) Socks5.Sample.peer (by decide) split
  exact absurd (List.count_pos_iff.mp (served.once ▸ Nat.one_pos)) (by decide)

end

end AmgiNetTools
