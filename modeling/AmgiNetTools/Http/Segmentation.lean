/-
Module: AmgiNetTools.Http.Segmentation
Layer: Http
Purpose: How much of a CONNECT depends on the reads TCP cuts the bytes of a client into. The first
  read is taken for the whole request, and whatever comes in later reads for the payload: nothing
  looks for the end of the headers. So a client gets its tunnel, and the tunnel gets the payload,
  exactly when the request is the first read; the payload may come in any reads.
Main exports: Http.Tunnelled, Http.SegmentationInsensitive, http_segmentation
-/
import AmgiNetTools.Session.Segments
import AmgiNetTools.Http.Message
import AmgiNetTools.Http.Order

namespace AmgiNetTools

namespace Http

/-! ### The law -/

/-- Pieces of a request and the payload behind it, none of them empty. -/
def ConnectRequest.IsCut (request : ConnectRequest) (payload : IoBuffer) (cut : List IoBuffer) :
    Prop :=
  cut.flatten = request.bytes ++ payload ∧ ∀ piece ∈ cut, piece ≠ []

/-- The request is the first piece. -/
def ConnectRequest.IsAligned (request : ConnectRequest) (cut : List IoBuffer) : Prop :=
  ∃ pieces, cut = request.bytes :: pieces

/-- A client got its tunnel: one connect, to the host and the service of its request; and the
    payload for the remote, all of it on the wire. -/
structure Tunnelled (request : ConnectRequest) (payload : IoBuffer) (history : History HttpState) :
    Prop where
  connects : [(.client, .called (.setHost request.host)),
    (.client, .called (.setService request.service)), connectLine] <:+: history
  once : history.count connectLine = 1
  forwarded : (writes .client history).flatten = payload
  delivered : chunksDelivered .dataTransferMode .server history = writes .client history

/-- Every client gets its tunnel, whatever its bytes are cut into. -/
def SegmentationInsensitive : Prop :=
  ∀ (request : ConnectRequest) (payload : IoBuffer) (cut : List IoBuffer),
    request.IsCut payload cut → ∀ world : HttpStreamManager, Reachable world →
      ∀ upstream, world.Accepted upstream → Settled cut upstream world →
        Tunnelled request payload (world.conversation upstream)

/-! ### The reads of each phase -/

variable {tls : Bool} {exchange : Exchange}

theorem peerReads_opening : peerReads (Transcript.opening tls) = [] := by
  cases tls <;> rfl

theorem peerReads_connected : peerReads (Transcript.connected tls exchange) =
    [exchange.message] := by
  cases tls <;> rfl

theorem peerReads_tunnel {tunnels : exchange.method = .kConnect}
    (transfer : Relay HttpState.dataTransferMode) :
    peerReads ((Phase.tunnel exchange tunnels transfer).transcript tls) =
      exchange.message :: chunksRead .dataTransferMode .server transfer.trace := by
  rw [Phase.transcript, Transcript.established, peerReads_append, peerReads_append,
    peerReads_connected, peerReads_relay]
  rfl

theorem peerReads_crossing {trace : History HttpState} {ops : Multiset (Side × AsyncOp)}
    (crossing : Crossing trace ops) : peerReads trace = writes .client trace := by
  induction crossing with
  | start => rfl
  | receive chunk _ ih | deliver size bytes _ ih =>
      rw [peerReads_append, writes_append, ih]
      rfl

/-- What a session that sends its request on reads, it writes to the remote. -/
theorem peerReads_crossed {trace : History HttpState} {ops : Multiset (Side × AsyncOp)}
    (crossing : Crossing trace ops) :
    peerReads (Transcript.forwarded tls exchange ++ trace) =
      writes .client (Transcript.forwarded tls exchange ++ trace) := by
  rw [Transcript.forwarded, peerReads_append, peerReads_append, writes_append, writes_append,
    peerReads_connected, peerReads_crossing crossing, writes_connected]
  rfl

/-! ### Sessions that wait for reads only -/

/-- Where a session that waits for reads only can be. -/
inductive Stage (cut : List IoBuffer) (tls : Bool) (snapshot : Snapshot HttpState) : Prop where
  /-- It is a tunnel. -/
  | tunnelling (exchange : Exchange) (tunnels : exchange.method = .kConnect)
      (transfer : Relay HttpState.dataTransferMode) (performs : snapshot.Performs transfer.tasks)
      (history : snapshot.history = (Phase.tunnel exchange tunnels transfer).transcript tls)
  /-- It has sent another request on. -/
  | crossed (exchange : Exchange) (forwards : exchange.method ≠ .kConnect)
      (first : [exchange.message] <+: cut) (whole : writes .client snapshot.history = cut)
  /-- It waits for the request, and no piece is left. -/
  | waiting (idle : connectLine ∉ snapshot.history) (none : cut = [])
  /-- It was stopped by the first piece. -/
  | rejected (idle : connectLine ∉ snapshot.history) (message : IoBuffer)
      (unusable : target message = .ok none) (first : [message] <+: peerReads snapshot.history)

section

variable {cut : List IoBuffer} {world : HttpStreamManager} {upstream : ServerStream}

/-- A session in a phase. -/
theorem stage_of_phase {phase : Phase}
    (within : script.InPhase upstream.tls upstream.id phase (world.snapshot upstream))
    (settled : Settled cut upstream world) :
    Stage cut upstream.tls (world.snapshot upstream) := by
  have reads {side : Side} {task : Task} (member : (side, task) ∈ phase.tasks) : task.op = .read :=
    settled.waits side task.op (within.performs.mem_pending member)
  have history : (world.snapshot upstream).history = phase.transcript upstream.tls := within.history
  cases phase with
  | tunnel exchange tunnels transfer =>
      exact .tunnelling exchange tunnels transfer within.performs history
  | request =>
      have whole : peerReads (world.snapshot upstream).history = cut :=
        settled.complete (within.performs.mem_pending (Multiset.mem_singleton_self _))
      rw [history, Phase.transcript, peerReads_opening] at whole
      refine .waiting ?_ whole.symm
      rw [history]
      cases upstream.tls <;> simp [Phase.transcript, Transcript.opening, connectLine]
  | _ => cases reads (Multiset.mem_singleton_self _)

/-- A session that has sent another request on. -/
theorem stage_of_crossed (crossed : Crossed upstream.tls upstream.id (world.snapshot upstream))
    (settled : Settled cut upstream world) :
    Stage cut upstream.tls (world.snapshot upstream) := by
  obtain ⟨exchange, forwards, count, trace, crossing, session, history⟩ := crossed
  have two := crossing.card_eq
  obtain ⟨⟨side, op⟩, member⟩ := Multiset.card_pos_iff_exists_mem.mp (two ▸ Nat.two_pos)
  have pending := Snapshot.mem_outstanding.mp member
  have read : op = .read := settled.waits side op pending
  have whole : peerReads (world.snapshot upstream).history = cut := by
    rcases crossing.oneWay _ member with same | ⟨size, same⟩
    · cases same
      exact settled.complete pending
    · cases same
      cases read
  rw [history, peerReads_crossed crossing] at whole
  refine .crossed exchange forwards ?_ (history ▸ whole)
  rw [← whole, Transcript.forwarded, writes_append, writes_append, writes_connected]
  exact ⟨writes .client trace, rfl⟩

/-- A session that was stopped in a phase. -/
theorem stage_of_stoppedIn {phase : Phase} {calls : List Request} {last : Snapshot HttpState}
    {late : History HttpState}
    (stopped : script.StoppedIn upstream.tls upstream.id phase calls last)
    (grown : (world.snapshot upstream).history = last.history ++ late)
    (isLate : ∀ line ∈ late, IsLate line) (settled : Settled cut upstream world) :
    Stage cut upstream.tls (world.snapshot upstream) := by
  have grown : world.conversation upstream = last.history ++ late := grown
  obtain ⟨side, task, completion, side', ec, raised, whole⟩ | ⟨message, unusable, whole⟩ :=
    stoppedIn_cases stopped late
  · have smooth := settled.smooth (Snapshot.done side task completion (some phase.state)) (by
      rw [grown, whole]
      simp)
    exact absurd raised (not_error_of_smooth smooth)
  · refine .rejected ?_ message unusable ?_
    · rw [show (world.snapshot upstream).history = _ from grown, whole]
      exact (rejected_request isLate _).not_connected
    · rw [show (world.snapshot upstream).history = _ from grown, whole, Transcript.rejected,
        peerReads_append, peerReads_opening]
      exact ⟨peerReads (stopLines ++ late), rfl⟩

theorem stage_of_settled (reachable : Reachable world) (accepted : world.Accepted upstream)
    (settled : Settled cut upstream world) : Stage cut upstream.tls (world.snapshot upstream) := by
  cases conversed reachable accepted with
  | live holds =>
      rcases holds with ⟨phase, within, -⟩ | crossed
      · exact stage_of_phase within settled
      · exact stage_of_crossed crossed settled
  | ended _ last stopped late grown isLate =>
      rcases stopped with ⟨phase, calls, stopped⟩ | stopped
      · exact stage_of_stoppedIn stopped grown isLate settled
      · obtain ⟨exchange, forwards, trace, ops, crossing, side, op, ec, failed, history⟩ := stopped
        have smooth := settled.smooth (side, .completed op ec [] (some .dataTransferMode)) (by
          rw [show world.conversation upstream = _ from grown, history]
          simp)
        exact absurd failed (by simp [smooth.1])

end

/-! ### Tunnelled exactly when aligned -/

variable {request : ConnectRequest} {payload : IoBuffer} {cut : List IoBuffer}
  {world : HttpStreamManager} {upstream : ServerStream}
  {transfer : Relay HttpState.dataTransferMode} {tunnels : exchange.method = .kConnect}

/-- The host in the conversation of a tunnel. -/
theorem host_of_tunnel {host : Text} (member : (.client, .called (.setHost host)) ∈
    (Phase.tunnel exchange tunnels transfer).transcript tls) : host = exchange.target.host := by
  rcases List.mem_append.mp member with early | late
  · cases tls <;>
      simpa [Transcript.established, Transcript.connected, Transcript.resolved,
        Transcript.requested, Transcript.opening] using early
  · obtain ⟨_, _, _, same⟩ | ⟨_, same⟩ | ⟨_, _, same⟩ := transfer.line_cases late <;> cases same

/-- A settled tunnel has read all pieces. -/
theorem cut_of_tunnel (performs : (world.snapshot upstream).Performs transfer.tasks)
    (history : world.conversation upstream =
      (Phase.tunnel exchange tunnels transfer).transcript tls)
    (settled : Settled cut upstream world) :
    cut = exchange.message :: chunksRead .dataTransferMode .server transfer.trace := by
  have reads : (Side.server, Task.read) ∈ transfer.tasks := by
    rw [transfer.tasks_eq .server, settled.reading performs]
    exact Multiset.mem_cons_self _ _
  rw [← settled.complete (performs.mem_pending reads), history, peerReads_tunnel]

/-- What is written to the remote is what the tunnel reads from the peer. -/
theorem writes_tunnel : writes .client ((Phase.tunnel exchange tunnels transfer).transcript tls) =
    chunksRead .dataTransferMode .server transfer.trace := by
  have served := @served_tunnel tls exchange tunnels transfer
  rw [(served.tunnel tunnels).2, chunksRead, Phase.transcript, Relay.laneEvents_append,
    laneEvents_established]
  rfl

/-- A tunnel that follows a request serves it, once the payload is delivered. -/
theorem tunnelled_of_tunnel (target : exchange.target = ⟨request.host, request.service⟩)
    (whole : (chunksRead .dataTransferMode .server transfer.trace).flatten = payload)
    (idle : transfer.lanes .server = .reading) :
    Tunnelled request payload ((Phase.tunnel exchange tunnels transfer).transcript tls) := by
  have served := @served_tunnel tls exchange tunnels transfer
  have addressed := served.addressed
  have delivered := transfer.conservation .server
  rw [target] at addressed
  rw [idle, Lane.inFlight, List.append_nil] at delivered
  refine ⟨addressed, served.one_connect, ?_, ?_⟩
  · rw [writes_tunnel, whole]
  · rw [writes_tunnel, delivered, chunksDelivered, Phase.transcript, Relay.laneEvents_append,
      laneEvents_established]
    rfl

section

variable (reachable : Reachable world) (accepted : world.Accepted upstream)
  (settled : Settled cut upstream world) (isCut : request.IsCut payload cut)
include reachable accepted settled isCut

theorem aligned_of_tunnelled
    (tunnelled : Tunnelled request payload (world.conversation upstream)) :
    (∀ c ∈ request.host, c ∉ ascii ":") ∧ request.IsAligned cut := by
  have started : connectLine ∈ world.conversation upstream :=
    List.count_pos_iff.mp (tunnelled.once ▸ Nat.one_pos)
  have forwarded := tunnelled.forwarded
  have total := isCut.1
  cases stage_of_settled reachable accepted settled with
  | waiting idle => exact absurd started idle
  | rejected idle => exact absurd started idle
  | crossed exchange forwards first whole =>
      -- The whole cut was sent on, the request with it.
      rw [show writes .client (world.conversation upstream) = cut from whole, total] at forwarded
      have nothing := List.append_left_eq_self.mp forwarded
      simp [ConnectRequest.bytes, crlf, ascii] at nothing
  | tunnelling exchange tunnels transfer performs history =>
      have history : world.conversation upstream = _ := history
      have whole := cut_of_tunnel performs history settled
      rw [history, writes_tunnel] at forwarded
      rw [whole, List.flatten_cons, forwarded] at total
      have message := List.append_cancel_right total
      constructor
      · have member := tunnelled.connects.subset
          (by simp : (Side.client, Happening.called (.setHost request.host)) ∈ _)
        rw [history] at member
        rw [host_of_tunnel member]
        exact no_colon_of_target tunnels exchange.decoded
      · exact ⟨_, by rw [whole, message]⟩

theorem tunnelled_of_aligned (plain : ∀ c ∈ request.host, c ∉ ascii ":")
    (aligned : request.IsAligned cut) :
    Tunnelled request payload (world.conversation upstream) := by
  obtain ⟨pieces, shape⟩ := aligned
  have total := isCut.1
  rw [shape, List.flatten_cons] at total
  have rest := List.append_cancel_left total
  cases stage_of_settled reachable accepted settled with
  | waiting _ none =>
      rw [shape] at none
      cases none
  | rejected _ message unusable first =>
      have first := first.trans settled.pieces
      rw [shape, List.cons_prefix_cons] at first
      rw [first.1] at unusable
      cases request.target_bytes plain unusable
  | crossed exchange forwards first whole =>
      rw [shape, List.cons_prefix_cons] at first
      refine absurd ?_ forwards
      rw [Exchange.method, first.1]
      obtain ⟨connection, parsed⟩ := request.getHeaders_bytes
      rw [parsed]
      rfl
  | tunnelling exchange tunnels transfer performs history =>
      have history : world.conversation upstream = _ := history
      have whole := cut_of_tunnel performs history settled
      rw [shape, List.cons.injEq] at whole
      have decoded := exchange.decoded
      rw [← whole.1] at decoded
      rw [history]
      exact tunnelled_of_tunnel (Option.some.inj (request.target_bytes plain decoded))
        (whole.2 ▸ rest) (settled.reading performs .server)

end

end Http

/-- An HTTP session depends on how the bytes of its client are cut up to the payload. Once nothing
    is left but reads, and nothing has failed, a client that sent a CONNECT and a payload has got
    its tunnel, with exactly the payload in it, if and only if the request came in one read of its
    own and its host has no colon in it. -/
theorem http_segmentation {request : Http.ConnectRequest} {payload : IoBuffer}
    {cut : List IoBuffer} (isCut : request.IsCut payload cut) {world : HttpStreamManager}
    (reachable : Reachable world) {upstream : ServerStream} (accepted : world.Accepted upstream)
    (settled : Settled cut upstream world) :
    Http.Tunnelled request payload (world.conversation upstream) ↔
      (∀ c ∈ request.host, c ∉ ascii ":") ∧ request.IsAligned cut := by
  constructor
  · intro tunnelled
    exact Http.aligned_of_tunnelled reachable accepted settled isCut tunnelled
  · intro ⟨plain, aligned⟩
    exact Http.tunnelled_of_aligned reachable accepted settled isCut plain aligned

/-! ### Four ways to cut what one client sends -/

namespace Http.Sample

/-- Asks for port 80 of a host. -/
def connectRequest : ConnectRequest where
  host := ascii "h"
  service := ascii "80"
  version := ascii "HTTP/1.1"
  headers := [ascii "Host: h"]
  host_isToken := isToken_h
  service_isToken := ⟨by decide, free_of_all (by decide)⟩
  service_no_colon := free_of_all (by decide)
  version_isToken := isToken_version
  headers_ne_nil := by decide
  headers_isLine := List.forall_mem_singleton.mpr ⟨by decide, free_of_all (by decide)⟩

/-- The three bytes of the payload have gone to the remote. -/
def tunnelled : List IoEvent :=
  tunnelling ++ [.complete (.client peer.downstream) (.write 3) (.succeeded [])]

/-- The request comes in two reads, the second of which begins in a header. -/
def headerPieces : List IoBuffer :=
  [ascii "CONNECT h:80 HTTP/1.1\r\nHo", ascii "st: h\r\n\r\n", [1, 2, 3]]

/-- The second read goes to the remote. -/
def splitHeader : List IoEvent :=
  connected (ascii "CONNECT h:80 HTTP/1.1\r\nHo") (ascii "80") ++
    [.complete (.server peer) (.write kHttpDone.length) (.succeeded []),
      .complete (.server peer) .read (.succeeded (ascii "st: h\r\n\r\n")),
      .complete (.client peer.downstream) (.write 9) (.succeeded []),
      .complete (.server peer) .read (.succeeded [1, 2, 3]),
      .complete (.client peer.downstream) (.write 3) (.succeeded [])]

/-- The request and the payload come in one read. -/
def coalesced : List IoEvent :=
  connected (tunnelRequest ++ [1, 2, 3]) (ascii "80") ++
    [.complete (.server peer) (.write kHttpDone.length) (.succeeded [])]

/-- The first read ends in the request line. -/
def linePieces : List IoBuffer :=
  [ascii "CONNECT h:80 HT", ascii "TP/1.1\r\nHost: h\r\n\r\n", [1, 2, 3]]

/-- The first read is no request. -/
def splitLine : List IoEvent :=
  [.accept peer,
    .complete (.server peer) .read (.succeeded (ascii "CONNECT h:80 HT")),
    .complete (.server peer) (.write kHttpError500.length) (.succeeded [])]

theorem isCut_tunnelled : connectRequest.IsCut [1, 2, 3] [tunnelRequest, [1, 2, 3]] :=
  ⟨by decide, by decide⟩

theorem settled_tunnelled :
    Settled [tunnelRequest, [1, 2, 3]] peer (World.play tunnelled : HttpStreamManager) :=
  .of_sides (by decide) (by decide) (by decide) (by decide) (by decide)

end Http.Sample

/-- The client of `Http.Sample.tunnelled` got its tunnel. -/
theorem http_segmentation_sample :
    Http.Tunnelled Http.Sample.connectRequest [1, 2, 3]
      ((World.play Http.Sample.tunnelled : HttpStreamManager).conversation Http.Sample.peer) :=
  (http_segmentation Http.Sample.isCut_tunnelled (World.reachable_play Http.Sample.tunnelled)
    (by decide) Http.Sample.settled_tunnelled).mpr
      ⟨Http.free_of_all (by decide), _, rfl⟩

/-- The same client has its payload in the tunnel when the request comes in one read. When a header
    is cut, the rest of it is in the tunnel; when the payload comes with the request, it is lost;
    and when the request line is cut, there is no connect. -/
theorem http_segmentation_matters :
    (Settled [Http.Sample.tunnelRequest, [1, 2, 3]] Http.Sample.peer
        (World.play Http.Sample.tunnelled : HttpStreamManager) ∧
      writes .client ((World.play Http.Sample.tunnelled : HttpStreamManager).conversation
        Http.Sample.peer) = [[1, 2, 3]]) ∧
    (Settled Http.Sample.headerPieces Http.Sample.peer
        (World.play Http.Sample.splitHeader : HttpStreamManager) ∧
      writes .client ((World.play Http.Sample.splitHeader : HttpStreamManager).conversation
        Http.Sample.peer) = [ascii "st: h\r\n\r\n", [1, 2, 3]]) ∧
    (Settled [Http.Sample.tunnelRequest ++ [1, 2, 3]] Http.Sample.peer
        (World.play Http.Sample.coalesced : HttpStreamManager) ∧
      writes .client ((World.play Http.Sample.coalesced : HttpStreamManager).conversation
        Http.Sample.peer) = []) ∧
    (Settled Http.Sample.linePieces Http.Sample.peer
        (World.play Http.Sample.splitLine : HttpStreamManager) ∧
      connectLine ∉ (World.play Http.Sample.splitLine : HttpStreamManager).conversation
        Http.Sample.peer) ∧
    ¬ Http.SegmentationInsensitive := by
  have header : Settled Http.Sample.headerPieces Http.Sample.peer
      (World.play Http.Sample.splitHeader : HttpStreamManager) :=
    .of_sides (by decide) (by decide) (by decide) (by decide) (by decide)
  have coalesced : Settled [Http.Sample.tunnelRequest ++ [1, 2, 3]] Http.Sample.peer
      (World.play Http.Sample.coalesced : HttpStreamManager) :=
    .of_sides (by decide) (by decide) (by decide) (by decide) (by decide)
  have line : Settled Http.Sample.linePieces Http.Sample.peer
      (World.play Http.Sample.splitLine : HttpStreamManager) :=
    .of_sides (by decide) (by decide) (by decide) (by decide) (by decide)
  have idle : connectLine ∉ (World.play Http.Sample.splitLine : HttpStreamManager).conversation
      Http.Sample.peer := by
    decide
  refine ⟨⟨Http.Sample.settled_tunnelled, by decide⟩, ⟨header, by decide⟩,
    ⟨coalesced, by decide⟩, ⟨line, idle⟩, fun insensitive => ?_⟩
  have tunnelled := insensitive Http.Sample.connectRequest [1, 2, 3] Http.Sample.linePieces
    ⟨by decide, by decide⟩ _ (World.reachable_play Http.Sample.splitLine) Http.Sample.peer
    (by decide) line
  exact idle (List.count_pos_iff.mp (tunnelled.once ▸ Nat.one_pos))

end AmgiNetTools
