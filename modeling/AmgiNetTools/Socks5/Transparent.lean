/-
Module: AmgiNetTools.Socks5.Transparent
Layer: Socks5
Purpose: A SOCKS5 session seen from its two wires. What it has put on the wire to the remote is a
  beginning of what its peer sent after the greeting and the request; what it has put on the wire to
  the peer is a beginning of the two replies and then what the remote sent. This holds in every
  state of every session, also of one that was stopped while writes were under way, and both
  beginnings are the whole while nothing is under way.
Main exports: Socks5.posts_of_reachable, Socks5.Echoes, Socks5.Transparent, socks5_transparent
-/
import AmgiNetTools.Session.Wire
import AmgiNetTools.Socks5.Order

namespace AmgiNetTools

namespace Socks5

/-- The law of the two wires. The request is the second chunk the peer sent. -/
structure Transparent (history : History Socks5State) : Prop where
  toRemote : sent .client history <+: (arrivals .server history).drop 2
  toPeer : ∃ mode code, sent .server history <+:
    [version, mode] :: ((arrivals .server history).getD 1 []).set 1 code :: arrivals .client history

/-- The same of what the two streams are handed, whether it goes out or not. -/
structure Echoes (history : History Socks5State) : Prop where
  toRemote : writes .client history <+: (arrivals .server history).drop 2
  toPeer : ∃ mode code, writes .server history <+:
    [version, mode] :: ((arrivals .server history).getD 1 []).set 1 code :: arrivals .client history

variable [Platform] {tls : Bool} {id : Int32} {snapshot next : Snapshot Socks5State} {side : Side}
  {op : AsyncOp} {completion : Completion} {greeting : Received} {exchange : Exchange}

/-! ### What each stream is writing -/

/-- The chunk each stream is writing in a phase. -/
def Phase.lanes : Phase → Side → Lane IoBuffer
  | .methodReply greeting, .server => .writing (Socks5.methodReply greeting)
  | .refusal exchange _ ec _, .server => .writing (exchange.reply (getResponseErrorCode ec))
  | .success exchange, .server => .writing (exchange.reply Responses.succeeded)
  | .relay _ transfer, side => transfer.lanes side.opposite
  | _, _ => .reading

theorem lanes_of_write {phase : Phase} {chunk : IoBuffer}
    (member : (side, .write chunk) ∈ phase.tasks) : phase.lanes side = .writing chunk := by
  cases phase with
  | methodReply | refusal | success =>
      cases Multiset.mem_singleton.mp member
      rfl
  | relay exchange transfer => exact Relay.lane_of_write member
  | _ => cases Multiset.mem_singleton.mp member

omit [Platform] in
theorem wire_opening : wireEvents side (Transcript.opening tls) = [] := by
  cases tls <;> rfl

omit [Platform] in
theorem wire_greeted : wireEvents side (Transcript.greeted tls greeting) =
    if side = .server then [.received (methodReply greeting)] else [] := by
  rw [Transcript.greeted, wireEvents_append, wire_opening]
  cases side <;> rfl

omit [Platform] in
theorem wire_negotiated : wireEvents side (Transcript.negotiated tls greeting) =
    if side = .server then [.received (methodReply greeting), .delivered (methodReply greeting)]
    else [] := by
  rw [Transcript.negotiated, wireEvents_append, wire_greeted]
  cases side <;> rfl

/-- The method reply is out before anything else is written. -/
theorem run_requested :
    Lane.run (wireEvents side (Transcript.requested tls exchange)) = some .reading := by
  rw [Transcript.requested, wireEvents_append, wire_negotiated]
  cases side with
  | server => simp [wireEvents_completed, Lane.run, Lane.step]
  | client => simp [wireEvents_completed, Lane.run]

theorem run_resolved :
    Lane.run (wireEvents side (Transcript.resolved tls exchange)) = some .reading := by
  rw [Transcript.resolved, wireEvents_append, Lane.run_append run_requested,
    wireEvents_completed (by simp)]
  rfl

theorem run_connected (side : Side) :
    Lane.run (wireEvents side (Transcript.connected tls exchange)) =
      some ((Phase.success exchange).lanes side) := by
  rw [Transcript.connected, wireEvents_append, Lane.run_append run_resolved]
  cases side <;> rfl

theorem run_established :
    Lane.run (wireEvents side (Transcript.established tls exchange)) = some .reading := by
  have connected := @run_connected _ tls exchange side
  rw [Transcript.established, wireEvents_append]
  cases side with
  | server => simpa using Lane.run_deliver connected
  | client => simpa [Phase.lanes] using connected

/-- What has happened by a phase fits what its streams are writing. -/
theorem run_transcript (phase : Phase) (side : Side) :
    Lane.run (wireEvents side (phase.transcript tls)) = some (phase.lanes side) := by
  cases phase with
  | handshake => cases side <;> rfl
  | greeting =>
      rw [Phase.transcript, wire_opening]
      cases side <;> rfl
  | methodReply greeting =>
      rw [Phase.transcript, wire_greeted]
      cases side <;> rfl
  | request greeting =>
      rw [Phase.transcript, wire_negotiated]
      cases side with
      | server => simp [Lane.run, Lane.step, Phase.lanes]
      | client => rfl
  | resolving exchange =>
      rw [Phase.transcript, run_requested]
      cases side <;> rfl
  | connecting exchange =>
      rw [Phase.transcript, run_resolved]
      cases side <;> rfl
  | refusal exchange resolved ec failed =>
      have before : Lane.run (wireEvents side (if resolved then Transcript.resolved tls exchange
          else Transcript.requested tls exchange)) = some .reading := by
        cases resolved with
        | true => exact run_resolved
        | false => exact run_requested
      rw [Phase.transcript, Transcript.refused, wireEvents_append, Lane.run_append before,
        wireEvents_completed (by cases resolved <;> simp)]
      cases side <;> rfl
  | success exchange => exact run_connected side
  | relay exchange transfer =>
      have relayed := wire_relay transfer side.opposite
      rw [Side.opposite_opposite] at relayed
      rw [Phase.transcript, wireEvents_append, Lane.run_append run_established, relayed,
        Phase.lanes]

/-! ### Every session puts its chunks on the wire one at a time -/

theorem not_failedWrite_resolved (side : Side) (size : Nat) :
    ¬ FailedWrite side size (Transcript.resolved tls exchange) := by
  cases tls <;> simp [Transcript.resolved, Transcript.requested, Transcript.negotiated,
    Transcript.greeted, Transcript.opening]

/-- No write has failed in a session that is in a phase. -/
theorem not_failedWrite_transcript (phase : Phase) (side : Side) (size : Nat) :
    ¬ FailedWrite side size (phase.transcript tls) := by
  have resolved (exchange : Exchange) := @not_failedWrite_resolved _ tls exchange side size
  have requested (exchange : Exchange) :
      ¬ FailedWrite side size (Transcript.requested tls exchange) :=
    fun failed => resolved exchange (failedWrite_append.mpr (.inl failed))
  cases phase with
  | handshake => simp [Phase.transcript]
  | greeting => cases tls <;> simp [Phase.transcript, Transcript.opening]
  | methodReply greeting | request greeting =>
      cases tls <;> simp [Phase.transcript, Transcript.negotiated, Transcript.greeted,
        Transcript.opening]
  | resolving exchange => exact requested exchange
  | connecting exchange => exact resolved exchange
  | refusal exchange early ec failed =>
      cases early with
      | true => simp [Phase.transcript, Transcript.refused, failedWrite_completed, resolved]
      | false => simp [Phase.transcript, Transcript.refused, failedWrite_completed, requested]
  | success exchange => simp [Phase.transcript, Transcript.connected, resolved]
  | relay exchange transfer =>
      simp [Phase.transcript, Transcript.established, Transcript.connected, resolved,
        transfer.not_failedWrite]

theorem posts_of_live (live : Live tls id snapshot) : snapshot.Posts := by
  obtain ⟨phase, within, -⟩ := live
  refine Snapshot.posts_of_performs within.performs (exclusive_of_performs within.performs)
    phase.lanes (fun side => ?_) (fun side size => ?_) fun side chunk => lanes_of_write
  · rw [within.history]
    exact run_transcript phase side
  · rw [within.history]
    exact not_failedWrite_transcript phase side size

/-- A handler that stops its session has asked for nothing before. -/
theorem requests_of_stop {session : Session Socks5State} {event : SessionEvent}
    (stops : (reaction session event).next = none) : (reaction session event).requests = [] := by
  revert stops
  unfold reaction
  split <;> try simp [Reaction.stop, Reaction.stay]
  split <;> simp

theorem posts_of_reachable (reachable : Snapshot.Reachable tls id snapshot) : snapshot.Posts := by
  induction reachable with
  | start => exact posts_of_live (live_accepted tls id)
  | step earlier pending _ finished posts =>
      have conversed := Snapshot.conversed_of_reachable (live_accepted tls id)
        (fun _ _ _ _ _ live pending finished => onward live pending finished) earlier
      cases conversed with
      | live holds =>
          obtain live | ⟨ended, -⟩ := onward holds pending finished
          · exact posts_of_live live
          · refine posts.complete_stop pending finished ended.gone ?_
            rintro event session outcome - computed stops
            cases computed
            exact requests_of_stop stops
      | ended gone => exact Snapshot.posts_late gone pending finished posts

/-! ### What is written is what has arrived -/

theorem arrivals_established (side : Side) : arrivals side (Transcript.established tls exchange) =
    if side = .server then [exchange.greeting.bytes, exchange.message.bytes] else [] := by
  cases side <;> cases tls <;> rfl

theorem arrivals_refused {resolved : Bool} {ec : ErrorCode} :
    arrivals .server (Transcript.refused tls exchange resolved ec) =
      [exchange.greeting.bytes, exchange.message.bytes] := by
  cases resolved <;> cases tls <;> rfl

theorem arrivals_connected : arrivals .server (Transcript.connected tls exchange) =
    [exchange.greeting.bytes, exchange.message.bytes] := by
  cases tls <;> rfl

/-- The remote is written what the peer sent after its request. -/
theorem writes_toRemote (phase : Phase) : writes .client (phase.transcript tls) <+:
    (arrivals .server (phase.transcript tls)).drop 2 := by
  cases phase with
  | relay exchange transfer =>
      have relayed := transfer.writes_opposite .server
      rw [Side.opposite] at relayed
      have none : writes .client (Transcript.established tls exchange) = [] := by
        cases tls <;> rfl
      rw [Phase.transcript, writes_append, none, relayed, arrivals_append, arrivals_established,
        arrivals_relay]
      exact List.prefix_refl _
  | refusal exchange resolved ec failed =>
      have none : writes .client (Transcript.refused tls exchange resolved ec) = [] := by
        cases resolved <;> cases tls <;> rfl
      rw [Phase.transcript, none]
      exact List.nil_prefix
  | _ => cases tls <;> exact List.nil_prefix

/-- The peer is written the two replies, and then what the remote sent. -/
theorem replies_transparent (phase : Phase) (rest : History Socks5State) :
    ∃ mode code, phase.replies <+: [version, mode] ::
      ((arrivals .server (phase.transcript tls ++ rest)).getD 1 []).set 1 code ::
        arrivals .client (phase.transcript tls ++ rest) := by
  cases phase with
  | handshake | greeting => exact ⟨0, 0, List.nil_prefix⟩
  | methodReply greeting | request greeting =>
      exact ⟨authMode greeting, 0, by simp [Phase.replies, methodReply]⟩
  | resolving exchange | connecting exchange =>
      exact ⟨authMode exchange.greeting, 0, by simp [Phase.replies, methodReply]⟩
  | refusal exchange resolved ec failed =>
      refine ⟨authMode exchange.greeting, getResponseErrorCode ec, ?_⟩
      rw [arrivals_append, Phase.transcript, arrivals_refused]
      simp [Phase.replies, methodReply, Exchange.reply]
  | success exchange =>
      refine ⟨authMode exchange.greeting, Responses.succeeded, ?_⟩
      rw [arrivals_append, Phase.transcript, arrivals_connected]
      simp [Phase.replies, methodReply, Exchange.reply]
  | relay exchange transfer =>
      refine ⟨authMode exchange.greeting, Responses.succeeded, ?_⟩
      rw [Phase.transcript]
      simp only [arrivals_append, arrivals_established, arrivals_relay, Phase.replies]
      simp [methodReply, Exchange.reply]

/-- What the streams are handed, whatever came after a phase, if nothing was written then. -/
theorem echoes_append (phase : Phase) {rest : History Socks5State}
    (silent : ∀ side, writes side rest = []) : Echoes (phase.transcript tls ++ rest) where
  toRemote := by
    have longer : arrivals .server (phase.transcript tls) <+:
        arrivals .server (phase.transcript tls ++ rest) := by
      rw [arrivals_append]
      exact List.prefix_append _ _
    rw [writes_append, silent, List.append_nil]
    exact (writes_toRemote phase).trans (longer.drop 2)
  toPeer := by
    rw [writes_append, silent, List.append_nil, writes_transcript]
    exact replies_transparent phase rest

/-- Each session hands its streams what has arrived at the other end, and the two replies. -/
theorem echoes {world : Socks5StreamManager} (reachable : Reachable world)
    {upstream : ServerStream} (accepted : world.Accepted upstream) :
    Echoes (world.conversation upstream) := by
  obtain ⟨phase, running | ⟨side, task, completion, late, member, isLate, stopped⟩⟩ :=
    conversation_cases reachable accepted
  · rw [running, ← List.append_nil (phase.transcript _)]
    exact echoes_append phase fun _ => rfl
  · rw [stopped]
    refine echoes_append phase fun side' => ?_
    rw [Snapshot.done, writes_completed, writes_append, writes_stopLines, writes_late _ isLate]
    rfl

theorem transparent {world : Socks5StreamManager} (reachable : Reachable world)
    {upstream : ServerStream} (accepted : world.Accepted upstream) :
    Transparent (world.conversation upstream) := by
  have posts := posts_of_reachable (World.snapshot_reachable reachable accepted)
  obtain ⟨toRemote, mode, code, toPeer⟩ := echoes reachable accepted
  exact ⟨(posts.sent_prefix .client).trans toRemote,
    mode, code, (posts.sent_prefix .server).trans toPeer⟩

/-- A direction that reads has put everything on the wire. -/
theorem sent_of_reading {transfer : Relay Socks5State.dataTransferMode} {source : Side}
    (idle : transfer.lanes source = .reading) :
    sent source.opposite ((Phase.relay exchange transfer).transcript tls) =
      writes source.opposite ((Phase.relay exchange transfer).transcript tls) := by
  apply Snapshot.sent_eq_writes
  rw [run_transcript, Phase.lanes, Side.opposite_opposite, idle]

end Socks5

/-- Both wires of every session of a SOCKS5 server are transparent, in every state of every run. A
    session that transfers data and waits for one end has passed on everything from there. -/
theorem socks5_transparent [Platform] {world : Socks5StreamManager} (reachable : Reachable world) :
    (∀ upstream, world.Accepted upstream → Socks5.Transparent (world.conversation upstream)) ∧
    ∀ key pair, world.sessions key = some pair → pair.session.state = .dataTransferMode →
      let history := world.conversation pair.server
      (.read ∈ (world.streams (pair.stream .server)).pending →
        sent .client history = (arrivals .server history).drop 2) ∧
      (.read ∈ (world.streams (pair.stream .client)).pending →
        (sent .server history).drop 2 = arrivals .client history) := by
  refine ⟨fun upstream accepted => Socks5.transparent reachable accepted, ?_⟩
  intro key pair present relaying
  obtain ⟨exchange, transfer, -, performs, history⟩ :=
    Socks5.relay_of_present reachable present relaying
  have reading (source : Side)
      (pending : .read ∈ (world.streams (pair.stream source)).pending) :
      transfer.lanes source = .reading := by
    rw [streams_of_present reachable present] at pending
    exact Relay.reading_of_pending performs pending
  dsimp only
  rw [history]
  constructor
  · intro pending
    have whole := @Socks5.sent_of_reading _ pair.server.tls exchange transfer .server
      (reading .server pending)
    have none : writes .client (Socks5.Transcript.established pair.server.tls exchange) = [] := by
      cases pair.server.tls <;> rfl
    have relayed := transfer.writes_opposite .server
    rw [Side.opposite] at whole relayed
    rw [whole, Socks5.Phase.transcript, writes_append, none, relayed, arrivals_append,
      Socks5.arrivals_established, arrivals_relay]
    rfl
  · intro pending
    have whole := @Socks5.sent_of_reading _ pair.server.tls exchange transfer .client
      (reading .client pending)
    rw [Side.opposite] at whole
    rw [whole, Socks5.writes_transcript, Socks5.Phase.transcript, arrivals_append,
      Socks5.arrivals_established, arrivals_relay]
    rfl

section

attribute [local instance] Socks5.Sample.platform

/-- In the run of `Socks5.Sample.relaying`, the peer has its two replies and the remote nothing. -/
theorem socks5_transparent_sample :
    Socks5.Transparent
        ((World.play Socks5.Sample.relaying).conversation Socks5.Sample.peer) ∧
      sent .server ((World.play Socks5.Sample.relaying : Socks5StreamManager).conversation
          Socks5.Sample.peer) =
        [[5, 0], [5, 0, 0, 1, 127, 0, 0, 1, 0, 80]] ∧
      arrivals .server ((World.play Socks5.Sample.relaying : Socks5StreamManager).conversation
          Socks5.Sample.peer) =
        [[5, 1, 0], Socks5.Sample.request, [1, 2, 3]] :=
  ⟨(socks5_transparent (World.reachable_play Socks5.Sample.relaying)).1 _ (by decide), by decide,
    by decide⟩

end

end AmgiNetTools
