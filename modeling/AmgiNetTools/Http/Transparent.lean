/-
Module: AmgiNetTools.Http.Transparent
Layer: Http
Purpose: A CONNECT session seen from its two wires. What it has put on the wire to the remote is a
  beginning of what its peer sent after the request; what it has put on the wire to the peer is a
  beginning of the answer 200 and then what the remote sent, or of the answer 500. This holds in
  every state of every session whose request is CONNECT, also of one that was stopped while writes
  were under way. A session that sends its request on uses a buffer twice and is left out.
Main exports: Http.Tunnels, Http.posts_of_reachable, Http.Echoes, Http.Transparent,
  http_tunnel_transparent
-/
import AmgiNetTools.Session.Advance
import AmgiNetTools.Session.Wire
import AmgiNetTools.Http.Order

namespace AmgiNetTools

namespace Http

/-- The law of the two wires. -/
structure Transparent (history : History HttpState) : Prop where
  toRemote : sent .client history <+: (arrivals .server history).drop 1
  toPeer : sent .server history <+: kHttpDone :: arrivals .client history ∨
    sent .server history <+: [kHttpError500]

/-- The same of what the two streams are handed, whether it goes out or not. -/
structure Echoes (history : History HttpState) : Prop where
  toRemote : writes .client history <+: (arrivals .server history).drop 1
  toPeer : writes .server history <+: kHttpDone :: arrivals .client history ∨
    writes .server history <+: [kHttpError500]

/-- A session whose request is CONNECT, or has not come yet. -/
def Tunnels (history : History HttpState) : Prop :=
  ∀ message ∈ requests history, (getHeaders message).method = .kConnect

instance : DecidablePred Tunnels := fun _ => inferInstanceAs (Decidable (∀ _ ∈ _, _))

variable {tls : Bool} {id : Int32} {snapshot next : Snapshot HttpState} {side : Side}
  {op : AsyncOp} {completion : Completion} {exchange : Exchange}

theorem Tunnels.of_append {first second : History HttpState} (tunnels : Tunnels (first ++ second)) :
    Tunnels first := by
  intro message asked
  refine tunnels message ?_
  rw [requests_append]
  exact List.mem_append_left _ asked

/-! ### What each stream is writing -/

/-- The chunk each stream is writing in a phase. -/
def Phase.lanes : Phase → Side → Lane IoBuffer
  | .answering _ _, .server => .writing kHttpDone
  | .forwarding exchange _, .client => .writing exchange.message
  | .tunnel _ _ transfer, side => transfer.lanes side.opposite
  | _, _ => .reading

theorem lanes_of_write {phase : Phase} {chunk : IoBuffer}
    (member : (side, .write chunk) ∈ phase.tasks) : phase.lanes side = .writing chunk := by
  cases phase with
  | answering | forwarding =>
      cases Multiset.mem_singleton.mp member
      rfl
  | tunnel exchange tunnels transfer => exact Relay.lane_of_write member
  | _ => cases Multiset.mem_singleton.mp member

theorem wire_connected : wireEvents side (Transcript.connected tls exchange) = [] := by
  cases tls <;> rfl

/-- What has happened by a phase fits what its streams are writing. -/
theorem run_transcript (phase : Phase) (side : Side) :
    Lane.run (wireEvents side (phase.transcript tls)) = some (phase.lanes side) := by
  cases phase with
  | handshake | request | resolving | connecting => cases tls <;> cases side <;> rfl
  | answering exchange tunnels | forwarding exchange forwards =>
      rw [Phase.transcript, wireEvents_append, wire_connected]
      cases side <;> rfl
  | tunnel exchange tunnels transfer =>
      have before : Lane.run (wireEvents side (Transcript.established tls exchange)) =
          some .reading := by
        rw [Transcript.established, wireEvents_append, wire_connected]
        cases side with
        | server => simp [Lane.run, Lane.step]
        | client => rfl
      have relayed := wire_relay transfer side.opposite
      rw [Side.opposite_opposite] at relayed
      rw [Phase.transcript, wireEvents_append, Lane.run_append before, relayed, Phase.lanes]

/-! ### Every CONNECT session puts its chunks on the wire one at a time -/

/-- No buffer of a session is used twice, in any phase. -/
theorem exclusive_of_performs {phase : Phase} (performs : snapshot.Performs phase.tasks) :
    snapshot.Exclusive := by
  cases phase with
  | tunnel exchange tunnels transfer => exact Relay.exclusive performs
  | _ => exact performs.exclusive_of_card (by simp [Phase.tasks])

/-- No write has failed in a session that is in a phase. -/
theorem not_failedWrite_transcript (phase : Phase) (side : Side) (size : Nat) :
    ¬ FailedWrite side size (phase.transcript tls) := by
  cases phase with
  | tunnel exchange connect transfer =>
      cases tls <;> simp [Phase.transcript, Transcript.established, Transcript.connected,
        Transcript.resolved, Transcript.requested, Transcript.opening, transfer.not_failedWrite]
  | _ =>
      cases tls <;> simp [Phase.transcript, Transcript.connected, Transcript.resolved,
        Transcript.requested, Transcript.opening]

theorem posts_of_phase {phase : Phase} (within : script.InPhase tls id phase snapshot) :
    snapshot.Posts := by
  refine Snapshot.posts_of_performs within.performs (exclusive_of_performs within.performs)
    phase.lanes (fun side => ?_) (fun side size => ?_) fun side chunk => lanes_of_write
  · rw [within.history]
    exact run_transcript phase side
  · rw [within.history]
    exact not_failedWrite_transcript phase side size

/-- A session that tunnels is in a phase. -/
theorem phase_of_live (live : Live tls id snapshot) (tunnels : Tunnels snapshot.history) :
    ∃ phase, script.InPhase tls id phase snapshot := by
  rcases live with ⟨phase, within, -⟩ | crossed
  · exact ⟨phase, within⟩
  · obtain ⟨exchange, forwards, count, trace, crossing, session, history⟩ := crossed
    refine absurd (tunnels exchange.message ?_) forwards
    rw [history, requests_append, requests_forwarded]
    exact List.mem_append_left _ (List.mem_singleton_self _)

/-- The answer 500 is the first thing that goes to the peer. -/
theorem posts_answered {phase : Phase} (within : script.InPhase tls id phase snapshot)
    (pending : op ∈ (snapshot.streams side).pending) (waits : phase.state = .waitRequest) :
    ((snapshot.retire side op completion).invoke tls (.server, .write kHttpError500)).Posts := by
  have retired := (posts_of_phase within).retire completion pending
  obtain ⟨task, lone, reads⟩ : ∃ task, script.tasks phase = {(.server, task)} ∧
      ∀ size, task.op ≠ .write size := by
    cases phase with
    | handshake => exact ⟨.handshake, rfl, by simp [Task.op]⟩
    | request => exact ⟨.read, rfl, by simp [Task.op]⟩
    | _ => cases waits
  obtain ⟨rfl, rfl⟩ := (lone ▸ within.performs).only pending
  refine retired.write tls ?_ ?_
  · rw [(within.alone lone).history_retire completion, wireEvents_append, Snapshot.done,
      wireEvents_completed reads, within.history, wireEvents_nil, List.append_nil]
    cases phase with
    | handshake => exact @run_transcript tls .handshake .server
    | request => exact @run_transcript tls .request .server
    | _ => cases waits
  · intro size late
    obtain ⟨task', rest, split, -⟩ :=
      ((within.alone lone).retire completion).exists_task late
    exact absurd split (Multiset.zero_ne_cons)

/-- What a completion adds to the history comes at its end. -/
theorem tunnels_before (finished : snapshot.complete tls side op completion = .ok next)
    (tunnels : Tunnels next.history) : Tunnels snapshot.history := by
  obtain ⟨-, grown⟩ | ⟨event, session, outcome, -, -, -, grown⟩ := Snapshot.complete_cases finished
  · rw [grown] at tunnels
    exact tunnels.of_append
  · rw [grown] at tunnels
    exact tunnels.of_append

/-- The completion that stops a session, perhaps with the answer 500. -/
theorem posts_of_stop {phase : Phase} (within : script.InPhase tls id phase snapshot)
    (pending : op ∈ (snapshot.streams side).pending)
    (finished : snapshot.complete tls side op completion = .ok next) (gone : next.session = none) :
    next.Posts := by
  have posts := posts_of_phase within
  refine posts.complete_served pending finished ?_
  rintro event session ⟨requests, after⟩ present - computed same
  cases within.session.symm.trans present
  rw [gone] at same
  cases same
  rcases reaction_stops computed with ⟨rfl, -⟩ | ⟨rfl, waits, -⟩
  · exact posts.retire completion pending
  · exact posts_answered within pending waits

theorem posts_of_reachable (reachable : Snapshot.Reachable tls id snapshot)
    (tunnels : Tunnels snapshot.history) : snapshot.Posts := by
  induction reachable with
  | start =>
      obtain ⟨phase, within⟩ := phase_of_live (live_accepted tls id) tunnels
      exact posts_of_phase within
  | @step snapshot next side op completion earlier pending _ finished ih =>
      have before := tunnels_before finished tunnels
      have conversed := Snapshot.conversed_of_reachable (live_accepted tls id)
        (fun _ _ _ _ _ live pending finished => onward live pending finished) earlier
      cases conversed with
      | live holds =>
          obtain ⟨phase, within⟩ := phase_of_live holds before
          obtain live | ⟨ended, -⟩ := onward holds pending finished
          · obtain ⟨phase', within'⟩ := phase_of_live live tunnels
            exact posts_of_phase within'
          · exact posts_of_stop within pending finished ended.gone
      | ended gone => exact Snapshot.posts_late gone pending finished (ih before)

/-! ### What is written is what has arrived -/

theorem arrivals_connected (side : Side) : arrivals side (Transcript.connected tls exchange) =
    if side = .server then [exchange.message] else [] := by
  cases side <;> cases tls <;> rfl

theorem arrivals_established (side : Side) : arrivals side (Transcript.established tls exchange) =
    if side = .server then [exchange.message] else [] := by
  rw [Transcript.established, arrivals_append, arrivals_connected]
  cases side <;> rfl

theorem writes_established (side : Side) : writes side (Transcript.established tls exchange) =
    if side = .server then [kHttpDone] else [] := by
  rw [Transcript.established, writes_append, writes_connected]
  cases side <;> rfl

/-- What a stream of a tunnel is written is what has arrived at the other end, and the answer. -/
theorem writes_through (connect : exchange.method = .kConnect)
    (transfer : Relay HttpState.dataTransferMode) (source : Side) :
    let history := (Phase.tunnel exchange connect transfer).transcript tls
    writes source.opposite history =
      if source = .server then (arrivals .server history).drop 1
      else kHttpDone :: arrivals .client history := by
  dsimp only
  rw [Phase.transcript, writes_append, writes_established, transfer.writes_opposite,
    arrivals_append, arrivals_append, arrivals_established, arrivals_established, arrivals_relay,
    arrivals_relay]
  cases source <;> rfl

/-- What the streams of a CONNECT session are written in a phase. -/
theorem writes_transparent {phase : Phase} (tunnels : Tunnels (phase.transcript tls)) :
    writes .client (phase.transcript tls) <+: (arrivals .server (phase.transcript tls)).drop 1 ∧
      writes .server (phase.transcript tls) <+:
        kHttpDone :: arrivals .client (phase.transcript tls) := by
  cases phase with
  | handshake | request | resolving | connecting =>
      cases tls <;> exact ⟨List.nil_prefix, List.nil_prefix⟩
  | answering exchange connect =>
      rw [Phase.transcript, writes_append, writes_append, writes_connected, writes_connected]
      exact ⟨List.nil_prefix, by simp⟩
  | forwarding exchange forwards =>
      refine absurd (tunnels exchange.message ?_) forwards
      rw [requests_transcript]
      exact List.mem_singleton_self _
  | tunnel exchange connect transfer =>
      have toRemote := @writes_through tls exchange connect transfer .server
      have toPeer := @writes_through tls exchange connect transfer .client
      exact ⟨toRemote ▸ List.prefix_refl _, toPeer ▸ List.prefix_refl _⟩

/-- What the streams are handed, whatever came after a phase, if nothing was written then. -/
theorem echoes_append {phase : Phase} {rest : History HttpState}
    (tunnels : Tunnels (phase.transcript tls ++ rest)) (silent : ∀ side, writes side rest = []) :
    Echoes (phase.transcript tls ++ rest) := by
  obtain ⟨toRemote, toPeer⟩ := writes_transparent tunnels.of_append
  have longer (side : Side) : arrivals side (phase.transcript tls) <+:
      arrivals side (phase.transcript tls ++ rest) := by
    rw [arrivals_append]
    exact List.prefix_append _ _
  constructor
  · rw [writes_append, silent, List.append_nil]
    exact toRemote.trans ((longer .server).drop 1)
  · rw [writes_append, silent, List.append_nil]
    exact .inl (toPeer.trans ((List.prefix_cons_inj _).mpr (longer .client)))

/-- The wires of a session whose request was rejected. -/
theorem echoes_rejected {message : IoBuffer} {late : History HttpState}
    (isLate : ∀ line ∈ late, IsLate line) : Echoes (Transcript.rejected tls message late) := by
  have opening (side : Side) : writes side (Transcript.opening tls) = [] := by cases tls <;> rfl
  constructor
  · simp [Transcript.rejected, writes_append, opening, writes_late _ isLate]
  · right
    simp [Transcript.rejected, writes_append, opening, writes_late _ isLate]

/-- Each CONNECT session hands its streams what has arrived at the other end, and its answer. -/
theorem echoes {world : HttpStreamManager} (reachable : Reachable world)
    {upstream : ServerStream} (accepted : world.Accepted upstream)
    (tunnels : Tunnels (world.conversation upstream)) : Echoes (world.conversation upstream) := by
  cases conversed reachable accepted with
  | live holds =>
      obtain ⟨phase, within⟩ := phase_of_live holds tunnels
      have history : world.conversation upstream = phase.transcript upstream.tls ++ [] := by
        rw [List.append_nil]
        exact within.history
      rw [history] at tunnels ⊢
      exact echoes_append tunnels fun _ => rfl
  | ended gone last stopped late grown isLate =>
      have history : world.conversation upstream = last.history ++ late := grown
      rcases stopped with ⟨phase, calls, stopped⟩ | stopped
      · obtain ⟨side, task, completion, side', ec, raised, whole⟩ | ⟨message, rejected, whole⟩ :=
          stoppedIn_cases stopped late
        · rw [history, whole] at tunnels ⊢
          refine echoes_append tunnels fun side' => ?_
          rw [Snapshot.done, writes_completed, writes_append, writes_stopLines,
            writes_late _ isLate]
          rfl
        · rw [history, whole]
          exact echoes_rejected isLate
      · obtain ⟨exchange, forwards, trace, ops, crossing, side, op, ec, failed, whole⟩ := stopped
        refine absurd (tunnels exchange.message ?_) forwards
        rw [history, whole, requests_append, requests_append, requests_append, requests_forwarded]
        simp

theorem transparent {world : HttpStreamManager} (reachable : Reachable world)
    {upstream : ServerStream} (accepted : world.Accepted upstream)
    (tunnels : Tunnels (world.conversation upstream)) :
    Transparent (world.conversation upstream) := by
  have posts := posts_of_reachable (World.snapshot_reachable reachable accepted) tunnels
  obtain ⟨toRemote, toPeer⟩ := echoes reachable accepted tunnels
  refine ⟨(posts.sent_prefix .client).trans toRemote, ?_⟩
  rcases toPeer with done | refused
  · exact .inl ((posts.sent_prefix .server).trans done)
  · exact .inr ((posts.sent_prefix .server).trans refused)

/-- A direction that reads has put everything on the wire. -/
theorem sent_of_reading {connect : exchange.method = .kConnect}
    {transfer : Relay HttpState.dataTransferMode} {source : Side}
    (idle : transfer.lanes source = .reading) :
    sent source.opposite ((Phase.tunnel exchange connect transfer).transcript tls) =
      writes source.opposite ((Phase.tunnel exchange connect transfer).transcript tls) := by
  apply Snapshot.sent_eq_writes
  rw [run_transcript, Phase.lanes, Side.opposite_opposite, idle]

end Http

/-- Both wires of every CONNECT session of an HTTP server are transparent, in every state of every
    run. A session that transfers data and waits for one end has passed on everything from there. -/
theorem http_tunnel_transparent {world : HttpStreamManager} (reachable : Reachable world) :
    (∀ upstream, world.Accepted upstream → Http.Tunnels (world.conversation upstream) →
      Http.Transparent (world.conversation upstream)) ∧
    ∀ key pair, world.sessions key = some pair → pair.session.state = .dataTransferMode →
      Http.Tunnels (world.conversation pair.server) →
      let history := world.conversation pair.server
      (.read ∈ (world.streams (pair.stream .server)).pending →
        sent .client history = (arrivals .server history).drop 1) ∧
      (.read ∈ (world.streams (pair.stream .client)).pending →
        sent .server history = Http.kHttpDone :: arrivals .client history) := by
  refine ⟨fun upstream accepted tunnels => Http.transparent reachable accepted tunnels, ?_⟩
  intro key pair present relaying tunnels
  obtain ⟨-, -, session, -⟩ := World.entry_of_reachable reachable present
  obtain ⟨phase, -, within⟩ := Http.phase_of_tunnel reachable present tunnels
  have state : pair.session.state = phase.state :=
    congrArg Session.state (Option.some.inj (session.symm.trans within.session))
  have history : world.conversation pair.server = phase.transcript pair.server.tls := within.history
  rw [state] at relaying
  cases phase with
  | tunnel exchange connect transfer =>
      have passed (source : Side)
          (pending : .read ∈ (world.streams (pair.stream source)).pending) :
          sent source.opposite (world.conversation pair.server) =
            if source = .server then (arrivals .server (world.conversation pair.server)).drop 1
            else Http.kHttpDone :: arrivals .client (world.conversation pair.server) := by
        rw [streams_of_present reachable present] at pending
        rw [history, Http.sent_of_reading (Relay.reading_of_pending within.performs pending)]
        exact Http.writes_through connect transfer source
      exact ⟨passed .server, passed .client⟩
  | _ => cases relaying

/-- In the run of `Http.Sample.tunnelling`, the peer has its answer and the remote nothing. -/
theorem http_tunnel_transparent_sample :
    Http.Transparent ((World.play Http.Sample.tunnelling).conversation Http.Sample.peer) ∧
      sent .server ((World.play Http.Sample.tunnelling : HttpStreamManager).conversation
        Http.Sample.peer) = [Http.kHttpDone] ∧
      arrivals .server ((World.play Http.Sample.tunnelling : HttpStreamManager).conversation
        Http.Sample.peer) = [Http.Sample.tunnelRequest, [1, 2, 3]] :=
  ⟨(http_tunnel_transparent (World.reachable_play Http.Sample.tunnelling)).1 _ (by decide)
    (by decide), by decide, by decide⟩

end AmgiNetTools
