/-
Module: AmgiNetTools.Socks5.Negotiation
Layer: Socks5
Purpose: What the method negotiation of SOCKS5 is worth. A refused greeting is answered with
  "not supported", but the session reads on, so a request that follows is served. The negotiation
  binds the sessions of a run exactly when no such request follows.
Main exports: Socks5.Binding, Socks5.RefusalKept, socks5_negotiation_binds
-/
import AmgiNetTools.Session.Advance
import AmgiNetTools.Socks5.Order

namespace AmgiNetTools

namespace Socks5

/-! ### The law -/

/-- The negotiation of a session binds it: after a refused greeting it does not connect, and when it
    connects, its method reply was that no authentication is needed. -/
structure Binding (history : History Socks5State) : Prop where
  refused (greeting : IoBuffer) : chunksRead .authRequest .server history = [greeting] →
    Refused greeting → connectLine ∉ history
  connected : connectLine ∈ history →
    (writes .server history).head? = some [version, Auth.noAuth]

/-- The negotiation binds every session. -/
def NegotiationBinds (world : Socks5StreamManager) : Prop :=
  ∀ upstream, world.Accepted upstream → Binding (world.conversation upstream)

/-- The condition on a turn: a message that is read after the reply "not supported" is not one that
    both parsers of requests accept. -/
def RefusalKept [Platform] (world : Socks5StreamManager) : IoEvent → Prop
  | .complete (.server stream) .read completion => completion.ec.isError = false →
      ∀ pair, world.sessions stream.id = some pair → pair.session.state = .connectionRequest →
        pair.session.context.response = [version, Auth.notSupported] →
        target completion.buffer = none
  | _ => True

instance [Platform] (world : Socks5StreamManager) : DecidablePred (RefusalKept world)
  | .complete (.server stream) .read _ =>
      inferInstanceAs (Decidable (_ → ∀ pair ∈ world.sessions stream.id, _ → _ → _ = none))
  | .accept _ | .complete (.client _) _ _ | .complete (.server _) .handshake _
  | .complete (.server _) (.write _) _ | .complete (.server _) (.resolve _ _) _
  | .complete (.server _) .connect _ | .complete (.server _) .shutdown _
  | .complete (.server _) .nullWrite _ => isTrue trivial

/-! ### Who connects -/

variable [Platform]

/-- Only the request of a client makes a session connect. -/
theorem connects_only {session : Session Socks5State} {event : SessionEvent}
    (connects : (.client, .start) ∈ (reaction session event).calls) :
    session.state = .connectionRequest ∧
      ∃ buffer, event = .serverRead buffer ∧ target buffer ≠ none := by
  unfold reaction at connects
  dsimp only at connects
  split at connects
  case h_4 buffer state =>
    refine ⟨state, buffer, rfl, fun none => ?_⟩
    simp [none, Reaction.calls, Reaction.stop, stopCalls] at connects
  all_goals simp [Reaction.calls, Reaction.stop, Reaction.stay, stopCalls,
    Request.calls] at connects

theorem connects {session : Session Socks5State} {buffer : Received}
    (state : session.state = .connectionRequest) (accepted : target buffer ≠ none) :
    (.client, .start) ∈ (reaction session (.serverRead buffer)).calls := by
  obtain ⟨address, decoded⟩ := Option.ne_none_iff_exists'.mp accepted
  unfold reaction
  simp [state, decoded, Reaction.calls, Request.calls]

omit [Platform] in
/-- A completion that is reported as a read of the server stream. -/
theorem upshot_serverRead {side : Side} {op : AsyncOp} {completion : Completion} {buffer : Received}
    (raised : (side.upshot op completion).event = some (.serverRead buffer)) :
    side = .server ∧ op = .read ∧ completion.ec.isError = false ∧ completion.buffer = buffer := by
  unfold Side.upshot at raised
  split at raised <;> try split at raised
  all_goals simp_all [Upshot.report, Upshot.proceed]

/-- The session is about to connect: it reads a request that both parsers accept. -/
structure Connects (snapshot : Snapshot Socks5State) (side : Side) (op : AsyncOp)
    (completion : Completion) : Prop where
  server : side = .server
  read : op = .read
  succeeded : completion.ec.isError = false
  session : ∃ session, snapshot.session = some session ∧ session.state = .connectionRequest
  accepted : target completion.buffer ≠ none

variable {snapshot next : Snapshot Socks5State} {tls : Bool} {side : Side} {op : AsyncOp}
  {completion : Completion}

omit [Platform] in
theorem raised_serverRead (succeeded : completion.ec.isError = false) :
    (Side.server.upshot .read completion).event = some (.serverRead completion.buffer) := by
  simp [Side.upshot, succeeded, Upshot.report]

/-- A completion adds the call that starts a connect when it is the read of a request. -/
theorem connectLine_complete (finished : snapshot.complete tls side op completion = .ok next) :
    connectLine ∈ next.history ↔
      connectLine ∈ snapshot.history ∨ Connects snapshot side op completion := by
  obtain ⟨idle, history⟩ | ⟨event, session, outcome, raised, present, computed, history⟩ :=
    Snapshot.complete_cases finished
  · have quiet : ¬ Connects snapshot side op completion := by
      rintro ⟨rfl, rfl, succeeded, ⟨session, present, -⟩, -⟩
      rw [raised_serverRead succeeded, present] at idle
      simp at idle
    simp [history, quiet, connectLine, Snapshot.completed]
  · have calls : outcome = reaction session event := by
      cases computed
      rfl
    have added : connectLine ∈ next.history ↔
        connectLine ∈ snapshot.history ∨ (.client, .start) ∈ (reaction session event).calls := by
      rw [history, ← calls]
      simp [connectLine, Snapshot.completed]
    rw [added]
    refine or_congr_right ⟨fun called => ?_, fun connecting => ?_⟩
    · obtain ⟨state, buffer, rfl, accepted⟩ := connects_only called
      obtain ⟨server, read, succeeded, rfl⟩ := upshot_serverRead raised
      exact ⟨server, read, succeeded, ⟨session, present, state⟩, accepted⟩
    · obtain ⟨rfl, rfl, succeeded, ⟨session', present', state⟩, accepted⟩ := connecting
      cases present.symm.trans present'
      cases raised.symm.trans (raised_serverRead succeeded)
      exact connects state accepted

/-! ### What the histories show -/

/-- A session that has started its connect got a request before. -/
theorem requested_of_connect (phase : Phase) (started : connectLine ∈ phase.transcript tls) :
    ∃ exchange, Transcript.requested tls exchange <+: phase.transcript tls := by
  have absent {history : History Socks5State} (zero : history.count connectLine = 0) :
      connectLine ∉ history := List.count_eq_zero.mp zero
  cases phase with
  | handshake => simp [Phase.transcript, connectLine] at started
  | greeting => cases tls <;> simp [Phase.transcript, Transcript.opening, connectLine] at started
  | methodReply greeting => exact absurd started (absent count_greeted)
  | request greeting => exact absurd started (absent count_negotiated)
  | resolving exchange => exact ⟨exchange, List.prefix_refl _⟩
  | connecting exchange => exact ⟨exchange, requested_prefix_resolved⟩
  | refusal exchange resolved ec failed =>
      cases resolved with
      | true => exact ⟨exchange, requested_prefix_resolved.trans (List.prefix_append _ _)⟩
      | false => exact ⟨exchange, List.prefix_append _ _⟩
  | success exchange => exact ⟨exchange, requested_prefix_connected⟩
  | relay exchange transfer => exact ⟨exchange, requested_prefix_relay⟩

theorem conversation_of_connect {world : Socks5StreamManager} {upstream : ServerStream}
    (reachable : Reachable world) (accepted : world.Accepted upstream)
    (started : connectLine ∈ world.conversation upstream) :
    ∃ exchange rest,
      world.conversation upstream = Transcript.requested upstream.tls exchange ++ rest := by
  obtain ⟨phase, running | ⟨side, task, completion, late, member, isLate, stopped⟩⟩ :=
    conversation_cases reachable accepted
  · rw [running] at started ⊢
    obtain ⟨exchange, rest, transcript⟩ := requested_of_connect phase started
    exact ⟨exchange, rest, transcript.symm⟩
  · rw [stopped, List.mem_append] at started
    rcases started with early | late'
    · obtain ⟨exchange, rest, transcript⟩ := requested_of_connect phase early
      exact ⟨exchange, _, by rw [stopped, ← transcript, List.append_assoc]⟩
    · exact absurd rfl (quiet_ending isLate _ late').connect

theorem head_requested {exchange : Exchange} {rest : History Socks5State} :
    (writes .server (Transcript.requested tls exchange ++ rest)).head? =
      some [version, authMode exchange.greeting] := by
  simp [writes_append, writes_requested, methodReply]

/-- A session that has started its connect is bound if its greeting was accepted. -/
theorem binding_requested {exchange : Exchange} {rest : History Socks5State} :
    Binding (Transcript.requested tls exchange ++ rest) ↔
      authMode exchange.greeting = Auth.noAuth := by
  have started : connectLine ∈ Transcript.requested tls exchange ++ rest := by
    refine List.mem_append_left _ (List.count_pos_iff.mp ?_)
    rw [count_requested]
    exact Nat.one_pos
  have reply := @head_requested _ tls exchange rest
  constructor
  · intro binding
    have connected := binding.connected started
    rw [reply] at connected
    simpa using connected
  · intro accepted
    refine ⟨fun greeting read refused => ?_, fun _ => by rw [reply, accepted]⟩
    have greetings : chunksRead .authRequest .server (Transcript.requested tls exchange) =
        [exchange.greeting.bytes] := by
      cases tls <;> rfl
    rw [Relay.chunksRead_append, greetings, List.singleton_append, List.cons.injEq] at read
    exact absurd (read.1 ▸ refused) (not_refused_of_authMode accepted)

omit [Platform] in
theorem Binding.of_not_mem {history : History Socks5State} (idle : connectLine ∉ history) :
    Binding history :=
  ⟨fun _ _ _ => idle, fun started => absurd started idle⟩

/-! ### Runs -/

variable {world world' : Socks5StreamManager} {event : IoEvent}

/-- A session that waits for a request still holds its method reply, which is all it has written. -/
theorem reply_of_request {key : Int32} {pair : SessionPair Socks5State}
    (reachable : Reachable world)
    (present : world.sessions key = some pair) (state : pair.session.state = .connectionRequest) :
    ∃ greeting, pair.session.context.response = methodReply greeting ∧
      writes .server (world.conversation pair.server) = [methodReply greeting] := by
  obtain ⟨phase, -, session, -, history⟩ := live_of_present reachable present
  rw [session] at state ⊢
  rw [history, writes_transcript]
  cases phase with
  | methodReply greeting | request greeting => exact ⟨greeting, rfl, rfl⟩
  | _ => cases state

theorem head_of_grows {upstream : ServerStream} {reply : IoBuffer} (reachable : Reachable world)
    (done : event.perform.run world = .ok ((), world'))
    (first : writes .server (world.conversation upstream) = [reply]) :
    (writes .server (world'.conversation upstream)).head? = some reply := by
  obtain ⟨lines, grown⟩ := World.conversation_grows (μ := Socks5State) reachable done
  rw [← grown, writes_append, first]
  rfl

/-- What binds the sessions after a turn has bound them before. -/
theorem negotiationBinds_before (reachable : Reachable world)
    (done : event.perform.run world = .ok ((), world')) (binds : NegotiationBinds world') :
    NegotiationBinds world := by
  intro upstream accepted
  by_cases started : connectLine ∈ world.conversation upstream
  · obtain ⟨exchange, rest, history⟩ := conversation_of_connect reachable accepted started
    obtain ⟨lines, grown⟩ := World.conversation_grows (μ := Socks5State) reachable done
    have binding := binds upstream (World.accepted_grows reachable done accepted)
    rw [← grown, history, List.append_assoc, binding_requested] at binding
    rw [history]
    exact binding_requested.mpr binding
  · exact .of_not_mem started

/-- A request that is accepted after a refused greeting makes its session connect. -/
theorem refusalKept_of_binds (reachable : Reachable world) (enabled : event.Enabled world)
    (done : event.perform.run world = .ok ((), world')) (binds : NegotiationBinds world') :
    RefusalKept world event := by
  unfold RefusalKept
  split
  · next stream completion =>
      intro succeeded pair present state response
      by_contra accepted
      obtain ⟨side, same⟩ := World.endpoint_of_pending reachable
        (show world.sessions (Stream.server stream).id = some pair from present) enabled.1
      have mine : stream = pair.server := by
        cases side <;> cases same
        rfl
      subst mine
      obtain ⟨known, -, session, -⟩ := World.entry_of_reachable reachable present
      have known' := World.accepted_grows reachable done known
      have connecting : Connects (world.snapshot pair.server) .server .read completion :=
        ⟨rfl, rfl, succeeded, ⟨pair.session, session, state⟩, accepted⟩
      cases World.advance_of_accepted reachable enabled done known' with
      | begins other => cases other
      | idles _ _ elsewhere => exact elsewhere .server .read completion rfl
      | completes side op completion' same _ _ finished =>
          cases side <;> cases same
          have started := (connectLine_complete finished).mpr (.inr connecting)
          have noAuth := (binds pair.server known').connected started
          obtain ⟨greeting, held, first⟩ := reply_of_request reachable present state
          rw [head_of_grows reachable done first, ← held, response] at noAuth
          exact absurd noAuth (by decide)
  · trivial

/-- A turn under the condition keeps every session bound. -/
theorem negotiationBinds_step (reachable : Reachable world) (enabled : event.Enabled world)
    (done : event.perform.run world = .ok ((), world')) (binds : NegotiationBinds world)
    (kept : RefusalKept world event) : NegotiationBinds world' := by
  intro upstream accepted
  cases World.advance_of_accepted reachable enabled done accepted with
  | begins same fresh =>
      refine .of_not_mem ?_
      have history : world'.conversation upstream = [(.server, .called .start)] :=
        congrArg Snapshot.history fresh
      simp [history, connectLine]
  | idles known same =>
      have history : world'.conversation upstream = world.conversation upstream :=
        congrArg Snapshot.history same
      exact history ▸ binds upstream known
  | completes side op completion same known pending finished =>
      by_cases started : connectLine ∈ world'.conversation upstream
      · rcases (connectLine_complete finished).mp started with earlier | connecting
        · obtain ⟨exchange, rest, history⟩ := conversation_of_connect reachable known earlier
          obtain ⟨lines, grown⟩ := World.conversation_grows (μ := Socks5State) reachable done
          have binding := binds upstream known
          rw [show world.conversation upstream = _ from history, binding_requested] at binding
          rw [← grown, show world.conversation upstream = _ from history, List.append_assoc]
          exact binding_requested.mpr binding
        · obtain ⟨rfl, rfl, succeeded, ⟨session, alive, state⟩, wanted⟩ := connecting
          obtain ⟨pair, present, rfl⟩ := Option.map_eq_some_iff.mp alive
          have mine := World.server_of_present reachable known present
          obtain ⟨greeting, held, first⟩ := reply_of_request reachable present state
          obtain ⟨exchange, rest, history⟩ :=
            conversation_of_connect (reachable.step ⟨event, enabled, done⟩) accepted started
          have reply := head_of_grows reachable done first
          rw [mine, history, head_requested, methodReply] at reply
          rw [history, binding_requested]
          rcases authMode_cases greeting with noAuth | notSupported
          · rw [noAuth] at reply
            simpa using reply
          · rw [methodReply, notSupported] at held
            rw [same] at kept
            exact absurd (kept succeeded pair present state held) wanted
      · exact .of_not_mem started

theorem negotiationBinds_iff (reachable : Reachable world) :
    NegotiationBinds world ↔ ReachableWhile RefusalKept world := by
  constructor
  · intro binds
    induction reachable with
    | start => exact .start
    | step earlier stepped ih =>
        obtain ⟨event, enabled, done⟩ := stepped
        have within := ih (negotiationBinds_before earlier done binds)
        exact within.step enabled (refusalKept_of_binds earlier enabled done binds) done
  · intro within
    induction within with
    | start =>
        intro upstream accepted
        cases accepted
    | step earlier enabled kept done ih =>
        exact negotiationBinds_step earlier.reachable enabled done (ih earlier.reachable) kept

end Socks5

/-- In a run of a SOCKS5 server, the negotiation has bound every session if and only if no session
    got a request that both parsers accept after it had refused the greeting. -/
theorem socks5_negotiation_binds [Platform] {world : Socks5StreamManager}
    (reachable : Reachable world) :
    Socks5.NegotiationBinds world ↔ ReachableWhile Socks5.RefusalKept world :=
  Socks5.negotiationBinds_iff reachable

/-! ### A run in which it does not bind -/

namespace Socks5.Sample

/-- The peer offers a password only, is refused, and asks to connect all the same. -/
def ignoringRefusal : List IoEvent :=
  [.accept peer,
    .complete (.server peer) .read (.succeeded [5, 1, 2]),
    .complete (.server peer) (.write 2) (.succeeded []),
    .complete (.server peer) .read (.succeeded request)]

end Socks5.Sample

section

attribute [local instance] Socks5.Sample.platform

/-- In the run of `Socks5.Sample.relaying` the negotiation binds. -/
theorem socks5_negotiation_binds_sample :
    Socks5.NegotiationBinds (World.play Socks5.Sample.relaying) :=
  (socks5_negotiation_binds (World.reachable_play Socks5.Sample.relaying)).mpr
    (World.reachableWhile_play (by decide))

/-- The session of `Socks5.Sample.ignoringRefusal` connects after the reply "not supported". -/
theorem socks5_refusal_ignored :
    Reachable (World.play Socks5.Sample.ignoringRefusal : Socks5StreamManager) ∧
      Socks5.Refused [5, 1, 2] ∧
      writes .server ((World.play Socks5.Sample.ignoringRefusal : Socks5StreamManager).conversation
        Socks5.Sample.peer) = [[Socks5.version, Socks5.Auth.notSupported]] ∧
      ¬ Socks5.NegotiationBinds (World.play Socks5.Sample.ignoringRefusal) := by
  refine ⟨World.reachable_play _, by decide, by decide, fun binds => ?_⟩
  have noAuth := (binds Socks5.Sample.peer (by decide)).connected (by decide)
  exact absurd noAuth (by decide)

end

end AmgiNetTools
