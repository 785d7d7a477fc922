/-
Module: AmgiNetTools.Socks5.Exact
Layer: Socks5
Purpose: The phases of a SOCKS5 session are exactly what the code does. Every session in the map of
  a server is in one of them; and each of them, with every exchange and every transfer it can carry,
  is where some run of a server leads. So the transcripts of the phases are the conversations of the
  sessions that run, no more and no fewer.
Main exports: Socks5.Possible, Socks5.entered_of_possible, socks5_conversations_exact
-/
import AmgiNetTools.Session.Realize
import AmgiNetTools.Socks5.Conversation

namespace AmgiNetTools

namespace Socks5

variable [Platform] {tls : Bool} {id : Int32} {exchange : Exchange}

/-- A phase some session comes to. Only a TLS stream has a handshake, and every read brings what a
    read can bring. -/
structure Possible (tls : Bool) (phase : Phase) : Prop where
  secure : phase = .handshake → tls = true
  fits : ReadsFit (phase.transcript tls)

/-! ### Every possible phase is entered -/

theorem entered_handshake : script.Entered true id .handshake := by
  refine ⟨_, .start, rfl, ⟨rfl, ?_⟩, rfl⟩
  intro side bytes member
  simp [script, Phase.tasks] at member

theorem entered_greeting : script.Entered tls id .greeting := by
  cases tls with
  | true =>
      exact entered_handshake.proceed .handshake .read (.succeeded []) rfl (by rintro ⟨⟩) rfl
        (by simp) rfl rfl rfl rfl
  | false =>
      refine ⟨_, .start, rfl, ⟨rfl, ?_⟩, rfl⟩
      intro side bytes member
      simp [script, Phase.tasks] at member

theorem entered_methodReply {greeting : Received}
    (fits : ReadsFit (Transcript.greeted tls greeting)) :
    script.Entered tls id (.methodReply greeting) := by
  have brought : Completion.Fits .read { ec := .success, buffer := greeting } := fun _ _ =>
    (readsFit_append.mp fits).2 .server _ (by simp [arrivals, arrival])
  exact entered_greeting.goOn _ .read _ rfl brought rfl rfl
    (Snapshot.fit_single _) rfl (by simp [script, Phase.transcript, Transcript.greeted,
      Snapshot.done, Task.op, Task.moved, Phase.state, Request.calls, methodReply])

theorem entered_request {greeting : Received}
    (fits : ReadsFit (Transcript.negotiated tls greeting)) :
    script.Entered tls id (.request greeting) :=
  (entered_methodReply (readsFit_append.mp fits).1).goOn _ (.write (methodReply greeting))
    (.succeeded []) rfl (by rintro ⟨⟩) rfl rfl
    (Snapshot.fit_single _) rfl (by simp [script, Phase.transcript, Transcript.negotiated,
      Snapshot.done, Task.op, Task.moved, Phase.state, Request.calls, methodReply,
      Completion.succeeded])

theorem entered_resolving (fits : ReadsFit (Transcript.requested tls exchange)) :
    script.Entered tls id (.resolving exchange) := by
  have brought : Completion.Fits .read { ec := .success, buffer := exchange.message } := fun _ _ =>
    (readsFit_append.mp fits).2 .server _ (by simp [arrivals, arrival])
  exact (entered_request (readsFit_append.mp fits).1).goOn
    [.connect exchange.host exchange.service] .read _ rfl brought rfl
    (by simp [script, ReactiveState.reaction, reaction, Phase.state, Phase.context,
      exchange.decoded])
    (Snapshot.fit_single _) rfl (by simp [script, Phase.transcript, Transcript.requested,
      Snapshot.done, Task.op, Task.moved, Phase.state, Request.calls])

theorem entered_connecting (fits : ReadsFit (Transcript.resolved tls exchange)) :
    script.Entered tls id (.connecting exchange) :=
  (entered_resolving (readsFit_append.mp fits).1).proceed
    (.resolve exchange.host exchange.service) .connect
    (.succeeded []) rfl (by rintro ⟨⟩) rfl (by simp) rfl rfl rfl (by simp [script, Phase.transcript,
      Transcript.resolved, Snapshot.done, Task.op, Task.moved, Phase.state, Completion.succeeded])

/-- A resolve or a connect may fail, with every error. -/
theorem entered_refusal {resolved : Bool} {ec : ErrorCode} (failed : ec.isError = true)
    (fits : ReadsFit (Transcript.refused tls exchange resolved ec)) :
    script.Entered tls id (.refusal exchange resolved ec failed) := by
  have raised (op : AsyncOp)
      (awaits : op = .connect ∨ op = .resolve exchange.host exchange.service) :
      Side.client.upshot op { ec := ec, buffer := ⟨[], fun _ => 0⟩ } =
        .report (.clientError ec) := by
    rcases awaits with rfl | rfl <;> simp [Side.upshot, failed]
  cases resolved with
  | true =>
      exact (entered_connecting (readsFit_append.mp fits).1).goOn
        [.writeServer (exchange.reply (getResponseErrorCode ec))] .connect
        { ec := ec, buffer := ⟨[], fun _ => 0⟩ } rfl (by rintro ⟨⟩) (raised _ (.inl rfl)) rfl
        (Snapshot.fit_single _) rfl (by simp [script, Phase.transcript, Transcript.refused,
          Snapshot.done, Task.op, Task.moved, failed, Phase.state, Request.calls])
  | false =>
      exact (entered_resolving (readsFit_append.mp fits).1).goOn
        [.writeServer (exchange.reply (getResponseErrorCode ec))]
        (.resolve exchange.host exchange.service) { ec := ec, buffer := ⟨[], fun _ => 0⟩ } rfl
        (by rintro ⟨⟩) (raised _ (.inr rfl)) rfl
        (Snapshot.fit_single _) rfl (by simp [script, Phase.transcript, Transcript.refused,
          Snapshot.done, Task.op, Task.moved, failed, Phase.state, Request.calls])

theorem entered_success (fits : ReadsFit (Transcript.connected tls exchange)) :
    script.Entered tls id (.success exchange) :=
  (entered_connecting (readsFit_append.mp fits).1).goOn
    [.writeServer (exchange.reply Responses.succeeded)] .connect (.succeeded []) rfl
    (by rintro ⟨⟩) rfl rfl (Snapshot.fit_single _) rfl (by simp [script, Phase.transcript,
      Transcript.connected, Snapshot.done, Task.op, Task.moved, Phase.state, Request.calls,
      Completion.succeeded])

/-- Both reads of the transfer are started when the reply is out. -/
theorem entered_start (fits : ReadsFit (Transcript.established tls exchange)) :
    script.Entered tls id (.relay exchange (.start _)) := by
  have context : (Phase.relay exchange (.start _)).context id =
      (Phase.success exchange).context id := Relay.context_start rfl rfl
  refine (entered_success (readsFit_append.mp fits).1).goOn [.readServer, .readClient]
    (.write (exchange.reply Responses.succeeded)) (.succeeded []) rfl (by rintro ⟨⟩) rfl ?_
    Relay.fit_start Relay.tasks_start ?_
  · rw [show script.context id (.relay exchange (.start _)) = _ from context]
    rfl
  · simp [script, Phase.transcript, Transcript.established, Relay.start, Snapshot.done, Task.op,
      Task.moved, Phase.state, Request.calls, Completion.succeeded]

theorem entered_relay {transfer : Relay Socks5State.dataTransferMode}
    (fits : ReadsFit (Transcript.established tls exchange ++ transfer.trace)) :
    script.Entered tls id (.relay exchange transfer) := by
  obtain ⟨early, late⟩ := readsFit_append.mp fits
  obtain ⟨snapshot, reachable, within⟩ := @entered_start _ tls id exchange early
  have begun : (Relay.start Socks5State.dataTransferMode).Entered tls id
      (Phase.answered id exchange Responses.succeeded) (Transcript.established tls exchange) :=
    ⟨snapshot, reachable, within.session, within.performs, within.history⟩
  obtain ⟨snapshot', reachable', session, performs, history⟩ :=
    Relay.entered_of_readsFit relays begun late
  exact ⟨snapshot', reachable', session, performs, history⟩

theorem entered_of_possible {phase : Phase} (possible : Possible tls phase) :
    script.Entered tls id phase := by
  have fits := possible.fits
  cases phase with
  | handshake =>
      obtain rfl := possible.secure rfl
      exact entered_handshake
  | greeting => exact entered_greeting
  | methodReply greeting => exact entered_methodReply fits
  | request greeting => exact entered_request fits
  | resolving exchange => exact entered_resolving fits
  | connecting exchange => exact entered_connecting fits
  | refusal exchange resolved ec failed => exact entered_refusal failed fits
  | success exchange => exact entered_success fits
  | relay exchange transfer => exact entered_relay fits

/-! ### Every phase of a session is possible -/

theorem possible_of_reachable {snapshot : Snapshot Socks5State}
    (reachable : Snapshot.Reachable tls id snapshot) (alive : snapshot.session ≠ none) :
    ∃ phase, Possible tls phase ∧ script.InPhase tls id phase snapshot := by
  have fits := readsFit_of_reachable reachable
  have conversed := Snapshot.conversed_of_reachable (live_accepted tls id)
    (fun _ _ _ _ _ live pending finished => onward live pending finished) reachable
  cases conversed with
  | live holds =>
      obtain ⟨phase, within, secure⟩ := holds
      refine ⟨phase, ⟨secure, ?_⟩, within⟩
      rw [show phase.transcript tls = _ from within.history.symm]
      exact fits
  | ended gone => exact absurd gone.gone alive

end Socks5

/-- The sessions in the maps of SOCKS5 servers, with what they hold and all that has happened to
    them, are exactly the possible phases. -/
theorem socks5_conversations_exact [Platform] (upstream : ServerStream)
    (session : Session Socks5State) (history : History Socks5State) :
    (∃ world : Socks5StreamManager, Reachable world ∧
      world.sessions upstream.id = some (upstream.pair session) ∧
      world.conversation upstream = history) ↔
    ∃ phase : Socks5.Phase, Socks5.Possible upstream.tls phase ∧
      session = ⟨phase.context upstream.id, phase.state⟩ ∧
      history = phase.transcript upstream.tls := by
  constructor
  · rintro ⟨world, reachable, present, rfl⟩
    obtain ⟨accepted, -, alive, -⟩ := World.entry_of_reachable reachable present
    obtain ⟨phase, possible, within⟩ := Socks5.possible_of_reachable
      (World.snapshot_reachable reachable accepted) (by simp [alive])
    exact ⟨phase, possible, Option.some.inj (alive.symm.trans within.session), within.history⟩
  · rintro ⟨phase, possible, rfl, rfl⟩
    obtain ⟨snapshot, alone, within⟩ :=
      @Socks5.entered_of_possible _ upstream.tls upstream.id phase possible
    exact World.present_of_snapshot alone within.session within.history

end AmgiNetTools
