/-
Module: AmgiNetTools.Socks5.Discipline
Layer: Socks5
Purpose: Two laws of a SOCKS5 session that hold in every phase: which operations are outstanding,
  and that the relay loses, doubles and reorders nothing.
Main exports: Socks5.Discipline, socks5_operation_discipline, socks5_relay_integrity
-/
import AmgiNetTools.Library.Runs
import AmgiNetTools.Session.Transfer
import AmgiNetTools.Socks5.Conversation

namespace AmgiNetTools

namespace Socks5

/-- What is outstanding in each state of a session. -/
def Discipline (tls : Bool) (outstanding : Multiset (Side × AsyncOp)) : Socks5State → Prop
  | .authRequest =>
      outstanding = {(.server, .read)} ∨ (tls = true ∧ outstanding = {(.server, .handshake)})
  | .connectionRequest =>
      outstanding = {(.server, .write 2)} ∨ outstanding = {(.server, .read)}
  | .connectionEstablished =>
      (∃ host service, outstanding = {(.client, .resolve host service)}) ∨
        outstanding = {(.client, .connect)} ∨ ∃ size, outstanding = {(.server, .write size)}
  | .readyToTransferData => ∃ size, outstanding = {(.server, .write size)}
  | .dataTransferMode => TwoWay outstanding

section

variable [Platform] {tls : Bool}

omit [Platform] in
theorem Discipline.ne_zero {outstanding : Multiset (Side × AsyncOp)} {state : Socks5State}
    (discipline : Discipline tls outstanding state) : outstanding ≠ 0 := by
  cases state with
  | authRequest => rcases discipline with rfl | ⟨-, rfl⟩ <;> simp
  | connectionRequest => rcases discipline with rfl | rfl <;> simp
  | connectionEstablished => rcases discipline with ⟨_, _, rfl⟩ | rfl | ⟨_, rfl⟩ <;> simp
  | readyToTransferData => obtain ⟨_, rfl⟩ := discipline; simp
  | dataTransferMode => exact TwoWay.ne_zero discipline

/-- The tasks of a phase are what its state prescribes. -/
theorem discipline_tasks (phase : Phase) (secure : phase = .handshake → tls = true) :
    Discipline tls (phase.tasks.map fun task => (task.1, task.2.op)) phase.state := by
  cases phase with
  | handshake => exact .inr ⟨secure rfl, rfl⟩
  | greeting => exact .inl rfl
  | methodReply => exact .inl rfl
  | request => exact .inr rfl
  | resolving => exact .inl ⟨_, _, rfl⟩
  | connecting => exact .inr (.inl rfl)
  | refusal => exact .inr (.inr ⟨_, rfl⟩)
  | success => exact ⟨_, rfl⟩
  | relay exchange transfer => exact twoWay_tasks transfer

/-- No buffer of a session is used twice, in any phase. -/
theorem exclusive_of_performs {phase : Phase} {snapshot : Snapshot Socks5State}
    (performs : snapshot.Performs phase.tasks) : snapshot.Exclusive := by
  cases phase with
  | relay exchange transfer => exact Relay.exclusive performs
  | _ => exact performs.exclusive_of_card (by simp [Phase.tasks])

/-- No buffer of any stream is used twice, nor was it before the session was stopped. -/
theorem exclusive_of_reachable {world : Socks5StreamManager} (reachable : Reachable world)
    (stream : Stream) : (world.streams stream).Exclusive := by
  have free {state : StreamState} (idle : state.pending = 0) : state.Exclusive := by
    simp [StreamState.Exclusive, idle]
  cases World.located_of_reachable reachable stream.id with
  | unused _ idle => exact free (by rw [idle stream rfl]; rfl)
  | used upstream mine known entry alone idle =>
      cases found : upstream.sideOf stream with
      | none => exact free (idle stream rfl found)
      | some side =>
          rw [upstream.sideOf_eq_some side] at found
          subst found
          have exclusive : (world.snapshot upstream).Exclusive := by
            cases conversed reachable known with
            | live holds =>
                obtain ⟨phase, within, -⟩ := holds
                exact exclusive_of_performs within.performs
            | ended _ last stopped _ _ _ kept =>
                obtain ⟨phase, stopped⟩ := stopped
                exact kept stopped.exclusive
          exact exclusive side

end

end Socks5

/-- In every run of a SOCKS5 server, each session in the map waits for exactly what its state
    prescribes, so it always waits for something; and no buffer of any stream is handed to asio
    twice at the same time. -/
theorem socks5_operation_discipline [Platform] {world : Socks5StreamManager}
    (reachable : Reachable world) :
    (∀ key pair, world.sessions key = some pair →
      Socks5.Discipline pair.server.tls (world.outstanding pair) pair.session.state ∧
      world.outstanding pair ≠ 0) ∧
    ∀ stream : Stream, (world.streams stream).Exclusive := by
  refine ⟨fun key pair present => ?_, Socks5.exclusive_of_reachable reachable⟩
  obtain ⟨phase, secure, session, performs, -⟩ := Socks5.live_of_present reachable present
  have discipline := Socks5.discipline_tasks phase secure
  rw [← performs.outstanding, ← outstanding_of_present reachable present] at discipline
  rw [session]
  exact ⟨discipline, discipline.ne_zero⟩

/-! ### A run

A peer on a plain TCP connection asks for 127.0.0.1, port 80, and its session gets as far as the
data transfer. -/

namespace Socks5.Sample

/-- `inet_ntop` for IPv4, in dotted decimal; other addresses are not needed here. -/
@[reducible] def platform : Platform where
  inetNtop
    | .inet, bytes =>
        .ok ((ascii ".").intercalate (bytes.map fun byte =>
          (Nat.toDigits 10 byte.toNat).map fun digit => UInt8.ofNat digit.toNat))
    | .inet6, _ => .error ⟨97⟩

attribute [local instance] platform

def peer : ServerStream := { tls := false, conn := 0, id := 7 }

def request : IoBuffer := [5, 1, 0, 1, 127, 0, 0, 1, 0, 80]

/-- The run until the connect reply is being written. -/
def connecting : List IoEvent :=
  [.accept peer,
    .complete (.server peer) .read (.succeeded [5, 1, 0]),
    .complete (.server peer) (.write 2) (.succeeded []),
    .complete (.server peer) .read (.succeeded request),
    .complete (.client peer.downstream) (.resolve (ascii "127.0.0.1") (ascii "80")) (.succeeded []),
    .complete (.client peer.downstream) .connect (.succeeded [])]

/-- The reply is out, and the peer sends three bytes. -/
def relaying : List IoEvent :=
  connecting ++
    [.complete (.server peer) (.write 10) (.succeeded []),
      .complete (.server peer) .read (.succeeded [1, 2, 3])]

end Socks5.Sample

section

attribute [local instance] Socks5.Sample.platform

/-- In the run above, the session waits for a read of the remote and the write of a chunk to it. -/
theorem socks5_operation_discipline_sample :
    ∃ pair, (World.play Socks5.Sample.relaying : Socks5StreamManager).sessions 7 = some pair ∧
      Socks5.Discipline false
        ((World.play Socks5.Sample.relaying : Socks5StreamManager).outstanding pair)
        .dataTransferMode := by
  refine ⟨_, rfl, ?_⟩
  exact ((socks5_operation_discipline
    (World.reachable_play Socks5.Sample.relaying)).1 7 _ rfl).1

end

/-! ### The relay -/

namespace Socks5

/-- A read of `source` that fails in data transfer mode finds everything delivered. -/
def DrainedAtError (source : Side) (history : History Socks5State) : Prop :=
  Always (fun past line => ∀ ec bytes,
    line = (source, .completed .read ec bytes (some .dataTransferMode)) → ec.isError = true →
    chunksRead .dataTransferMode source past = chunksDelivered .dataTransferMode source past)
      history

variable [Platform] {tls : Bool}

/-- Nothing is relayed before the transfer. -/
theorem laneEvents_established (source : Side) (exchange : Exchange) :
    laneEvents .dataTransferMode source (Transcript.established tls exchange) = [] := by
  cases tls <;>
    simp [laneEvents, laneEvent, Transcript.established, Transcript.connected, Transcript.resolved,
      Transcript.requested, Transcript.negotiated, Transcript.greeted, Transcript.opening]

theorem chunksRead_relay (source : Side) (exchange : Exchange)
    (transfer : Relay Socks5State.dataTransferMode) :
    chunksRead .dataTransferMode source ((Phase.relay exchange transfer).transcript tls) =
      chunksRead .dataTransferMode source transfer.trace := by
  rw [chunksRead, Phase.transcript, Relay.laneEvents_append, laneEvents_established,
    List.nil_append, chunksRead]

theorem chunksDelivered_relay (source : Side) (exchange : Exchange)
    (transfer : Relay Socks5State.dataTransferMode) :
    chunksDelivered .dataTransferMode source ((Phase.relay exchange transfer).transcript tls) =
      chunksDelivered .dataTransferMode source transfer.trace := by
  rw [chunksDelivered, Phase.transcript, Relay.laneEvents_append, laneEvents_established,
    List.nil_append, chunksDelivered]

/-- The reads before the transfer have all succeeded. -/
theorem reads_succeed_established {exchange : Exchange} {side : Side} {ec : ErrorCode}
    {bytes : IoBuffer} {found : Option Socks5State}
    (member : (side, .completed .read ec bytes found) ∈ Transcript.established tls exchange) :
    ec = .success := by
  cases tls <;> simp [Transcript.established, Transcript.connected, Transcript.resolved,
    Transcript.requested, Transcript.negotiated, Transcript.greeted, Transcript.opening] at member
  all_goals rcases member with member | member <;> exact member.2.1

theorem reads_succeed_refused {exchange : Exchange} {resolved : Bool} {ec' : ErrorCode}
    {side : Side}
    {ec : ErrorCode} {bytes : IoBuffer} {found : Option Socks5State}
    (member : (side, .completed .read ec bytes found) ∈
      Transcript.refused tls exchange resolved ec') : ec = .success := by
  cases tls <;> cases resolved <;> simp [Transcript.refused, Transcript.resolved,
    Transcript.requested, Transcript.negotiated, Transcript.greeted, Transcript.opening] at member
  all_goals rcases member with member | member <;> exact member.2.1

/-- The reads of a session that runs have all succeeded. -/
theorem reads_succeed (phase : Phase) {side : Side} {ec : ErrorCode} {bytes : IoBuffer}
    {found : Option Socks5State}
    (member : (side, .completed .read ec bytes found) ∈ phase.transcript tls) : ec = .success := by
  cases phase with
  | relay exchange transfer =>
      rcases List.mem_append.mp member with early | late
      · exact reads_succeed_established early
      · exact transfer.reads_succeed late
  | refusal exchange resolved ec' failed => exact reads_succeed_refused member
  | handshake => simp [Phase.transcript] at member
  | greeting => cases tls <;> simp [Phase.transcript, Transcript.opening] at member
  | methodReply | request =>
      cases tls <;> simp [Phase.transcript, Transcript.negotiated, Transcript.greeted,
        Transcript.opening] at member
      all_goals exact member.2.1
  | resolving exchange | connecting exchange | success exchange =>
      have early : (side, .completed .read ec bytes found) ∈
          Transcript.established tls exchange := by
        simpa [Phase.transcript, Transcript.established, Transcript.connected,
          Transcript.resolved] using member
      exact reads_succeed_established early

theorem drained_transcript (phase : Phase) (source : Side) :
    DrainedAtError source (phase.transcript tls) := by
  refine Always.of_forall fun past line member ec bytes same failed => ?_
  subst same
  rw [reads_succeed phase member] at failed
  cases failed

/-- Whatever completion stopped a session, a read of `source` found everything delivered. -/
theorem drained_stopped {phase : Phase} {source side : Side} {task : Task} {completion : Completion}
    (member : (side, task) ∈ phase.tasks) {ec : ErrorCode} {bytes : IoBuffer}
    (same : Snapshot.done side task completion (some phase.state) =
      (source, .completed .read ec bytes (some .dataTransferMode))) :
    chunksRead .dataTransferMode source (phase.transcript tls) =
      chunksDelivered .dataTransferMode source (phase.transcript tls) := by
  simp only [Snapshot.done, Prod.mk.injEq, Happening.completed.injEq, Option.some.injEq] at same
  obtain ⟨rfl, op, -, -, state⟩ := same
  cases phase with
  | relay exchange transfer =>
      have reads : (side, Task.read) ∈ transfer.tasks := by
        cases task with
        | read => exact member
        | _ => cases op
      rw [chunksRead_relay, chunksDelivered_relay, transfer.conservation,
        Relay.inFlight_eq_nil reads, List.append_nil]
  | _ => cases state

theorem drained_conversed {world : Socks5StreamManager} {upstream : ServerStream}
    (reachable : Reachable world) (accepted : world.Accepted upstream) (source : Side) :
    DrainedAtError source (world.conversation upstream) := by
  obtain ⟨phase, running | ⟨side, task, completion, late, member, isLate, stopped⟩⟩ :=
    conversation_cases reachable accepted
  · rw [running]
    exact drained_transcript phase source
  · rw [stopped, DrainedAtError, Always.append_iff, Always.cons_iff, Always.append_iff]
    refine ⟨drained_transcript phase source, fun ec bytes same _ => ?_, ?_, ?_⟩
    · simpa using drained_stopped member same
    · simp [stopLines]
    · refine Always.of_forall fun past line member ec bytes same => ?_
      obtain ⟨_, _, _, _, rfl⟩ := isLate line member
      cases same

/-- A session in data transfer mode relays. -/
theorem relay_of_present {world : Socks5StreamManager} (reachable : Reachable world) {key : Int32}
    {pair : SessionPair Socks5State} (present : world.sessions key = some pair)
    (relaying : pair.session.state = .dataTransferMode) :
    ∃ (exchange : Exchange) (transfer : Relay Socks5State.dataTransferMode),
      pair.session.context =
        transfer.context (Phase.answered pair.server.id exchange Responses.succeeded) ∧
      (world.snapshot pair.server).Performs transfer.tasks ∧
      world.conversation pair.server =
        (Phase.relay exchange transfer).transcript pair.server.tls := by
  obtain ⟨phase, -, session, performs, history⟩ := live_of_present reachable present
  rw [session] at relaying ⊢
  cases phase with
  | relay exchange transfer => exact ⟨exchange, transfer, rfl, performs, history⟩
  | _ => cases relaying

end Socks5

/-- The relay of a SOCKS5 server is intact. While a session is in data transfer mode, the chunks
    read from either end are those written to the other and then at most one that is being written,
    and none while the next is being read; the two counters count the bytes read. And whenever a
    read fails in that mode, everything read before it has been delivered. -/
theorem socks5_relay_integrity [Platform] {world : Socks5StreamManager}
    (reachable : Reachable world) :
    (∀ key pair, world.sessions key = some pair → pair.session.state = .dataTransferMode →
      (∀ source, Intact .dataTransferMode pair source world) ∧
      pair.session.context.transferredBytesToRemote = UInt64.ofNat
        (chunksRead .dataTransferMode .server (world.conversation pair.server)).flatten.length ∧
      pair.session.context.transferredBytesToLocal = UInt64.ofNat
        (chunksRead .dataTransferMode .client (world.conversation pair.server)).flatten.length) ∧
    ∀ upstream, world.Accepted upstream → ∀ source,
      Socks5.DrainedAtError source (world.conversation upstream) := by
  refine ⟨fun key pair present relaying => ?_, fun upstream => Socks5.drained_conversed reachable⟩
  obtain ⟨exchange, transfer, context, performs, history⟩ :=
    Socks5.relay_of_present reachable present relaying
  refine ⟨fun source => ?_, ?_⟩
  · exact intact_of_relay reachable present performs history
      (Socks5.laneEvents_established source exchange)
  · rw [context, history, Socks5.chunksRead_relay, Socks5.chunksRead_relay]
    exact ⟨rfl, rfl⟩

section

attribute [local instance] Socks5.Sample.platform

/-- In the run of `Socks5.Sample.relaying`, three bytes are on their way to the remote. -/
theorem socks5_relay_integrity_sample :
    ∃ pair, (World.play Socks5.Sample.relaying : Socks5StreamManager).sessions 7 = some pair ∧
      Intact .dataTransferMode pair .server (World.play Socks5.Sample.relaying) ∧
      pair.session.context.transferredBytesToRemote = UInt64.ofNat
        (chunksRead .dataTransferMode .server
          ((World.play Socks5.Sample.relaying : Socks5StreamManager).conversation
            pair.server)).flatten.length := by
  have integrity := (socks5_relay_integrity
    (World.reachable_play Socks5.Sample.relaying)).1 7 _ rfl rfl
  exact ⟨_, rfl, integrity.1 .server, integrity.2.1⟩

end

end AmgiNetTools
