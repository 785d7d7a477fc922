/-
Module: AmgiNetTools.Socks5.Order
Layer: Socks5
Purpose: The order of a SOCKS5 conversation, as the streams of the session see it: one method reply,
  one connect, one connect reply that tells the outcome, and only then the remote's bytes; a refusal
  is the last thing before the stop.
Main exports: Socks5.Ordered, Socks5.ConversationOrder, socks5_conversation_order
-/
import AmgiNetTools.Socks5.Discipline
import AmgiNetTools.Socks5.Message

namespace AmgiNetTools

variable {μ : Type}

/-- Two writes that come after the same number of writes are the same. -/
theorem writes_split {side : Side} {past past' future future' : History μ}
    {buffer buffer' : IoBuffer}
    (same : past ++ (side, .called (.write buffer)) :: future =
      past' ++ (side, .called (.write buffer')) :: future')
    (count : (writes side past).length = (writes side past').length) :
    past = past' ∧ buffer = buffer' ∧ future = future' := by
  rcases List.append_eq_append_iff.mp same with ⟨middle, longer, rest⟩ | ⟨middle, longer, rest⟩
  all_goals
    cases middle with
    | nil =>
        cases rest
        exact ⟨by simp [longer], rfl, rfl⟩
    | cons line middle =>
        cases rest
        rw [longer, writes_append] at count
        simp at count

namespace Socks5

/-! ### The law -/

/-- `on_connect` was called. -/
def Connected (past : History Socks5State) : Prop :=
  (.client, .completed .connect .success [] (some .connectionEstablished)) ∈ past

/-- The resolve or the connect failed. -/
def ConnectFailed (past : History Socks5State) : Prop :=
  ∃ op ec, (op = .connect ∨ ∃ host service, op = .resolve host service) ∧ ec.isError = true ∧
    (.client, .completed op ec [] (some .connectionEstablished)) ∈ past

/-- What a line needs before it. -/
structure Ordered (past : History Socks5State) (line : Side × Happening Socks5State) : Prop where
  /-- The connect starts after the write of the method reply. -/
  connect : line = connectLine → ∃ mode,
    (.server, .called (.write [version, mode])) ∈ past ∧
    (.server, .completed (.write 2) .success [version, mode] (some .connectionRequest)) ∈ past
  /-- The second write to the peer comes after the outcome of the connect, and is the request with
      the code of that outcome in byte 1: 0 for success only. -/
  reply (reply : IoBuffer) : line = (.server, .called (.write reply)) →
    (writes .server past).length = 1 →
    ∃ request code, chunksRead .connectionRequest .server past = [request] ∧ 1 < request.length ∧
      reply = request.set 1 code ∧ (code = 0 ↔ Connected past) ∧ (code ≠ 0 ↔ ConnectFailed past)
  /-- The remote is read and written after the write of a reply with code 0. -/
  remote : (line = (.client, .called .read) ∨ ∃ chunk, line = (.client, .called (.write chunk))) →
    ∃ reply : IoBuffer, reply[1]? = some 0 ∧
      (.server, .completed (.write reply.length) .success reply (some .readyToTransferData)) ∈ past

/-- The order of a conversation. -/
structure ConversationOrder (history : History Socks5State) : Prop where
  /-- The peer is written a method reply, a connect reply, and what the remote sent. -/
  replies : ∃ mode reply, writes .server history <+:
    [version, mode] :: reply :: chunksRead .dataTransferMode .client history
  one_connect : history.count connectLine ≤ 1
  ordered : Always Ordered history
  /-- A connect reply with another code than 0 is the last thing before the stop, which comes with
    the completion of its write. -/
  refusal_ends (past future : History Socks5State) (reply : IoBuffer) :
    history = past ++ (.server, .called (.write reply)) :: future →
    (writes .server past).length = 1 → reply[1]? ≠ some 0 →
    future = [] ∨ ∃ ec bytes late,
      future = (.server, .completed (.write reply.length) ec bytes (some .connectionEstablished)) ::
        (stopLines ++ late) ∧ ∀ line ∈ late, IsLate line

/-! ### Lines without conditions -/

/-- A line that needs nothing before it. -/
structure Quiet (line : Side × Happening Socks5State) : Prop where
  connect : line ≠ connectLine
  reply (reply : IoBuffer) : line ≠ (.server, .called (.write reply))
  read : line ≠ (.client, .called .read)
  write (chunk : IoBuffer) : line ≠ (.client, .called (.write chunk))

theorem Quiet.ordered {past : History Socks5State} {line : Side × Happening Socks5State}
    (quiet : Quiet line) : Ordered past line where
  connect same := absurd same quiet.connect
  reply reply same := absurd same (quiet.reply reply)
  remote same := by
    rcases same with same | ⟨chunk, same⟩
    · exact absurd same quiet.read
    · exact absurd same (quiet.write chunk)

section

variable {side : Side} {op : AsyncOp} {ec : ErrorCode} {bytes : IoBuffer}
  {found : Option Socks5State} {past : History Socks5State}

@[simp] theorem ordered_completed : Ordered past (side, .completed op ec bytes found) :=
  Quiet.ordered ⟨by simp [connectLine], by simp, by simp, by simp⟩

@[simp] theorem ordered_stop : Ordered past (side, .called .stop) :=
  Quiet.ordered ⟨by simp [connectLine], by simp, by simp, by simp⟩

@[simp] theorem ordered_setHost {host : Text} : Ordered past (side, .called (.setHost host)) :=
  Quiet.ordered ⟨by simp [connectLine], by simp, by simp, by simp⟩

@[simp] theorem ordered_setService {service : Text} :
    Ordered past (side, .called (.setService service)) :=
  Quiet.ordered ⟨by simp [connectLine], by simp, by simp, by simp⟩

@[simp] theorem ordered_accepted : Ordered past (.server, .called .start) :=
  Quiet.ordered ⟨by simp [connectLine], by simp, by simp, by simp⟩

@[simp] theorem ordered_readServer : Ordered past (.server, .called .read) :=
  Quiet.ordered ⟨by simp [connectLine], by simp, by simp, by simp⟩

end

/-! ### The transcripts -/

variable {tls : Bool} {greeting : Received}

theorem writes_opening : writes .server (Transcript.opening tls) = [] := by
  cases tls <;> rfl

theorem writes_greeted : writes .server (Transcript.greeted tls greeting) =
    [methodReply greeting] := by
  simp [Transcript.greeted, writes_append, writes_opening]

theorem writes_negotiated :
    writes .server (Transcript.negotiated tls greeting) = [methodReply greeting] := by
  simp [Transcript.negotiated, writes_append, writes_greeted]

theorem ordered_opening : Always Ordered (Transcript.opening tls) := by
  cases tls <;> simp [Transcript.opening]

/-- The first write has no conditions. -/
theorem ordered_methodReply {past : History Socks5State} {reply : IoBuffer}
    (first : writes .server past = []) : Ordered past (.server, .called (.write reply)) where
  connect same := by simp [connectLine] at same
  reply _ _ one := by simp [first] at one
  remote same := by simp at same

theorem ordered_negotiated : Always Ordered (Transcript.negotiated tls greeting) := by
  simp only [Transcript.negotiated, Transcript.greeted, Always.append_iff, Always.cons_iff,
    Always.nil, ordered_completed, ordered_readServer, and_true, true_and]
  exact ⟨ordered_opening, ordered_methodReply (by simp [writes_append, writes_opening])⟩

theorem getResponseErrorCode_ne_zero (ec : ErrorCode) : getResponseErrorCode ec ≠ 0 := by
  unfold getResponseErrorCode
  dsimp only
  split
  · decide
  · split
    · decide
    · split
      · decide
      · split <;> decide

variable [Platform] {exchange : Exchange}

theorem requested_prefix_resolved :
    Transcript.requested tls exchange <+: Transcript.resolved tls exchange :=
  List.prefix_append _ _

theorem requested_prefix_connected :
    Transcript.requested tls exchange <+: Transcript.connected tls exchange :=
  requested_prefix_resolved.trans (List.prefix_append _ _)

theorem requested_prefix_relay {transfer : Relay Socks5State.dataTransferMode} :
    Transcript.requested tls exchange <+: (Phase.relay exchange transfer).transcript tls := by
  rw [Phase.transcript, Transcript.established, List.append_assoc]
  exact requested_prefix_connected.trans (List.prefix_append _ _)

theorem writes_requested :
    writes .server (Transcript.requested tls exchange) = [methodReply exchange.greeting] := by
  simp [Transcript.requested, writes_append, writes_negotiated]

theorem writes_resolved :
    writes .server (Transcript.resolved tls exchange) = [methodReply exchange.greeting] := by
  simp [Transcript.resolved, writes_append, writes_requested]

theorem writes_connected : writes .server (Transcript.connected tls exchange) =
    [methodReply exchange.greeting, exchange.reply Responses.succeeded] := by
  simp [Transcript.connected, writes_append, writes_resolved]

theorem writes_established : writes .server (Transcript.established tls exchange) =
    [methodReply exchange.greeting, exchange.reply Responses.succeeded] := by
  simp [Transcript.established, writes_append, writes_connected]

theorem ordered_requested : Always Ordered (Transcript.requested tls exchange) := by
  simp only [Transcript.requested, Always.append_iff, Always.cons_iff, Always.nil,
    ordered_completed, ordered_setHost, ordered_setService, and_true, true_and]
  refine ⟨ordered_negotiated, fun _ => ⟨authMode exchange.greeting, ?_, ?_⟩, ?_, ?_⟩
  · simp [Transcript.negotiated, Transcript.greeted, methodReply]
  · simp [Transcript.negotiated, methodReply]
  · simp
  · simp

theorem ordered_resolved : Always Ordered (Transcript.resolved tls exchange) := by
  simp only [Transcript.resolved, Always.append_iff, Always.cons_iff, Always.nil,
    ordered_completed, and_true]
  exact ordered_requested

/-! ### The connect reply -/

theorem one_lt_length (exchange : Exchange) : 1 < exchange.message.bytes.length :=
  (List.getElem?_eq_some_iff.mp (command_of_target exchange.decoded)).1

theorem reply_code (exchange : Exchange) (code : UInt8) :
    (exchange.reply code)[1]? = some code := by
  simp [Exchange.reply, one_lt_length exchange]

theorem requests_resolved : chunksRead .connectionRequest .server
    (Transcript.resolved tls exchange) =
    [exchange.message.bytes] := by
  cases tls <;> rfl

theorem not_connected_resolved : ¬ Connected (Transcript.resolved tls exchange) := by
  cases tls <;>
    simp [Connected, Transcript.resolved, Transcript.requested, Transcript.negotiated,
      Transcript.greeted, Transcript.opening]

theorem not_connectFailed_resolved : ¬ ConnectFailed (Transcript.resolved tls exchange) := by
  rintro ⟨op, ec, -, failed, member⟩
  cases tls <;>
    simp [Transcript.resolved, Transcript.requested, Transcript.negotiated, Transcript.greeted,
      Transcript.opening] at member <;>
    simp [member.2] at failed

theorem requests_requested : chunksRead .connectionRequest .server
    (Transcript.requested tls exchange) =
    [exchange.message.bytes] := by
  cases tls <;> rfl

theorem not_connected_requested : ¬ Connected (Transcript.requested tls exchange) := by
  intro connected
  exact not_connected_resolved (List.mem_append_left _ connected)

omit [Platform] in
theorem connected_append {first second : History Socks5State} :
    Connected (first ++ second) ↔ Connected first ∨ Connected second :=
  List.mem_append

omit [Platform] in
theorem connectFailed_append {first second : History Socks5State} :
    ConnectFailed (first ++ second) ↔ ConnectFailed first ∨ ConnectFailed second := by
  constructor
  · rintro ⟨op, ec, which, failed, member⟩
    rcases List.mem_append.mp member with member | member
    · exact .inl ⟨op, ec, which, failed, member⟩
    · exact .inr ⟨op, ec, which, failed, member⟩
  · rintro (⟨op, ec, which, failed, member⟩ | ⟨op, ec, which, failed, member⟩)
    · exact ⟨op, ec, which, failed, List.mem_append_left _ member⟩
    · exact ⟨op, ec, which, failed, List.mem_append_right _ member⟩

/-- The code of a reply tells the outcome: it is `code`, of an outcome that is a success or not. -/
theorem ordered_reply {past : History Socks5State} {code : UInt8}
    (requests : chunksRead .connectionRequest .server past = [exchange.message.bytes])
    (success : code = 0 ↔ Connected past) (failure : code ≠ 0 ↔ ConnectFailed past) :
    Ordered past (.server, .called (.write (exchange.reply code))) where
  connect same := by simp [connectLine] at same
  reply reply same _ := by
    simp only [Prod.mk.injEq, Happening.called.injEq, StreamCall.write.injEq, true_and] at same
    exact ⟨exchange.message.bytes, code, requests, one_lt_length exchange, same.symm, success,
      failure⟩
  remote same := by simp at same

theorem ordered_connected : Always Ordered (Transcript.connected tls exchange) := by
  simp only [Transcript.connected, Always.append_iff, Always.cons_iff, Always.nil,
    ordered_completed, and_true, true_and]
  refine ⟨ordered_resolved, ordered_reply ?_ ?_ ?_⟩
  · rw [Relay.chunksRead_append, requests_resolved]
    rfl
  · simp [Connected, Responses.succeeded]
  · rw [connectFailed_append]
    have succeeded : ¬ ConnectFailed
        [(.client, .completed .connect .success [] (some .connectionEstablished))] := by
      rintro ⟨op, ec, -, failed, member⟩
      simp at member
      simp [member.2] at failed
    simp [Responses.succeeded, succeeded, not_connectFailed_resolved]

theorem ordered_refused {resolved : Bool} {ec : ErrorCode} (failed : ec.isError = true) :
    Always Ordered (Transcript.refused tls exchange resolved ec) := by
  have code := getResponseErrorCode_ne_zero ec
  cases resolved with
  | true =>
      simp only [Transcript.refused, if_true, Always.append_iff, Always.cons_iff, Always.nil,
        ordered_completed, and_true, true_and]
      refine ⟨ordered_resolved, ordered_reply ?_ ?_ ?_⟩
      · rw [Relay.chunksRead_append, requests_resolved]
        rfl
      · have apart : ec ≠ .success := by
          rintro rfl
          cases failed
        simp only [code, false_iff, connected_append, not_or]
        exact ⟨not_connected_resolved, by simp [Connected, apart.symm]⟩
      · simp only [code, ne_eq, not_false_eq_true, true_iff]
        exact ⟨.connect, ec, .inl rfl, failed, by simp⟩
  | false =>
      simp only [Transcript.refused, Bool.false_eq_true, if_false, Always.append_iff,
        Always.cons_iff, Always.nil, ordered_completed, and_true, true_and]
      refine ⟨ordered_requested, ordered_reply ?_ ?_ ?_⟩
      · rw [Relay.chunksRead_append, requests_requested]
        rfl
      · simp only [code, false_iff, connected_append, not_or]
        exact ⟨not_connected_requested, by simp [Connected]⟩
      · simp only [code, ne_eq, not_false_eq_true, true_iff]
        exact ⟨_, ec, .inr ⟨exchange.host, exchange.service, rfl⟩, failed, by simp⟩

/-- The remote is read and written after the success reply is out. -/
theorem ordered_remote (exchange : Exchange) {past : History Socks5State}
    {line : Side × Happening Socks5State}
    (isRemote : line = (.client, .called .read) ∨ ∃ chunk, line = (.client, .called (.write chunk)))
    (out : (.server, .completed (.write (exchange.reply Responses.succeeded).length) .success
      (exchange.reply Responses.succeeded) (some .readyToTransferData)) ∈ past) :
    Ordered past line where
  connect same := by
    rcases isRemote with rfl | ⟨chunk, rfl⟩ <;> simp [connectLine] at same
  reply reply same := by
    rcases isRemote with rfl | ⟨chunk, rfl⟩ <;> simp at same
  remote _ := ⟨_, reply_code exchange Responses.succeeded, out⟩

theorem ordered_established : Always Ordered (Transcript.established tls exchange) := by
  simp only [Transcript.established, Always.append_iff, Always.cons_iff, Always.nil,
    ordered_completed, ordered_readServer, and_true, true_and]
  exact ⟨ordered_connected, ordered_remote exchange (.inl rfl) (by simp)⟩

theorem ordered_transfer (transfer : Relay Socks5State.dataTransferMode) :
    Always (fun past => Ordered (Transcript.established tls exchange ++ past)) transfer.trace := by
  have out (past : History Socks5State) :
      (.server, .completed (.write (exchange.reply Responses.succeeded).length) .success
        (exchange.reply Responses.succeeded) (some .readyToTransferData)) ∈
          Transcript.established tls exchange ++ past := by
    simp [Transcript.established]
  refine Always.of_forall fun past line member => ?_
  obtain ⟨side, op, bytes, rfl⟩ | ⟨side, rfl⟩ | ⟨side, chunk, rfl⟩ := transfer.line_cases member
  · exact ordered_completed
  · cases side with
    | server => exact ordered_readServer
    | client => exact ordered_remote exchange (.inl rfl) (out past)
  · cases side with
    | client => exact ordered_remote exchange (.inr ⟨chunk, rfl⟩) (out past)
    | server =>
        -- A write to the peer is at least the third here.
        refine ⟨by simp [connectLine], fun reply _ second => ?_, by simp⟩
        simp [writes_append, writes_established] at second

theorem ordered_transcript (phase : Phase) : Always Ordered (phase.transcript tls) := by
  cases phase with
  | handshake => simp [Phase.transcript]
  | greeting => exact ordered_opening
  | methodReply greeting =>
      have longer : Always Ordered (Transcript.negotiated tls greeting) := ordered_negotiated
      rw [Transcript.negotiated, Always.append_iff] at longer
      exact longer.1
  | request greeting => exact ordered_negotiated
  | resolving exchange => exact ordered_requested
  | connecting exchange => exact ordered_resolved
  | refusal exchange resolved ec failed => exact ordered_refused failed
  | success exchange => exact ordered_connected
  | relay exchange transfer =>
      rw [Phase.transcript, Always.append_iff]
      exact ⟨ordered_established, ordered_transfer transfer⟩

/-- The writes to the peer by each phase. -/
def Phase.replies : Phase → List IoBuffer
  | .handshake | .greeting => []
  | .methodReply greeting | .request greeting => [Socks5.methodReply greeting]
  | .resolving exchange | .connecting exchange => [Socks5.methodReply exchange.greeting]
  | .refusal exchange _ ec _ =>
      [Socks5.methodReply exchange.greeting, exchange.reply (getResponseErrorCode ec)]
  | .success exchange =>
      [Socks5.methodReply exchange.greeting, exchange.reply Responses.succeeded]
  | .relay exchange transfer =>
      Socks5.methodReply exchange.greeting :: exchange.reply Responses.succeeded ::
        chunksRead .dataTransferMode .client transfer.trace

theorem writes_transcript (phase : Phase) : writes .server
    (phase.transcript tls) = phase.replies := by
  cases phase with
  | handshake => rfl
  | greeting => exact writes_opening
  | methodReply greeting => exact writes_greeted
  | request greeting => exact writes_negotiated
  | resolving exchange => exact writes_requested
  | connecting exchange => exact writes_resolved
  | refusal exchange resolved ec failed =>
      cases resolved <;>
        simp [Phase.transcript, Transcript.refused, Phase.replies, writes_append, writes_resolved,
          writes_requested]
  | success exchange => exact writes_connected
  | relay exchange transfer =>
      have relayed := transfer.writes_opposite .client
      rw [Phase.transcript, writes_append, writes_established, Phase.replies, ← relayed]
      rfl

/-- The replies are in order by each phase. -/
theorem replies_prefix (tls : Bool) (phase : Phase) : ∃ mode reply, phase.replies <+:
    [version, mode] :: reply :: chunksRead .dataTransferMode .client (phase.transcript tls) := by
  cases phase with
  | handshake | greeting => exact ⟨0, [], List.nil_prefix⟩
  | methodReply greeting | request greeting =>
      exact ⟨authMode greeting, [], by simp [Phase.replies, Socks5.methodReply]⟩
  | resolving exchange | connecting exchange =>
      exact ⟨authMode exchange.greeting, [], by simp [Phase.replies, Socks5.methodReply]⟩
  | refusal exchange _ ec _ =>
      exact ⟨authMode exchange.greeting, exchange.reply (getResponseErrorCode ec),
        by simp [Phase.replies, Socks5.methodReply]⟩
  | success exchange =>
      exact ⟨authMode exchange.greeting, exchange.reply Responses.succeeded,
        by simp [Phase.replies, Socks5.methodReply]⟩
  | relay exchange transfer =>
      refine ⟨authMode exchange.greeting, exchange.reply Responses.succeeded, ?_⟩
      rw [chunksRead_relay]
      exact List.prefix_refl _

omit [Platform] in
theorem count_greeted : (Transcript.greeted tls greeting).count connectLine = 0 := by
  cases tls <;> simp [Transcript.greeted, Transcript.opening, connectLine]

omit [Platform] in
theorem count_negotiated : (Transcript.negotiated tls greeting).count connectLine = 0 := by
  rw [Transcript.negotiated, List.count_append, count_greeted]
  simp [connectLine]

theorem count_requested : (Transcript.requested tls exchange).count connectLine = 1 := by
  rw [Transcript.requested, List.count_append, count_negotiated]
  simp [connectLine]

theorem count_resolved : (Transcript.resolved tls exchange).count connectLine = 1 := by
  rw [Transcript.resolved, List.count_append, count_requested]
  simp [connectLine]

theorem count_connected : (Transcript.connected tls exchange).count connectLine = 1 := by
  rw [Transcript.connected, List.count_append, count_resolved]
  simp [connectLine]

theorem count_established : (Transcript.established tls exchange).count connectLine = 1 := by
  rw [Transcript.established, List.count_append, count_connected]
  simp [connectLine]

theorem count_refused {resolved : Bool} {ec : ErrorCode} :
    (Transcript.refused tls exchange resolved ec).count connectLine = 1 := by
  rw [Transcript.refused, List.count_append]
  cases resolved with
  | true => rw [if_pos rfl, count_resolved]; simp [connectLine]
  | false => rw [if_neg Bool.false_ne_true, count_requested]; simp [connectLine]

/-- The connect is started once at most. -/
theorem count_connect (phase : Phase) : (phase.transcript tls).count connectLine ≤ 1 := by
  cases phase with
  | handshake => simp [Phase.transcript, connectLine]
  | greeting => cases tls <;> simp [Phase.transcript, Transcript.opening, connectLine]
  | methodReply greeting => exact count_greeted.le.trans (Nat.zero_le 1)
  | request greeting => exact count_negotiated.le.trans (Nat.zero_le 1)
  | resolving exchange => exact count_requested.le
  | connecting exchange => exact count_resolved.le
  | refusal exchange resolved ec failed => exact count_refused.le
  | success exchange => exact count_connected.le
  | relay exchange transfer =>
      have none : transfer.trace.count connectLine = 0 := by
        refine List.count_eq_zero.mpr fun member => ?_
        obtain ⟨_, _, _, same⟩ | ⟨_, same⟩ | ⟨_, _, same⟩ := transfer.line_cases member <;>
          simp [connectLine] at same
      rw [Phase.transcript, List.count_append, count_established, none]

/-! ### The end of a refusal -/

omit [Platform] in
/-- The reply after one write is the second write. -/
theorem second_write {history past future : History Socks5State} {reply : IoBuffer}
    (split : history = past ++ (.server, .called (.write reply)) :: future)
    (one : (writes .server past).length = 1) : (writes .server history)[1]? = some reply := by
  rw [split, writes_append]
  simp [one]

/-- By each phase but a refusal, the second write to the peer, if any, is that of success. -/
theorem second_reply {phase : Phase} {reply : IoBuffer} (second : phase.replies[1]? = some reply) :
    reply[1]? = some 0 ∨ ∃ exchange resolved ec failed,
      phase = .refusal exchange resolved ec failed ∧
        reply = exchange.reply (getResponseErrorCode ec) := by
  cases phase with
  | refusal exchange resolved ec failed =>
      refine .inr ⟨exchange, resolved, ec, failed, rfl, ?_⟩
      simpa [Phase.replies] using second.symm
  | success exchange | relay exchange =>
      left
      simp only [Phase.replies, List.getElem?_cons_succ, List.getElem?_cons_zero,
        Option.some.injEq] at second
      rw [← second]
      exact reply_code exchange Responses.succeeded
  | _ => simp [Phase.replies] at second

/-- A refusal comes last. -/
theorem refusal_last {exchange : Exchange} {resolved : Bool} {ec : ErrorCode}
    {past future rest : History Socks5State} {reply : IoBuffer}
    (split : Transcript.refused tls exchange resolved ec ++ rest =
      past ++ (.server, .called (.write reply)) :: future)
    (one : (writes .server past).length = 1) : future = rest := by
  have before : (writes .server ((if resolved then Transcript.resolved tls exchange
      else Transcript.requested tls exchange) ++
        [(.client, .completed
          (if resolved then .connect else .resolve exchange.host exchange.service) ec []
          (some .connectionEstablished))])).length = 1 := by
    cases resolved <;> simp [writes_append, writes_resolved, writes_requested]
  have same := split
  rw [Transcript.refused, List.append_assoc, List.cons_append, List.cons_append, List.nil_append,
    ← List.singleton_append, ← List.append_assoc] at same
  exact (writes_split same (before.trans one.symm)).2.2.symm

omit [Platform] in
/-- What a stop adds to a history is quiet. -/
theorem quiet_ending {side : Side} {task : Task} {completion : Completion}
    {found : Option Socks5State} {late : History Socks5State}
    (isLate : ∀ line ∈ late, IsLate line) :
    ∀ line ∈ Snapshot.done side task completion found :: (stopLines ++ late), Quiet line := by
  intro line member
  simp only [Snapshot.done, stopLines, List.cons_append, List.nil_append, List.mem_cons] at member
  rcases member with rfl | rfl | rfl | member
  · exact ⟨by simp [connectLine], by simp, by simp, by simp⟩
  · exact ⟨by simp [connectLine], by simp, by simp, by simp⟩
  · exact ⟨by simp [connectLine], by simp, by simp, by simp⟩
  · obtain ⟨_, _, _, _, rfl⟩ := isLate line member
    exact ⟨by simp [connectLine], by simp, by simp, by simp⟩

omit [Platform] in
/-- Quiet lines write nothing to the peer. -/
theorem writes_quiet {lines : History Socks5State} (quiet : ∀ line ∈ lines, Quiet line) :
    writes .server lines = [] := by
  refine List.filterMap_eq_nil_iff.mpr fun line member => ?_
  have needsNothing := quiet line member
  unfold written
  split
  · next side buffer =>
      split
      · next same => exact absurd (by rw [same]) (needsNothing.reply buffer)
      · rfl
  · rfl

/-- Quiet lines at the end keep the order. -/
theorem conversationOrder_append {phase : Phase} {lines : History Socks5State}
    (quiet : ∀ line ∈ lines, Quiet line)
    (refusal : ∀ exchange resolved ec failed, phase = .refusal exchange resolved ec failed →
      lines = [] ∨ ∃ ec' bytes late,
        lines = (.server, .completed
          (.write (exchange.reply (getResponseErrorCode ec)).length) ec' bytes
          (some .connectionEstablished)) :: (stopLines ++ late) ∧ ∀ line ∈ late, IsLate line) :
    ConversationOrder (phase.transcript tls ++ lines) where
  replies := by
    obtain ⟨mode, reply, before⟩ := replies_prefix tls phase
    refine ⟨mode, reply, ?_⟩
    rw [writes_append, writes_transcript, writes_quiet quiet, List.append_nil,
      Relay.chunksRead_append]
    exact before.trans (by simp)
  one_connect := by
    have none : lines.count connectLine = 0 :=
      List.count_eq_zero.mpr fun member => (quiet _ member).connect rfl
    rw [List.count_append, none]
    exact count_connect phase
  ordered := by
    rw [Always.append_iff]
    exact ⟨ordered_transcript phase,
      Always.of_forall fun _ line member => (quiet line member).ordered⟩
  refusal_ends past future reply split one refused := by
    have second := second_write split one
    rw [writes_append, writes_transcript, writes_quiet quiet, List.append_nil] at second
    obtain success | ⟨exchange, resolved, ec, failed, rfl, rfl⟩ := second_reply second
    · exact absurd success refused
    · rw [refusal_last split one]
      exact refusal _ _ _ _ rfl

/-- The order holds of every session of a SOCKS5 server. -/
theorem conversationOrder {world : Socks5StreamManager} (reachable : Reachable world)
    {upstream : ServerStream} (accepted : world.Accepted upstream) :
    ConversationOrder (world.conversation upstream) := by
  obtain ⟨phase, running | ⟨side, task, completion, late, member, isLate, stopped⟩⟩ :=
    conversation_cases reachable accepted
  · rw [running, ← List.append_nil (phase.transcript _)]
    exact conversationOrder_append (by simp) fun _ _ _ _ _ => .inl rfl
  · rw [stopped]
    refine conversationOrder_append (quiet_ending isLate) ?_
    rintro exchange resolved ec failed rfl
    cases Multiset.mem_singleton.mp member
    exact .inr ⟨_, _, late, rfl, isLate⟩

end Socks5

/-- In every run of a SOCKS5 server, every session keeps the order of the conversation. -/
theorem socks5_conversation_order [Platform] {world : Socks5StreamManager}
    (reachable : Reachable world) {upstream : ServerStream} (accepted : world.Accepted upstream) :
    Socks5.ConversationOrder (world.conversation upstream) :=
  Socks5.conversationOrder reachable accepted

section

attribute [local instance] Socks5.Sample.platform

/-- The run of `Socks5.Sample.connecting` ends with the connect reply. -/
theorem socks5_conversation_order_sample :
    Socks5.ConversationOrder
        ((World.play Socks5.Sample.connecting).conversation Socks5.Sample.peer) ∧
      writes .server
          ((World.play Socks5.Sample.connecting : Socks5StreamManager).conversation
            Socks5.Sample.peer) =
        [[5, 0], [5, 0, 0, 1, 127, 0, 0, 1, 0, 80]] :=
  ⟨socks5_conversation_order (World.reachable_play Socks5.Sample.connecting) (by decide), by decide⟩

end

end AmgiNetTools
