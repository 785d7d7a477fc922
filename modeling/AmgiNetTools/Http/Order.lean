/-
Module: AmgiNetTools.Http.Order
Layer: Http
Purpose: The order of an HTTP conversation. The first buffer decides: a rejected request is answered
  with one error and stopped; an accepted one is connected once, and what is written first after the
  connect, and to which end, follows from its method.
Main exports: Http.firstWrite, Http.Rejected, Http.Served, http_conversation_order
-/
import AmgiNetTools.Library.Runs
import AmgiNetTools.Http.Tunnel

namespace AmgiNetTools

namespace Http

/-! ### The law -/

/-- The remote is read or written. -/
def IsRemote (line : Side × Happening HttpState) : Prop :=
  line = (.client, .called .read) ∨ ∃ chunk, line = (.client, .called (.write chunk))

/-- `on_connect` was called. -/
def connectedLine : Side × Happening HttpState :=
  (.client, .completed .connect .success [] (some .connectionEstablished))

/-- What a session writes first when it is connected, and where: the 200 reply to the peer, or the
    request to the remote. -/
def firstWrite (message : IoBuffer) : Side × IoBuffer :=
  if (getHeaders message).method = .kConnect then (.server, kHttpDone) else (.client, message)

/-- The call of that write. -/
def firstWriteLine (message : IoBuffer) : Side × Happening HttpState :=
  ((firstWrite message).1, .called (.write (firstWrite message).2))

/-- The completion of that write. -/
def firstWrittenLine (message : IoBuffer) : Side × Happening HttpState :=
  ((firstWrite message).1, .completed (.write (firstWrite message).2.length) .success
    (firstWrite message).2 (some .readyToTransferData))

/-- What a line needs before it. -/
structure Ordered (message : IoBuffer) (past : History HttpState)
    (line : Side × Happening HttpState) :
    Prop where
  remote : IsRemote line → connectedLine ∈ past
  relayed (side : Side) : line = (side, .called .read) → firstWrittenLine message ∈ past

/-- A conversation that ended with the answer 500. -/
structure Rejected (history : History HttpState) : Prop where
  replies : writes .server history = [kHttpError500]
  not_connected : connectLine ∉ history
  stopped : ∃ before late, history =
    before ++ (.server, .called (.write kHttpError500)) :: (stopLines ++ late) ∧
    ∀ line ∈ late, IsLate line

/-- A conversation with a request that was accepted. -/
structure Served (message : IoBuffer) (address : Target) (history : History HttpState) : Prop where
  one_connect : history.count connectLine = 1
  addressed : [(.client, .called (.setHost address.host)),
    (.client, .called (.setService address.service)), connectLine] <:+: history
  first_write (past future : History HttpState) : history = past ++ connectedLine :: future →
    ∃ rest, future = firstWriteLine message :: rest
  ordered : Always (Ordered message) history
  /-- The peer of a tunnel is written the 200 reply and what the remote sent; the remote is written
      what the peer sent after its request. -/
  tunnel : (getHeaders message).method = .kConnect →
    writes .server history <+: kHttpDone :: chunksRead .dataTransferMode .client history ∧
    writes .client history = chunksRead .dataTransferMode .server history
  /-- The remote of another request is written that request and what the peer sent then; the peer is
      written nothing. -/
  forward : (getHeaders message).method ≠ .kConnect →
    writes .server history = [] ∧
    writes .client history <+: message :: chunksRead .dataTransferMode .server history

/-! ### Lines that change nothing -/

/-- A line that calls at most a stop, and completes neither the connect nor a read of the peer. -/
structure Quiet (line : Side × Happening HttpState) : Prop where
  stops (side : Side) (call : StreamCall) : line = (side, .called call) → call = .stop
  waits : line ≠ connectedLine
  reads (bytes : IoBuffer) (state : HttpState) :
    line ≠ (.server, .completed .read .success bytes (some state))

theorem Quiet.ordered {line : Side × Happening HttpState} (quiet : Quiet line) (message : IoBuffer)
    (past : History HttpState) : Ordered message past line where
  remote isRemote := by
    rcases isRemote with same | ⟨chunk, same⟩
    · cases quiet.stops _ _ same
    · cases quiet.stops _ _ same
  relayed side same := by cases quiet.stops _ _ same

theorem writes_quiet {lines : History HttpState} (quiet : ∀ line ∈ lines, Quiet line)
    (side : Side) :
    writes side lines = [] := by
  refine List.filterMap_eq_nil_iff.mpr fun line member => ?_
  unfold written
  split
  · next side' buffer => cases (quiet _ member).stops _ _ rfl
  · rfl

theorem chunksRead_quiet {lines : History HttpState} (quiet : ∀ line ∈ lines, Quiet line)
    (mode : HttpState) : chunksRead mode .server lines = [] := by
  apply List.eq_nil_iff_forall_not_mem.mpr
  intro chunk member
  exact (quiet _ (Relay.mem_chunksRead.mp member)).reads chunk mode rfl

variable {message : IoBuffer} {address : Target} {history lines : History HttpState}

/-- Quiet lines at the end change nothing. -/
theorem Served.append (served : Served message address history)
    (quiet : ∀ line ∈ lines, Quiet line) : Served message address (history ++ lines) where
  one_connect := by
    have none : lines.count connectLine = 0 := List.count_eq_zero.mpr fun member => by
      cases (quiet _ member).stops _ _ rfl
    rw [List.count_append, served.one_connect, none]
  addressed := served.addressed.trans (List.prefix_append ..).isInfix
  first_write past future split := by
    rcases List.append_eq_append_iff.mp split with ⟨middle, longer, rest⟩ | ⟨middle, shorter, rest⟩
    · -- The connect would complete among the quiet lines.
      refine absurd rfl (quiet connectedLine ?_).waits
      rw [rest]
      simp
    · cases middle with
      | nil =>
          refine absurd rfl (quiet connectedLine ?_).waits
          rw [← show connectedLine :: future = lines by simpa using rest]
          exact List.mem_cons_self
      | cons line middle =>
          simp only [List.cons_append, List.cons.injEq] at rest
          obtain ⟨rfl, rfl⟩ := rest
          obtain ⟨rest, future⟩ := served.first_write past middle shorter
          exact ⟨rest ++ lines, by rw [future, List.cons_append]⟩
  ordered := by
    rw [Always.append_iff]
    exact ⟨served.ordered, Always.of_forall fun _ line member => (quiet line member).ordered _ _⟩
  tunnel connect := by
    obtain ⟨replies, relayed⟩ := served.tunnel connect
    rw [writes_append, writes_append, writes_quiet quiet, writes_quiet quiet, List.append_nil,
      List.append_nil, Relay.chunksRead_append, Relay.chunksRead_append, chunksRead_quiet quiet,
      List.append_nil]
    exact ⟨replies.trans (by simp), relayed⟩
  forward other := by
    obtain ⟨replies, relayed⟩ := served.forward other
    rw [writes_append, writes_append, writes_quiet quiet, writes_quiet quiet, List.append_nil,
      List.append_nil, Relay.chunksRead_append, chunksRead_quiet quiet, List.append_nil]
    exact ⟨replies, relayed⟩

/-! ### The conversation of an accepted request -/

variable {tls : Bool} {exchange : Exchange}

theorem quiet_completed {side : Side} {op : AsyncOp} {ec : ErrorCode} {bytes : IoBuffer}
    {found : Option HttpState} (connect : op ≠ .connect) (read : op ≠ .read) :
    Quiet (side, .completed op ec bytes found) where
  stops _ _ same := by cases same
  waits same := by
    cases same
    exact connect rfl
  reads _ _ same := by
    cases same
    exact read rfl

@[simp] theorem ordered_completed {past : History HttpState} {side : Side} {op : AsyncOp}
    {ec : ErrorCode} {bytes : IoBuffer} {found : Option HttpState} :
    Ordered message past (side, .completed op ec bytes found) where
  remote isRemote := by rcases isRemote with same | ⟨_, same⟩ <;> cases same
  relayed _ same := by cases same

/-- A call that neither reads nor writes. -/
theorem ordered_called {past : History HttpState} {side : Side} {call : StreamCall}
    (read : call ≠ .read) (write : ∀ chunk, call ≠ .write chunk) :
    Ordered message past (side, .called call) where
  remote isRemote := by
    rcases isRemote with same | ⟨chunk, same⟩
    · cases same
      exact absurd rfl read
    · cases same
      exact absurd rfl (write chunk)
  relayed _ same := by
    cases same
    exact absurd rfl read

theorem ordered_requested : Always (Ordered message) (Transcript.requested tls exchange) := by
  have opening : Always (Ordered message) (Transcript.opening tls) := by
    cases tls <;> simp [Transcript.opening, ordered_called]
  simp [Transcript.requested, opening, ordered_called]

theorem writes_requested (side : Side) : writes side (Transcript.requested tls exchange) = [] := by
  cases tls <;> simp [Transcript.requested, Transcript.opening]

theorem writes_connected (side : Side) : writes side (Transcript.connected tls exchange) = [] := by
  rw [Transcript.connected, Transcript.resolved, writes_append, writes_append, writes_requested]
  rfl

theorem chunksRead_connected (side : Side) :
    chunksRead .dataTransferMode side (Transcript.connected tls exchange) = [] := by
  cases tls <;>
    simp [chunksRead, laneEvents, laneEvent, Lane.received, Transcript.connected,
      Transcript.resolved, Transcript.requested, Transcript.opening]

theorem not_connected_requested : connectedLine ∉ Transcript.requested tls exchange := by
  cases tls <;> simp [connectedLine, Transcript.requested, Transcript.opening]

theorem not_connected_resolved : connectedLine ∉ Transcript.resolved tls exchange := by
  rw [Transcript.resolved, List.mem_append, not_or]
  exact ⟨not_connected_requested, by simp [connectedLine]⟩

theorem served_requested :
    Served exchange.message exchange.target (Transcript.requested tls exchange) where
  one_connect := by cases tls <;> simp [Transcript.requested, Transcript.opening, connectLine]
  addressed := by
    refine ⟨Transcript.opening tls ++
      [(.server, .completed .read .success exchange.message (some .waitRequest))], [], ?_⟩
    simp [Transcript.requested, connectLine]
  first_write past future split := by
    have absent : connectedLine ∉ Transcript.requested tls exchange := not_connected_requested
    simp [split] at absent
  ordered := ordered_requested
  tunnel _ := by
    have read : chunksRead .dataTransferMode .server (Transcript.requested tls exchange) = [] := by
      cases tls <;> rfl
    rw [writes_requested, writes_requested, read]
    exact ⟨List.nil_prefix, rfl⟩
  forward _ := by
    rw [writes_requested, writes_requested]
    exact ⟨rfl, List.nil_prefix⟩

theorem served_resolved :
    Served exchange.message exchange.target (Transcript.resolved tls exchange) :=
  served_requested.append (by simpa using quiet_completed (by simp) (by simp))

/-- What a session does after its first write. -/
structure Onwards (message : IoBuffer) (rest : History HttpState) : Prop where
  not_connect : connectLine ∉ rest
  not_connected : connectedLine ∉ rest
  relayed : Always (fun past line => ∀ side, line = (side, .called .read) →
    firstWrittenLine message ∈ past) rest
  tunnel : (getHeaders message).method = .kConnect →
    writes .server rest <+: chunksRead .dataTransferMode .client rest ∧
    writes .client rest = chunksRead .dataTransferMode .server rest
  forward : (getHeaders message).method ≠ .kConnect →
    writes .server rest = [] ∧ writes .client rest <+: chunksRead .dataTransferMode .server rest

theorem chunksRead_called {mode : HttpState} {source side : Side} {call : StreamCall}
    {rest : History HttpState} :
    chunksRead mode source ((side, .called call) :: rest) = chunksRead mode source rest := rfl

/-- A session that is connected has been served. -/
theorem served_connected {rest : History HttpState} (onwards : Onwards exchange.message rest) :
    Served exchange.message exchange.target
      (Transcript.connected tls exchange ++ firstWriteLine exchange.message :: rest) where
  one_connect := by
    have one : (Transcript.resolved tls exchange).count connectLine = 1 :=
      served_resolved.one_connect
    have none :
        (connectedLine :: firstWriteLine exchange.message :: rest).count connectLine = 0 := by
      refine List.count_eq_zero.mpr fun member => ?_
      simp only [List.mem_cons] at member
      rcases member with same | same | member
      · cases same
      · simp [connectLine, firstWriteLine] at same
      · exact onwards.not_connect member
    rw [Transcript.connected, List.append_assoc, List.count_append, one]
    exact congrArg (1 + ·) none
  addressed := by
    have early : Transcript.resolved tls exchange <+:
        Transcript.connected tls exchange ++ firstWriteLine exchange.message :: rest := by
      rw [Transcript.connected, List.append_assoc]
      exact List.prefix_append ..
    exact served_resolved.addressed.trans early.isInfix
  first_write past future split := by
    rw [Transcript.connected, List.append_assoc, List.singleton_append] at split
    have later : connectedLine ∉ firstWriteLine exchange.message :: rest := by
      rw [List.mem_cons, not_or]
      exact ⟨by simp [connectedLine, firstWriteLine], onwards.not_connected⟩
    obtain ⟨-, -, future⟩ := (List.append_cons_inj_of_notMem not_connected_resolved later).mp split
    exact ⟨rest, future.symm⟩
  ordered := by
    have connected : connectedLine ∈ Transcript.connected tls exchange := by
      simp [Transcript.connected, connectedLine]
    have before : Always (Ordered exchange.message) (Transcript.connected tls exchange) := by
      rw [Transcript.connected, Always.append_iff]
      exact ⟨served_resolved.ordered, by simp⟩
    rw [Always.append_iff, Always.cons_iff]
    refine ⟨before, ⟨fun _ => by simpa using connected, fun _ same => by cases same⟩, ?_⟩
    refine onwards.relayed.imp fun past line relayed => ⟨fun _ => ?_, fun side same => ?_⟩
    · exact List.mem_append_left _ connected
    · have out := relayed side same
      simp [out]
  tunnel connect := by
    obtain ⟨replies, relayed⟩ := onwards.tunnel connect
    rw [writes_append, writes_append, writes_connected, writes_connected, Relay.chunksRead_append,
      Relay.chunksRead_append, chunksRead_connected, chunksRead_connected, firstWriteLine,
      chunksRead_called, chunksRead_called]
    simpa [firstWrite, connect, relayed] using replies
  forward other := by
    obtain ⟨replies, relayed⟩ := onwards.forward other
    rw [writes_append, writes_append, writes_connected, writes_connected, Relay.chunksRead_append,
      chunksRead_connected, firstWriteLine, chunksRead_called]
    simpa [firstWrite, other, replies] using relayed

/-! ### The two ends -/

theorem onwards_nil : Onwards message [] where
  not_connect := List.not_mem_nil
  not_connected := List.not_mem_nil
  relayed := .nil
  tunnel _ := ⟨List.nil_prefix, rfl⟩
  forward _ := ⟨rfl, List.nil_prefix⟩

theorem writes_firstWritten {side : Side} {rest : History HttpState} :
    writes side (firstWrittenLine message :: rest) = writes side rest := rfl

theorem chunksRead_firstWritten {side : Side} {rest : History HttpState} :
    chunksRead .dataTransferMode side (firstWrittenLine message :: rest) =
      chunksRead .dataTransferMode side rest := by
  simp [chunksRead, laneEvents, laneEvent, firstWrittenLine]

/-- The data transfer after the first write is out. -/
theorem onwards_transfer {side : Side} {trace : History HttpState}
    (calm : ∀ line ∈ trace, line ≠ connectLine ∧ line ≠ connectedLine)
    (tunnel : (getHeaders message).method = .kConnect →
      writes .server trace <+: chunksRead .dataTransferMode .client trace ∧
      writes .client trace = chunksRead .dataTransferMode .server trace)
    (forward : (getHeaders message).method ≠ .kConnect →
      writes .server trace = [] ∧
      writes .client trace <+: chunksRead .dataTransferMode .server trace) :
    Onwards message
      (firstWrittenLine message :: (.server, .called .read) :: (side, .called .read) :: trace) where
  not_connect member := by
    simp only [List.mem_cons] at member
    rcases member with same | same | same | member
    · simp [connectLine, firstWrittenLine] at same
    · cases same
    · cases same
    · exact (calm _ member).1 rfl
  not_connected member := by
    simp only [List.mem_cons] at member
    rcases member with same | same | same | member
    · simp [connectedLine, firstWrittenLine] at same
    · cases same
    · cases same
    · exact (calm _ member).2 rfl
  relayed := by
    rw [Always.cons_iff]
    constructor
    · intro side same
      cases same
    · exact Always.of_forall fun past line _ side _ => List.mem_cons_self
  tunnel := by
    simpa only [writes_firstWritten, chunksRead_firstWritten, writes_read,
      chunksRead_called] using tunnel
  forward := by
    simpa only [writes_firstWritten, chunksRead_firstWritten, writes_read, chunksRead_called] using
      forward

theorem served_tunnel (tunnels : exchange.method = .kConnect)
    (transfer : Relay HttpState.dataTransferMode) :
    Served exchange.message exchange.target
      ((Phase.tunnel exchange tunnels transfer).transcript tls) := by
  have connect : (getHeaders exchange.message).method = .kConnect := tunnels
  have calm : ∀ line ∈ transfer.trace, line ≠ connectLine ∧ line ≠ connectedLine := by
    intro line member
    obtain ⟨_, _, _, rfl⟩ | ⟨_, rfl⟩ | ⟨_, _, rfl⟩ := transfer.line_cases member <;>
      simp [connectLine, connectedLine]
  have onwards : Onwards exchange.message (firstWrittenLine exchange.message ::
      (.server, .called .read) :: (.client, .called .read) :: transfer.trace) := by
    refine onwards_transfer calm (fun _ => ⟨?_, transfer.writes_opposite .server⟩) ?_
    · exact (transfer.writes_opposite .client) ▸ List.prefix_refl _
    · exact fun other => absurd connect other
  have served := @served_connected tls exchange _ onwards
  simpa [Phase.transcript, Transcript.established, firstWriteLine, firstWrittenLine, firstWrite,
    connect] using served

theorem writes_crossing {trace : History HttpState} {ops : Multiset (Side × AsyncOp)}
    (crossing : Crossing trace ops) : writes .server trace = [] ∧
      writes .client trace = chunksRead .dataTransferMode .server trace := by
  induction crossing with
  | start => exact ⟨rfl, rfl⟩
  | receive chunk _ ih =>
      rw [writes_append, writes_append, Relay.chunksRead_append, ih.1, ih.2]
      exact ⟨rfl, congrArg _ (Relay.chunksRead_receiveLines .server .server chunk).symm⟩
  | deliver size bytes _ ih =>
      rw [writes_append, writes_append, Relay.chunksRead_append, ih.1, ih.2]
      exact ⟨rfl, rfl⟩

theorem served_crossing (forwards : exchange.method ≠ .kConnect) {trace : History HttpState}
    {ops : Multiset (Side × AsyncOp)} (crossing : Crossing trace ops) :
    Served exchange.message exchange.target (Transcript.forwarded tls exchange ++ trace) := by
  have other : (getHeaders exchange.message).method ≠ .kConnect := forwards
  obtain ⟨replies, relayed⟩ := writes_crossing crossing
  have calm : ∀ line ∈ trace, line ≠ connectLine ∧ line ≠ connectedLine := by
    intro line member
    obtain ⟨_, rfl⟩ | ⟨_, _, rfl⟩ | rfl | ⟨_, rfl⟩ := crossing.line_cases member <;>
      simp [connectLine, connectedLine]
  have onwards : Onwards exchange.message (firstWrittenLine exchange.message ::
      (.server, .called .read) :: (.server, .called .read) :: trace) := by
    refine onwards_transfer calm (fun connect => absurd connect other) fun _ => ?_
    exact ⟨replies, relayed ▸ List.prefix_refl _⟩
  have served := @served_connected tls exchange _ onwards
  simpa [Transcript.forwarded, firstWriteLine, firstWrittenLine, firstWrite, other] using served

/-- A session that has got its request has been served in every phase. -/
theorem served_transcript {phase : Phase} (asked : message ∈ requests (phase.transcript tls)) :
    ∃ exchange : Exchange, exchange.message = message ∧
      Served message exchange.target (phase.transcript tls) := by
  rw [requests_transcript] at asked
  cases phase with
  | handshake | request => cases asked
  | resolving exchange =>
      cases List.mem_singleton.mp asked
      exact ⟨exchange, rfl, served_requested⟩
  | connecting exchange =>
      cases List.mem_singleton.mp asked
      exact ⟨exchange, rfl, served_resolved⟩
  | answering exchange tunnels =>
      cases List.mem_singleton.mp asked
      have connect : (getHeaders exchange.message).method = .kConnect := tunnels
      have served := @served_connected tls exchange [] onwards_nil
      refine ⟨exchange, rfl, ?_⟩
      simpa [Phase.transcript, firstWriteLine, firstWrite, connect] using served
  | forwarding exchange forwards =>
      cases List.mem_singleton.mp asked
      have other : (getHeaders exchange.message).method ≠ .kConnect := forwards
      have served := @served_connected tls exchange [] onwards_nil
      refine ⟨exchange, rfl, ?_⟩
      simpa [Phase.transcript, firstWriteLine, firstWrite, other] using served
  | tunnel exchange tunnels transfer =>
      cases List.mem_singleton.mp asked
      exact ⟨exchange, rfl, served_tunnel tunnels transfer⟩

/-! ### The stop -/

/-- A handler stops its session on an error, or after the answer 500. -/
theorem reaction_stops {session : Session HttpState} {event : SessionEvent}
    {requests : List Request}
    (stops : ReactiveState.reaction session event = .ok ⟨requests, none⟩) :
    (requests = [] ∧ ∃ side ec, event = Side.errorEvent ec side) ∨
      (requests = [.writeServer kHttpError500] ∧ session.state = .waitRequest ∧
        ∃ buffer, event = .serverRead buffer ∧ target buffer.bytes = .ok none) := by
  have computed : reaction session event = .ok ⟨requests, none⟩ := stops
  unfold reaction at computed
  dsimp only at computed
  split at computed
  case h_1 ec =>
    cases computed
    exact .inl ⟨rfl, .server, ec, rfl⟩
  case h_2 ec =>
    cases computed
    exact .inl ⟨rfl, .client, ec, rfl⟩
  case h_3 buffer state =>
    cases decoded : target buffer.bytes with
    | error fault => simp [decoded, Except.map] at computed
    | ok verdict =>
        cases verdict with
        | none =>
            simp only [decoded, Except.map, Except.ok.injEq, Reaction.mk.injEq] at computed
            exact .inr ⟨computed.1.symm, state, buffer, rfl, decoded⟩
        | some address => simp [decoded, Except.map] at computed
  all_goals simp [Reaction.stay] at computed

/-- A completion that is reported as an error is quiet. -/
theorem quiet_done {side side' : Side} {task : Task} {completion : Completion} {ec : ErrorCode}
    {found : Option HttpState}
    (raised : side.upshot task.op completion = .report (side'.errorEvent ec)) :
    Quiet (Snapshot.done side task completion found) where
  stops _ _ same := by cases same
  waits same := by
    simp only [Snapshot.done, connectedLine, Prod.mk.injEq, Happening.completed.injEq] at same
    obtain ⟨rfl, op, succeeded, -, -⟩ := same
    rw [op] at raised
    cases side' <;> simp [Side.upshot, succeeded, Side.errorEvent, Upshot.report] at raised
  reads bytes state same := by
    simp only [Snapshot.done, Prod.mk.injEq, Happening.completed.injEq] at same
    obtain ⟨rfl, op, succeeded, -, -⟩ := same
    rw [op] at raised
    cases side' <;> simp [Side.upshot, succeeded, Side.errorEvent, Upshot.report] at raised

theorem quiet_error {side : Side} {op : AsyncOp} {ec : ErrorCode} {bytes : IoBuffer}
    {found : Option HttpState} (failed : ec.isError = true) :
    Quiet (side, .completed op ec bytes found) where
  stops _ _ same := by cases same
  waits same := by
    cases same
    cases failed
  reads _ _ same := by
    cases same
    cases failed

/-- What a stop adds to a history is quiet. -/
theorem quiet_stopped {late : History HttpState} (isLate : ∀ line ∈ late, IsLate line) :
    ∀ line ∈ stopLines ++ late, Quiet line := by
  intro line member
  simp only [stopLines, List.cons_append, List.nil_append, List.mem_cons] at member
  rcases member with rfl | rfl | member
  · exact ⟨fun _ _ same => by cases same; rfl, by simp [connectedLine], by simp⟩
  · exact ⟨fun _ _ same => by cases same; rfl, by simp [connectedLine], by simp⟩
  · obtain ⟨_, _, _, _, rfl⟩ := isLate line member
    exact ⟨by simp, by simp [connectedLine], by simp⟩

theorem requests_quiet {lines : History HttpState} (quiet : ∀ line ∈ lines, Quiet line) :
    requests lines = [] :=
  chunksRead_quiet quiet .waitRequest

/-- The first buffer was rejected, some late completions ago. -/
def Transcript.rejected (tls : Bool) (message : IoBuffer) (late : History HttpState) :
    History HttpState :=
  opening tls ++
    (.server, .completed .read .success message (some .waitRequest)) ::
      (.server, .called (.write kHttpError500)) :: (stopLines ++ late)

/-- The conversation of a rejected request. -/
theorem rejected_request {late : History HttpState} (isLate : ∀ line ∈ late, IsLate line)
    (message : IoBuffer) : Rejected (Transcript.rejected tls message late) where
  replies := by
    have opening : writes .server (Transcript.opening tls) = [] := by cases tls <;> rfl
    simp [Transcript.rejected, writes_append, opening, writes_late _ isLate]
  not_connected member := by
    simp only [Transcript.rejected, List.mem_append, List.mem_cons, stopLines, List.not_mem_nil,
      or_false] at member
    rcases member with early | same | same | (same | same) | member
    · cases tls <;> simp [Transcript.opening, connectLine] at early
    · cases same
    · cases same
    · cases same
    · cases same
    · obtain ⟨_, _, _, _, same⟩ := isLate _ member
      cases same
  stopped := by
    refine ⟨Transcript.opening tls ++
      [(.server, .completed .read .success message (some .waitRequest))], late, ?_, isLate⟩
    simp [Transcript.rejected]

/-- What became of a request. -/
def Judged (message : IoBuffer) (history : History HttpState) : Prop :=
  (target message = .ok none ∧ Rejected history) ∨
    ∃ address, target message = .ok (some address) ∧ Served message address history

variable {id : Int32} {snapshot : Snapshot HttpState}

theorem judged_live (live : Live tls id snapshot) (asked : message ∈ requests snapshot.history) :
    ∃ address, target message = .ok (some address) ∧ Served message address snapshot.history := by
  rcases live with ⟨phase, within, -⟩ | crossed
  · rw [show snapshot.history = phase.transcript tls from within.history] at asked ⊢
    obtain ⟨exchange, rfl, served⟩ := served_transcript asked
    exact ⟨exchange.target, exchange.decoded, served⟩
  · obtain ⟨exchange, forwards, count, trace, crossing, session, history⟩ := crossed
    rw [history, requests_append, requests_forwarded, requests_crossing crossing] at asked
    cases List.mem_singleton.mp asked
    rw [history]
    exact ⟨exchange.target, exchange.decoded, served_crossing forwards crossing⟩

/-- What a rejected request leaves behind. -/
theorem judged_rejected {bytes : IoBuffer} {late : History HttpState}
    (isLate : ∀ line ∈ late, IsLate line) (rejected : target bytes = .ok none)
    (asked : message ∈ requests (Transcript.rejected tls bytes late)) :
    Judged message (Transcript.rejected tls bytes late) := by
  have only : requests (Transcript.rejected tls bytes late) = [bytes] := by
    rw [Transcript.rejected, requests_append, requests_opening, requests_cons,
      requests_cons (.server, .called (.write kHttpError500)),
      requests_quiet (quiet_stopped isLate)]
    rfl
  rw [only, List.mem_singleton] at asked
  rw [asked]
  exact .inl ⟨rejected, rejected_request isLate _⟩

/-- The two ways to stop in a phase: an error was reported, or the first buffer was rejected. -/
theorem stoppedIn_cases {phase : Phase} {calls : List Request} {last : Snapshot HttpState}
    (stopped : script.StoppedIn tls id phase calls last) (late : History HttpState) :
    (∃ side task completion side' ec,
      side.upshot task.op completion = .report (Side.errorEvent ec side') ∧
      last.history ++ late = phase.transcript tls ++
        Snapshot.done side task completion (some phase.state) :: (stopLines ++ late)) ∨
    ∃ message, target message = .ok none ∧
      last.history ++ late = Transcript.rejected tls message late := by
  obtain ⟨-, side, task, completion, event, member, raised, stops, history⟩ := stopped
  rcases reaction_stops stops with ⟨rfl, side', ec, rfl⟩ | ⟨rfl, state, buffer, rfl, rejected⟩
  · refine .inl ⟨side, task, completion, side', ec, raised, ?_⟩
    rw [history]
    simp [script]
  · right
    cases phase with
    | request =>
        cases Multiset.mem_singleton.mp member
        obtain ⟨succeeded, read⟩ | failed := Side.server.upshot_read completion
        · cases read.symm.trans raised
          have ec := ErrorCode.eq_success succeeded
          refine ⟨completion.buffer.bytes, rejected, ?_⟩
          rw [history]
          simp [script, Phase.transcript, Phase.state, Transcript.rejected, Snapshot.done, Task.op,
            Task.moved, ec, Request.calls]
        · cases failed.symm.trans raised
    | handshake =>
        cases Multiset.mem_singleton.mp member
        cases failed : completion.ec.isError <;>
          simp [Side.upshot, failed, Task.op, Upshot.report, Upshot.proceed] at raised
    | _ => cases state

/-- A session that was stopped in a phase, some late completions ago. -/
theorem judged_stoppedIn {phase : Phase} {calls : List Request} {last : Snapshot HttpState}
    {late : History HttpState} (stopped : script.StoppedIn tls id phase calls last)
    (isLate : ∀ line ∈ late, IsLate line) (asked : message ∈ requests (last.history ++ late)) :
    Judged message (last.history ++ late) := by
  obtain ⟨side, task, completion, side', ec, raised, whole⟩ | ⟨bytes, rejected, whole⟩ :=
    stoppedIn_cases stopped late
  · have quiet : ∀ line ∈ Snapshot.done side task completion (some phase.state) ::
        (stopLines ++ late), Quiet line :=
      List.forall_mem_cons.mpr ⟨quiet_done raised, quiet_stopped isLate⟩
    rw [whole] at asked ⊢
    rw [requests_append, requests_quiet quiet, List.append_nil] at asked
    obtain ⟨exchange, rfl, served⟩ := served_transcript asked
    exact .inr ⟨exchange.target, exchange.decoded, served.append quiet⟩
  · rw [whole] at asked ⊢
    exact judged_rejected isLate rejected asked

theorem judged_crossedStop {last : Snapshot HttpState} {late : History HttpState}
    (stopped : CrossedStop tls last) (isLate : ∀ line ∈ late, IsLate line)
    (asked : message ∈ requests (last.history ++ late)) :
    Judged message (last.history ++ late) := by
  obtain ⟨exchange, forwards, trace, ops, crossing, side, op, ec, failed, history⟩ := stopped
  have quiet : ∀ line ∈ (side, .completed op ec [] (some .dataTransferMode)) :: (stopLines ++ late),
      Quiet line :=
    List.forall_mem_cons.mpr ⟨quiet_error failed, quiet_stopped isLate⟩
  rw [history, List.append_assoc, List.cons_append] at asked ⊢
  rw [requests_append, requests_append, requests_forwarded, requests_crossing crossing,
    requests_quiet quiet] at asked
  cases List.mem_singleton.mp asked
  exact .inr ⟨exchange.target, exchange.decoded, (served_crossing forwards crossing).append quiet⟩

end Http

/-- In every run of an HTTP server, the first buffer of a session decides its conversation: a
    rejected request is answered with one error and its session stopped, an accepted one is served.
    And the test by which the session knows a CONNECT when it is connected agrees with the method
    that was parsed. -/
theorem http_conversation_order {world : HttpStreamManager} (reachable : Reachable world) :
    (∀ upstream message, world.Accepted upstream →
      message ∈ Http.requests (world.conversation upstream) →
      (Http.target message = .ok none ∧ Http.Rejected (world.conversation upstream) ∧
        world.sessions upstream.id = none) ∨
      ∃ address, Http.target message = .ok (some address) ∧
        Http.Served message address (world.conversation upstream)) ∧
    ∀ message address, Http.target message = .ok (some address) →
      (Http.savedResponse message = Http.kHttpDone ↔
        (Http.getHeaders message).method = .kConnect) := by
  refine ⟨fun upstream message accepted asked => ?_,
    fun message address decoded => Http.savedResponse_eq_kHttpDone decoded⟩
  cases Http.conversed reachable accepted with
  | live holds => exact .inr (Http.judged_live holds asked)
  | ended gone last stopped late grown isLate =>
      have absent : world.sessions upstream.id = none := by
        simpa [World.snapshot] using gone.gone
      have judged : Http.Judged message (world.conversation upstream) := by
        rw [show world.conversation upstream = last.history ++ late from grown] at asked ⊢
        rcases stopped with ⟨phase, calls, stopped⟩ | stopped
        · exact Http.judged_stoppedIn stopped isLate asked
        · exact Http.judged_crossedStop stopped isLate asked
      rcases judged with ⟨refused, rejected⟩ | served
      · exact .inl ⟨refused, rejected, absent⟩
      · exact .inr served

/-- The first write in the run of `Http.Sample.forwarding` is the request, byte for byte. -/
theorem http_conversation_order_sample :
    ∃ address, Http.Served Http.Sample.forwardRequest address
        ((World.play Http.Sample.forwarding : HttpStreamManager).conversation
          Http.Sample.peer) := by
  rcases (http_conversation_order (World.reachable_play Http.Sample.forwarding)).1 Http.Sample.peer
    Http.Sample.forwardRequest (by decide) (by decide) with ⟨rejected, -⟩ | ⟨address, -, served⟩
  · exact absurd rejected (by decide)
  · exact ⟨address, served⟩

end AmgiNetTools
