/-
Module: AmgiNetTools.Tunnel.Relay
Layer: Tunnel
Purpose: The relay of a tunnel loses, doubles and reorders nothing, in either direction and in any
  order of completions, also in what goes on after the session has left. A direction whose write has
  failed has come to an end, with the chunk of that write still in its buffer.
Main exports: Tunnel.chunksRead, Tunnel.chunksDelivered, Tunnel.Intact, Tunnel.Cut, Tunnel.Halted,
  Tunnel.halted_of_reachable, tunnel_relay_integrity
-/
import AmgiNetTools.Tunnel.Stages

namespace AmgiNetTools

namespace Tunnel

/-- The chunks read from a socket, in order. -/
def chunksRead (source : Sock) (history : List Happening) : List IoBuffer :=
  Lane.received (laneEvents source history)

/-- The chunks read from a socket whose write to the other socket has completed. -/
def chunksDelivered (source : Sock) (history : List Happening) : List IoBuffer :=
  Lane.delivered (laneEvents source history)

/-- The relay operations of the direction that reads from `source`. -/
def Op.Relays (source : Sock) (op : Op) : Prop :=
  op = .read source ∨ ∃ size, op = .write source size

/-- One direction of a session. What was read is what was delivered, and then one chunk at most,
    which is the one in the buffer if it is being written. -/
structure Intact (source : Sock) (session : Session) : Prop where
  single : ∃ others : Multiset Op, (∀ op ∈ others, ¬ op.Relays source) ∧
    (session.pending = others ∨ ∃ op, op.Relays source ∧ session.pending = op ::ₘ others)
  exclusive : .read source ∈ session.pending → ∀ size, .write source size ∉ session.pending
  conserved : ∃ inFlight : List IoBuffer, inFlight.length ≤ 1 ∧
    chunksRead source session.history = chunksDelivered source session.history ++ inFlight ∧
    (.read source ∈ session.pending → inFlight = []) ∧
    ∀ size, .write source size ∈ session.pending →
      inFlight = [(session.buffer source).take size]

/-! ### A direction among the others -/

variable {source : Sock} {op : Op}

theorem not_relays_of_isSetup (isSetup : op.IsSetup) : ¬ op.Relays source := by
  rintro (rfl | ⟨size, rfl⟩) <;> cases isSetup

theorem not_relays_of_isClosing (isClosing : op.IsClosing) : ¬ op.Relays source := by
  rcases isClosing with rfl | rfl <;> rintro (same | ⟨size, same⟩) <;> cases same

theorem relays_laneOp (source : Sock) (lane : Lane IoBuffer) :
    (laneOp source lane).Relays source := by
  cases lane with
  | reading => exact .inl rfl
  | writing chunk => exact .inr ⟨chunk.length, rfl⟩

theorem not_relays_laneOp {other : Sock} (apart : other ≠ source) (lane : Lane IoBuffer) :
    ¬ (laneOp other lane).Relays source := by
  cases lane with
  | reading =>
      rintro (same | ⟨size, same⟩) <;> cases same
      exact apart rfl
  | writing chunk =>
      rintro (same | ⟨size, same⟩) <;> cases same
      exact apart rfl

/-- What a direction waits for, apart from all the rest. -/
theorem relayOps_split (lane : Sock → Lane IoBuffer) (active : Sock → Bool) (source : Sock) :
    ∃ others : Multiset Op, (∀ op ∈ others, ¬ op.Relays source) ∧
      relayOps lane active = laneOps lane active source + others := by
  have apart {other : Sock} (apart : other ≠ source) :
      ∀ op ∈ laneOps lane active other, ¬ op.Relays source := by
    intro op member
    unfold laneOps at member
    split at member
    · rw [Multiset.mem_singleton.mp member]
      exact not_relays_laneOp apart _
    · simp at member
  cases source with
  | localSock => exact ⟨laneOps lane active .remoteSock, apart (by simp), rfl⟩
  | remoteSock =>
      exact ⟨laneOps lane active .localSock, apart (by simp), Multiset.add_comm _ _⟩

/-- A session in which a direction waits for nothing, and has done nothing. -/
theorem intact_of_silent {session : Session} (waits : ∀ op ∈ session.pending, ¬ op.Relays source)
    (silent : laneEvents source session.history = []) : Intact source session where
  single := ⟨session.pending, waits, .inl rfl⟩
  exclusive reads := absurd (.inl rfl) (waits _ reads)
  conserved := by
    refine ⟨[], Nat.zero_le 1, ?_, fun _ => rfl, fun size writes => ?_⟩
    · rw [chunksRead, chunksDelivered, silent]
      rfl
    · exact absurd (.inr ⟨size, rfl⟩) (waits _ writes)

/-- A direction that reads has its buffer free. -/
theorem reading_of_laneOp {lane : Lane IoBuffer} (own : .read source = laneOp source lane) :
    lane = .reading := by
  cases lane with
  | reading => rfl
  | writing chunk => cases own

/-- A direction that writes does so with the chunk in its buffer. -/
theorem writing_of_laneOp {lane : Lane IoBuffer} {size : Nat}
    (own : .write source size = laneOp source lane) :
    ∃ chunk, lane = .writing chunk ∧ size = chunk.length := by
  cases lane with
  | reading => cases own
  | writing chunk =>
      cases own
      exact ⟨chunk, rfl, rfl⟩

section

variable {session : Session} {lane : Sock → Lane IoBuffer} {active : Sock → Bool}
  {closing : Multiset Op}

/-- One direction of a session that relays, apart from the other and from the close. -/
theorem Session.Relaying.split (relaying : session.Relaying lane active closing) (source : Sock) :
    ∃ others : Multiset Op, (∀ op ∈ others, ¬ op.Relays source) ∧
      session.pending = laneOps lane active source + others := by
  obtain ⟨rest, apart, split⟩ := relayOps_split lane active source
  refine ⟨rest + closing, ?_, ?_⟩
  · intro op member
    rcases Multiset.mem_add.mp member with there | closes
    · exact apart op there
    · exact not_relays_of_isClosing (relaying.closers op closes)
  · rw [relaying.waits, split, Multiset.add_assoc]

/-- The operation of a direction that is outstanding is the one its lane is at. -/
theorem Session.Relaying.eq_laneOp (relaying : session.Relaying lane active closing)
    (relays : op.Relays source) (pending : op ∈ session.pending) :
    op = laneOp source (lane source) := by
  obtain ⟨others, apart, waits⟩ := relaying.split source
  rw [waits, Multiset.mem_add] at pending
  rcases pending with here | there
  · unfold laneOps at here
    split at here
    · exact Multiset.mem_singleton.mp here
    · simp at here
  · exact absurd relays (apart op there)

theorem intact_of_relaying (relaying : session.Relaying lane active closing) (source : Sock) :
    Intact source session := by
  constructor
  · obtain ⟨others, apart, waits⟩ := relaying.split source
    refine ⟨others, apart, ?_⟩
    cases isActive : active source with
    | true =>
        refine .inr ⟨laneOp source (lane source), relays_laneOp source _, ?_⟩
        rw [waits, laneOps, if_pos isActive, Multiset.singleton_add]
    | false =>
        left
        rw [waits, laneOps, if_neg (by simp [isActive]), Multiset.zero_add]
  · intro reads size writes
    have first := relaying.eq_laneOp (.inl rfl) reads
    have second := relaying.eq_laneOp (.inr ⟨size, rfl⟩) writes
    cases first.trans second.symm
  · refine ⟨(lane source).inFlight, ?_, Lane.conservation (relaying.runs source), ?_, ?_⟩
    · cases lane source <;> simp [Lane.inFlight]
    · intro reads
      rw [reading_of_laneOp (relaying.eq_laneOp (.inl rfl) reads)]
      rfl
    · intro size writes
      obtain ⟨chunk, writing, rfl⟩ :=
        writing_of_laneOp (relaying.eq_laneOp (.inr ⟨size, rfl⟩) writes)
      rw [writing, (relaying.buffered source chunk writing).2]
      rfl

end

theorem intact_of_stage {session : Session} (stage : session.Stage) (source : Sock) :
    Intact source session := by
  cases stage with
  | made idle silent =>
      refine intact_of_silent ?_ ?_
      · simp [idle]
      · rw [silent]
        rfl
  | setup op isSetup waits stays silent =>
      refine intact_of_silent ?_ (silent source)
      intro op' member
      rw [waits, Multiset.mem_singleton] at member
      rw [member]
      exact not_relays_of_isSetup isSetup
  | relay lane active closing relaying => exact intact_of_relaying relaying source

/-! ### A write that failed -/

/-- The write of so many bytes read from `source` has failed. How many of them went out is not
    told. -/
def Session.FailedWrite (source : Sock) (size : Nat) (session : Session) : Prop :=
  ∃ ec bytes, ec.isError = true ∧ .completed (.write source size) ec bytes ∈ session.history

/-- A direction that has come to an end, with its last chunk still in the buffer. -/
structure Cut (source : Sock) (size : Nat) (session : Session) : Prop where
  left : .leave ∈ session.history
  idle : ∀ op ∈ session.pending, ¬ op.Relays source
  whole : chunksRead source session.history =
    chunksDelivered source session.history ++ [(session.buffer source).take size]

/-- After a failed write its direction has come to an end. -/
def Halted (source : Sock) (session : Session) : Prop :=
  ∀ size, session.FailedWrite source size → Cut source size session

section

variable {session : Session} {completion : Completion} {size : Nat}

theorem not_failedWrite_of_silent (silent : session.history = []) :
    ¬ session.FailedWrite source size := by
  rintro ⟨ec, bytes, -, member⟩
  rw [silent] at member
  cases member

/-- A completion fails a write only when it is the error of this write. -/
theorem failedWrite_after (failed : (session.after op completion).FailedWrite source size) :
    session.FailedWrite source size ∨ op = .write source size ∧ completion.ec.isError = true := by
  obtain ⟨ec, bytes, isError, member⟩ := failed
  rw [Session.history_after, List.mem_append, List.mem_cons] at member
  rcases member with before | now | later
  · exact .inl ⟨ec, bytes, isError, before⟩
  · injection now with isWrite ecs
    exact .inr ⟨isWrite.symm, ecs ▸ isError⟩
  · split at later
    · cases later
    · split at later <;> simp at later

/-- What goes on elsewhere is no event of a direction. -/
theorem laneEvent_of_not_relays (apart : ¬ op.Relays source) (ec : ErrorCode) (bytes : IoBuffer) :
    laneEvent source (.completed op ec bytes) = none := by
  cases op with
  | read sock =>
      have other : sock ≠ source := fun same => apart (.inl (by rw [same]))
      simp [laneEvent, other]
  | write sock size =>
      have other : sock ≠ source := fun same => apart (.inr ⟨size, by rw [same]⟩)
      simp [laneEvent, other]
  | _ => rfl

/-- Only a read of a socket fills its buffer. -/
theorem buffer_of_not_read (other : op ≠ .read source) :
    (session.after op completion).buffer source = session.buffer source := by
  rw [Session.buffer_after]
  cases op with
  | read sock =>
      have apart : source ≠ sock := fun same => other (by rw [same])
      simp only [Session.retire, Function.update_of_ne apart]
  | _ => rfl

/-- Once the setup is over, what follows an operation is in its own direction. -/
theorem not_relays_followers (relayed : ¬ op.IsSetup) (apart : ¬ op.Relays source) :
    ∀ op' ∈ op.followers completion, ¬ op'.Relays source := by
  intro op' member
  cases op with
  | resolve | connect | handshake => exact absurd trivial relayed
  | read sock =>
      rw [Multiset.mem_singleton.mp member]
      exact not_relays_laneOp (fun same => apart (.inl (by rw [same]))) (.writing completion.bytes)
  | write sock size =>
      rw [Multiset.mem_singleton.mp member]
      exact not_relays_laneOp (fun same => apart (.inr ⟨size, by rw [same]⟩)) .reading
  | shutdown | nullWrite => cases member

/-- A session that has left is not being set up. -/
theorem Session.Stage.not_isSetup (stage : session.Stage) (left : .leave ∈ session.history)
    (pending : op ∈ session.pending) : ¬ op.IsSetup := by
  cases stage with
  | made idle silent => simp [idle] at pending
  | setup op' isSetup waits stays silent => exact absurd left stays
  | relay lane active closing relaying =>
      rw [relaying.waits, Multiset.mem_add] at pending
      rcases pending with relayed | closes
      · obtain ⟨source, -, rfl⟩ := eq_laneOp_of_mem relayed
        cases lane source <;> exact id
      · rcases relaying.closers op closes with rfl | rfl <;> exact id

/-- What a failure leaves of a direction. -/
theorem idle_of_failure (fails : op.succeeds completion = false)
    (idle : ∀ op' ∈ session.pending.erase op, ¬ op'.Relays source) :
    ∀ op' ∈ (session.after op completion).pending, ¬ op'.Relays source := by
  obtain ⟨closing, closers, waits⟩ := Session.pending_of_failure fails
  intro op' member
  rw [waits, Multiset.mem_add] at member
  rcases member with closes | old
  · exact not_relays_of_isClosing (closers op' closes)
  · exact idle op' old

/-- A direction that waits for one operation of its own waits for nothing without it. -/
theorem Intact.idle_of_erase (intact : Intact source session) (relays : op.Relays source)
    (pending : op ∈ session.pending) : ∀ op' ∈ session.pending.erase op, ¬ op'.Relays source := by
  obtain ⟨others, apart, idle | ⟨single, -, waits⟩⟩ := intact.single
  · exact absurd relays (apart op (idle ▸ pending))
  · rw [waits, Multiset.mem_cons] at pending
    rcases pending with rfl | there
    · rw [waits, Multiset.erase_cons_head]
      exact apart
    · exact absurd relays (apart op there)

/-- A write fails. -/
theorem Intact.cut_of_failure (intact : Intact source session)
    (pending : .write source size ∈ session.pending) (isError : completion.ec.isError = true) :
    Cut source size (session.after (.write source size) completion) := by
  have fails : (Op.write source size).succeeds completion = false := by
    simp [Op.succeeds, isError]
  have events : laneEvents source (session.after (.write source size) completion).history =
      laneEvents source session.history := by
    rw [Session.laneEvents_after]
    simp [laneEvent, isError]
  obtain ⟨inFlight, -, conserved, -, writing⟩ := intact.conserved
  refine ⟨Session.leaves_after fails, idle_of_failure fails ?_, ?_⟩
  · exact intact.idle_of_erase (.inr ⟨size, rfl⟩) pending
  · rw [chunksRead, chunksDelivered, events, buffer_of_not_read (by simp)]
    exact writing size pending ▸ conserved

/-- What has come to an end stays so. -/
theorem Cut.after (cut : Cut source size session) (stage : session.Stage)
    (pending : op ∈ session.pending) : Cut source size (session.after op completion) := by
  have apart := cut.idle op pending
  have idle : ∀ op' ∈ session.pending.erase op, ¬ op'.Relays source :=
    fun op' member => cut.idle op' (Multiset.mem_of_mem_erase member)
  have events : laneEvents source (session.after op completion).history =
      laneEvents source session.history := by
    rw [Session.laneEvents_after, laneEvent_of_not_relays apart]
    exact List.append_nil _
  constructor
  · rw [Session.history_after]
    exact List.mem_append_left _ cut.left
  · cases goesOn : op.succeeds completion with
    | false => exact idle_of_failure goesOn idle
    | true =>
        intro op' member
        rw [Session.pending_after, goesOn, if_pos rfl, Multiset.mem_add] at member
        rcases member with follows | old
        · exact not_relays_followers (stage.not_isSetup cut.left pending) apart op' follows
        · exact idle op' old
  · rw [chunksRead, chunksDelivered, events, buffer_of_not_read fun same => apart (.inl same)]
    exact cut.whole

theorem halted_after (stage : session.Stage) (halted : Halted source session)
    (pending : op ∈ session.pending) : Halted source (session.after op completion) := by
  intro size failed
  obtain before | ⟨rfl, isError⟩ := failedWrite_after failed
  · exact (halted size before).after stage pending
  · exact (intact_of_stage stage source).cut_of_failure pending isError

theorem halted_of_reachable (reachable : session.Reachable) (source : Sock) :
    Halted source session := by
  induction reachable with
  | made => exact fun size failed => absurd failed (not_failedWrite_of_silent rfl)
  | accepted remoteHost remoteService =>
      rintro size ⟨ec, bytes, -, member⟩
      simp [Session.accepted, Session.setOpen, Session.record, Session.doResolve, Session.initiate]
        at member
  | after op completion earlier pending halted =>
      exact halted_after (Session.stage_of_reachable earlier) halted pending

end

end Tunnel

/-- In every run of a tunnel server, each direction of each session is intact. -/
theorem tunnel_relay_integrity {server : Tunnel.Server} (reachable : Tunnel.Reachable server)
    (id : Nat) (source : Tunnel.Sock) : Tunnel.Intact source (server.sessions id) :=
  Tunnel.intact_of_stage
    (Tunnel.Session.stage_of_reachable ((Tunnel.session_reachable reachable).2 id)) source

/-! ### A run -/

namespace Tunnel.Sample

/-- The error code of an end of stream. -/
def eof : ErrorCode := ⟨2⟩

/-- The first session is connected, and both directions wait for a read. -/
def connected : List Event :=
  [.accepted .success,
    .complete 1 (.resolve (ascii "h") (ascii "443")) (.succeeded []),
    .complete 1 .connect (.succeeded []),
    .complete 1 .handshake (.succeeded [])]

/-- A chunk is being written to the remote when the remote ends; then the write completes all the
    same. -/
def lateWrite : List Event :=
  connected ++
    [.complete 1 (.read .localSock) (.succeeded [1, 2, 3]),
      .complete 1 (.read .remoteSock) { ec := eof },
      .complete 1 (.write .localSock 3) (.succeeded [])]

end Tunnel.Sample

/-- After `Tunnel.Sample.lateWrite` the session has left, and goes on with the direction that has
    not failed. -/
theorem tunnel_relay_integrity_sample :
    .leave ∈ ((Tunnel.Server.play (ascii "h") (ascii "443") Tunnel.Sample.lateWrite).sessions
        1).history ∧
      Tunnel.chunksDelivered .localSock ((Tunnel.Server.play (ascii "h") (ascii "443")
        Tunnel.Sample.lateWrite).sessions 1).history = [[1, 2, 3]] ∧
      .read .localSock ∈ ((Tunnel.Server.play (ascii "h") (ascii "443")
        Tunnel.Sample.lateWrite).sessions 1).pending ∧
      Tunnel.Intact .localSock ((Tunnel.Server.play (ascii "h") (ascii "443")
        Tunnel.Sample.lateWrite).sessions 1) :=
  ⟨by decide, by decide, by decide,
    tunnel_relay_integrity (Tunnel.Server.reachable_play _ _ _) 1 .localSock⟩

end AmgiNetTools
