/-
Module: AmgiNetTools.Tunnel.Stages
Layer: Tunnel
Purpose: What a session waits for, from its start to its last completion: one operation while it is
  set up; then one for each direction; and after the first failure those of the TLS close, next to
  the directions that have not failed themselves. A direction is a lane with one buffer, whether the
  session has left or not.
Main exports: Tunnel.laneEvents, Tunnel.Session.Stage, Tunnel.Session.stage_of_reachable
-/
import AmgiNetTools.Library.Lane
import AmgiNetTools.Tunnel.Course

namespace AmgiNetTools.Tunnel

/-! ### Directions -/

/-- A line of the history as an event of the direction that reads from `source`: a chunk that was
    read, or one whose write completed. -/
def laneEvent (source : Sock) : Happening → Option (Lane.Event IoBuffer)
  | .completed (.read sock) ec bytes =>
      if sock = source ∧ ec.isError = false ∧ bytes ≠ [] then some (.received bytes) else none
  | .completed (.write sock _) ec bytes =>
      if sock = source ∧ ec.isError = false then some (.delivered bytes) else none
  | _ => none

/-- The events of one direction, in order. -/
def laneEvents (source : Sock) (history : List Happening) : List (Lane.Event IoBuffer) :=
  history.filterMap (laneEvent source)

/-- The operation a direction waits for. -/
def laneOp (source : Sock) : Lane IoBuffer → Op
  | .reading => .read source
  | .writing chunk => .write source chunk.length

/-- What one direction waits for: its operation, or nothing when it has failed. -/
def laneOps (lane : Sock → Lane IoBuffer) (active : Sock → Bool) (source : Sock) : Multiset Op :=
  if active source then {laneOp source (lane source)} else 0

/-- What both directions wait for. -/
def relayOps (lane : Sock → Lane IoBuffer) (active : Sock → Bool) : Multiset Op :=
  laneOps lane active .localSock + laneOps lane active .remoteSock

section

variable {lane : Sock → Lane IoBuffer} {active : Sock → Bool} {source : Sock} {op : Op}

/-- A relay operation is that of its direction. -/
theorem eq_laneOp_of_mem (member : op ∈ relayOps lane active) :
    ∃ source, active source = true ∧ op = laneOp source (lane source) := by
  rcases Multiset.mem_add.mp member with here | here
  · cases isActive : active .localSock with
    | true => exact ⟨.localSock, isActive, by simpa [laneOps, isActive] using here⟩
    | false => simp [laneOps, isActive] at here
  · cases isActive : active .remoteSock with
    | true => exact ⟨.remoteSock, isActive, by simpa [laneOps, isActive] using here⟩
    | false => simp [laneOps, isActive] at here

/-- What a direction that has not failed waits for. -/
theorem laneOp_mem (isActive : active source = true) :
    laneOp source (lane source) ∈ relayOps lane active := by
  cases source with
  | localSock => exact Multiset.mem_add.mpr (.inl (by simp [laneOps, isActive]))
  | remoteSock => exact Multiset.mem_add.mpr (.inr (by simp [laneOps, isActive]))

/-- A direction that waits for something else from now on. -/
theorem relayOps_erase (isActive : active source = true) (lane' : Lane IoBuffer) :
    {laneOp source lane'} + (relayOps lane active).erase (laneOp source (lane source)) =
      relayOps (Function.update lane source lane') active := by
  cases source with
  | localSock => simp [relayOps, laneOps, isActive]
  | remoteSock =>
      have last : (relayOps lane active).erase (laneOp .remoteSock (lane .remoteSock)) =
          laneOps lane active .localSock := by
        rw [relayOps, Multiset.add_comm, laneOps, if_pos isActive, Multiset.singleton_add,
          Multiset.erase_cons_head]
      rw [last, Multiset.add_comm]
      simp [relayOps, laneOps, isActive]

/-- A direction that waits for nothing from now on. -/
theorem relayOps_stop (isActive : active source = true) (lane' : Lane IoBuffer) :
    (relayOps lane active).erase (laneOp source (lane source)) =
      relayOps (Function.update lane source lane') (Function.update active source false) := by
  cases source with
  | localSock => simp [relayOps, laneOps, isActive]
  | remoteSock =>
      rw [relayOps, Multiset.add_comm, laneOps, if_pos isActive, Multiset.singleton_add,
        Multiset.erase_cons_head]
      simp [relayOps, laneOps]

end

/-! ### Stages -/

namespace Session

/-- A session that relays, or what is left of one: where each direction is as a lane, which
    directions have not failed, and what is outstanding of the TLS close. -/
structure Relaying (session : Session) (lane : Sock → Lane IoBuffer) (active : Sock → Bool)
    (closing : Multiset Op) : Prop where
  waits : session.pending = relayOps lane active + closing
  closers : ∀ op ∈ closing, op.IsClosing
  runs (source : Sock) : Lane.run (laneEvents source session.history) = some (lane source)
  buffered (source : Sock) (chunk : IoBuffer) : lane source = .writing chunk →
    chunk ≠ [] ∧ (session.buffer source).take chunk.length = chunk
  running : .leave ∉ session.history → closing = 0 ∧ active = fun _ => true

/-- Where a session is. -/
inductive Stage (session : Session) : Prop where
  /-- It has not been accepted. -/
  | made (idle : session.pending = 0) (silent : session.history = [])
  /-- It is being connected. -/
  | setup (op : Op) (isSetup : op.IsSetup) (waits : session.pending = {op})
      (stays : .leave ∉ session.history)
      (silent : ∀ source, laneEvents source session.history = [])
  | relay (lane : Sock → Lane IoBuffer) (active : Sock → Bool) (closing : Multiset Op)
      (relaying : session.Relaying lane active closing)

variable {session : Session} {op : Op} {completion : Completion} {source : Sock}

theorem laneEvents_after : laneEvents source (session.after op completion).history =
    laneEvents source session.history ++
      (laneEvent source (.completed op completion.ec (session.moved op completion))).toList := by
  have quiet : ∀ isOpen : Bool,
      laneEvents source (.leave :: if isOpen then [Happening.close] else []) = [] := by
    intro isOpen
    cases isOpen <;> rfl
  rw [history_after, laneEvents, List.filterMap_append, ← laneEvents, List.filterMap_cons]
  congr 1
  cases goesOn : op.succeeds completion with
  | true =>
      cases laneEvent source (.completed op completion.ec (session.moved op completion)) <;> rfl
  | false =>
      have rest := quiet ((session.retire op completion).isOpen .remoteSock)
      rw [laneEvents] at rest
      simp only [Bool.false_eq_true, if_false, rest]
      cases laneEvent source (.completed op completion.ec (session.moved op completion)) <;> rfl

/-- No operation but a read touches the buffers. -/
theorem buffer_retire (other : ∀ source, op ≠ .read source) :
    (session.retire op completion).buffer = session.buffer := by
  cases op with
  | read source => exact absurd rfl (other source)
  | _ => rfl

theorem laneEvent_setup (isSetup : op.IsSetup) (ec : ErrorCode) (bytes : IoBuffer) :
    laneEvent source (.completed op ec bytes) = none := by
  cases op with
  | read | write | shutdown | nullWrite => cases isSetup
  | _ => rfl

/-- Nothing but a failure makes a session leave. -/
theorem stays_after (goesOn : op.succeeds completion = true) :
    .leave ∈ (session.after op completion).history ↔ .leave ∈ session.history := by
  rw [history_after, goesOn, if_pos rfl, List.mem_append]
  simp

theorem leaves_after (fails : op.succeeds completion = false) :
    .leave ∈ (session.after op completion).history := by
  rw [history_after, fails]
  simp

/-- What a session waits for after a failure. -/
theorem pending_of_failure (fails : op.succeeds completion = false) :
    ∃ closing : Multiset Op, (∀ op ∈ closing, op.IsClosing) ∧
      (session.after op completion).pending = closing + session.pending.erase op := by
  rw [pending_after, fails, if_neg Bool.false_ne_true]
  cases (session.retire op completion).isOpen .remoteSock with
  | true =>
      refine ⟨{.nullWrite, .shutdown}, fun op member => ?_, rfl⟩
      rw [Multiset.insert_eq_cons, Multiset.mem_cons, Multiset.mem_singleton] at member
      exact member.symm
  | false => exact ⟨0, by simp, rfl⟩

/-! ### The stage after a completion -/

/-- The next operation of the setup, or the relay. -/
theorem stage_of_setup (isSetup : op.IsSetup) (waits : session.pending = {op})
    (stays : .leave ∉ session.history)
    (silent : ∀ source, laneEvents source session.history = []) :
    (session.after op completion).Stage := by
  have silent' (source : Sock) : laneEvents source (session.after op completion).history = [] := by
    rw [laneEvents_after, silent source, laneEvent_setup isSetup]
    rfl
  have runs (source : Sock) :
      Lane.run (laneEvents source (session.after op completion).history) = some .reading := by
    rw [silent' source]
    rfl
  have done : session.pending.erase op = 0 := by
    rw [waits, Multiset.erase_singleton]
  cases goesOn : op.succeeds completion with
  | true =>
      have stays' : .leave ∉ (session.after op completion).history := by
        rw [stays_after goesOn]
        exact stays
      have waits' := @pending_after session op completion
      rw [goesOn, if_pos rfl, done, Multiset.add_zero] at waits'
      cases op with
      | resolve => exact .setup .connect trivial waits' stays' silent'
      | connect => exact .setup .handshake trivial waits' stays' silent'
      | handshake =>
          refine .relay (fun _ => .reading) (fun _ => true) 0 ⟨?_, by simp, runs, by simp, by simp⟩
          rw [waits', Multiset.add_zero]
          exact Multiset.cons_swap _ _ 0
      | _ => cases isSetup
  | false =>
      obtain ⟨closing, closers, waits'⟩ := @pending_of_failure session op completion goesOn
      refine .relay (fun _ => .reading) (fun _ => false) closing ⟨?_, closers, runs, by simp, ?_⟩
      · rw [waits', done, Multiset.add_zero]
        exact (Multiset.zero_add closing).symm
      · intro stays'
        exact absurd (leaves_after goesOn) stays'

namespace Relaying

variable {lane : Sock → Lane IoBuffer} {active : Sock → Bool} {closing : Multiset Op}

/-- What is outstanding when a direction goes on. -/
theorem pending_of_advance (relaying : session.Relaying lane active closing)
    (isActive : active source = true) (goesOn : op.succeeds completion = true)
    (own : op = laneOp source (lane source)) {lane' : Lane IoBuffer}
    (next : op.followers completion = {laneOp source lane'}) :
    (session.after op completion).pending =
      relayOps (Function.update lane source lane') active + closing := by
  rw [pending_after, goesOn, if_pos rfl, relaying.waits, next, own,
    Multiset.erase_add_left_pos _ (laneOp_mem isActive), ← Multiset.add_assoc,
    relayOps_erase isActive]

/-- A direction that fails has no event. -/
theorem laneEvent_of_failure (relaying : session.Relaying lane active closing)
    (own : op = laneOp source (lane source)) (fails : op.succeeds completion = false)
    (source' : Sock) :
    laneEvent source' (.completed op completion.ec (session.moved op completion)) = none := by
  cases at_ : lane source with
  | reading =>
      rw [own, at_] at fails ⊢
      cases failed : completion.ec.isError with
      | true => simp [laneEvent, laneOp, failed]
      | false =>
          have nothing : completion.bytes = [] := by
            simpa [laneOp, Op.succeeds, failed] using fails
          simp [laneEvent, laneOp, Session.moved, failed, nothing]
  | writing chunk =>
      have some_ := (relaying.buffered source chunk at_).1
      rw [own, at_] at fails ⊢
      have failed : completion.ec.isError = true := by
        simpa [laneOp, Op.succeeds, List.length_pos_iff, some_] using fails
      simp [laneEvent, laneOp, failed]

/-- A chunk that is being written stays in its buffer. -/
theorem buffer_of_writing {source' : Sock} {chunk : IoBuffer}
    (own : op = laneOp source (lane source)) (writing : lane source' = .writing chunk) :
    (session.after op completion).buffer source' = session.buffer source' := by
  rw [buffer_after]
  cases at_ : lane source with
  | reading =>
      have other : source' ≠ source := by
        rintro rfl
        cases at_.symm.trans writing
      rw [own, at_]
      simp only [laneOp, Session.retire, Function.update_of_ne other]
  | writing chunk => rw [own, at_, buffer_retire (by simp [laneOp])]

/-- The lanes after an event of one of them. -/
theorem runs_after (relaying : session.Relaying lane active closing) {lane' : Lane IoBuffer}
    (others : ∀ source', source' ≠ source →
      laneEvent source' (.completed op completion.ec (session.moved op completion)) = none)
    (run : Lane.run (laneEvents source session.history ++
      (laneEvent source (.completed op completion.ec (session.moved op completion))).toList) =
        some lane') (source' : Sock) :
    Lane.run (laneEvents source' (session.after op completion).history) =
      some (Function.update lane source lane' source') := by
  by_cases same : source' = source
  · subst same
    rw [laneEvents_after, run, Function.update_self]
  · rw [laneEvents_after, others source' same, Function.update_of_ne same, ← relaying.runs source']
    simp

/-- The chunks being written after one direction has gone on. -/
theorem buffered_after (relaying : session.Relaying lane active closing)
    (own : op = laneOp source (lane source)) {lane' : Lane IoBuffer}
    (next : ∀ chunk, lane' = .writing chunk →
      chunk ≠ [] ∧ ((session.after op completion).buffer source).take chunk.length = chunk)
    (source' : Sock) (chunk : IoBuffer)
    (writing : Function.update lane source lane' source' = .writing chunk) :
    chunk ≠ [] ∧ ((session.after op completion).buffer source').take chunk.length = chunk := by
  by_cases same : source' = source
  · subst same
    rw [Function.update_self] at writing
    exact next chunk writing
  · rw [Function.update_of_ne same] at writing
    rw [buffer_of_writing own writing]
    exact relaying.buffered source' chunk writing

/-- A direction has read a chunk, and writes it now. -/
theorem receive (relaying : session.Relaying lane active closing) (isActive : active source = true)
    (reading : lane source = .reading) (goesOn : (Op.read source).succeeds completion = true) :
    (session.after (.read source) completion).Relaying
      (Function.update lane source (.writing completion.bytes)) active closing := by
  have succeeded : completion.ec.isError = false ∧ completion.bytes ≠ [] := by
    simpa [Op.succeeds, List.length_pos_iff] using goesOn
  have moved : session.moved (.read source) completion = completion.bytes := by
    simp [Session.moved, succeeded.1]
  have own : Op.read source = laneOp source (lane source) := by
    rw [reading]
    rfl
  constructor
  · exact relaying.pending_of_advance isActive goesOn own rfl
  · exact relaying.closers
  · refine relaying.runs_after ?_ ?_
    · intro source' other
      simp [laneEvent, other.symm]
    · rw [moved]
      simp only [laneEvent, succeeded.1, ne_eq, succeeded.2, not_false_eq_true, and_self, if_true,
        Option.toList_some]
      exact Lane.run_receive ((relaying.runs source).trans (congrArg some reading)) _
  · refine relaying.buffered_after own ?_
    intro chunk writing
    cases writing
    simp only [buffer_after, Session.retire, Function.update_self]
    exact ⟨succeeded.2, take_copyInto completion.bytes _⟩
  · rw [stays_after goesOn]
    exact relaying.running

/-- A direction has written its chunk, and reads the next. -/
theorem deliver (relaying : session.Relaying lane active closing) {chunk : IoBuffer}
    (isActive : active source = true) (writing : lane source = .writing chunk)
    (goesOn : (Op.write source chunk.length).succeeds completion = true) :
    (session.after (.write source chunk.length) completion).Relaying
      (Function.update lane source .reading) active closing := by
  have succeeded : completion.ec.isError = false := by
    simp only [Op.succeeds, Bool.and_eq_true, Bool.not_eq_true'] at goesOn
    exact goesOn.1
  have moved : session.moved (.write source chunk.length) completion = chunk := by
    simp [Session.moved, succeeded, (relaying.buffered source chunk writing).2]
  have own : Op.write source chunk.length = laneOp source (lane source) := by
    rw [writing]
    rfl
  constructor
  · exact relaying.pending_of_advance isActive goesOn own rfl
  · exact relaying.closers
  · refine relaying.runs_after ?_ ?_
    · intro source' other
      simp [laneEvent, other.symm]
    · rw [moved]
      simp only [laneEvent, succeeded, and_self, if_true, Option.toList_some]
      exact Lane.run_deliver ((relaying.runs source).trans (congrArg some writing))
  · refine relaying.buffered_after own ?_
    intro chunk' reading
    cases reading
  · rw [stays_after goesOn]
    exact relaying.running

/-- A direction fails, and waits for nothing from now on. -/
theorem fail (relaying : session.Relaying lane active closing) (isActive : active source = true)
    (own : op = laneOp source (lane source)) (fails : op.succeeds completion = false) :
    ∃ closing', (session.after op completion).Relaying lane
      (Function.update active source false) closing' := by
  obtain ⟨more, closers, waits⟩ := @pending_of_failure session op completion fails
  refine ⟨more + closing, ?_, ?_, ?_, ?_, ?_⟩
  · rw [waits, relaying.waits, own, Multiset.erase_add_left_pos _ (laneOp_mem isActive),
      relayOps_stop isActive (lane source), Function.update_eq_self, ← Multiset.add_assoc,
      Multiset.add_comm more, Multiset.add_assoc]
  · intro op member
    rcases Multiset.mem_add.mp member with new | old
    · exact closers op new
    · exact relaying.closers op old
  · intro source'
    rw [laneEvents_after, relaying.laneEvent_of_failure own fails source', ← relaying.runs source']
    simp
  · intro source' chunk writing
    rw [buffer_of_writing own writing]
    exact relaying.buffered source' chunk writing
  · intro stays
    exact absurd (leaves_after fails) stays

/-- An operation of the TLS close completes. -/
theorem shut (relaying : session.Relaying lane active closing) (member : op ∈ closing) :
    (session.after op completion).Relaying lane active (closing.erase op) := by
  have isClosing := relaying.closers op member
  have goesOn : op.succeeds completion = true := by rcases isClosing with rfl | rfl <;> rfl
  have quiet (source : Sock) :
      laneEvent source (.completed op completion.ec (session.moved op completion)) = none := by
    rcases isClosing with rfl | rfl <;> rfl
  have nothing : op.followers completion = 0 := by rcases isClosing with rfl | rfl <;> rfl
  constructor
  · rw [pending_after, goesOn, if_pos rfl, nothing, Multiset.zero_add, relaying.waits,
      Multiset.erase_add_right_pos _ member]
  · intro op' member'
    exact relaying.closers op' (Multiset.mem_of_mem_erase member')
  · intro source
    rw [laneEvents_after, quiet source, ← relaying.runs source]
    simp
  · intro source chunk writing
    rw [buffer_after, buffer_retire (by rcases isClosing with rfl | rfl <;> simp)]
    exact relaying.buffered source chunk writing
  · intro stays
    rw [stays_after goesOn] at stays
    rw [(relaying.running stays).1] at member
    simp at member

end Relaying

/-- Each completion leads from a stage to a stage. -/
theorem stage_after (stage : session.Stage) (pending : op ∈ session.pending) :
    (session.after op completion).Stage := by
  cases stage with
  | made idle => simp [idle] at pending
  | setup op' isSetup waits stays silent =>
      rw [waits, Multiset.mem_singleton] at pending
      subst pending
      exact stage_of_setup isSetup waits stays silent
  | relay lane active closing relaying =>
      rw [relaying.waits, Multiset.mem_add] at pending
      rcases pending with relayed | closes
      · obtain ⟨source, isActive, own⟩ := eq_laneOp_of_mem relayed
        cases goesOn : op.succeeds completion with
        | false =>
            obtain ⟨closing', failed⟩ := relaying.fail isActive own goesOn
            exact .relay _ _ _ failed
        | true =>
            cases at_ : lane source with
            | reading =>
                rw [own, at_] at goesOn ⊢
                exact .relay _ _ _ (relaying.receive isActive at_ goesOn)
            | writing chunk =>
                rw [own, at_] at goesOn ⊢
                exact .relay _ _ _ (relaying.deliver isActive at_ goesOn)
      · exact .relay _ _ _ (relaying.shut closes)

theorem stage_of_reachable (reachable : session.Reachable) : session.Stage := by
  induction reachable with
  | made => exact .made rfl rfl
  | accepted remoteHost remoteService =>
      refine .setup (.resolve remoteHost remoteService) trivial rfl ?_ ?_
      · simp [accepted, setOpen, record, doResolve, initiate]
      · intro source
        rfl
  | after op completion _ pending stage => exact stage_after stage pending

end Session

end AmgiNetTools.Tunnel
