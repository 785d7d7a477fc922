/-
Module: AmgiNetTools.Session.Relay
Layer: Session
Purpose: The data transfer both protocols end in. Each direction reads a chunk from its source,
  writes it to its destination, and reads again, so it is a lane with one slot; the two directions
  interleave freely. A `Relay` carries the history of a transfer together with the proof that it is
  one, and a session in data transfer mode goes from one relay to the next until an error stops it.
Main exports: Side.opposite, laneEvents, chunksRead, chunksDelivered, Relays, Relay,
  Relay.conservation, Relay.relay_complete
-/
import AmgiNetTools.Library.Lane
import AmgiNetTools.Session.Conversation

namespace AmgiNetTools

variable {μ : Type}

/-! ### The two directions -/

namespace Side

def opposite : Side → Side
  | server => client
  | client => server

@[simp] theorem opposite_opposite (side : Side) : side.opposite.opposite = side := by
  cases side <;> rfl

theorem opposite_ne (side : Side) : side.opposite ≠ side := by
  cases side <;> simp [opposite]

/-- The request to read from one end. -/
def read : Side → Request
  | server => .readServer
  | client => .readClient

/-- The request to write to one end. -/
def write (buffer : IoBuffer) : Side → Request
  | server => .writeServer buffer
  | client => .writeClient buffer

/-- The event that reports a read of one end. -/
def readEvent (buffer : Received) : Side → SessionEvent
  | server => .serverRead buffer
  | client => .clientRead buffer.bytes

/-- The event that reports a write to one end. -/
def writeEvent : Side → SessionEvent
  | server => .serverWrite []
  | client => .clientWrite []

/-- The event that reports an error of one end. -/
def errorEvent (ec : ErrorCode) : Side → SessionEvent
  | server => .serverError ec
  | client => .clientError ec

@[simp] theorem task_read (side : Side) : side.read.task = (side, .read) := by
  cases side <;> rfl

@[simp] theorem task_write (side : Side) (buffer : IoBuffer) :
    (side.write buffer).task = (side, .write buffer) := by
  cases side <;> rfl

@[simp] theorem calls_read (side : Side) : side.read.calls = [(side, .read)] := by
  cases side <;> rfl

@[simp] theorem calls_write (side : Side) (buffer : IoBuffer) :
    (side.write buffer).calls = [(side, .write buffer)] := by
  cases side <;> rfl

/-- A read is reported as such, or as an error. -/
theorem upshot_read (side : Side) (completion : Completion) :
    (completion.ec.isError = false ∧
      side.upshot .read completion = .report (side.readEvent completion.buffer)) ∨
    side.upshot .read completion = .report (side.errorEvent completion.ec) := by
  cases side with
  | server =>
      cases failed : completion.ec.isError with
      | false => exact .inl ⟨rfl, by simp [upshot, failed, readEvent]⟩
      | true => exact .inr (by simp [upshot, failed, errorEvent])
  | client =>
      cases good : !completion.ec.isError && completion.buffer.size != 0 with
      | false => exact .inr (by simp only [upshot, good]; rfl)
      | true =>
          refine .inl ⟨?_, by simp only [upshot, good]; rfl⟩
          simp only [Bool.and_eq_true, Bool.not_eq_true'] at good
          exact good.1

theorem upshot_write (side : Side) (size : Nat) (completion : Completion) :
    (completion.ec.isError = false ∧
      side.upshot (.write size) completion = .report side.writeEvent) ∨
    side.upshot (.write size) completion = .report (side.errorEvent completion.ec) := by
  cases failed : completion.ec.isError with
  | false => exact .inl ⟨rfl, by cases side <;> simp [upshot, failed, writeEvent]⟩
  | true => exact .inr (by cases side <;> simp [upshot, failed, errorEvent])

end Side

/-- `update_bytes_sent_to_remote` for chunks from the server stream, `update_bytes_sent_to_local`
    for those from the client stream. -/
def SessionContext.count (source : Side) (size : Nat) (context : SessionContext) : SessionContext :=
  match source with
  | .server =>
      { context with
        transferredBytesToRemote := context.transferredBytesToRemote + UInt64.ofNat size }
  | .client =>
      { context with
        transferredBytesToLocal := context.transferredBytesToLocal + UInt64.ofNat size }

/-- A state of a protocol that relays: what is read at one end is written to the other, and what is
    written there is read again here; an error at either end stops the session. -/
structure Relays [ReactiveState μ] (mode : μ) : Prop where
  received (context : SessionContext) (source : Side) (buffer : Received) :
    ReactiveState.reaction ⟨context, mode⟩ (source.readEvent buffer) =
      .ok { requests := [source.opposite.write buffer.bytes]
            next := some ⟨context.count source buffer.size, mode⟩ }
  delivered (context : SessionContext) (source : Side) :
    ReactiveState.reaction ⟨context, mode⟩ source.opposite.writeEvent =
      .ok { requests := [source.read], next := some ⟨context, mode⟩ }
  failed (context : SessionContext) (side : Side) (ec : ErrorCode) :
    ReactiveState.reaction ⟨context, mode⟩ (side.errorEvent ec) = .ok .stop

/-! ### The history of a transfer -/

/-- A line of the history as an event of the direction that `source` is the source of: a chunk read
    from `source`, or written to the other end, while the session was in `mode`. -/
def laneEvent [DecidableEq μ] (mode : μ) (source : Side) :
    Side × Happening μ → Option (Lane.Event IoBuffer)
  | (side, .completed .read ec bytes (some found)) =>
      if side = source ∧ ec.isError = false ∧ found = mode then some (.received bytes) else none
  | (side, .completed (.write _) ec bytes (some found)) =>
      if side = source.opposite ∧ ec.isError = false ∧ found = mode then some (.delivered bytes)
      else none
  | _ => none

/-- The events of one direction, in order. -/
def laneEvents [DecidableEq μ] (mode : μ) (source : Side) (history : History μ) :
    List (Lane.Event IoBuffer) :=
  history.filterMap (laneEvent mode source)

/-- The chunks read from `source` in `mode`. -/
def chunksRead [DecidableEq μ] (mode : μ) (source : Side) (history : History μ) : List IoBuffer :=
  Lane.received (laneEvents mode source history)

/-- The chunks from `source` whose write to the other end completed in `mode`. -/
def chunksDelivered [DecidableEq μ] (mode : μ) (source : Side) (history : History μ) :
    List IoBuffer :=
  Lane.delivered (laneEvents mode source history)

namespace Relay

/-- The histories of a transfer, with what each direction is doing at their end. -/
inductive Trace (mode : μ) : (Side → Lane IoBuffer) → History μ → Prop where
  | start : Trace mode (fun _ => .reading) []
  | receive {lanes : Side → Lane IoBuffer} {history : History μ} (source : Side)
      (chunk : IoBuffer) :
      Trace mode lanes history → lanes source = .reading →
      Trace mode (Function.update lanes source (.writing chunk))
        (history ++ [(source, .completed .read .success chunk (some mode)),
          (source.opposite, .called (.write chunk))])
  | deliver {lanes : Side → Lane IoBuffer} {history : History μ} (source : Side)
      (chunk : IoBuffer) :
      Trace mode lanes history → lanes source = .writing chunk →
      Trace mode (Function.update lanes source .reading)
        (history ++ [(source.opposite, .completed (.write chunk.length) .success chunk (some mode)),
          (source, .called .read)])

end Relay

/-- A transfer so far. -/
structure Relay (mode : μ) where
  lanes : Side → Lane IoBuffer
  trace : History μ
  sound : Relay.Trace mode lanes trace

namespace Relay

variable {mode : μ}

/-- Both directions read. -/
def start (mode : μ) : Relay mode := ⟨fun _ => .reading, [], .start⟩

/-- A chunk was read, and is being written. -/
def receive (relay : Relay mode) (source : Side) (chunk : IoBuffer)
    (idle : relay.lanes source = .reading) : Relay mode :=
  ⟨_, _, relay.sound.receive source chunk idle⟩

/-- The chunk was written, and the next is being read. -/
def deliver (relay : Relay mode) (source : Side) (chunk : IoBuffer)
    (busy : relay.lanes source = .writing chunk) : Relay mode :=
  ⟨_, _, relay.sound.deliver source chunk busy⟩

/-- What one direction waits for. -/
def laneTask (source : Side) : Lane IoBuffer → Side × Task
  | .reading => (source, .read)
  | .writing chunk => (source.opposite, .write chunk)

/-- What a transfer waits for: one operation for each direction. -/
def tasks (relay : Relay mode) : Multiset (Side × Task) :=
  laneTask .server (relay.lanes .server) ::ₘ {laneTask .client (relay.lanes .client)}

theorem tasks_eq (relay : Relay mode) (source : Side) :
    relay.tasks = laneTask source (relay.lanes source) ::ₘ
      {laneTask source.opposite (relay.lanes source.opposite)} := by
  cases source with
  | server => rfl
  | client => exact Multiset.cons_swap _ _ 0

/-- A task of a transfer is that of one direction. -/
theorem exists_laneTask (relay : Relay mode) {side : Side} {task : Task}
    (member : (side, task) ∈ relay.tasks) :
    ∃ source, (side, task) = laneTask source (relay.lanes source) := by
  rw [tasks, Multiset.mem_cons, Multiset.mem_singleton] at member
  rcases member with here | there
  · exact ⟨.server, here⟩
  · exact ⟨.client, there⟩

/-! ### Conservation -/

section

variable [DecidableEq μ]

theorem laneEvents_append (mode : μ) (source : Side) (first second : History μ) :
    laneEvents mode source (first ++ second) =
      laneEvents mode source first ++ laneEvents mode source second :=
  List.filterMap_append

theorem chunksRead_append (mode : μ) (source : Side) (first second : History μ) :
    chunksRead mode source (first ++ second) =
      chunksRead mode source first ++ chunksRead mode source second := by
  simp [chunksRead, laneEvents_append, Lane.received]

/-- What is read is what the completions of reads say. -/
theorem mem_chunksRead {mode : μ} {source : Side} {history : History μ} {chunk : IoBuffer} :
    chunk ∈ chunksRead mode source history ↔
      (source, .completed .read .success chunk (some mode)) ∈ history := by
  simp only [chunksRead, laneEvents, Lane.received, List.mem_filterMap]
  constructor
  · rintro ⟨event, ⟨line, member, isEvent⟩, isChunk⟩
    unfold laneEvent at isEvent
    split at isEvent
    · next side ec bytes found =>
        split at isEvent
        · next is =>
            obtain ⟨rfl, succeeded, rfl⟩ := is
            cases isEvent
            cases isChunk
            exact ErrorCode.eq_success succeeded ▸ member
        · cases isEvent
    · split at isEvent
      · cases isEvent
        cases isChunk
      · cases isEvent
    · cases isEvent
  · intro member
    exact ⟨.received chunk, ⟨_, member, by simp [laneEvent]⟩, rfl⟩

theorem laneEvents_receive (source side : Side) (chunk : IoBuffer) :
    laneEvents mode side [(source, .completed .read .success chunk (some mode)),
        (source.opposite, .called (.write chunk))] =
      if source = side then [.received chunk] else [] := by
  by_cases same : source = side <;> simp [laneEvents, laneEvent, same]

theorem laneEvents_deliver (source side : Side) (chunk : IoBuffer) :
    laneEvents mode side
        [(source.opposite, .completed (.write chunk.length) .success chunk (some mode)),
          (source, .called .read)] =
      if source = side then [.delivered chunk] else [] := by
  have ends : source.opposite = side.opposite ↔ source = side := by
    cases source <;> cases side <;> simp [Side.opposite]
  by_cases same : source = side <;> simp [laneEvents, laneEvent, same, ends]

theorem chunksRead_receiveLines (source side : Side) (chunk : IoBuffer) :
    chunksRead mode side [(source, .completed .read .success chunk (some mode)),
        (source.opposite, .called (.write chunk))] = if source = side then [chunk] else [] := by
  rw [chunksRead, laneEvents_receive]
  by_cases same : source = side <;> simp [same, Lane.received]

theorem chunksRead_deliverLines (source side : Side) (chunk : IoBuffer) :
    chunksRead mode side
        [(source.opposite, .completed (.write chunk.length) .success chunk (some mode)),
          (source, .called .read)] = [] := by
  rw [chunksRead, laneEvents_deliver]
  by_cases same : source = side <;> simp [same, Lane.received]

/-- Each direction of a transfer is a lane. -/
theorem lane_run (relay : Relay mode) (source : Side) :
    Lane.run (laneEvents mode source relay.trace) = some (relay.lanes source) := by
  obtain ⟨lanes, trace, sound⟩ := relay
  dsimp only
  induction sound with
  | start => rfl
  | @receive lanes history source' chunk _ idle ih =>
      rw [laneEvents_append, laneEvents_receive]
      by_cases same : source' = source
      · subst same
        simpa using Lane.run_receive (ih.trans (congrArg some idle)) chunk
      · simpa [same, Function.update_of_ne (Ne.symm same)] using ih
  | @deliver lanes history source' chunk _ busy ih =>
      rw [laneEvents_append, laneEvents_deliver]
      by_cases same : source' = source
      · subst same
        simpa using Lane.run_deliver (ih.trans (congrArg some busy))
      · simpa [same, Function.update_of_ne (Ne.symm same)] using ih

/-- The chunks read are those delivered and then the one in flight. -/
theorem conservation (relay : Relay mode) (source : Side) :
    chunksRead mode source relay.trace =
      chunksDelivered mode source relay.trace ++ (relay.lanes source).inFlight :=
  Lane.conservation (relay.lane_run source)

omit [DecidableEq μ] in
/-- A direction that waits for a read has delivered everything. -/
theorem inFlight_eq_nil {relay : Relay mode} {source : Side}
    (reads : (source, .read) ∈ relay.tasks) : (relay.lanes source).inFlight = [] := by
  cases lane : relay.lanes source with
  | reading => rfl
  | writing chunk =>
      rw [relay.tasks_eq source, lane, Multiset.mem_cons, Multiset.mem_singleton] at reads
      rcases reads with here | there
      · simp [laneTask] at here
      · cases other : relay.lanes source.opposite <;> rw [other] at there
        · exact absurd (congrArg Prod.fst there).symm source.opposite_ne
        · simp [laneTask] at there

omit [DecidableEq μ] in
/-- The reads of a transfer have all succeeded. -/
theorem reads_succeed (relay : Relay mode) {side : Side} {ec : ErrorCode} {bytes : IoBuffer}
    {found : Option μ} (member : (side, .completed .read ec bytes found) ∈ relay.trace) :
    ec = .success := by
  obtain ⟨lanes, trace, sound⟩ := relay
  dsimp only at member
  induction sound with
  | start => cases member
  | receive source chunk _ idle ih =>
      rcases List.mem_append.mp member with member | member
      · exact ih member
      · simp at member
        exact member.2.1
  | deliver source chunk _ busy ih =>
      rcases List.mem_append.mp member with member | member
      · exact ih member
      · simp at member

omit [DecidableEq μ] in
/-- The lines of a transfer: reads and writes of both ends, and their completions. -/
theorem line_cases (relay : Relay mode) {line : Side × Happening μ} (member : line ∈ relay.trace) :
    (∃ side op bytes, line = (side, .completed op .success bytes (some mode))) ∨
      (∃ side, line = (side, .called .read)) ∨
      ∃ side chunk, line = (side, .called (.write chunk)) := by
  obtain ⟨lanes, trace, sound⟩ := relay
  dsimp only at member
  induction sound with
  | start => cases member
  | receive source chunk _ idle ih =>
      rcases List.mem_append.mp member with member | member
      · exact ih member
      · simp only [List.mem_cons, List.not_mem_nil, or_false] at member
        rcases member with rfl | rfl
        · exact .inl ⟨_, _, _, rfl⟩
        · exact .inr (.inr ⟨_, _, rfl⟩)
  | deliver source chunk _ busy ih =>
      rcases List.mem_append.mp member with member | member
      · exact ih member
      · simp only [List.mem_cons, List.not_mem_nil, or_false] at member
        rcases member with rfl | rfl
        · exact .inl ⟨_, _, _, rfl⟩
        · exact .inr (.inl ⟨_, rfl⟩)

/-- What is written to an end is what was read from the other. -/
theorem writes_opposite (relay : Relay mode) (source : Side) :
    writes source.opposite relay.trace = chunksRead mode source relay.trace := by
  obtain ⟨lanes, trace, sound⟩ := relay
  dsimp only
  induction sound with
  | start => rfl
  | receive source' chunk _ idle ih =>
      have ends : source'.opposite = source.opposite ↔ source' = source := by
        cases source <;> cases source' <;> simp [Side.opposite]
      rw [writes_append, chunksRead_append, ih, chunksRead_receiveLines]
      simp [ends]
  | deliver source' chunk _ busy ih =>
      rw [writes_append, chunksRead_append, ih, chunksRead_deliverLines]
      rfl

/-! ### Counters -/

/-- The number of bytes read from `source`, as the session counts them. -/
def count (relay : Relay mode) (source : Side) : UInt64 :=
  UInt64.ofNat (chunksRead mode source relay.trace).flatten.length

/-- The context of a session that entered the transfer with `context`. -/
def context (relay : Relay mode) (context : SessionContext) : SessionContext :=
  { context with
    transferredBytesToRemote := relay.count .server
    transferredBytesToLocal := relay.count .client }

theorem chunksRead_receive {relay : Relay mode} {source : Side} {chunk : IoBuffer}
    {idle : relay.lanes source = .reading} (side : Side) :
    chunksRead mode side (relay.receive source chunk idle).trace =
      chunksRead mode side relay.trace ++ if source = side then [chunk] else [] := by
  rw [receive, chunksRead_append, chunksRead_receiveLines]

theorem chunksRead_deliver {relay : Relay mode} {source : Side} {chunk : IoBuffer}
    {busy : relay.lanes source = .writing chunk} (side : Side) :
    chunksRead mode side (relay.deliver source chunk busy).trace =
      chunksRead mode side relay.trace := by
  rw [deliver, chunksRead_append, chunksRead_deliverLines, List.append_nil]

theorem context_receive {relay : Relay mode} {source : Side} {chunk : IoBuffer}
    {idle : relay.lanes source = .reading} (context : SessionContext) :
    (relay.receive source chunk idle).context context =
      (relay.context context).count source chunk.length := by
  cases source <;>
    simp [Relay.context, SessionContext.count, count, chunksRead_receive, UInt64.ofNat_add]

theorem context_deliver {relay : Relay mode} {source : Side} {chunk : IoBuffer}
    {busy : relay.lanes source = .writing chunk} (context : SessionContext) :
    (relay.deliver source chunk busy).context context = relay.context context := by
  simp [Relay.context, count, chunksRead_deliver]

theorem context_start {context : SessionContext} (remote : context.transferredBytesToRemote = 0)
    (toLocal : context.transferredBytesToLocal = 0) : (start mode).context context = context := by
  obtain ⟨id, response, host, service, toRemote, toLocal⟩ := context
  cases remote
  cases toLocal
  rfl

end

/-! ### The steps of a session that relays -/

/-- Both reads are started when the transfer begins. -/
theorem tasks_start : Snapshot.started [.readServer, .readClient] 0 = (start mode).tasks :=
  Multiset.cons_swap _ _ 0

theorem fit_start : Snapshot.Fit [.readServer, .readClient] 0 := by
  refine ⟨?_, ?_, trivial⟩
  · intro side bytes other same
    simp [Request.task] at same
  · intro side bytes other same
    simp [Request.task] at same

theorem tasks_receive {relay : Relay mode} {source : Side} {chunk : IoBuffer}
    {idle : relay.lanes source = .reading} :
    (relay.receive source chunk idle).tasks = (source.opposite, .write chunk) ::ₘ
      {laneTask source.opposite (relay.lanes source.opposite)} := by
  rw [tasks_eq _ source]
  simp [receive, laneTask, Function.update_of_ne source.opposite_ne]

theorem tasks_deliver {relay : Relay mode} {source : Side} {chunk : IoBuffer}
    {busy : relay.lanes source = .writing chunk} :
    (relay.deliver source chunk busy).tasks = (source, .read) ::ₘ
      {laneTask source.opposite (relay.lanes source.opposite)} := by
  rw [tasks_eq _ source]
  simp [deliver, laneTask, Function.update_of_ne source.opposite_ne]

/-- The other direction does not write to the end this one writes to. -/
theorem laneTask_opposite_ne (source : Side) (lane : Lane IoBuffer) (bytes : IoBuffer) :
    laneTask source.opposite lane ≠ (source.opposite, .write bytes) := by
  cases lane with
  | reading => simp [laneTask]
  | writing chunk => simpa [laneTask] using fun same => absurd same.symm source.opposite_ne

theorem isTransfer_laneTask (source : Side) (lane : Lane IoBuffer) :
    (laneTask source lane).2.IsTransfer := by
  cases lane <;> trivial

/-- The two directions never use one buffer of one stream. -/
theorem exclusive {relay : Relay mode} {snapshot : Snapshot μ}
    (performs : snapshot.Performs relay.tasks) : snapshot.Exclusive := by
  intro side
  rw [StreamState.Exclusive, ← Snapshot.countP_pending, ← Snapshot.countP_pending,
    performs.outstanding, tasks, ← Multiset.cons_zero]
  cases relay.lanes .server <;> cases relay.lanes .client <;> cases side <;>
    simp [laneTask, Task.op, AsyncOp.isRead, AsyncOp.isWrite, Side.opposite, -Multiset.cons_zero]

variable [ReactiveState μ] [DecidableEq μ] {relay : Relay mode} {context : SessionContext}
  {snapshot next : Snapshot μ} {tls : Bool} {side : Side} {op : AsyncOp} {completion : Completion}

/-- What an error in a direction does to the session. -/
theorem complete_failed (relays : Relays mode) {source : Side} {task : Task}
    (waits : snapshot.Performs
      ((side, task) ::ₘ {laneTask source.opposite (relay.lanes source.opposite)}))
    (alive : snapshot.session = some ⟨relay.context context, mode⟩)
    (raised : side.upshot task.op completion = .report (side.errorEvent completion.ec))
    (finished : snapshot.complete tls side task.op completion = .ok next) :
    next.Ended ∧ next.Exclusive ∧
      next.history = snapshot.history ++
        Snapshot.done side task completion (some mode) :: stopLines := by
  obtain ⟨ended, exclusive, history⟩ := Snapshot.performs_stop waits alive raised
    (relays.failed _ side completion.ec) trivial
    (by simpa [Snapshot.started] using isTransfer_laneTask _ _) finished
  exact ⟨ended, exclusive (by simp [Snapshot.started]), history⟩

/-- A direction that reads, and its read completes. -/
theorem complete_reading (relays : Relays mode) {source : Side}
    (idle : relay.lanes source = .reading) (performs : snapshot.Performs relay.tasks)
    (alive : snapshot.session = some ⟨relay.context context, mode⟩)
    (finished : snapshot.complete tls source .read completion = .ok next) :
    (next.session =
        some ⟨(relay.receive source completion.buffer.bytes idle).context context, mode⟩ ∧
      next.Performs (relay.receive source completion.buffer.bytes idle).tasks ∧
      next.history = snapshot.history ++
        [(source, .completed .read .success completion.buffer.bytes (some mode)),
          (source.opposite, .called (.write completion.buffer.bytes))]) ∨
    (next.Ended ∧ next.Exclusive ∧
      source.upshot .read completion = .report (source.errorEvent completion.ec) ∧
      next.history =
        snapshot.history ++ Snapshot.done source .read completion (some mode) :: stopLines) := by
  have waits : snapshot.Performs
      ((source, .read) ::ₘ {laneTask source.opposite (relay.lanes source.opposite)}) := by
    rw [tasks_eq _ source, idle] at performs
    exact performs
  obtain ⟨succeeded, raised⟩ | raised := source.upshot_read completion
  · left
    have ec := ErrorCode.eq_success succeeded
    have fit : Snapshot.Fit [source.opposite.write completion.buffer.bytes]
        {laneTask source.opposite (relay.lanes source.opposite)} := by
      refine ⟨?_, trivial⟩
      intro side bytes other same member
      rw [Side.task_write, Prod.mk.injEq] at same
      rw [← same.1, Multiset.mem_singleton] at member
      exact laneTask_opposite_ne source _ other member.symm
    obtain ⟨session, performs, history⟩ := Snapshot.performs_complete waits alive raised
      (relays.received _ source completion.buffer) fit finished
    refine ⟨?_, ?_, ?_⟩
    · rw [session, context_receive]
      rfl
    · rw [tasks_receive]
      simpa [Snapshot.started] using performs
    · rw [history]
      simp [Snapshot.done, Task.op, Task.moved, ec]
  · obtain ⟨ended, exclusive, history⟩ := complete_failed relays waits alive raised finished
    exact .inr ⟨ended, exclusive, raised, history⟩

/-- A direction that writes, and its write completes. -/
theorem complete_writing (relays : Relays mode) {source : Side} {chunk : IoBuffer}
    (busy : relay.lanes source = .writing chunk) (performs : snapshot.Performs relay.tasks)
    (alive : snapshot.session = some ⟨relay.context context, mode⟩)
    (finished :
      snapshot.complete tls source.opposite (.write chunk.length) completion = .ok next) :
    (next.session = some ⟨(relay.deliver source chunk busy).context context, mode⟩ ∧
      next.Performs (relay.deliver source chunk busy).tasks ∧
      next.history = snapshot.history ++
        [(source.opposite, .completed (.write chunk.length) .success chunk (some mode)),
          (source, .called .read)]) ∨
    (next.Ended ∧ next.Exclusive ∧
      source.opposite.upshot (.write chunk.length) completion =
        .report (source.opposite.errorEvent completion.ec) ∧
      next.history = snapshot.history ++
        Snapshot.done source.opposite (.write chunk) completion (some mode) :: stopLines) := by
  have waits : snapshot.Performs ((source.opposite, .write chunk) ::ₘ
      {laneTask source.opposite (relay.lanes source.opposite)}) := by
    rw [tasks_eq _ source, busy] at performs
    exact performs
  obtain ⟨succeeded, raised⟩ | raised := source.opposite.upshot_write chunk.length completion
  · left
    have ec := ErrorCode.eq_success succeeded
    have fit : Snapshot.Fit [source.read]
        {laneTask source.opposite (relay.lanes source.opposite)} := by
      refine ⟨?_, trivial⟩
      intro side bytes other same
      simp at same
    obtain ⟨session, performs, history⟩ := Snapshot.performs_complete waits alive
      raised (relays.delivered _ source) fit finished
    refine ⟨?_, ?_, ?_⟩
    · rw [session, context_deliver]
    · rw [tasks_deliver]
      simpa [Snapshot.started] using performs
    · rw [history]
      simp [Snapshot.done, Task.op, Task.moved, ec]
  · obtain ⟨ended, exclusive, history⟩ := complete_failed relays waits alive raised finished
    exact .inr ⟨ended, exclusive, raised, history⟩

/-- A session that relays goes on to another relay, or an error stops it. -/
theorem relay_complete (relays : Relays mode) (performs : snapshot.Performs relay.tasks)
    (alive : snapshot.session = some ⟨relay.context context, mode⟩)
    (pending : op ∈ (snapshot.streams side).pending)
    (finished : snapshot.complete tls side op completion = .ok next) :
    (∃ (relay' : Relay mode) (lines : History μ), relay'.trace = relay.trace ++ lines ∧
      next.session = some ⟨relay'.context context, mode⟩ ∧ next.Performs relay'.tasks ∧
      next.history = snapshot.history ++ lines) ∨
    (next.Ended ∧ next.Exclusive ∧ ∃ task, (side, task) ∈ relay.tasks ∧
      side.upshot task.op completion = .report (side.errorEvent completion.ec) ∧
      next.history =
        snapshot.history ++ Snapshot.done side task completion (some mode) :: stopLines) := by
  obtain ⟨task, rest, split, rfl⟩ := performs.exists_task pending
  have member : (side, task) ∈ relay.tasks := split ▸ Multiset.mem_cons_self _ _
  obtain ⟨source, which⟩ := relay.exists_laneTask member
  cases lane : relay.lanes source with
  | reading =>
      rw [lane] at which
      cases which
      obtain ⟨session, performs, history⟩ | ⟨ended, exclusive, raised, history⟩ :=
        complete_reading relays lane performs alive finished
      · exact .inl ⟨_, _, rfl, session, performs, history⟩
      · exact .inr ⟨ended, exclusive, .read, member, raised, history⟩
  | writing chunk =>
      rw [lane] at which
      cases which
      obtain ⟨session, performs, history⟩ | ⟨ended, exclusive, raised, history⟩ :=
        complete_writing relays lane performs alive finished
      · exact .inl ⟨_, _, rfl, session, performs, history⟩
      · exact .inr ⟨ended, exclusive, .write chunk, member, raised, history⟩

end Relay

end AmgiNetTools
