/-
Module: AmgiNetTools.Session.Snapshot
Layer: Session
Purpose: One session seen by itself: its entry, its two streams and what has happened on them. A
  completion on one of its streams takes a snapshot to the next by a function of the snapshot alone,
  so the snapshots of a session in the runs of a whole server are those of a machine that knows this
  session only.
Main exports: Snapshot, Snapshot.complete, Snapshot.Reachable, World.snapshot, World.Accepted,
  World.snapshot_reachable, World.entry_of_reachable
-/
import AmgiNetTools.Session.Completion

namespace AmgiNetTools

variable {μ : Type}

/-- The streams of the session that an accepted stream begins. -/
def ServerStream.endpoint (upstream : ServerStream) : Side → Stream
  | .server => .server upstream
  | .client => .client upstream.downstream

/-- The entry of that session. -/
def ServerStream.pair (upstream : ServerStream) (session : Session μ) : SessionPair μ :=
  { id := upstream.id, server := upstream, client := upstream.downstream, session := session }

/-- The dynamic type of the stream at one end, for a server with or without TLS. -/
def Side.kind (tls : Bool) : Side → StreamKind
  | .server => if tls then .tlsServer else .tcpServer
  | .client => .tcpClient

namespace ServerStream

variable (upstream : ServerStream) (side : Side)

@[simp] theorem id_endpoint : (upstream.endpoint side).id = upstream.id := by
  cases side <;> rfl

@[simp] theorem side_endpoint : (upstream.endpoint side).side = side := by
  cases side <;> rfl

@[simp] theorem kind_endpoint : (upstream.endpoint side).kind = side.kind upstream.tls := by
  cases side <;> rfl

@[simp] theorem stream_pair (session : Session μ) :
    (upstream.pair session).stream side = upstream.endpoint side := by
  cases side <;> rfl

theorem endpoint_injective : Function.Injective upstream.endpoint := by
  intro side side' same
  simpa using congrArg Stream.side same

/-- The end a stream is at, if it is one of the two streams of the session. -/
def sideOf (stream : Stream) : Option Side :=
  if stream = upstream.endpoint .server then some .server
  else if stream = upstream.endpoint .client then some .client
  else none

@[simp] theorem sideOf_endpoint : upstream.sideOf (upstream.endpoint side) = some side := by
  cases side <;> simp [sideOf, endpoint]

theorem sideOf_eq_some {stream : Stream} :
    upstream.sideOf stream = some side ↔ stream = upstream.endpoint side := by
  constructor
  · intro found
    unfold sideOf at found
    split at found
    · next same => cases found; exact same
    · split at found
      · next same => cases found; exact same
      · cases found
  · rintro rfl
    exact upstream.sideOf_endpoint side

/-- Two server streams with a stream in common are the same. -/
theorem eq_of_isSome_sideOf {other : ServerStream}
    (shared : (other.sideOf (.server upstream)).isSome) : other = upstream := by
  cases found : other.sideOf (.server upstream) with
  | none => simp [found] at shared
  | some side =>
      rw [other.sideOf_eq_some side] at found
      cases side <;> cases found
      rfl

end ServerStream

/-- One session: its entry if it still has one, its streams, and their history. -/
structure Snapshot (μ : Type) where
  session : Option (Session μ)
  streams : Side → StreamState
  history : List (Side × Happening μ)

namespace Snapshot

/-- Change one of the streams. -/
def modifyStream (side : Side) (f : StreamState → StreamState)
    (snapshot : Snapshot μ) : Snapshot μ :=
  { snapshot with streams := Function.update snapshot.streams side (f (snapshot.streams side)) }

/-- Call an operation on one of the streams. -/
def invoke (tls : Bool) (snapshot : Snapshot μ) (call : Side × StreamCall) : Snapshot μ :=
  { snapshot.modifyStream call.1 ((call.1.kind tls).invoke call.2) with
    history := snapshot.history ++ [(call.1, .called call.2)] }

/-- The effect of a handler. -/
def react (tls : Bool) (outcome : Reaction μ) (snapshot : Snapshot μ) : Snapshot μ :=
  { outcome.calls.foldl (invoke tls) snapshot with session := outcome.next }

/-- The completion of an operation, as the history has it. -/
def completed (side : Side) (op : AsyncOp) (completion : Completion) (snapshot : Snapshot μ) :
    Happening μ :=
  .completed op completion.ec ((snapshot.streams side).moved op completion)
    (snapshot.session.map (·.state))

def retire (side : Side) (op : AsyncOp) (completion : Completion) (snapshot : Snapshot μ) :
    Snapshot μ :=
  { snapshot.modifyStream side (StreamState.retire op) with
    history := snapshot.history ++ [(side, snapshot.completed side op completion)] }

/-- What a completion handler does to the session. -/
def apply [ReactiveState μ] (tls : Bool) (side : Side) (upshot : Upshot) (snapshot : Snapshot μ) :
    Except Fault (Snapshot μ) :=
  match upshot.event, snapshot.session with
  | some event, some session =>
      (ReactiveState.reaction session event).map fun outcome =>
        (snapshot.react tls outcome).modifyStream side upshot.change
  | _, _ => .ok (snapshot.modifyStream side upshot.change)

/-- Asio completes an operation of one of the streams. -/
def complete [ReactiveState μ] (tls : Bool) (side : Side) (op : AsyncOp) (completion : Completion)
    (snapshot : Snapshot μ) : Except Fault (Snapshot μ) :=
  (snapshot.retire side op completion).apply tls side (side.upshot op completion)

/-- A session that was accepted just now: its server stream is started. -/
def accepted [SessionState μ] (tls : Bool) (id : Int32) : Snapshot μ :=
  invoke tls
    { session := some { context := { id := id }, state := SessionState.initial }
      streams := fun _ => .initial
      history := [] }
    (.server, .start)

/-- The snapshots of the runs of a session by itself. -/
inductive Reachable [ReactiveState μ] (tls : Bool) (id : Int32) : Snapshot μ → Prop where
  | start : Reachable tls id (accepted tls id)
  | step {snapshot next : Snapshot μ} {side : Side} {op : AsyncOp} {completion : Completion} :
      Reachable tls id snapshot → op ∈ (snapshot.streams side).pending → completion.Fits op →
      snapshot.complete tls side op completion = .ok next → Reachable tls id next

end Snapshot

/-! ### The snapshots of a world -/

/-- A line of the history, if it is about one of the streams of a session. -/
def ServerStream.line (upstream : ServerStream) (record : Record μ) : Option (Side × Happening μ) :=
  (upstream.sideOf record.stream).map fun side => (side, record.happening)

namespace World

/-- What has happened on the two streams of a session. -/
def conversation (upstream : ServerStream) (world : World μ) : List (Side × Happening μ) :=
  world.history.filterMap upstream.line

/-- The session that an accepted stream began, as it is now. -/
def snapshot (upstream : ServerStream) (world : World μ) : Snapshot μ :=
  { session := (world.sessions upstream.id).map (·.session)
    streams := fun side => world.streams (upstream.endpoint side)
    history := world.conversation upstream }

/-- A stream that the server has accepted and handed to the manager. -/
def Accepted (upstream : ServerStream) (world : World μ) : Prop :=
  ⟨.server upstream, .called .start⟩ ∈ world.history

instance [DecidableEq μ] (upstream : ServerStream) (world : World μ) :
    Decidable (world.Accepted upstream) :=
  inferInstanceAs (Decidable (_ ∈ _))

variable {upstream : ServerStream} {world : World μ}

theorem snapshot_modifyStream (side : Side) (f : StreamState → StreamState) :
    (world.modifyStream (upstream.endpoint side) f).snapshot upstream =
      (world.snapshot upstream).modifyStream side f := by
  have streams :=
    Function.update_comp_eq_of_injective world.streams upstream.endpoint_injective side
    (f (world.streams (upstream.endpoint side)))
  simp only [snapshot, modifyStream, Snapshot.modifyStream, conversation]
  congr 1

theorem snapshot_invoke (side : Side) (call : StreamCall) :
    (world.invoke (upstream.endpoint side) call).snapshot upstream =
      (world.snapshot upstream).invoke upstream.tls (side, call) := by
  have streams :=
    Function.update_comp_eq_of_injective world.streams upstream.endpoint_injective side
    ((side.kind upstream.tls).invoke call (world.streams (upstream.endpoint side)))
  simp only [snapshot, invoke, Snapshot.invoke, Snapshot.modifyStream, conversation,
    ServerStream.kind_endpoint, List.filterMap_append]
  congr 1
  simp [ServerStream.line]

theorem snapshot_retire (side : Side) (op : AsyncOp) (completion : Completion) :
    (world.retire (upstream.endpoint side) op completion).snapshot upstream =
      (world.snapshot upstream).retire side op completion := by
  have streams :=
    Function.update_comp_eq_of_injective world.streams upstream.endpoint_injective side
    ((world.streams (upstream.endpoint side)).retire op)
  simp only [snapshot, retire, Snapshot.retire, Snapshot.modifyStream, conversation,
    List.filterMap_append]
  congr 1
  simp [ServerStream.line, Snapshot.completed, found, Function.comp_def]

theorem snapshot_invokeAll (session : Session μ) (calls : List (Side × StreamCall)) :
    (world.invokeAll (upstream.pair session) calls).snapshot upstream =
      calls.foldl (Snapshot.invoke upstream.tls) (world.snapshot upstream) := by
  induction calls generalizing world with
  | nil => rfl
  | cons call calls ih =>
      rw [invokeAll, List.foldl_cons, ← invokeAll, ih, ServerStream.stream_pair, snapshot_invoke,
        List.foldl_cons]

theorem snapshot_react (session : Session μ) (outcome : Reaction μ) :
    (world.react upstream.id (upstream.pair session) outcome).snapshot upstream =
      (world.snapshot upstream).react upstream.tls outcome := by
  have calls := @snapshot_invokeAll μ upstream world session outcome.calls
  rw [Snapshot.react, ← calls]
  simp [snapshot, react, conversation, Option.map_map, Function.comp_def]

/-- The entry of an id is that of the session which `upstream` began, or there is none. -/
def Entry (upstream : ServerStream) (world : World μ) : Prop :=
  ∀ pair, world.sessions upstream.id = some pair → pair = upstream.pair pair.session

/-- A completion of one of the streams of a session, in its snapshot. -/
theorem snapshot_finish [ReactiveState μ] {next : World μ} {side : Side} {op : AsyncOp}
    {completion : Completion} (entry : world.Entry upstream)
    (done : world.finish (upstream.endpoint side) op completion = .ok next) :
    (world.snapshot upstream).complete upstream.tls side op completion =
      .ok (next.snapshot upstream) := by
  rw [Snapshot.complete, ← snapshot_retire, Snapshot.apply]
  obtain ⟨idle, rfl⟩ | ⟨event, pair, outcome, raised, present, computed, rfl⟩ := apply_cases done
  · rw [ServerStream.side_endpoint] at idle ⊢
    rw [snapshot_modifyStream]
    rcases idle with quiet | absent
    · rw [quiet]
    · have gone :
        (snapshot upstream (world.retire (upstream.endpoint side) op completion)).session =
          none := by
        rw [ServerStream.id_endpoint] at absent
        simp [snapshot, absent]
      rw [gone]
      split
      · next same => cases same
      · rfl
  · rw [ServerStream.side_endpoint] at raised ⊢
    rw [ServerStream.id_endpoint] at present ⊢
    have alive : (snapshot upstream (world.retire (upstream.endpoint side) op completion)).session =
        some pair.session := by
      simp [snapshot, present]
    rw [raised, alive, entry pair present, snapshot_modifyStream, snapshot_react]
    rw [entry pair present] at computed
    simp only [ServerStream.pair] at computed ⊢
    rw [computed]
    rfl

theorem entry_finish [ReactiveState μ] {next : World μ} {side : Side} {op : AsyncOp}
    {completion : Completion} (entry : world.Entry upstream)
    (done : world.finish (upstream.endpoint side) op completion = .ok next) :
    next.Entry upstream := by
  obtain ⟨-, rfl⟩ | ⟨event, pair, outcome, -, present, -, rfl⟩ := apply_cases done
  · exact entry
  · intro pair' present'
    rw [ServerStream.id_endpoint] at present present'
    simp only [sessions_modifyStream, sessions_react, Function.update_self,
      Option.map_eq_some_iff] at present'
    obtain ⟨session, -, rfl⟩ := present'
    rw [entry pair present]
    rfl

theorem history_invokeAll (pair : SessionPair μ) (calls : List (Side × StreamCall)) :
    (world.invokeAll pair calls).history =
      world.history ++ calls.map fun call => ⟨pair.stream call.1, .called call.2⟩ := by
  induction calls generalizing world with
  | nil => simp [invokeAll]
  | cons call calls ih =>
      rw [invokeAll, List.foldl_cons, ← invokeAll, ih]
      simp [invoke]

theorem streams_invokeAll_other {pair : SessionPair μ} {stream : Stream}
    (other : ∀ side, stream ≠ pair.stream side) (calls : List (Side × StreamCall)) :
    (world.invokeAll pair calls).streams stream = world.streams stream := by
  induction calls generalizing world with
  | nil => rfl
  | cons call calls ih =>
      rw [invokeAll, List.foldl_cons, ← invokeAll, ih]
      exact Function.update_of_ne (other call.1) ..

/-- A completion adds lines about the two streams of the session to the history. -/
theorem history_finish [ReactiveState μ] {next : World μ} {side : Side} {op : AsyncOp}
    {completion : Completion} (entry : world.Entry upstream)
    (done : world.finish (upstream.endpoint side) op completion = .ok next) :
    ∃ lines, next.history = world.history ++ lines ∧
      ∀ record ∈ lines, (upstream.sideOf record.stream).isSome := by
  obtain ⟨-, rfl⟩ | ⟨event, pair, outcome, -, present, -, rfl⟩ := apply_cases done
  · exact ⟨_, rfl, by simp⟩
  · rw [ServerStream.id_endpoint] at present ⊢
    refine ⟨_, (history_invokeAll pair outcome.calls).trans (List.append_assoc ..), ?_⟩
    intro record member
    rw [entry pair present] at member
    rcases List.mem_append.mp member with member | member
    · cases List.mem_singleton.mp member
      simp
    · obtain ⟨call, -, rfl⟩ := List.mem_map.mp member
      simp

/-- A completion leaves every other stream alone. -/
theorem streams_finish_other [ReactiveState μ] {next : World μ} {side : Side} {op : AsyncOp}
    {completion : Completion} {stream : Stream} (entry : world.Entry upstream)
    (done : world.finish (upstream.endpoint side) op completion = .ok next)
    (other : upstream.sideOf stream = none) : next.streams stream = world.streams stream := by
  have apart (side : Side) : stream ≠ upstream.endpoint side := by
    rintro rfl
    simp at other
  obtain ⟨-, rfl⟩ | ⟨event, pair, outcome, -, present, -, rfl⟩ := apply_cases done
  · simp [modifyStream, retire, Function.update_of_ne (apart side)]
  · rw [ServerStream.id_endpoint] at present ⊢
    rw [entry pair present]
    simp only [modifyStream, react, Function.update_of_ne (apart side)]
    rw [streams_invokeAll_other (by simpa using apart)]
    exact Function.update_of_ne (apart side) ..

end World

/-! ### Where the sessions of a server are -/

/-- An id is unused, or it is that of one accepted stream, whose session runs as if by itself. -/
inductive World.Located [ReactiveState μ] (id : Int32) (world : World μ) : Prop where
  | unused (absent : world.sessions id = none)
      (idle : ∀ stream : Stream, stream.id = id → world.streams stream = .initial)
      (silent : ∀ record ∈ world.history, record.stream.id ≠ id)
  | used (upstream : ServerStream) (mine : upstream.id = id) (known : world.Accepted upstream)
      (entry : world.Entry upstream)
      (alone : Snapshot.Reachable upstream.tls upstream.id (world.snapshot upstream))
      (idle : ∀ stream : Stream, stream.id = id → upstream.sideOf stream = none →
        (world.streams stream).pending = 0)
      (silent : ∀ record ∈ world.history, record.stream.id = id →
        (upstream.sideOf record.stream).isSome)

namespace World

variable {upstream : ServerStream} {id : Int32} {world next : World μ}

/-- Only the lines about the id of a session matter to it. -/
theorem conversation_filter (history : List (Record μ)) :
    (history.filter fun record => record.stream.id = upstream.id).filterMap upstream.line =
      history.filterMap upstream.line := by
  rw [List.filterMap_filter]
  refine List.filterMap_congr fun record _ => ?_
  by_cases mine : record.stream.id = upstream.id
  · simp [mine]
  · have other : upstream.sideOf record.stream = none := by
      cases found : upstream.sideOf record.stream with
      | none => rfl
      | some side =>
          refine absurd ?_ mine
          rw [(upstream.sideOf_eq_some side).mp found, ServerStream.id_endpoint]
    simp [mine, ServerStream.line, other]

theorem snapshot_eq_of_restrict_eq (same : next.restrict upstream.id = world.restrict upstream.id) :
    next.snapshot upstream = world.snapshot upstream := by
  have history := history_eq_of_restrict_eq same
  have streams (side : Side) : next.streams (upstream.endpoint side) =
      world.streams (upstream.endpoint side) :=
    streams_eq_of_restrict_eq same (upstream.id_endpoint side)
  simp only [snapshot, conversation, sessions_eq_of_restrict_eq same, streams,
    ← conversation_filter next.history, ← conversation_filter world.history, history]

variable [ReactiveState μ]

theorem Located.congr (same : next.restrict id = world.restrict id) (located : world.Located id) :
    next.Located id := by
  have lines (record : Record μ) (mine : record.stream.id = id) :
      record ∈ next.history ↔ record ∈ world.history := by
    have filtered := congrArg (record ∈ ·) (history_eq_of_restrict_eq same)
    simpa [List.mem_filter, mine] using filtered
  cases located with
  | unused absent idle silent =>
      refine .unused ((sessions_eq_of_restrict_eq same).trans absent)
        (fun stream mine => (streams_eq_of_restrict_eq same mine).trans (idle stream mine)) ?_
      exact fun record member mine => silent record ((lines record mine).mp member) mine
  | used upstream mine known entry alone idle silent =>
      subst mine
      refine .used upstream rfl ((lines _ rfl).mpr known) ?_ ?_ ?_ ?_
      · intro pair present
        exact entry pair ((sessions_eq_of_restrict_eq same).symm.trans present)
      · rw [snapshot_eq_of_restrict_eq same]
        exact alone
      · intro stream mine other
        rw [streams_eq_of_restrict_eq same mine]
        exact idle stream mine other
      · exact fun record member mine => silent record ((lines record mine).mp member) mine

/-- The first stream with an id gets an entry. -/
theorem accept_eq (absent : world.sessions upstream.id = none) :
    world.accept upstream =
      { world.invoke (upstream.endpoint .server) .start with
        sessions := Function.update world.sessions upstream.id
          (some (upstream.pair
            { context := { id := upstream.id }, state := SessionState.initial })) } := by
  simp [accept, insert, absent, ServerStream.endpoint, ServerStream.pair, invoke]

/-- The first stream with an id has a session that was accepted just now. -/
theorem snapshot_accept (absent : world.sessions upstream.id = none)
    (idle : ∀ side, world.streams (upstream.endpoint side) = .initial)
    (silent : ∀ record ∈ world.history, upstream.sideOf record.stream = none) :
    (world.accept upstream).snapshot upstream = .accepted upstream.tls upstream.id := by
  have empty : world.snapshot upstream =
      { session := none, streams := fun _ => .initial, history := [] } := by
    simp only [snapshot, absent, idle, conversation, Option.map_none]
    congr 1
    exact List.filterMap_eq_nil_iff.mpr fun record member => by
      simp [ServerStream.line, silent record member]
  have start := @snapshot_invoke μ upstream world .server .start
  rw [empty] at start
  rw [accept_eq absent, Snapshot.accepted]
  simp only [snapshot, Snapshot.invoke, Snapshot.mk.injEq] at start ⊢
  exact ⟨by simp [Snapshot.modifyStream, ServerStream.pair], start.2⟩

/-- The first stream with an id begins its session. -/
theorem located_accept (enabled : (IoEvent.accept upstream).Enabled world)
    (located : world.Located upstream.id) : (world.accept upstream).Located upstream.id := by
  cases located with
  | used upstream' mine known => exact absurd mine (enabled _ known)
  | unused absent idle silent =>
      have silent (record : Record μ) (member : record ∈ world.history) :
          upstream.sideOf record.stream = none := by
        cases found : upstream.sideOf record.stream with
        | none => rfl
        | some side =>
            refine absurd ?_ (silent record member)
            rw [(upstream.sideOf_eq_some side).mp found, ServerStream.id_endpoint]
      have begun := accept_eq absent
      refine .used upstream rfl ?_ ?_ ?_ ?_ ?_
      · simp [Accepted, begun, invoke, ServerStream.endpoint]
      · intro pair present
        simp only [begun, Function.update_self, Option.some.injEq] at present
        rw [← present]
        rfl
      · rw [snapshot_accept absent (fun side => idle _ (upstream.id_endpoint side)) silent]
        exact .start
      · intro stream mine other
        have apart : stream ≠ upstream.endpoint .server := by
          rintro rfl
          simp at other
        simp [begun, invoke, Function.update_of_ne apart, idle stream mine]
      · intro record member mine
        simp only [begun, invoke, List.mem_append, List.mem_singleton] at member
        rcases member with old | rfl
        · exact absurd mine (enabled record old)
        · simp

/-- A completion of one of its streams takes a session one step further. -/
theorem located_finish {stream : Stream} {op : AsyncOp} {completion : Completion}
    (enabled : (IoEvent.complete stream op completion).Enabled world)
    (done : world.finish stream op completion = .ok next) (located : world.Located stream.id) :
    next.Located stream.id := by
  obtain ⟨outstanding, fits⟩ := enabled
  cases located with
  | unused absent idle silent =>
      rw [idle stream rfl] at outstanding
      exact absurd outstanding (Multiset.notMem_zero op)
  | used upstream mine known entry alone idle silent =>
      cases found : upstream.sideOf stream with
      | none =>
          rw [idle stream rfl found] at outstanding
          exact absurd outstanding (Multiset.notMem_zero op)
      | some side =>
          rw [upstream.sideOf_eq_some side] at found
          subst found
          rw [ServerStream.id_endpoint] at *
          obtain ⟨lines, history, about⟩ := history_finish entry done
          refine .used upstream rfl ?_ (entry_finish entry done)
            (alone.step outstanding fits (snapshot_finish entry done)) ?_ ?_
          · rw [Accepted, history]
            exact List.mem_append_left _ known
          · intro stream mine other
            rw [streams_finish_other entry done other]
            exact idle stream mine other
          · intro record member mine
            rw [history, List.mem_append] at member
            exact member.elim (silent record · mine) (about record)

theorem located_of_reachable (reachable : Reachable world) (id : Int32) : world.Located id := by
  induction reachable generalizing id with
  | start => exact .unused rfl (fun _ _ => rfl) (by simp [empty])
  | step earlier stepped located =>
      have coherent := coherent_of_reachable earlier
      obtain ⟨upstream, enabled, rfl⟩ | ⟨stream, op, completion, enabled, done⟩ :=
        step_cases coherent stepped
      · by_cases mine : upstream.id = id
        · exact mine ▸ located_accept enabled (mine ▸ located id)
        · exact (located id).congr (restrict_accept_other mine)
      · by_cases mine : stream.id = id
        · exact mine ▸ located_finish enabled done (mine ▸ located id)
        · exact (located id).congr (restrict_finish_other coherent done mine)

/-- A session in a server goes through the snapshots it goes through by itself. -/
theorem snapshot_reachable (reachable : Reachable world) (accepted : world.Accepted upstream) :
    Snapshot.Reachable upstream.tls upstream.id (world.snapshot upstream) := by
  cases located_of_reachable reachable upstream.id with
  | unused _ _ silent => exact absurd rfl (silent _ accepted)
  | used upstream' mine _ _ alone _ silent =>
      exact upstream.eq_of_isSome_sideOf (silent _ accepted rfl) ▸ alone

/-- Every entry of the map is that of a stream the server has accepted. -/
theorem entry_of_reachable (reachable : Reachable world) {pair : SessionPair μ} {key : Int32}
    (present : world.sessions key = some pair) :
    world.Accepted pair.server ∧ pair.server.id = key ∧
      (world.snapshot pair.server).session = some pair.session ∧
      pair.client = pair.server.downstream := by
  cases located_of_reachable reachable key with
  | unused absent => simp [absent] at present
  | used upstream mine known entry =>
      subst mine
      have shape := entry pair present
      rw [shape]
      exact ⟨known, rfl, by simp [snapshot, ServerStream.pair, present], rfl⟩

end World

end AmgiNetTools
