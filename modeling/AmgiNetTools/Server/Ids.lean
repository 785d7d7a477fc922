/-
Module: AmgiNetTools.Server.Ids
Layer: Server
Purpose: The ids of a server's streams. The manager finds a session by the id of the stream that
  raises an event, and ids are drawn from a counter that wraps after 2^32 draws. So streams are told
  apart exactly as long as none is still alive when the stream after 2^32 others is made.
Main exports: Server.Alive, Server.Distinct, Server.NoneOutlived, Server.Sound,
  Server.documented_of_reachable
-/
import AmgiNetTools.Library.Tickets
import AmgiNetTools.Session.Snapshot
import AmgiNetTools.Transport.Server

namespace AmgiNetTools

variable {μ : Type}

/-- The identity of a stream object. -/
def Stream.conn : Stream → Nat
  | .server stream => stream.conn
  | .client stream => stream.conn

/-! ### The law -/

/-- An entry of the map, or the handler of an outstanding operation, keeps a stream object. -/
def World.Holds (world : World μ) (stream : Stream) : Prop :=
  (∃ key pair side, world.sessions key = some pair ∧ pair.stream side = stream) ∨
    (world.streams stream).pending ≠ 0

namespace Server

/-- A stream object is kept by the handler of `async_accept`, or by the manager and its streams. -/
def Alive (server : Server μ) (stream : Stream) : Prop :=
  (∃ newStream, server.accepting = some newStream ∧ .server newStream = stream) ∨
    server.world.Holds stream

/-- Streams do not share an id, but for the two ends of one connection. -/
structure Distinct [SessionState μ] (server : Server μ) : Prop where
  one_connection (first second : Stream) : server.Alive first → server.Alive second →
    first.id = second.id → first.conn = second.conn
  one_stream (first second : Stream) : server.Alive first → server.Alive second →
    first.id = second.id → first.side = second.side → first = second
  /-- `on_accept` inserts an entry, with the stream it was given. -/
  inserts (newStream : ServerStream) : server.accepting = some newStream →
    server.world.sessions newStream.id = none ∧
    ∀ world, (StreamManager.onAccept newStream).run server.world = .ok ((), world) →
      ∃ session, world.sessions newStream.id =
        some ⟨newStream.id, newStream, newStream.downstream, session⟩
  /-- The event of a stream finds the entry of that stream, or none. -/
  routes (stream : Stream) (op : AsyncOp) : op ∈ (server.world.streams stream).pending →
    ∀ pair, server.world.sessions stream.id = some pair → ∃ side, pair.stream side = stream

/-- No stream is alive that was made 2^32 streams before the one `start_accept` makes next. -/
def NoneOutlived (server : Server μ) : ServerEvent → Prop
  | .accepted _ => ∀ stream, server.Alive stream → stream.conn + 2 ^ 32 ≠ server.made + 1
  | _ => True

end Server

/-! ### What the manager holds -/

namespace World

variable {world : World μ} {stream : Stream}

/-- A handler keeps the streams of its entry, or lets go of them. -/
theorem holds_react {key : Int32} {pair : SessionPair μ} {outcome : Reaction μ}
    (found : world.sessions key = some pair) (holds : (world.react key pair outcome).Holds stream) :
    world.Holds stream := by
  rcases holds with ⟨key', pair', side, found', rfl⟩ | busy
  · by_cases same : key' = key
    · rw [sessions_react, same, Function.update_self, Option.map_eq_some_iff] at found'
      obtain ⟨session, -, rfl⟩ := found'
      refine .inl ⟨key, pair, side, found, ?_⟩
      cases side <;> rfl
    · rw [sessions_react, Function.update_of_ne same] at found'
      exact .inl ⟨key', pair', side, found', rfl⟩
  · by_cases own : ∃ side, pair.stream side = stream
    · obtain ⟨side, rfl⟩ := own
      exact .inl ⟨key, pair, side, found, rfl⟩
    · have other (side : Side) : stream ≠ pair.stream side := fun same => own ⟨side, same.symm⟩
      rw [react, streams_invokeAll_other other] at busy
      exact .inr busy

/-- A stream that changes was held, and no other is from now on. -/
theorem holds_modifyStream {changed : Stream} {f : StreamState → StreamState}
    (holds : (world.modifyStream changed f).Holds stream) :
    stream = changed ∨ world.Holds stream := by
  rcases holds with kept | busy
  · exact .inr (.inl kept)
  · by_cases same : stream = changed
    · exact .inl same
    · simp only [modifyStream, Function.update_of_ne same] at busy
      exact .inr (.inr busy)

theorem holds_retire {retired : Stream} {op : AsyncOp} {completion : Completion}
    (holds : (world.retire retired op completion).Holds stream) : world.Holds stream := by
  rcases holds with kept | busy
  · exact .inl kept
  · right
    by_cases same : stream = retired
    · subst same
      simp only [retire, Function.update_self] at busy
      intro idle
      rw [StreamState.retire, idle] at busy
      exact busy rfl
    · simp only [retire, Function.update_of_ne same] at busy
      exact busy

/-- The completion of an operation gives the manager no stream it did not hold. -/
theorem holds_finish [ReactiveState μ] {next : World μ} {completed : Stream} {op : AsyncOp}
    {completion : Completion} (pending : op ∈ (world.streams completed).pending)
    (done : world.finish completed op completion = .ok next) (holds : next.Holds stream) :
    world.Holds stream := by
  have held : world.Holds completed := .inr fun idle => by simp [idle] at pending
  obtain ⟨-, rfl⟩ | ⟨event, pair, outcome, -, found, -, rfl⟩ := apply_cases done
  · rcases holds_modifyStream holds with rfl | holds
    · exact held
    · exact holds_retire holds
  · rcases holds_modifyStream holds with rfl | holds
    · exact held
    · exact holds_retire (holds_react found holds)

/-- An entry for the id of a new connection, if there is none. -/
theorem sessions_accept_of_absent [SessionState μ] {upstream : ServerStream}
    (absent : world.sessions upstream.id = none) :
    (world.accept upstream).sessions upstream.id = some
      ⟨upstream.id, upstream, upstream.downstream,
        { context := { id := upstream.id }, state := SessionState.initial }⟩ := by
  simp [accept, insert, absent]

/-- Nothing else changes in the map. -/
theorem sessions_accept_cases [SessionState μ] (upstream : ServerStream) (key : Int32) :
    (world.accept upstream).sessions key = world.sessions key ∨
      key = upstream.id ∧ world.sessions upstream.id = none := by
  cases taken : world.sessions upstream.id with
  | some pair =>
      left
      simp [accept, insert, taken]
  | none =>
      by_cases same : key = upstream.id
      · exact .inr ⟨same, rfl⟩
      · left
        simp [accept, insert, taken, Function.update_of_ne same]

/-- A server stream that is started has an operation outstanding. -/
theorem pending_start (upstream : ServerStream) (state : StreamState) :
    ((Stream.server upstream).kind.invoke .start state).pending ≠ 0 := by
  intro idle
  cases upstream with
  | mk tls conn id => cases tls <;> exact Multiset.cons_ne_zero idle

/-- `on_accept` adds the two streams of the new connection at most. -/
theorem holds_accept [SessionState μ] {upstream : ServerStream}
    (holds : (world.accept upstream).Holds stream) :
    stream = .server upstream ∨ stream = .client upstream.downstream ∨ world.Holds stream := by
  rcases holds with ⟨key, pair, side, found, rfl⟩ | busy
  · rcases world.sessions_accept_cases upstream key with same | ⟨rfl, absent⟩
    · exact .inr (.inr (.inl ⟨key, pair, side, same ▸ found, rfl⟩))
    · rw [sessions_accept_of_absent absent] at found
      cases found
      cases side
      · exact .inl rfl
      · exact .inr (.inl rfl)
  · have busy : ((world.invoke (.server upstream) .start).streams stream).pending ≠ 0 := by
      unfold accept insert at busy
      split at busy <;> exact busy
    by_cases same : stream = .server upstream
    · exact .inl same
    · simp only [invoke, Function.update_of_ne same] at busy
      exact .inr (.inr (.inr busy))

/-- What a completion adds to the history is about streams that were held. -/
theorem mem_history_finish [ReactiveState μ] {next : World μ} {op : AsyncOp}
    {completion : Completion} (pending : op ∈ (world.streams stream).pending)
    (done : world.finish stream op completion = .ok next) {record : Record μ}
    (member : record ∈ next.history) : record ∈ world.history ∨ world.Holds record.stream := by
  have held : world.Holds stream := .inr fun idle => by simp [idle] at pending
  have retired (old : record ∈ (world.retire stream op completion).history) :
      record ∈ world.history ∨ world.Holds record.stream := by
    rcases List.mem_append.mp old with old | new
    · exact .inl old
    · cases List.mem_singleton.mp new
      exact .inr held
  obtain ⟨-, rfl⟩ | ⟨event, pair, outcome, -, found, -, rfl⟩ := apply_cases done
  · exact retired member
  · have member : record ∈ ((world.retire stream op completion).invokeAll pair
        outcome.calls).history := member
    rw [history_invokeAll, List.mem_append] at member
    rcases member with old | new
    · exact retired old
    · obtain ⟨call, -, rfl⟩ := List.mem_map.mp new
      exact .inr (.inl ⟨stream.id, pair, call.1, found, rfl⟩)

theorem history_accept [SessionState μ] (upstream : ServerStream) :
    (world.accept upstream).history = world.history ++ [⟨.server upstream, .called .start⟩] := by
  unfold accept insert
  split <;> rfl

/-- Accepting a connection lets go of no stream. -/
theorem Holds.accept [SessionState μ] (holds : world.Holds stream) (upstream : ServerStream) :
    (world.accept upstream).Holds stream := by
  rcases holds with ⟨key, pair, side, found, rfl⟩ | busy
  · rcases world.sessions_accept_cases upstream key with same | ⟨rfl, absent⟩
    · exact .inl ⟨key, pair, side, same.trans found, rfl⟩
    · cases found.symm.trans absent
  · have streams : (world.accept upstream).streams =
        (world.invoke (.server upstream) .start).streams := by
      unfold World.accept insert
      split <;> rfl
    right
    rw [streams]
    by_cases same : stream = .server upstream
    · subst same
      simp only [invoke, Function.update_self]
      exact pending_start upstream _
    · simp only [invoke, Function.update_of_ne same]
      exact busy

end World

/-! ### Streams that were made recently -/

namespace Server

/-- A stream that was made before the one that is being accepted, and less than 2^32 streams ago. -/
structure Made (server : Server μ) (stream : Stream) : Prop where
  id : stream.id = Int32.ofNat stream.conn
  tls (upstream : ServerStream) : stream = .server upstream → upstream.tls = server.tls
  earlier : stream.conn ≠ server.made
  recent : Recent (2 ^ 32) server.made stream.conn

/-- What holds between two turns of the event loop. -/
structure Sound (server : Server μ) : Prop where
  coherent : server.world.Coherent
  accepting : server.accepting = some
    { tls := server.tls, conn := server.made, id := Int32.ofNat server.made }
  streamId : server.streamId = Int32.ofNat server.made
  running : server.stopped = false → server.isOpen = true
  made (stream : Stream) : server.world.Holds stream → server.Made stream

theorem alike_of_id {first second : Nat} (same : Int32.ofNat first = Int32.ofNat second) :
    first % 2 ^ 32 = second % 2 ^ 32 := by
  have bits := congrArg (fun id => id.toBitVec.toNat) same
  simpa using bits

variable {server server' : Server μ} {stream : Stream}

/-- `start_accept` makes a stream with the next number and the next id. -/
theorem Sound.startAccept {world : World μ} (sound : server.Sound) (coherent : world.Coherent)
    (made : ∀ stream, world.Holds stream → stream.id = Int32.ofNat stream.conn ∧
      (∀ upstream, stream = .server upstream → upstream.tls = server.tls) ∧
      Recent (2 ^ 32) server.made stream.conn ∧ stream.conn + 2 ^ 32 ≠ server.made + 1) :
    ({ server with world := world, accepting := none } : Server μ).startAccept.Sound where
  coherent := coherent
  accepting := by
    simp only [Server.startAccept, sound.streamId, Int32.ofNat_add]
    rfl
  streamId := by
    simp only [Server.startAccept, sound.streamId, Int32.ofNat_add]
    rfl
  running := sound.running
  made stream holds := by
    obtain ⟨id, tls, recent, young⟩ := made stream holds
    exact ⟨id, tls, (Nat.lt_succ_of_le recent.is_drawn).ne, recent.draw young⟩

theorem sound_create (tls : Bool) : (create tls : Server μ).Sound where
  coherent := World.coherent_empty
  accepting := rfl
  streamId := rfl
  running _ := rfl
  made stream holds := by
    rcases holds with ⟨_, _, _, found, _⟩ | busy
    · cases found
    · exact absurd rfl busy

/-- A stream that is alive has a recent number and the id of that number. -/
theorem Sound.alive (sound : server.Sound) (alive : server.Alive stream) :
    stream.id = Int32.ofNat stream.conn ∧
      (∀ upstream, stream = .server upstream → upstream.tls = server.tls) ∧
      Recent (2 ^ 32) server.made stream.conn := by
  rcases alive with ⟨newStream, accepting, rfl⟩ | holds
  · rw [sound.accepting] at accepting
    cases accepting
    exact ⟨rfl, fun upstream same => by cases same; rfl, .last (Nat.two_pow_pos 32)⟩
  · have made := sound.made stream holds
    exact ⟨made.id, made.tls, made.recent⟩

/-- The cases of a turn. -/
theorem perform_cases [ReactiveState μ] {event : ServerEvent} (sound : server.Sound)
    (enabled : event.Enabled server) (done : event.perform server = .ok server') :
    (∃ ec, event = .accepted ec ∧ ∃ world,
      (world = server.world ∨ ∃ newStream, server.accepting = some newStream ∧
        world = server.world.accept newStream) ∧
      server' = ({ server with world := world, accepting := none } : Server μ).startAccept) ∨
    (event = .signal ∧ server' = server.onSignal) ∨
    ∃ stream op completion next, event = .complete stream op completion ∧
      (IoEvent.complete stream op completion).Enabled server.world ∧
      server.world.finish stream op completion = .ok next ∧
      server' = { server with world := next } := by
  cases event with
  | accepted ec =>
      have isOpen := sound.running enabled.1
      obtain ⟨newStream, accepting⟩ := Option.ne_none_iff_exists'.mp enabled.2
      left
      refine ⟨ec, rfl, ?_⟩
      simp only [ServerEvent.perform, accepting, onAccepted] at done
      rw [if_neg (by simp [isOpen])] at done
      cases failed : ec.isError with
      | true =>
          simp only [failed, Bool.not_true, Bool.false_eq_true, if_false, Except.ok.injEq] at done
          exact ⟨server.world, .inl rfl, done.symm⟩
      | false =>
          simp only [failed, Bool.not_false, if_true, StreamManager.onAccept_run, except_ok_bind,
            except_pure, Except.ok.injEq] at done
          exact ⟨_, .inr ⟨newStream, accepting, rfl⟩, done.symm⟩
  | signal =>
      cases done
      exact .inr (.inl ⟨rfl, rfl⟩)
  | complete stream op completion =>
      simp only [ServerEvent.perform, perform_complete stream op completion sound.coherent] at done
      cases finished : server.world.finish stream op completion with
      | error fault => simp [finished, Except.map, bind, Except.bind] at done
      | ok next =>
          simp only [finished, Except.map, except_ok_bind, except_pure, Except.ok.injEq] at done
          exact .inr (.inr ⟨stream, op, completion, next, rfl, enabled.2, finished, done.symm⟩)

/-- A turn that meets the condition. -/
theorem Sound.perform [ReactiveState μ] {event : ServerEvent} (sound : server.Sound)
    (enabled : event.Enabled server) (young : server.NoneOutlived event)
    (done : event.perform server = .ok server') : server'.Sound := by
  obtain ⟨ec, rfl, world, same | ⟨newStream, accepting, accepted⟩, rfl⟩ | ⟨rfl, rfl⟩ |
    ⟨stream, op, completion, next, rfl, enabled, finished, rfl⟩ := perform_cases sound enabled done
  · subst same
    refine sound.startAccept sound.coherent fun stream holds => ?_
    obtain ⟨id, tls, recent⟩ := sound.alive (.inr holds)
    exact ⟨id, tls, recent, young stream (.inr holds)⟩
  · subst accepted
    refine sound.startAccept (sound.coherent.accept _) fun stream holds => ?_
    rcases World.holds_accept holds with rfl | rfl | holds
    · have alive : server.Alive (.server newStream) := .inl ⟨newStream, accepting, rfl⟩
      obtain ⟨id, tls, recent⟩ := sound.alive alive
      exact ⟨id, tls, recent, young _ alive⟩
    · have alive : server.Alive (.server newStream) := .inl ⟨newStream, accepting, rfl⟩
      obtain ⟨id, -, recent⟩ := sound.alive alive
      refine ⟨id, ?_, recent, young (.server newStream) alive⟩
      intro upstream same
      cases same
    · obtain ⟨id, tls, recent⟩ := sound.alive (.inr holds)
      exact ⟨id, tls, recent, young stream (.inr holds)⟩
  · refine ⟨sound.coherent, sound.accepting, sound.streamId, by simp [onSignal], ?_⟩
    intro stream holds
    have made := sound.made stream holds
    exact ⟨made.id, made.tls, made.earlier, made.recent⟩
  · refine ⟨?_, sound.accepting, sound.streamId, sound.running, ?_⟩
    · exact World.coherent_apply
        (show (World.retire stream op completion server.world).Coherent from sound.coherent)
          finished
    · intro stream' holds
      have made := sound.made stream' (World.holds_finish enabled.1 finished holds)
      exact ⟨made.id, made.tls, made.earlier, made.recent⟩

theorem sound_of_reachable [ReactiveState μ] {tls : Bool}
    (within : ReachableWhile NoneOutlived tls server) : server.Sound := by
  induction within with
  | start => exact sound_create tls
  | step _ enabled young done sound => exact sound.perform enabled young done

/-! ### Ids tell streams apart -/

theorem Sound.one_connection (sound : server.Sound) {first second : Stream}
    (alive : server.Alive first) (alive' : server.Alive second) (same : first.id = second.id) :
    first.conn = second.conn := by
  obtain ⟨id, -, recent⟩ := sound.alive alive
  obtain ⟨id', -, recent'⟩ := sound.alive alive'
  rw [id, id'] at same
  exact recent.eq_of_mod_eq recent' (alike_of_id same)

theorem Sound.one_stream (sound : server.Sound) {first second : Stream}
    (alive : server.Alive first) (alive' : server.Alive second) (same : first.id = second.id)
    (side : first.side = second.side) : first = second := by
  have conn := sound.one_connection alive alive' same
  obtain ⟨-, tls, -⟩ := sound.alive alive
  obtain ⟨-, tls', -⟩ := sound.alive alive'
  cases first with
  | server first =>
      cases second with
      | server second =>
          have kind := (tls first rfl).trans (tls' second rfl).symm
          cases first
          cases second
          cases conn
          cases same
          cases kind
          rfl
      | client second => cases side
  | client first =>
      cases second with
      | server second => cases side
      | client second =>
          cases first
          cases second
          cases conn
          cases same
          rfl

theorem Sound.distinct [ReactiveState μ] (sound : server.Sound) : server.Distinct where
  one_connection _ _ alive alive' same := sound.one_connection alive alive' same
  one_stream _ _ alive alive' same side := sound.one_stream alive alive' same side
  inserts newStream accepting := by
    have absent : server.world.sessions newStream.id = none := by
      rw [Option.eq_none_iff_forall_ne_some]
      intro pair found
      have owned := sound.coherent _ _ found
      have holds : server.world.Holds (.server pair.server) :=
        .inl ⟨newStream.id, pair, .server, found, rfl⟩
      have conn := sound.one_connection (.inr holds) (.inl ⟨newStream, accepting, rfl⟩)
        owned.server_id
      rw [sound.accepting] at accepting
      cases accepting
      exact (sound.made _ holds).earlier conn
    refine ⟨absent, fun world done => ?_⟩
    rw [StreamManager.onAccept_run] at done
    cases done
    exact ⟨_, World.sessions_accept_of_absent absent⟩
  routes stream op pending pair found := by
    have owned := sound.coherent _ _ found
    have busy : server.Alive stream := .inr (.inr fun idle => by simp [idle] at pending)
    refine ⟨stream.side, ?_⟩
    have holds : server.Alive (pair.stream stream.side) :=
      .inr (.inl ⟨stream.id, pair, stream.side, found, rfl⟩)
    refine sound.one_stream holds busy ?_ ?_
    · cases stream with
      | server => exact owned.server_id
      | client => exact owned.client_id
    · cases stream <;> rfl

/-- A stream that is alive is alive after the turn that makes the stream 2^32 after it. -/
theorem Sound.young_of_distinct [ReactiveState μ] {event : ServerEvent} (sound : server.Sound)
    (enabled : event.Enabled server) (done : event.perform server = .ok server')
    (distinct : server'.Distinct) : server.NoneOutlived event := by
  obtain ⟨ec, rfl, world, accepted, rfl⟩ | ⟨rfl, rfl⟩ | ⟨_, _, _, _, rfl, -, -, rfl⟩ :=
    perform_cases sound enabled done
  · intro stream alive expired
    have held : world.Holds stream := by
      rcases alive with ⟨newStream, accepting, rfl⟩ | holds
      · -- The stream being accepted is the last that was made.
        rw [sound.accepting] at accepting
        cases accepting
        simp only [Stream.conn] at expired
        omega
      · rcases accepted with rfl | ⟨newStream, -, rfl⟩
        · exact holds
        · exact holds.accept newStream
    have id : stream.id = server.streamId + 1 := by
      have next : Int32.ofNat (server.made + 1) = server.streamId + 1 := by
        rw [Int32.ofNat_add, sound.streamId]
        rfl
      have lap : Int32.ofNat (stream.conn + 2 ^ 32) = Int32.ofNat stream.conn := by
        rw [Int32.ofNat_add, show Int32.ofNat (2 ^ 32) = 0 from rfl, Int32.add_zero]
      rw [(sound.alive alive).1, ← lap, expired, next]
    have conn := distinct.one_connection stream
      (.server { tls := server.tls, conn := server.made + 1, id := server.streamId + 1 })
      (.inr held) (.inl ⟨_, rfl, rfl⟩) id
    simp only [Stream.conn] at conn expired
    omega
  · trivial
  · trivial

/-- None of the first 2^32 streams meets its own id again. -/
theorem young_of_made {event : ServerEvent} (early : server.made + 1 < 2 ^ 32) :
    server.NoneOutlived event := by
  cases event with
  | accepted ec =>
      intro stream alive expired
      omega
  | signal | complete => trivial

/-! ### The first lap

The streams that are made before the counter wraps have ids that no stream had before. So up to then
the world of a server is one of those that the sessions are studied in. -/

/-- The history knows only streams that were made before. -/
structure Documented [SessionState μ] (server : Server μ) : Prop where
  reachable : AmgiNetTools.Reachable server.world
  known : ∀ record ∈ server.world.history,
    record.stream.id = Int32.ofNat record.stream.conn ∧ record.stream.conn < server.made

/-- On the first lap, numbers with one id are one number. -/
theorem eq_of_id {first second : Nat} (early : first < 2 ^ 32) (early' : second < 2 ^ 32)
    (same : Int32.ofNat first = Int32.ofNat second) : first = second := by
  have alike := alike_of_id same
  rwa [Nat.mod_eq_of_lt early, Nat.mod_eq_of_lt early'] at alike

theorem Documented.perform [ReactiveState μ] {event : ServerEvent} (documented : server.Documented)
    (sound : server.Sound) (enabled : event.Enabled server)
    (done : event.perform server = .ok server') (early : server'.made < 2 ^ 32) :
    server'.Documented := by
  obtain ⟨reachable, known⟩ := documented
  obtain ⟨ec, rfl, world, same | ⟨newStream, accepting, accepted⟩, rfl⟩ | ⟨rfl, rfl⟩ |
    ⟨stream, op, completion, next, rfl, enabled, finished, rfl⟩ := perform_cases sound enabled done
  · subst same
    refine ⟨reachable, fun record member => ?_⟩
    exact ⟨(known record member).1, Nat.lt_succ_of_lt (known record member).2⟩
  · subst accepted
    have early : server.made + 1 < 2 ^ 32 := early
    rw [sound.accepting] at accepting
    cases accepting
    constructor
    · refine reachable.step ⟨.accept _, fun record member same => ?_, perform_accept _⟩
      obtain ⟨id, before⟩ := known record member
      have conn := eq_of_id (by omega) (by omega) (id.symm.trans same)
      exact before.ne conn
    · intro record member
      rw [Server.startAccept, World.history_accept, List.mem_append] at member
      rcases member with old | new
      · exact ⟨(known record old).1, Nat.lt_succ_of_lt (known record old).2⟩
      · cases List.mem_singleton.mp new
        exact ⟨rfl, Nat.lt_succ_self server.made⟩
  · exact ⟨reachable, known⟩
  · constructor
    · refine reachable.step ⟨.complete stream op completion, enabled, ?_⟩
      rw [perform_complete stream op completion sound.coherent, finished]
      rfl
    · intro record member
      rcases World.mem_history_finish enabled.1 finished member with old | holds
      · exact known record old
      · have made := sound.made _ holds
        exact ⟨made.id, lt_of_le_of_ne made.recent.is_drawn made.earlier⟩

theorem made_le_of_perform [ReactiveState μ] {event : ServerEvent}
    (done : event.perform server = .ok server') : server.made ≤ server'.made := by
  cases event with
  | accepted ec =>
      simp only [ServerEvent.perform] at done
      split at done
      · cases done
        exact le_rfl
      · unfold onAccepted at done
        split at done
        · cases done
          exact le_rfl
        · split at done
          · simp only [StreamManager.onAccept_run, except_ok_bind] at done
            cases done
            exact Nat.le_succ server.made
          · cases done
            exact Nat.le_succ server.made
  | signal =>
      cases done
      exact le_rfl
  | complete stream op completion =>
      simp only [ServerEvent.perform] at done
      cases performed : (IoEvent.complete stream op completion).perform.run server.world with
      | error fault => simp [performed, bind, Except.bind] at done
      | ok result =>
          rw [performed] at done
          cases done
          exact le_rfl

/-- Until the counter wraps, a server is sound whatever happens. -/
theorem documented_of_reachable [ReactiveState μ] {tls : Bool} (reachable : Reachable tls server)
    (early : server.made < 2 ^ 32) : server.Sound ∧ server.Documented := by
  induction reachable with
  | start => exact ⟨sound_create tls, .start, fun record member => by cases member⟩
  | @step server server' event _ enabled _ done ih =>
      obtain ⟨sound, documented⟩ := ih ((made_le_of_perform done).trans_lt early)
      have young : server.NoneOutlived event := by
        obtain ⟨_, rfl, _, -, rfl⟩ | ⟨rfl, rfl⟩ | ⟨_, _, _, _, rfl, -, -, rfl⟩ :=
          perform_cases sound enabled done
        · exact young_of_made early
        · trivial
        · trivial
      exact ⟨sound.perform enabled young done, documented.perform sound enabled done early⟩

end Server

end AmgiNetTools
