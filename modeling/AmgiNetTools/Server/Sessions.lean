/-
Module: AmgiNetTools.Server.Sessions
Layer: Server
Purpose: The sessions of a server that runs on. Ids come round, so the entry of an id may be that
  of a later stream. As long as no stream is alive a lap after it was made, every session still goes
  through what it goes through by itself, and the map holds those that were accepted and not
  stopped.
Main exports: World.own, World.course, World.Registered, Server.registered_of_reachable,
  Snapshot.session_eq_none_iff, server_sessions_exact, lasting_servers_transparent
-/
import AmgiNetTools.Http.Transparent
import AmgiNetTools.Server.Collision
import AmgiNetTools.Session.Realize
import AmgiNetTools.Session.Closing
import AmgiNetTools.Socks5.Transparent

namespace AmgiNetTools

variable {μ : Type}

/-! ### The course of one session -/

namespace World

/-- The session that an accepted stream began, while it is in the map. -/
def own (upstream : ServerStream) (world : World μ) : Option (Session μ) :=
  ((world.sessions upstream.id).filter (·.server = upstream)).map (·.session)

/-- The session that an accepted stream began, as it is now, whoever has its id. -/
def course (upstream : ServerStream) (world : World μ) : Snapshot μ :=
  { world.snapshot upstream with session := world.own upstream }

/-- A stream of a connection that was accepted. -/
def Known (world : World μ) (stream : Stream) : Prop :=
  ∃ upstream side, world.Accepted upstream ∧ upstream.endpoint side = stream

variable {upstream other : ServerStream} {world next : World μ}

theorem course_of_entry (entry : world.Entry upstream) :
    world.course upstream = world.snapshot upstream := by
  cases found : world.sessions upstream.id with
  | none => simp [course, own, snapshot, found]
  | some pair =>
      have mine : pair.server = upstream := congrArg SessionPair.server (entry pair found)
      simp [course, own, snapshot, found, mine]

/-- An entry of the id of a stream that is that of another has nothing of its own. -/
theorem own_of_entry (entry : world.Entry upstream) (same : other.id = upstream.id)
    (apart : other ≠ upstream) : world.own other = none := by
  rw [own, same]
  cases found : world.sessions upstream.id with
  | none => rfl
  | some pair =>
      have mine : pair.server = upstream := congrArg SessionPair.server (entry pair found)
      simp [mine, apart.symm]

/-- A turn that is about one connection: it leaves the others alone. -/
structure About (upstream : ServerStream) (world next : World μ) : Prop where
  history : ∃ lines, next.history = world.history ++ lines ∧
    ∀ record ∈ lines, (upstream.sideOf record.stream).isSome
  streams (stream : Stream) : upstream.sideOf stream = none →
    next.streams stream = world.streams stream
  sessions (key : Int32) : key ≠ upstream.id → next.sessions key = world.sessions key
  before : world.Entry upstream
  after : next.Entry upstream

theorem About.course (about : About upstream world next) (apart : other ≠ upstream)
    (distinct : ∀ side, upstream.sideOf (other.endpoint side) = none) :
    next.course other = world.course other := by
  obtain ⟨lines, grown, mine⟩ := about.history
  have silent : lines.filterMap other.line = [] := by
    refine List.filterMap_eq_nil_iff.mpr fun record member => ?_
    have some_ := mine record member
    cases found : other.sideOf record.stream with
    | none => simp [ServerStream.line, found]
    | some side =>
        rw [(other.sideOf_eq_some side).mp found, distinct side] at some_
        cases some_
  have conversation : next.conversation other = world.conversation other := by
    rw [World.conversation, World.conversation, grown, List.filterMap_append, silent,
      List.append_nil]
  have own : next.own other = world.own other := by
    by_cases same : other.id = upstream.id
    · rw [own_of_entry about.before same apart, own_of_entry about.after same apart]
    · rw [World.own, World.own, about.sessions _ same]
  have streams (side : Side) := about.streams _ (distinct side)
  simp only [World.course, snapshot, conversation, own, streams]

theorem Known.grows {stream : Stream} {lines : List (Record μ)}
    (grown : next.history = world.history ++ lines) (known : world.Known stream) :
    next.Known stream := by
  obtain ⟨upstream, side, accepted, same⟩ := known
  refine ⟨upstream, side, ?_, same⟩
  rw [Accepted, grown]
  exact List.mem_append_left lines accepted

theorem known_of_sideOf {stream : Stream} (accepted : world.Accepted upstream)
    (shared : (upstream.sideOf stream).isSome) : world.Known stream := by
  obtain ⟨side, found⟩ := Option.isSome_iff_exists.mp shared
  exact ⟨upstream, side, accepted, ((upstream.sideOf_eq_some side).mp found).symm⟩

/-- Another connection was accepted before. -/
theorem About.accepted (about : About upstream world next) (accepted : next.Accepted other)
    (apart : other ≠ upstream) : world.Accepted other := by
  obtain ⟨lines, grown, mine⟩ := about.history
  rw [Accepted, grown, List.mem_append] at accepted
  rcases accepted with before | line
  · exact before
  · exact absurd (other.eq_of_isSome_sideOf (mine _ line)).symm apart

/-- To accept a connection is about that one. -/
theorem about_accept [ReactiveState μ] (absent : world.sessions upstream.id = none) :
    About upstream world (world.accept upstream) := by
  have begun := accept_eq absent
  constructor
  · refine ⟨_, history_accept upstream, fun record member => ?_⟩
    cases List.mem_singleton.mp member
    exact Option.isSome_of_eq_some (ServerStream.sideOf_endpoint _ .server)
  · intro stream apart
    have other : stream ≠ upstream.endpoint .server := by
      rintro rfl
      simp at apart
    simp [begun, invoke, Function.update_of_ne other]
  · intro key other
    simp [begun, Function.update_of_ne other]
  · intro pair found
    rw [absent] at found
    cases found
  · intro pair found
    simp only [begun, Function.update_self, Option.some.injEq] at found
    rw [← found]
    rfl

end World

/-! ### What a server knows -/

/-- The stream that a server makes as its `n`-th. -/
def ServerStream.numbered (tls : Bool) (n : Nat) : ServerStream :=
  { tls := tls, conn := n, id := Int32.ofNat n }

/-- What holds of the world of a server that has made `made` streams. -/
structure World.Registered [ReactiveState μ] (tls : Bool) (made : Nat) (world : World μ) :
    Prop where
  numbered (upstream : ServerStream) : world.Accepted upstream →
    upstream = .numbered tls upstream.conn ∧ upstream.conn < made
  written : ∀ record ∈ world.history, world.Known record.stream
  held (stream : Stream) : world.Holds stream → world.Known stream
  fresh (stream : Stream) : ¬ world.Known stream → world.streams stream = .initial
  entries (key : Int32) (pair : SessionPair μ) : world.sessions key = some pair →
    pair.server.id = key ∧ pair = pair.server.pair pair.session
  alone (upstream : ServerStream) : world.Accepted upstream →
    Snapshot.Reachable tls upstream.id (world.course upstream)

namespace World

variable {tls : Bool} {made : Nat} {upstream other : ServerStream} {world next : World μ}

theorem conn_endpoint (side : Side) : (upstream.endpoint side).conn = upstream.conn := by
  cases side <;> rfl

theorem conn_of_sideOf {side : Side} (shared : (upstream.sideOf (other.endpoint side)).isSome) :
    other.conn = upstream.conn := by
  obtain ⟨side', found⟩ := Option.isSome_iff_exists.mp shared
  have conn := congrArg Stream.conn ((upstream.sideOf_eq_some side').mp found)
  rwa [conn_endpoint, conn_endpoint] at conn

section

variable [ReactiveState μ]

theorem registered_empty : (empty : World μ).Registered tls made where
  numbered upstream accepted := absurd accepted List.not_mem_nil
  written record member := absurd member List.not_mem_nil
  held stream holds := by
    rcases holds with ⟨_, _, _, found, _⟩ | busy
    · cases found
    · exact absurd rfl busy
  fresh stream _ := rfl
  entries key pair found := by cases found
  alone upstream accepted := absurd accepted List.not_mem_nil

/-- Connections that were accepted share no stream. -/
theorem Registered.eq_of_sideOf (registered : world.Registered tls made)
    (accepted : world.Accepted upstream) (accepted' : world.Accepted other) {side : Side}
    (shared : (upstream.sideOf (other.endpoint side)).isSome) : other = upstream := by
  rw [(registered.numbered _ accepted).1, (registered.numbered _ accepted').1,
    conn_of_sideOf shared]

/-- A connection shares no stream with one that was accepted before, not even when it is new. -/
theorem Registered.sideOf_eq_none (registered : world.Registered tls made)
    (before : world.Accepted other) (apart : other ≠ upstream)
    (new : ¬ world.Accepted upstream → made ≤ upstream.conn) (side : Side) :
    upstream.sideOf (other.endpoint side) = none := by
  by_contra shared
  have shared := Option.isSome_iff_ne_none.mpr shared
  by_cases known : world.Accepted upstream
  · exact apart (registered.eq_of_sideOf known before shared)
  · have earlier := (registered.numbered other before).2
    rw [conn_of_sideOf shared] at earlier
    exact absurd (new known) (Nat.not_le.mpr earlier)

/-- An entry is that of a connection that was accepted. -/
theorem Registered.accepted_of_entry (registered : world.Registered tls made) {key : Int32}
    {pair : SessionPair μ} (found : world.sessions key = some pair) :
    world.Accepted pair.server := by
  obtain ⟨upstream, side, accepted, same⟩ :=
    registered.held (.server pair.server) (.inl ⟨key, pair, .server, found, rfl⟩)
  cases side with
  | server =>
      cases same
      exact accepted
  | client => cases same

/-- A connection is in the map while its id has an entry of its own. -/
theorem Registered.present_iff (registered : world.Registered tls made) :
    (∃ session, world.sessions upstream.id = some (upstream.pair session)) ↔
      world.own upstream ≠ none := by
  constructor
  · rintro ⟨session, found⟩
    simp [World.own, found, ServerStream.pair]
  · intro mine
    obtain ⟨session, found⟩ := Option.ne_none_iff_exists'.mp mine
    obtain ⟨pair, held, -⟩ := Option.map_eq_some_iff.mp found
    obtain ⟨held, same⟩ := Option.filter_eq_some_iff.mp held
    have shape := (registered.entries _ pair held).2
    rw [decide_eq_true_iff.mp same] at shape
    exact ⟨pair.session, held.trans (congrArg some shape)⟩

/-- A turn that is about one connection keeps what holds. -/
theorem Registered.turn {made' : Nat} (registered : world.Registered tls made)
    (about : About upstream world next) (later : made ≤ made') (accepted : next.Accepted upstream)
    (new : ¬ world.Accepted upstream → made ≤ upstream.conn)
    (number : upstream = .numbered tls upstream.conn ∧ upstream.conn < made')
    (held : ∀ stream, next.Holds stream →
      world.Holds stream ∨ (upstream.sideOf stream).isSome)
    (alone : Snapshot.Reachable tls upstream.id (next.snapshot upstream)) :
    next.Registered tls made' := by
  obtain ⟨lines, grown, mine⟩ := about.history
  constructor
  · intro other accepted'
    by_cases same : other = upstream
    · exact same ▸ number
    · obtain ⟨shape, before⟩ := registered.numbered other (about.accepted accepted' same)
      exact ⟨shape, before.trans_le later⟩
  · intro record member
    rw [grown, List.mem_append] at member
    rcases member with before | line
    · exact (registered.written record before).grows grown
    · exact known_of_sideOf accepted (mine record line)
  · intro stream holds
    rcases held stream holds with before | shared
    · exact (registered.held stream before).grows grown
    · exact known_of_sideOf accepted shared
  · intro stream unknown
    have apart : upstream.sideOf stream = none := by
      by_contra shared
      exact unknown (known_of_sideOf accepted (Option.isSome_iff_ne_none.mpr shared))
    rw [about.streams stream apart]
    exact registered.fresh stream fun known => unknown (known.grows grown)
  · intro key pair found
    by_cases same : key = upstream.id
    · subst same
      have shape := about.after pair found
      rw [shape]
      exact ⟨rfl, rfl⟩
    · rw [about.sessions key same] at found
      exact registered.entries key pair found
  · intro other accepted'
    by_cases same : other = upstream
    · rw [same, course_of_entry about.after]
      exact alone
    · have before := about.accepted accepted' same
      rw [about.course same (registered.sideOf_eq_none before same new)]
      exact registered.alone other before

/-- The stream that is made next belongs to no connection yet. -/
theorem Registered.not_known (registered : world.Registered tls made) (side : Side) :
    ¬ world.Known ((ServerStream.numbered tls made).endpoint side) := by
  rintro ⟨other, side', accepted, same⟩
  have conn := congrArg Stream.conn same
  rw [conn_endpoint, conn_endpoint] at conn
  exact absurd conn (registered.numbered other accepted).2.ne

/-- A connection is accepted under an id that is free. -/
theorem Registered.accept (registered : world.Registered tls made)
    (absent : world.sessions (ServerStream.numbered tls made).id = none) :
    (world.accept (.numbered tls made)).Registered tls (made + 1) := by
  have silent : ∀ record ∈ world.history,
      (ServerStream.numbered tls made).sideOf record.stream = none := by
    intro record member
    by_contra shared
    obtain ⟨side, found⟩ := Option.ne_none_iff_exists'.mp shared
    refine registered.not_known side ?_
    rw [← (ServerStream.sideOf_eq_some _ side).mp found]
    exact registered.written record member
  refine registered.turn (about_accept absent) (Nat.le_succ made) ?_ (fun _ => le_rfl)
    ⟨rfl, Nat.lt_succ_self made⟩ ?_ ?_
  · rw [Accepted, history_accept]
    exact List.mem_append_right _ (List.mem_singleton_self _)
  · intro stream holds
    rcases holds_accept holds with rfl | rfl | before
    · exact .inr (Option.isSome_of_eq_some (ServerStream.sideOf_endpoint _ .server))
    · exact .inr (Option.isSome_of_eq_some (ServerStream.sideOf_endpoint _ .client))
    · exact .inl before
  · rw [snapshot_accept absent (fun side => registered.fresh _ (registered.not_known side)) silent]
    exact .start

/-- An operation completes whose stream finds the entry of its own connection, or none. -/
theorem Registered.finish {stream : Stream} {op : AsyncOp} {completion : Completion}
    (registered : world.Registered tls made) (coherent : world.Coherent)
    (enabled : (IoEvent.complete stream op completion).Enabled world)
    (routes : ∀ pair, world.sessions stream.id = some pair → ∃ side, pair.stream side = stream)
    (done : world.finish stream op completion = .ok next) : next.Registered tls made := by
  obtain ⟨pending, fits⟩ := enabled
  have busy : world.Holds stream := .inr fun idle => by simp [idle] at pending
  obtain ⟨upstream, side, accepted, rfl⟩ := registered.held stream busy
  have entry : world.Entry upstream := by
    intro pair found
    rw [← upstream.id_endpoint side] at found
    have shape := (registered.entries _ pair found).2
    obtain ⟨side', same⟩ := routes pair found
    rw [shape, ServerStream.stream_pair] at same
    have shared : (upstream.sideOf (pair.server.endpoint side')).isSome := by
      simp [same]
    have mine : pair.server = upstream :=
      registered.eq_of_sideOf accepted (registered.accepted_of_entry found) shared
    rw [← mine]
    exact shape
  have elsewhere (key : Int32) (apart : key ≠ upstream.id) :
      next.sessions key = world.sessions key :=
    sessions_eq_of_restrict_eq (restrict_finish_other coherent done (by simpa using apart.symm))
  have alone := registered.alone upstream accepted
  rw [course_of_entry entry] at alone
  have number := registered.numbered upstream accepted
  have about : About upstream world next :=
    ⟨history_finish entry done, fun _ => streams_finish_other entry done, elsewhere, entry,
      entry_finish entry done⟩
  refine registered.turn about le_rfl ?_ (fun new => absurd accepted new) number ?_ ?_
  · obtain ⟨lines, grown, -⟩ := history_finish entry done
    rw [Accepted, grown]
    exact List.mem_append_left lines accepted
  · exact fun stream holds => .inl (holds_finish pending done holds)
  · have kind : upstream.tls = tls := congrArg ServerStream.tls number.1
    rw [← kind] at alone ⊢
    exact alone.step pending fits (snapshot_finish entry done)

end

end World

/-! ### Starts and stops -/

/-- The line that accepts a connection. -/
def startLine : Side × Happening μ := (.server, .called .start)

/-- The first of the lines that stop a session. -/
def stopLine : Side × Happening μ := (.client, .called .stop)

namespace Reaction

/-- A handler calls `stop` on a stream when it leaves no session behind, and only then. -/
theorem stop_mem_calls {outcome : Reaction μ} :
    (.client, .stop) ∈ outcome.calls ↔ outcome.next = none := by
  have asked : (.client, .stop) ∉ outcome.requests.flatMap Request.calls := by
    intro member
    obtain ⟨request, -, called⟩ := List.mem_flatMap.mp member
    cases request <;> simp [Request.calls] at called
  rw [calls, List.mem_append]
  cases outcome.next with
  | none => simp [stopCalls]
  | some session => simpa using asked

/-- No handler starts the stream of the peer. -/
theorem start_notMem_calls {outcome : Reaction μ} : (.server, .start) ∉ outcome.calls := by
  intro member
  rw [calls, List.mem_append] at member
  rcases member with asked | stopped
  · obtain ⟨request, -, called⟩ := List.mem_flatMap.mp asked
    cases request <;> simp [Request.calls] at called
  · cases last : outcome.next with
    | none => simp [last, stopCalls] at stopped
    | some session => simp [last] at stopped

end Reaction

namespace Snapshot

variable [ReactiveState μ] {tls : Bool} {id : Int32} {snapshot next : Snapshot μ} {side : Side}
  {op : AsyncOp} {completion : Completion}

/-- What a completion adds to the history: its own line, and the calls of a handler. -/
theorem lines_complete (finished : snapshot.complete tls side op completion = .ok next) :
    (next.session = snapshot.session ∧
      next.history = snapshot.history ++ [(side, snapshot.completed side op completion)]) ∨
    snapshot.session ≠ none ∧ ∃ outcome : Reaction μ, next.session = outcome.next ∧
      next.history = snapshot.history ++ (side, snapshot.completed side op completion) ::
        outcome.calls.map fun call => (call.1, .called call.2) := by
  obtain rfl | ⟨session, outcome, alive, rfl⟩ := complete_inv finished
  · exact .inl ⟨rfl, rfl⟩
  · refine .inr ⟨by simp [alive], outcome, rfl, ?_⟩
    rw [history_modifyStream, history_react, retire, List.append_assoc]
    rfl

/-- A session is gone when its streams were stopped. -/
theorem session_eq_none_iff (reachable : Reachable tls id snapshot) :
    snapshot.session = none ↔ stopLine ∈ snapshot.history := by
  induction reachable with
  | start => simp [accepted, invoke, modifyStream, stopLine]
  | @step snapshot next side op completion _ _ _ finished ih =>
      obtain ⟨session, grown⟩ | ⟨alive, outcome, session, grown⟩ := lines_complete finished
      · rw [session, ih, grown, List.mem_append, List.mem_singleton]
        simp [stopLine, completed]
      · have running : stopLine ∉ snapshot.history := mt ih.mpr alive
        rw [session, ← Reaction.stop_mem_calls, grown, List.mem_append, or_iff_right running]
        simp [stopLine, completed]

/-- A connection is accepted once. -/
theorem count_start [DecidableEq μ] (reachable : Reachable tls id snapshot) :
    snapshot.history.count startLine = 1 := by
  induction reachable with
  | start => simp [accepted, invoke, startLine]
  | @step snapshot next side op completion _ _ _ finished ih =>
      have other : (side, snapshot.completed side op completion) ≠ startLine := by
        simp [startLine, completed]
      obtain ⟨-, grown⟩ | ⟨-, outcome, -, grown⟩ := lines_complete finished
      · rw [grown, List.count_append, ih, List.count_singleton, if_neg (by simpa using other)]
      · have none : startLine ∉ outcome.calls.map fun call =>
            ((call.1, .called call.2) : Side × Happening μ) := by
          intro member
          obtain ⟨call, called, same⟩ := List.mem_map.mp member
          cases call
          cases same
          exact Reaction.start_notMem_calls called
        rw [grown, List.count_append, ih, List.count_cons_of_ne other,
          List.count_eq_zero_of_not_mem none]

end Snapshot

namespace Server

variable {tls : Bool} {server server' : Server μ} [ReactiveState μ]

/-- A server serves with the streams it was made for. -/
theorem tls_of_perform {event : ServerEvent} (sound : server.Sound)
    (enabled : event.Enabled server) (done : event.perform server = .ok server') :
    server'.tls = server.tls := by
  obtain ⟨_, -, _, -, rfl⟩ | ⟨-, rfl⟩ | ⟨_, _, _, _, -, -, -, rfl⟩ :=
    perform_cases sound enabled done
  · rfl
  · rfl
  · rfl

theorem registered_perform {event : ServerEvent} (sound : server.Sound)
    (registered : server.world.Registered server.tls server.made)
    (enabled : event.Enabled server) (done : event.perform server = .ok server') :
    server'.world.Registered server.tls server'.made := by
  have distinct := sound.distinct
  obtain ⟨ec, rfl, world, same | ⟨newStream, accepting, accepted⟩, rfl⟩ | ⟨rfl, rfl⟩ |
    ⟨stream, op, completion, next, rfl, enabled, finished, rfl⟩ := perform_cases sound enabled done
  · subst same
    exact { registered with
      numbered := fun upstream accepted =>
        ⟨(registered.numbered upstream accepted).1,
          (registered.numbered upstream accepted).2.trans (Nat.lt_succ_self _)⟩ }
  · subst accepted
    have absent := (distinct.inserts newStream accepting).1
    rw [sound.accepting] at accepting
    cases accepting
    exact registered.accept absent
  · exact registered
  · exact registered.finish sound.coherent enabled (distinct.routes stream op enabled.1) finished

/-- In the runs in which no stream is alive a lap after it was made, sessions run by themselves. -/
theorem registered_of_reachable (within : ReachableWhile NoneOutlived tls server) :
    server.tls = tls ∧ server.world.Registered tls server.made := by
  induction within with
  | start => exact ⟨rfl, World.registered_empty⟩
  | @step server server' event earlier enabled _ done ih =>
      obtain ⟨rfl, registered⟩ := ih
      have sound := sound_of_reachable earlier
      exact ⟨tls_of_perform sound enabled done, registered_perform sound registered enabled done⟩

end Server

/-- In a run of a server of either kind, however long, in which no stream is alive a lap after it
    was made: what happens to a connection that was accepted is what happens to its session by
    itself, it was accepted once, and its session is in the map until its streams are stopped. The
    map holds no other entry. -/
theorem server_sessions_exact {μ : Type} [ReactiveState μ] [DecidableEq μ] {tls : Bool}
    {server : Server μ} (within : Server.ReachableWhile Server.NoneOutlived tls server) :
    (∀ upstream, server.world.Accepted upstream →
      Snapshot.Reachable tls upstream.id (server.world.course upstream) ∧
      (server.world.conversation upstream).count startLine = 1 ∧
      ((∃ session, server.world.sessions upstream.id = some (upstream.pair session)) ↔
        stopLine ∉ server.world.conversation upstream)) ∧
    ∀ key pair, server.world.sessions key = some pair → server.world.Accepted pair.server ∧
      pair.server.id = key ∧ pair = pair.server.pair pair.session := by
  obtain ⟨-, registered⟩ := Server.registered_of_reachable within
  constructor
  · intro upstream accepted
    have alone := registered.alone upstream accepted
    refine ⟨alone, Snapshot.count_start alone, ?_⟩
    exact registered.present_iff.trans (not_congr (Snapshot.session_eq_none_iff alone))
  · intro key pair found
    exact ⟨registered.accepted_of_entry found, registered.entries key pair found⟩

/-- The first of two connections is in the map of a server that has accepted both. -/
theorem server_sessions_exact_sample :
    ∃ session, (((Server.create false : Server HttpState).turn (.accepted .success)).turn
      (.accepted .success)).world.sessions 1 = some (Server.Sample.peer.pair session) :=
  (((server_sessions_exact Server.Sample.within_first).1 Server.Sample.peer (by decide)).2.2).mpr
    (by decide)

/-! ### Both proxies -/

/-- What happens to a connection happens to it in some run in which its id is its own. -/
theorem Server.conversation_of_world {μ : Type} [ReactiveState μ] {tls : Bool} {server : Server μ}
    (within : ReachableWhile NoneOutlived tls server) {upstream : ServerStream}
    (accepted : server.world.Accepted upstream) :
    ∃ world : World μ, AmgiNetTools.Reachable world ∧ world.Accepted upstream ∧
      world.conversation upstream = server.world.conversation upstream := by
  obtain ⟨-, registered⟩ := registered_of_reachable within
  have alone := registered.alone upstream accepted
  have kind : upstream.tls = tls :=
    congrArg ServerStream.tls (registered.numbered upstream accepted).1
  rw [← kind] at alone
  obtain ⟨world, reachable, known, same⟩ := World.exists_of_snapshot alone
  exact ⟨world, reachable, known, congrArg Snapshot.history same⟩

/-- Servers of either kind go on for any number of connections without mixing up their bytes, as
    long as no stream is alive a lap after it was made: what each wire of a connection carries came
    in at its other end. -/
theorem lasting_servers_transparent [Platform] (tls : Bool) :
    (∀ (server : Server Socks5State) (upstream : ServerStream),
      Server.ReachableWhile Server.NoneOutlived tls server → server.world.Accepted upstream →
      Socks5.Transparent (server.world.conversation upstream)) ∧
    ∀ (server : Server HttpState) (upstream : ServerStream),
      Server.ReachableWhile Server.NoneOutlived tls server → server.world.Accepted upstream →
      Http.Tunnels (server.world.conversation upstream) →
      Http.Transparent (server.world.conversation upstream) := by
  constructor
  · intro server upstream within accepted
    obtain ⟨world, reachable, known, same⟩ := Server.conversation_of_world within accepted
    exact same ▸ Socks5.transparent reachable known
  · intro server upstream within accepted tunnels
    obtain ⟨world, reachable, known, same⟩ := Server.conversation_of_world within accepted
    rw [← same] at tunnels ⊢
    exact Http.transparent reachable known tunnels

end AmgiNetTools
