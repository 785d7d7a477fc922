/-
Module: AmgiNetTools.Tunnel.Conversation
Layer: Tunnel
Purpose: The conversations of the sessions that run, from both sides. A session is set up, or both
  of its directions relay, in any interleaving of one lane each; every such conversation is held by
  some session of some server, and no session that runs holds another.
Main exports: Tunnel.relayLine, Tunnel.eventsOf, Tunnel.Conversation, Tunnel.Session.Passing,
  tunnel_conversations_exact
-/
import AmgiNetTools.Tunnel.Exact

namespace AmgiNetTools

namespace Tunnel

/-- What happens to a direction, as a line of the history. -/
def relayLine : Sock × Lane.Event IoBuffer → Happening
  | (source, .received chunk) => .completed (.read source) .success chunk
  | (source, .delivered chunk) => .completed (.write source chunk.length) .success chunk

/-- What happens to one direction, among what happens to both. -/
def eventsOf (source : Sock) (trace : List (Sock × Lane.Event IoBuffer)) :
    List (Lane.Event IoBuffer) :=
  trace.filterMap fun entry => if entry.1 = source then some entry.2 else none

/-- A read brings something, and no more than its buffer holds. -/
def Fits (trace : List (Sock × Lane.Event IoBuffer)) : Prop :=
  ∀ source chunk, (source, .received chunk) ∈ trace → chunk ≠ [] ∧ chunk.length ≤ maxBuffSize

/-- The lines of a session that has been set up. -/
def openingLines (remoteHost remoteService : Text) : List Happening :=
  [.start, .join] ++ succeededLines (setupOps remoteHost remoteService)

/-- What a session that runs may wait for, and what may have happened to it by then. -/
inductive Conversation (remoteHost remoteService : Text) : Multiset Op → List Happening → Prop where
  | connecting (done : List Op) (next : Op) (later : List Op)
      (order : setupOps remoteHost remoteService = done ++ next :: later) :
      Conversation remoteHost remoteService {next} ([.start, .join] ++ succeededLines done)
  | relaying (trace : List (Sock × Lane.Event IoBuffer)) (lane : Sock → Lane IoBuffer)
      (fits : Fits trace) (runs : ∀ source, Lane.run (eventsOf source trace) = some (lane source)) :
      Conversation remoteHost remoteService (relayOps lane fun _ => true)
        (openingLines remoteHost remoteService ++ trace.map relayLine)

variable {remoteHost remoteService : Text} {trace : List (Sock × Lane.Event IoBuffer)}
  {source : Sock} {chunk : IoBuffer}

theorem eventsOf_concat (entry : Sock × Lane.Event IoBuffer) :
    eventsOf source (trace ++ [entry]) =
      eventsOf source trace ++ if entry.1 = source then [entry.2] else [] := by
  by_cases same : entry.1 = source
  · simp [eventsOf, List.filterMap_append, same]
  · simp [eventsOf, List.filterMap_append, same]

theorem fits_concat {entry : Sock × Lane.Event IoBuffer} :
    Fits (trace ++ [entry]) ↔ Fits trace ∧
      ∀ source chunk, entry = (source, .received chunk) →
        chunk ≠ [] ∧ chunk.length ≤ maxBuffSize := by
  constructor
  · intro fits
    refine ⟨fun source chunk member => fits source chunk (List.mem_append_left _ member), ?_⟩
    rintro source chunk rfl
    exact fits source chunk (List.mem_append_right _ (List.mem_singleton_self _))
  · rintro ⟨fits, last⟩ source chunk member
    rcases List.mem_append.mp member with before | here
    · exact fits source chunk before
    · exact last source chunk (List.mem_singleton.mp here).symm

/-- The lines of a relay tell what happened to each direction. -/
theorem laneEvents_trace (fits : Fits trace) :
    laneEvents source (openingLines remoteHost remoteService ++ trace.map relayLine) =
      eventsOf source trace := by
  rw [laneEvents, List.filterMap_append]
  have opening : (openingLines remoteHost remoteService).filterMap (laneEvent source) = [] := rfl
  rw [opening, List.nil_append, List.filterMap_map, eventsOf]
  refine List.filterMap_congr fun entry member => ?_
  obtain ⟨source', event⟩ := entry
  cases event with
  | received chunk =>
      have some_ := (fits source' chunk member).1
      simp [relayLine, laneEvent, some_]
  | delivered chunk => simp [relayLine, laneEvent]

/-- A direction of a relay that has gone on was there before. -/
theorem exists_run_of_concat {entry : Sock × Lane.Event IoBuffer}
    (runs : ∃ lane, Lane.run (eventsOf source (trace ++ [entry])) = some lane) :
    ∃ lane, Lane.run (eventsOf source trace) = some lane := by
  obtain ⟨lane, run⟩ := runs
  rw [eventsOf_concat] at run
  split at run
  · rw [Lane.run_concat, Option.bind_eq_some_iff] at run
    obtain ⟨lane', run, -⟩ := run
    exact ⟨lane', run⟩
  · rw [List.append_nil] at run
    exact ⟨lane, run⟩

/-- A session in a conversation has started and has not left. -/
theorem Conversation.started {pending : Multiset Op} {history : List Happening}
    (conversation : Conversation remoteHost remoteService pending history) :
    .start ∈ history ∧ .leave ∉ history := by
  cases conversation with
  | connecting done next later order => simp [succeededLines]
  | relaying trace lane fits runs =>
      constructor
      · exact List.mem_append_left _ (by simp [openingLines])
      · intro member
        rcases List.mem_append.mp member with opening | relayed
        · simp [openingLines, succeededLines] at opening
        · obtain ⟨⟨source, event⟩, -, line⟩ := List.mem_map.mp relayed
          cases event with
          | received chunk => cases line
          | delivered chunk => cases line

/-! ### Sessions that relay -/

namespace Session

/-- A session that relays, with all that has happened to it. -/
structure Passing (remoteHost remoteService : Text) (trace : List (Sock × Lane.Event IoBuffer))
    (lane : Sock → Lane IoBuffer) (session : Session) : Prop where
  relaying : session.Relaying lane (fun _ => true) 0
  history : session.history = openingLines remoteHost remoteService ++ trace.map relayLine
  fits : Fits trace

variable {session : Session} {lane : Sock → Lane IoBuffer} {completion : Completion} {op : Op}

theorem Passing.runs (passing : session.Passing remoteHost remoteService trace lane)
    (source : Sock) : Lane.run (eventsOf source trace) = some (lane source) := by
  rw [← laneEvents_trace passing.fits, ← passing.history]
  exact passing.relaying.runs source

/-- What a completion adds when its handler goes on. -/
theorem history_of_success (goesOn : op.succeeds completion = true) :
    (session.after op completion).history =
      session.history ++ [.completed op completion.ec (session.moved op completion)] := by
  rw [history_after, if_pos goesOn]

/-- A direction reads a chunk. -/
theorem Passing.receive (passing : session.Passing remoteHost remoteService trace lane)
    (reading : lane source = .reading) (goesOn : (Op.read source).succeeds completion = true)
    (fits : completion.bytes.length ≤ maxBuffSize) :
    (session.after (.read source) completion).Passing remoteHost remoteService
      (trace ++ [(source, .received completion.bytes)])
      (Function.update lane source (.writing completion.bytes)) := by
  have succeeded : completion.ec.isError = false ∧ completion.bytes ≠ [] := by
    simpa [Op.succeeds, List.length_pos_iff] using goesOn
  refine ⟨passing.relaying.receive rfl reading goesOn, ?_, ?_⟩
  · rw [history_of_success goesOn, passing.history, List.map_append, List.append_assoc,
      ErrorCode.eq_success succeeded.1]
    simp [relayLine, moved, succeeded.1]
  · refine fits_concat.mpr ⟨passing.fits, ?_⟩
    intro source' chunk same
    cases same
    exact ⟨succeeded.2, fits⟩

/-- A direction has written its chunk. -/
theorem Passing.deliver (passing : session.Passing remoteHost remoteService trace lane)
    (writing : lane source = .writing chunk)
    (goesOn : (Op.write source chunk.length).succeeds completion = true) :
    (session.after (.write source chunk.length) completion).Passing remoteHost remoteService
      (trace ++ [(source, .delivered chunk)]) (Function.update lane source .reading) := by
  have succeeded : completion.ec.isError = false := by
    simp only [Op.succeeds, Bool.and_eq_true, Bool.not_eq_true'] at goesOn
    exact goesOn.1
  refine ⟨passing.relaying.deliver rfl writing goesOn, ?_, ?_⟩
  · have held := (passing.relaying.buffered source chunk writing).2
    rw [history_of_success goesOn, passing.history, List.map_append, List.append_assoc,
      ErrorCode.eq_success succeeded]
    simp [relayLine, moved, succeeded, held]
  · refine fits_concat.mpr ⟨passing.fits, ?_⟩
    intro source' chunk' same
    cases same

/-- The handshake succeeds, and both directions read. -/
theorem passing_of_handshake
    (history : session.history =
      [.start, .join] ++ succeededLines [.resolve remoteHost remoteService, .connect])
    (waits : session.pending = {.handshake}) (succeeded : completion.ec.isError = false) :
    (session.after .handshake completion).Passing remoteHost remoteService []
      fun _ => .reading := by
  have goesOn : Op.handshake.succeeds completion = true := by
    simp [Op.succeeds, succeeded]
  have grown : (session.after .handshake completion).history =
      openingLines remoteHost remoteService := by
    rw [history_of_success goesOn, history, ErrorCode.eq_success succeeded,
      @moved_setup session .handshake completion trivial]
    rfl
  refine ⟨⟨?_, by simp, fun source => ?_, by simp, fun _ => ⟨rfl, rfl⟩⟩, ?_, ?_⟩
  · rw [pending_after, if_pos goesOn, waits, Multiset.erase_singleton, Multiset.add_zero,
      Multiset.add_zero]
    exact Multiset.cons_swap _ _ 0
  · rw [grown]
    rfl
  · rw [grown, List.map_nil, List.append_nil]
  · intro source chunk member
    cases member

/-! ### Every session that runs holds a conversation -/

/-- A session has left, or is set up, or relays. -/
inductive Held (remoteHost remoteService : Text) (session : Session) : Prop where
  | left (gone : .leave ∈ session.history)
  | connecting (done : List Op) (next : Op) (later : List Op)
      (order : setupOps remoteHost remoteService = done ++ next :: later)
      (history : session.history = [.start, .join] ++ succeededLines done)
      (waits : session.pending = {next})
  | relaying (trace : List (Sock × Lane.Event IoBuffer)) (lane : Sock → Lane IoBuffer)
      (passing : session.Passing remoteHost remoteService trace lane)

theorem held_connecting {done later : List Op} {next : Op}
    (order : setupOps remoteHost remoteService = done ++ next :: later)
    (history : session.history = [.start, .join] ++ succeededLines done)
    (waits : session.pending = {next}) :
    (session.after next completion).Held remoteHost remoteService := by
  have isSetup := isSetup_of_order order
  cases goesOn : next.succeeds completion with
  | false => exact .left (leaves_after goesOn)
  | true =>
      have succeeded : completion.ec.isError = false := by
        simpa [succeeds_setup isSetup] using goesOn
      obtain ⟨next', later', rfl, followers⟩ | ⟨rfl, -⟩ :=
        @followers_of_order completion _ _ _ _ _ order
      · refine .connecting (done ++ [next]) next' later' ?_ ?_ ?_
        · rw [order, List.append_assoc]
          rfl
        · rw [history_of_success goesOn, history, moved_setup isSetup,
            ErrorCode.eq_success succeeded, succeededLines, succeededLines, List.map_append,
            List.append_assoc]
          rfl
        · rw [pending_after, if_pos goesOn, waits, Multiset.erase_singleton, Multiset.add_zero,
            followers]
      · have last : setupOps remoteHost remoteService =
            [.resolve remoteHost remoteService, .connect] ++ [.handshake] := rfl
        obtain ⟨rfl, same⟩ := List.append_inj' (order.symm.trans last) rfl
        cases same
        exact .relaying [] _ (passing_of_handshake history waits succeeded)

theorem held_relaying (passing : session.Passing remoteHost remoteService trace lane)
    (pending : op ∈ session.pending) (fits : completion.bytes.length ≤ maxBuffSize) :
    (session.after op completion).Held remoteHost remoteService := by
  cases goesOn : op.succeeds completion with
  | false => exact .left (leaves_after goesOn)
  | true =>
      rw [passing.relaying.waits, Multiset.add_zero] at pending
      obtain ⟨source, -, own⟩ := eq_laneOp_of_mem pending
      cases at_ : lane source with
      | reading =>
          rw [own, at_] at goesOn ⊢
          exact .relaying _ _ (passing.receive at_ goesOn fits)
      | writing chunk =>
          rw [own, at_] at goesOn ⊢
          exact .relaying _ _ (passing.deliver at_ goesOn)

theorem held_of_course (course : session.Course remoteHost remoteService) :
    session.Held remoteHost remoteService := by
  induction course with
  | accepted => exact .connecting [] _ _ rfl rfl rfl
  | after op completion _ pending fits held =>
      cases held with
      | left gone =>
          refine .left ?_
          rw [history_after]
          exact List.mem_append_left _ gone
      | connecting done next later order history waits =>
          obtain rfl : op = next := by simpa [waits] using pending
          exact held_connecting order history waits
      | relaying trace lane passing => exact held_relaying passing pending fits

theorem Held.conversation (held : session.Held remoteHost remoteService)
    (stays : .leave ∉ session.history) :
    Conversation remoteHost remoteService session.pending session.history := by
  cases held with
  | left gone => exact absurd gone stays
  | connecting done next later order history waits =>
      rw [history, waits]
      exact .connecting done next later order
  | relaying trace lane passing =>
      rw [passing.history, passing.relaying.waits, Multiset.add_zero]
      exact .relaying trace lane passing.fits passing.runs

/-! ### Every conversation is held -/

/-- Some session gets as far as an operation of the setup. -/
theorem exists_connecting {done later : List Op} {next : Op}
    (order : setupOps remoteHost remoteService = done ++ next :: later) :
    ∃ session : Session, session.Course remoteHost remoteService ∧
      session.history = [.start, .join] ++ succeededLines done ∧ session.pending = {next} := by
  induction done using List.reverseRecOn generalizing next later with
  | nil =>
      cases order
      exact ⟨_, .accepted, rfl, rfl⟩
  | append_singleton done op ih =>
      rw [List.append_assoc] at order
      obtain ⟨session, course, history, waits⟩ := ih order
      have isSetup := isSetup_of_order order
      have goesOn : op.succeeds (.succeeded []) = true := by
        rw [succeeds_setup isSetup]
        rfl
      refine ⟨session.after op (.succeeded []), ?_, ?_, ?_⟩
      · refine course.after op _ ?_ (Nat.zero_le _)
        rw [waits]
        exact Multiset.mem_singleton_self op
      · rw [history_of_success goesOn, history, moved_setup isSetup, succeededLines, succeededLines,
          List.map_append, List.append_assoc]
        rfl
      · obtain ⟨next', later', same, followers⟩ | ⟨none, -⟩ :=
          @followers_of_order (.succeeded []) _ _ _ _ _ order
        · cases same
          rw [pending_after, if_pos goesOn, waits, Multiset.erase_singleton, Multiset.add_zero,
            followers]
        · cases none

/-- A session that relays goes on as its lanes do. -/
theorem Passing.extend {event : Lane.Event IoBuffer} {next : Lane IoBuffer}
    (passing : session.Passing remoteHost remoteService trace lane)
    (course : session.Course remoteHost remoteService) (fits : Fits (trace ++ [(source, event)]))
    (run : (lane source).step event = some next) :
    ∃ (session : Session) (lane : Sock → Lane IoBuffer),
      session.Course remoteHost remoteService ∧
      session.Passing remoteHost remoteService (trace ++ [(source, event)]) lane := by
  have waits : session.pending = relayOps lane fun _ => true := by
    rw [passing.relaying.waits, Multiset.add_zero]
  have pending := @laneOp_mem lane (fun _ => true) source rfl
  rw [← waits] at pending
  cases at_ : lane source with
  | reading =>
      rw [at_] at run pending
      cases event with
      | delivered chunk => cases run
      | received chunk =>
          obtain ⟨some_, small⟩ := (fits_concat.mp fits).2 source chunk rfl
          have goesOn : (Op.read source).succeeds (.succeeded chunk) = true := by
            simp [Op.succeeds, Completion.succeeded, List.length_pos_iff, some_]
          exact ⟨_, _, course.after _ (.succeeded chunk) pending small,
            passing.receive at_ goesOn small⟩
  | writing chunk =>
      rw [at_] at run pending
      cases event with
      | received chunk' => cases run
      | delivered chunk' =>
          obtain rfl : chunk' = chunk := by
            by_contra other
            simp [Lane.step, other] at run
          have some_ := (passing.relaying.buffered source chunk' at_).1
          have goesOn : (Op.write source chunk'.length).succeeds (.succeeded []) = true := by
            simp [Op.succeeds, Completion.succeeded, List.length_pos_iff, some_]
          exact ⟨_, _, course.after _ (.succeeded []) pending (Nat.zero_le _),
            passing.deliver at_ goesOn⟩

/-- Some session relays in every interleaving of two lanes. -/
theorem exists_passing (fits : Fits trace)
    (runs : ∀ source, ∃ lane, Lane.run (eventsOf source trace) = some lane) :
    ∃ (session : Session) (lane : Sock → Lane IoBuffer),
      session.Course remoteHost remoteService ∧
      session.Passing remoteHost remoteService trace lane := by
  induction trace using List.reverseRecOn with
  | nil =>
      obtain ⟨session, course, history, waits⟩ := @exists_connecting remoteHost remoteService
        [.resolve remoteHost remoteService, .connect] [] .handshake rfl
      refine ⟨session.after .handshake (.succeeded []), _, ?_,
        passing_of_handshake history waits rfl⟩
      refine course.after .handshake _ ?_ (Nat.zero_le _)
      rw [waits]
      exact Multiset.mem_singleton_self _
  | append_singleton trace entry ih =>
      obtain ⟨source, event⟩ := entry
      obtain ⟨session, lane, course, passing⟩ :=
        ih (fits_concat.mp fits).1 fun source' => exists_run_of_concat (runs source')
      obtain ⟨next, run⟩ := runs source
      rw [eventsOf_concat, if_pos rfl, Lane.run_concat, passing.runs source] at run
      exact passing.extend course fits run

theorem exists_of_conversation {pending : Multiset Op} {history : List Happening}
    (conversation : Conversation remoteHost remoteService pending history) :
    ∃ session : Session, session.Course remoteHost remoteService ∧ session.pending = pending ∧
      session.history = history := by
  cases conversation with
  | connecting done next later order =>
      obtain ⟨session, course, told, waits⟩ := exists_connecting order
      exact ⟨session, course, waits, told⟩
  | relaying trace lane fits runs =>
      obtain ⟨session, lane', course, passing⟩ :=
        @exists_passing remoteHost remoteService trace fits fun source => ⟨lane source, runs source⟩
      obtain rfl : lane' = lane := by
        funext source
        exact Option.some.inj ((passing.runs source).symm.trans (runs source))
      refine ⟨session, course, ?_, passing.history⟩
      rw [passing.relaying.waits, Multiset.add_zero]

/-- A session that ran by itself is the first of some server. -/
theorem exists_server {session : Session} (course : session.Course remoteHost remoteService)
    (started : session.Started) :
    ∃ (server : Server) (id : Nat), Tunnel.Reachable server ∧ server.remoteHost = remoteHost ∧
      server.remoteService = remoteService ∧ id ∈ server.manager ∧
      server.sessions id = session := by
  let server : Server :=
    { remoteHost := remoteHost
      remoteService := remoteService
      made := 2
      sessions := Function.update (fun _ => unused remoteHost remoteService) 1 session
      manager := {1} }
  have composed : server.Composed := by
    refine ⟨Nat.le_succ 1, fun id => ?_, fun id => ?_⟩
    · by_cases first : id = 1
      · subst first
        right
        exact ⟨le_rfl, Nat.lt_succ_self 1, by simpa [server] using course⟩
      · left
        simp [server, Function.update_of_ne first]
    · by_cases first : id = 1
      · subst first
        simpa [server] using started
      · simp [server, first, Started, unused]
  have first : server.sessions 1 = session := by simp [server]
  exact ⟨server, 1, reachable_of_composed composed, rfl, rfl, Finset.mem_singleton_self 1, first⟩

end Session

end Tunnel

/-- The sessions in the sets of tunnel servers, with what they wait for and all that has happened to
    them, are exactly those in conversations: in one step of the setup, or relaying in an
    interleaving of two lanes. -/
theorem tunnel_conversations_exact (remoteHost remoteService : Text)
    (pending : Multiset Tunnel.Op) (history : List Tunnel.Happening) :
    (∃ (server : Tunnel.Server) (id : Nat), Tunnel.Reachable server ∧
      server.remoteHost = remoteHost ∧ server.remoteService = remoteService ∧
      id ∈ server.manager ∧ (server.sessions id).pending = pending ∧
      (server.sessions id).history = history) ↔
    Tunnel.Conversation remoteHost remoteService pending history := by
  constructor
  · rintro ⟨server, id, reachable, rfl, rfl, member, rfl, rfl⟩
    have composed := Tunnel.composed_of_reachable reachable
    have started := (composed.member id).mp member
    rcases composed.session id with unused | ⟨-, -, course⟩
    · have start := started.1
      rw [unused] at start
      cases start
    · exact (Tunnel.Session.held_of_course course).conversation started.2
  · intro conversation
    obtain ⟨session, course, waits, told⟩ := Tunnel.Session.exists_of_conversation conversation
    have started := conversation.started
    rw [← told] at started
    obtain ⟨server, id, reachable, host, service, member, rfl⟩ :=
      Tunnel.Session.exists_server course started
    exact ⟨server, id, reachable, host, service, member, waits, told⟩

end AmgiNetTools
