/-
Module: AmgiNetTools.Tunnel.Counter
Layer: Tunnel
Purpose: `g_scount`. `start()` counts a session and its destructor takes it off again, so the count
  is that of the sessions that run as long as no session is destroyed that was never started. The
  end of the server drops what points to its sessions member by member, the set before the event
  loop.
Main exports: Tunnel.Process, Tunnel.Process.Event, Tunnel.Process.Balanced,
  Tunnel.Process.Event.Orderly, Tunnel.Process.destroyed_tearDown, Tunnel.Process.balanced_iff,
  tunnel_counter_exact
-/
import AmgiNetTools.Tunnel.Closing

namespace AmgiNetTools

namespace Tunnel

/-- A server, and what its process has beside it: `g_scount`, the sessions whose destructor has run,
    and whether the server itself is gone, with its event loop. -/
structure Process where
  server : Server
  gScount : UInt64 := 0
  destroyed : Finset Nat := ∅
  ended : Bool := false

/-- Something points to a session: the manager, the handler of an outstanding operation, or the one
    of the accept. -/
def Server.Holds (server : Server) (id : Nat) : Prop :=
  id ∈ server.manager ∨ (server.sessions id).pending ≠ 0 ∨ id = server.made

instance (server : Server) : DecidablePred server.Holds := fun _ =>
  inferInstanceAs (Decidable (_ ∨ _ ∨ _))

/-- The handlers that are outstanding are destroyed without being called. -/
def Server.dropHandlers (server : Server) : Server :=
  { server with sessions := fun id => { server.sessions id with pending := 0 } }

/-- Whether a handler calls `start()`. -/
def Event.starts : Event → Bool
  | .accepted ec => !ec.isError
  | .signal | .complete _ _ _ => false

namespace Process

/-- Let the server do something that counts nothing. -/
def lift (f : Server → Server) (process : Process) : Process :=
  { process with server := f process.server }

/-- `session::start`. -/
def start (id : Nat) (process : Process) : Process :=
  { process.lift (Server.start id) with gScount := process.gScount + 1 }

/-- `~session`. -/
def destroy (process : Process) (id : Nat) : Process :=
  { process with
    gScount := process.gScount - 1
    destroyed := insert id process.destroyed }

/-- The handler of `async_accept`. -/
def onAccepted (ec : ErrorCode) (process : Process) : Process :=
  if !ec.isError then
    let made := process.server.made
    ((process.lift (Server.modify made (Session.setOpen .localSock true))).start made).lift
      Server.startAccept
  else
    process.lift Server.startAccept

/-- The session objects there are. -/
def objects (process : Process) : List Nat :=
  (List.range' 1 process.server.made).filter (· ∉ process.destroyed)

/-- Something points to a session: what points to it in a server, but once the event loop is gone
    there is no handler of an accept. -/
def Holds (process : Process) (id : Nat) : Prop :=
  id ∈ process.server.manager ∨ (process.server.sessions id).pending ≠ 0 ∨
    process.ended = false ∧ id = process.server.made

instance (process : Process) : DecidablePred process.Holds := fun _ =>
  inferInstanceAs (Decidable (_ ∨ _ ∨ _))

/-- The objects that nothing points to any more. -/
def released (process : Process) : List Nat :=
  process.objects.filter fun id => ¬ process.Holds id

/-- Run the destructors of some sessions. -/
def destroyAll (process : Process) (ids : List Nat) : Process :=
  ids.foldl destroy process

/-- Run the destructors of the sessions that were released. -/
def sweep (process : Process) : Process := process.destroyAll process.released

/-- The handler of an event. -/
def handle (process : Process) : Tunnel.Event → Process
  | .accepted ec => process.onAccepted ec
  | .signal => process.lift Server.onSignal
  | .complete id op completion => process.lift fun server =>
      (server.modify id (Session.retire op completion)).complete id op completion

/-- The destructor of `manager_`. -/
def dropManager (process : Process) : Process :=
  (process.lift fun server => { server with manager := ∅ }).sweep

/-- The destructor of `ioc_`. The handler of the accept is gone with the others. -/
def dropIoc (process : Process) : Process :=
  sweep { process.lift Server.dropHandlers with ended := true }

/-- What a process does next: a turn of the event loop, or, when `run()` has returned, the
    destructor of the server. -/
inductive Event where
  | turn (event : Tunnel.Event)
  | tearDown

namespace Event

def Enabled (process : Process) : Event → Prop
  | .turn event => process.ended = false ∧ event.Enabled process.server
  | .tearDown => process.ended = false ∧ process.server.stopped = true

/-- After a handler, the sessions it was the last to point to are destroyed. The members of the
    server are destroyed in the opposite order of their declarations, `ioc_` after `manager_`. -/
def perform (process : Process) : Event → Process
  | .turn event => (process.handle event).sweep
  | .tearDown => process.dropManager.dropIoc

instance (process : Process) (event : Event) : Decidable (event.Enabled process) :=
  match event with
  | .turn _ => inferInstanceAs (Decidable (_ ∧ _))
  | .tearDown => inferInstanceAs (Decidable (_ ∧ _))

end Event

/-- A process that starts. -/
def create (remoteHost remoteService : Text) : Process :=
  { server := .create remoteHost remoteService }

/-- The objects have addresses of their own. -/
def Fits (process : Process) : Prop := process.objects.length < UInt64.size

instance : DecidablePred Fits := fun _ => inferInstanceAs (Decidable (_ < _))

/-- The processes in the runs whose steps all meet a condition. -/
inductive ReachableWhile (Allowed : Event → Prop) : Process → Prop where
  | start (remoteHost remoteService : Text) :
      ReachableWhile Allowed (.create remoteHost remoteService)
  | step {process : Process} {event : Event} : ReachableWhile Allowed process →
      event.Enabled process → (event.perform process).Fits → Allowed event →
        ReachableWhile Allowed (event.perform process)

/-- The processes in all runs. -/
abbrev Reachable (process : Process) : Prop := ReachableWhile (fun _ => True) process

/-- The sessions that were started. The one that is being accepted was not, nor are those that are
    still to be made. -/
def started (process : Process) : Finset Nat :=
  (Finset.range process.server.made).filter fun id =>
    .start ∈ (process.server.sessions id).history

/-- The sessions that were started and not destroyed. -/
def running (process : Process) : Finset Nat := process.started \ process.destroyed

/-- The sessions that were destroyed and not started. -/
def forgotten (process : Process) : Finset Nat := process.destroyed \ process.started

/-- `g_scount` is the number of the sessions that run. -/
def Balanced (process : Process) : Prop := process.gScount.toNat = process.running.card

instance : DecidablePred Balanced := fun _ => inferInstanceAs (Decidable (_ = _))

/-- An accept that fails destroys a session that was never started, and so does the end of the
    server. -/
def Event.Orderly : Event → Prop
  | .turn (.accepted ec) => ec.isError = false
  | .turn _ => True
  | .tearDown => False

instance : DecidablePred Event.Orderly := fun event =>
  match event with
  | .turn (.accepted _) => inferInstanceAs (Decidable (_ = _))
  | .turn .signal | .turn (.complete _ _ _) => isTrue trivial
  | .tearDown => isFalse id

/-- Every start was counted, and every destructor. -/
def Tallied (process : Process) : Prop :=
  process.gScount + UInt64.ofNat process.destroyed.card = UInt64.ofNat process.started.card

variable {process : Process} {ids : List Nat} {id : Nat}

@[simp] theorem server_destroyAll : (process.destroyAll ids).server = process.server := by
  induction ids generalizing process with
  | nil => rfl
  | cons id ids ih => exact @ih (process.destroy id)

theorem destroyed_destroyAll :
    (process.destroyAll ids).destroyed = process.destroyed ∪ ids.toFinset := by
  induction ids generalizing process with
  | nil => simp [destroyAll]
  | cons id ids ih =>
      have rest := @ih (process.destroy id)
      rw [List.toFinset_cons, Finset.union_insert, ← Finset.insert_union]
      exact rest

/-- Destructors are counted. -/
theorem tally_destroyAll (distinct : ids.Nodup) (alive : ∀ id ∈ ids, id ∉ process.destroyed) :
    (process.destroyAll ids).gScount + UInt64.ofNat (process.destroyAll ids).destroyed.card =
      process.gScount + UInt64.ofNat process.destroyed.card := by
  induction ids generalizing process with
  | nil => rfl
  | cons id ids ih =>
      rw [List.nodup_cons] at distinct
      rw [List.forall_mem_cons] at alive
      have others : ∀ id' ∈ ids, id' ∉ (process.destroy id).destroyed := by
        intro id' member gone
        rcases Finset.mem_insert.mp gone with rfl | before
        · exact distinct.1 member
        · exact alive.2 id' member before
      have one : (process.destroy id).gScount + UInt64.ofNat (process.destroy id).destroyed.card =
          process.gScount + UInt64.ofNat process.destroyed.card := by
        rw [destroy, Finset.card_insert_of_notMem alive.1, UInt64.ofNat_add]
        grind
      exact (@ih (process.destroy id) distinct.2 others).trans one

theorem ended_destroyAll : (process.destroyAll ids).ended = process.ended := by
  induction ids generalizing process with
  | nil => rfl
  | cons id ids ih => exact @ih (process.destroy id)

theorem nodup_objects : process.objects.Nodup :=
  List.Nodup.filter _ List.nodup_range'

theorem mem_objects :
    id ∈ process.objects ↔ (1 ≤ id ∧ id ≤ process.server.made) ∧ id ∉ process.destroyed := by
  rw [objects, List.mem_filter, List.mem_range'_1, decide_eq_true_iff, Nat.lt_one_add_iff]

theorem mem_released : id ∈ process.released ↔ id ∈ process.objects ∧ ¬ process.Holds id := by
  rw [released, List.mem_filter, decide_eq_true_iff]

/-- As long as there is an event loop, the pointers are those of the server. -/
theorem holds_iff (running : process.ended = false) :
    process.Holds id ↔ process.server.Holds id := by
  simp [Holds, Server.Holds, running]

/-! ### Destructors -/

@[simp] theorem server_sweep : process.sweep.server = process.server := server_destroyAll

@[simp] theorem ended_sweep : process.sweep.ended = process.ended := ended_destroyAll

theorem mem_destroyed_sweep :
    id ∈ process.sweep.destroyed ↔
      id ∈ process.destroyed ∨ (id ∈ process.objects ∧ ¬ process.Holds id) := by
  rw [sweep, destroyed_destroyAll, Finset.mem_union, List.mem_toFinset, mem_released]

theorem tally_sweep (process : Process) :
    process.sweep.gScount + UInt64.ofNat process.sweep.destroyed.card =
      process.gScount + UInt64.ofNat process.destroyed.card :=
  tally_destroyAll (nodup_objects.filter _) fun _ member =>
    (mem_objects.mp (mem_released.mp member).1).2

@[simp] theorem server_dropManager :
    process.dropManager.server = { process.server with manager := ∅ } :=
  server_sweep

@[simp] theorem server_dropIoc : process.dropIoc.server = process.server.dropHandlers :=
  server_sweep

theorem ended_dropIoc : process.dropIoc.ended = true := ended_sweep

theorem mem_destroyed_dropManager : id ∈ process.dropManager.destroyed ↔
    id ∈ process.destroyed ∨ (id ∈ process.objects ∧
      ¬ Holds (process.lift fun server => { server with manager := ∅ }) id) :=
  mem_destroyed_sweep

/-- Without manager and event loop, nothing points to a session. -/
theorem mem_destroyed_dropIoc (empty : process.server.manager = ∅) :
    id ∈ process.dropIoc.destroyed ↔ id ∈ process.destroyed ∨ id ∈ process.objects := by
  have free : ¬ Holds { process.lift Server.dropHandlers with ended := true } id := by
    rintro (member | busy | ⟨running, -⟩)
    · have listed : id ∈ process.server.manager := member
      rw [empty] at listed
      exact absurd listed (Finset.notMem_empty id)
    · exact busy rfl
    · cases running
  exact mem_destroyed_sweep.trans (or_congr_right (and_iff_left free))

/-! ### The end of the server -/

/-- The end of the server leaves the histories of the sessions alone. -/
theorem sessions_tearDown : (Event.tearDown.perform process).server.sessions id =
    { process.server.sessions id with pending := 0 } := by
  rw [Event.perform, server_dropIoc, server_dropManager]
  rfl

theorem made_tearDown : (Event.tearDown.perform process).server.made = process.server.made := by
  rw [Event.perform, server_dropIoc, server_dropManager]
  rfl

theorem manager_tearDown : (Event.tearDown.perform process).server.manager = ∅ := by
  rw [Event.perform, server_dropIoc, server_dropManager]
  rfl

theorem ended_tearDown : (Event.tearDown.perform process).ended = true := ended_dropIoc

/-- Once both members are gone, no session is left. -/
theorem destroyed_tearDown : (Event.tearDown.perform process).destroyed =
    process.destroyed ∪ process.objects.toFinset := by
  have empty : process.dropManager.server.manager = ∅ := by rw [server_dropManager]
  ext id
  rw [Event.perform, mem_destroyed_dropIoc empty, mem_objects, server_dropManager,
    mem_destroyed_dropManager, Finset.mem_union, List.mem_toFinset, mem_objects]
  tauto

theorem tally_tearDown :
    (Event.tearDown.perform process).gScount +
        UInt64.ofNat (Event.tearDown.perform process).destroyed.card =
      process.gScount + UInt64.ofNat process.destroyed.card :=
  (tally_sweep _).trans (tally_sweep (process.lift _))

/-! ### One handler -/

section

variable {event : Tunnel.Event}

/-- The server does what it does without a counter. -/
theorem server_handle : (process.handle event).server = event.perform process.server := by
  cases event with
  | accepted ec =>
      rw [handle, onAccepted, Tunnel.Event.perform, Server.onAccepted]
      split <;> rfl
  | signal => rfl
  | complete id op completion => rfl

theorem destroyed_handle : (process.handle event).destroyed = process.destroyed := by
  cases event with
  | accepted ec =>
      rw [handle, onAccepted]
      split <;> rfl
  | signal => rfl
  | complete id op completion => rfl

theorem ended_handle : (process.handle event).ended = process.ended := by
  cases event with
  | accepted ec =>
      rw [handle, onAccepted]
      split <;> rfl
  | signal => rfl
  | complete id op completion => rfl

theorem gScount_handle : (process.handle event).gScount =
    process.gScount + if event.starts then 1 else 0 := by
  cases event with
  | accepted ec =>
      rw [handle, onAccepted, Event.starts]
      split
      · rfl
      · exact (UInt64.add_zero _).symm
  | signal => exact (UInt64.add_zero _).symm
  | complete id op completion => exact (UInt64.add_zero _).symm

theorem mem_started (reachable : Tunnel.Reachable process.server) :
    id ∈ process.started ↔ .start ∈ (process.server.sessions id).history := by
  rw [started, Finset.mem_filter, Finset.mem_range, and_iff_right_iff_imp]
  intro start
  by_contra later
  obtain ⟨_, _, unused⟩ := (session_reachable reachable).1 id (Nat.le_of_not_lt later)
  simp [unused] at start

theorem started_handle (reachable : Tunnel.Reachable process.server)
    (enabled : event.Enabled process.server) :
    (process.handle event).started =
      if event.starts then insert process.server.made process.started else process.started := by
  have reachable' := reachable.step enabled trivial
  rw [← server_handle] at reachable'
  ext id
  rw [mem_started reachable', server_handle]
  cases event with
  | accepted ec =>
      cases failed : ec.isError with
      | true =>
          rw [perform_rejected failed]
          simpa [Event.starts, failed, Server.startAccept] using (mem_started reachable).symm
      | false =>
          rw [perform_accepted failed]
          by_cases same : id = process.server.made
          · subst same
            simp [Event.starts, failed, Server.modify, Session.accepted, Session.setOpen,
              Session.record, Session.doResolve, Session.initiate]
          · simp [Event.starts, failed, Server.modify, same, mem_started reachable]
  | signal => exact (mem_started reachable).symm
  | complete id' op completion =>
      rw [perform_complete]
      by_cases same : id = id'
      · subst same
        obtain ⟨lines, history, start, -⟩ :=
          Session.lines_after (process.server.sessions id) op completion
        simp [Event.starts, Server.modify, history, start, mem_started reachable]
      · simp [Event.starts, Server.modify, same, mem_started reachable]

end

/-! ### One step -/

variable {event : Event} {Allowed : Event → Prop}

theorem Event.Enabled.running (enabled : event.Enabled process) : process.ended = false := by
  cases event with
  | turn event => exact enabled.1
  | tearDown => exact enabled.1

/-- Until it ends, the server of a process runs as a server does. -/
theorem server_reachable (reachable : ReachableWhile Allowed process)
    (running : process.ended = false) : Tunnel.Reachable process.server := by
  induction reachable with
  | start remoteHost remoteService => exact .start remoteHost remoteService
  | @step process event _ enabled _ _ ih =>
      cases event with
      | turn event =>
          rw [Event.perform, server_sweep, server_handle]
          exact (ih enabled.1).step enabled.2 trivial
      | tearDown => exact absurd (ended_tearDown.symm.trans running) (by simp)

theorem started_congr {process' : Process} (made : process'.server.made = process.server.made)
    (history : ∀ id, (process'.server.sessions id).history =
      (process.server.sessions id).history) : process'.started = process.started := by
  simp only [started, made, history]

/-- What a turn does to the sets of the sessions that were started and that were destroyed. -/
theorem started_turn {event : Tunnel.Event} (reachable : Tunnel.Reachable process.server)
    (enabled : event.Enabled process.server) :
    ((Event.turn event).perform process).started =
      if event.starts then insert process.server.made process.started else process.started := by
  rw [← started_handle reachable enabled]
  exact started_congr (congrArg Server.made server_sweep)
    fun id => congrArg (fun server : Server => (server.sessions id).history) server_sweep

theorem started_tearDown : (Event.tearDown.perform process).started = process.started :=
  started_congr made_tearDown fun _ => by rw [sessions_tearDown]

theorem destroyed_turn {event : Tunnel.Event} :
    ((Event.turn event).perform process).destroyed =
      process.destroyed ∪ (process.handle event).released.toFinset := by
  rw [Event.perform, sweep, destroyed_destroyAll, destroyed_handle]

theorem ended_turn {event : Tunnel.Event} :
    ((Event.turn event).perform process).ended = process.ended :=
  ended_sweep.trans ended_handle

/-- A step counts what it starts and what it destroys. -/
theorem tallied_perform (reachable : Tunnel.Reachable process.server) (tallied : process.Tallied)
    (enabled : event.Enabled process) : (event.perform process).Tallied := by
  cases event with
  | turn event =>
      have fresh : process.server.made ∉ process.started := by simp [started]
      rw [Tallied, started_turn reachable enabled.2]
      refine (tally_sweep (process.handle event)).trans ?_
      rw [Tallied] at tallied
      rw [gScount_handle, destroyed_handle]
      cases event.starts with
      | false => simpa using tallied
      | true =>
          rw [if_pos rfl, if_pos rfl, Finset.card_insert_of_notMem fresh, UInt64.ofNat_add,
            ← tallied]
          grind
  | tearDown =>
      rw [Tallied, started_tearDown]
      exact tally_tearDown.trans tallied

/-- In every run, the count is off by the sessions that were destroyed without having been
    started. -/
theorem tally_of_reachable (reachable : ReachableWhile Allowed process) : process.Tallied := by
  induction reachable with
  | start => rfl
  | step within enabled _ _ tallied =>
      exact tallied_perform (server_reachable within enabled.running) tallied enabled

/-! ### The balance -/

/-- There is no session before the first one. -/
theorem first_made {server : Server} (reachable : Tunnel.Reachable server) :
    1 ≤ server.made ∧ ∃ remoteHost remoteService,
      server.sessions 0 = { remoteHost := remoteHost, remoteService := remoteService } := by
  induction reachable with
  | start => exact ⟨le_rfl, _, _, rfl⟩
  | @step server event _ enabled _ ih =>
      obtain ⟨made, remoteHost, remoteService, none⟩ := ih
      refine ⟨made.trans made_le_perform, remoteHost, remoteService, ?_⟩
      cases turned enabled 0 with
      | kept same => rw [same, none]
      | accepted ec happens succeeded last now => exact absurd last (Nat.ne_of_lt made)
      | completed op completion happens pending now => simp [none] at pending

/-- There is no session before the first one, also when the server is gone. -/
theorem unstarted_zero (reachable : ReachableWhile Allowed process) : 0 ∉ process.started := by
  have unstarted {process : Process} (reachable : Tunnel.Reachable process.server) :
      0 ∉ process.started := by
    obtain ⟨-, _, _, none⟩ := first_made reachable
    simp [started, none]
  cases reachable with
  | start remoteHost remoteService => exact unstarted (.start remoteHost remoteService)
  | @step process event within enabled fits allowed =>
      cases event with
      | turn event =>
          exact unstarted (server_reachable (within.step enabled fits allowed)
            (ended_turn.trans enabled.1))
      | tearDown =>
          rw [started_tearDown]
          exact unstarted (server_reachable within enabled.1)

theorem inside_of_started (reachable : ReachableWhile Allowed process)
    (member : id ∈ process.started) : 1 ≤ id ∧ id < process.server.made := by
  refine ⟨Nat.one_le_iff_ne_zero.mpr fun zero => ?_, ?_⟩
  · subst zero
    exact unstarted_zero reachable member
  · rw [started, Finset.mem_filter, Finset.mem_range] at member
    exact member.1

/-- Sessions that run are objects. -/
theorem card_running_le (reachable : ReachableWhile Allowed process) :
    process.running.card ≤ process.objects.length := by
  have inside : process.running ⊆ process.objects.toFinset := by
    intro id member
    obtain ⟨start, alive⟩ := Finset.mem_sdiff.mp member
    obtain ⟨after, before⟩ := inside_of_started reachable start
    exact List.mem_toFinset.mpr (mem_objects.mpr ⟨⟨after, before.le⟩, alive⟩)
  exact (Finset.card_le_card inside).trans (List.toFinset_card_le _)

/-- The count is off by the sessions that were destroyed without having been started. -/
theorem balanced_iff (reachable : ReachableWhile Allowed process) (fits : process.Fits) :
    process.Balanced ↔ UInt64.ofNat process.forgotten.card = 0 := by
  have tallied : process.gScount + UInt64.ofNat process.destroyed.card =
      UInt64.ofNat process.started.card := tally_of_reachable reachable
  have sets : process.running.card + process.destroyed.card =
      process.started.card + process.forgotten.card := by
    rw [running, forgotten, Finset.card_sdiff_add_card, Finset.union_comm,
      ← Finset.card_sdiff_add_card, Nat.add_comm]
  have off : process.gScount + UInt64.ofNat process.forgotten.card =
      UInt64.ofNat process.running.card := by
    have sums := congrArg UInt64.ofNat sets
    rw [UInt64.ofNat_add, UInt64.ofNat_add, ← tallied] at sums
    grind
  have small : process.running.card < UInt64.size :=
    (card_running_le reachable).trans_lt fits
  constructor
  · intro balanced
    rw [← balanced, UInt64.ofNat_toNat] at off
    exact (UInt64.add_right_inj process.gScount).mp (off.trans (UInt64.add_zero _).symm)
  · intro none
    rw [none, UInt64.add_zero] at off
    rw [Balanced, off]
    exact UInt64.toNat_ofNat_of_lt' small

/-! ### Orderly runs -/

/-- All sessions but the one that is being accepted were started, and that one is there. -/
structure Regular (process : Process) : Prop where
  started : ∀ id, 1 ≤ id → id < process.server.made → id ∈ process.started
  destroyed : ∀ id ∈ process.destroyed, 1 ≤ id ∧ id < process.server.made

theorem Regular.forgotten_eq (regular : process.Regular) : process.forgotten = ∅ := by
  rw [forgotten, Finset.sdiff_eq_empty_iff_subset]
  intro id member
  obtain ⟨after, before⟩ := regular.destroyed id member
  exact regular.started id after before

/-- What a turn destroys was made before, and is not being accepted. -/
theorem inside_of_released (running : process.ended = false) (member : id ∈ process.released) :
    1 ≤ id ∧ id < process.server.made := by
  obtain ⟨object, free⟩ := mem_released.mp member
  obtain ⟨⟨after, before⟩, -⟩ := mem_objects.mp object
  have last : id ≠ process.server.made := fun same => free (.inr (.inr ⟨running, same⟩))
  exact ⟨after, Nat.lt_of_le_of_ne before last⟩

theorem regular_turn {event : Tunnel.Event} (reachable : Tunnel.Reachable process.server)
    (regular : process.Regular) (enabled : (Event.turn event).Enabled process)
    (orderly : (Event.turn event).Orderly) :
    ((Event.turn event).perform process).Regular := by
  have started' := started_turn reachable enabled.2
  have server' : ((Event.turn event).perform process).server = event.perform process.server :=
    server_sweep.trans server_handle
  have made' : (event.perform process.server).made =
      process.server.made + if event.starts then 1 else 0 := by
    cases event with
    | accepted ec =>
        have succeeded : ec.isError = false := orderly
        rw [perform_accepted succeeded, Event.starts, succeeded]
        rfl
    | signal => rfl
    | complete id op completion =>
        rw [perform_complete]
        rfl
  constructor
  · intro id after before
    rw [server', made'] at before
    rw [started']
    cases starts : event.starts with
    | false =>
        rw [starts] at before
        exact regular.started id after before
    | true =>
        rw [starts] at before
        rw [if_pos rfl, Finset.mem_insert]
        rcases Nat.lt_succ_iff_lt_or_eq.mp before with earlier | same
        · exact .inr (regular.started id after earlier)
        · exact .inl same
  · intro id gone
    rw [destroyed_turn, Finset.mem_union, List.mem_toFinset] at gone
    rw [server']
    rcases gone with before | now
    · obtain ⟨after, earlier⟩ := regular.destroyed id before
      exact ⟨after, by rw [made']; exact Nat.lt_add_right _ earlier⟩
    · rw [← server_handle]
      exact inside_of_released (ended_handle.trans enabled.1) now

theorem regular_of_orderly (orderly : ReachableWhile Event.Orderly process) : process.Regular := by
  induction orderly with
  | start remoteHost remoteService =>
      constructor
      · intro id after before
        exact absurd before (Nat.not_lt.mpr after)
      · intro id gone
        exact absurd gone (Finset.notMem_empty id)
  | @step process event within enabled _ orderly regular =>
      cases event with
      | turn event =>
          exact regular_turn (server_reachable within enabled.1) regular enabled orderly
      | tearDown => exact orderly.elim

/-- The session that is being accepted waits for nothing of its own. -/
theorem free_of_rejected (reachable : Tunnel.Reachable process.server) {ec : ErrorCode}
    (failed : ec.isError = true) :
    ¬ ((Tunnel.Event.accepted ec).perform process.server).Holds process.server.made := by
  obtain ⟨_, _, unused⟩ := (session_reachable reachable).1 process.server.made le_rfl
  rw [perform_rejected failed]
  rintro (member | busy | last)
  · exact absurd ((listed_of_reachable reachable).bounded _ member) (lt_irrefl _)
  · exact busy (congrArg Session.pending unused)
  · exact absurd last (Nat.ne_of_lt (Nat.lt_succ_self _))

/-- Destructors of sessions that were made, the last one among them. -/
theorem Regular.forgotten_of_last (regular : process.Regular)
    (reachable : ReachableWhile Allowed process) {process' : Process}
    (same : process'.started = process.started)
    (gone : process'.destroyed = process.destroyed ∪ ids.toFinset)
    (inside : ∀ id ∈ ids, 1 ≤ id ∧ id ≤ process.server.made)
    (last : process.server.made ∈ ids) : process'.forgotten = {process.server.made} := by
  ext id
  rw [forgotten, Finset.mem_sdiff, gone, same, Finset.mem_union, List.mem_toFinset,
    Finset.mem_singleton]
  constructor
  · rintro ⟨destroyed, fresh⟩
    by_contra other
    apply fresh
    rcases destroyed with before | now
    · obtain ⟨after, earlier⟩ := regular.destroyed id before
      exact regular.started id after earlier
    · obtain ⟨after, most⟩ := inside id now
      exact regular.started id after (Nat.lt_of_le_of_ne most other)
  · rintro rfl
    exact ⟨.inr last, fun start => lt_irrefl _ (inside_of_started reachable start).2⟩

/-- What is not orderly destroys the session that is being accepted, and no other that was not
    started. -/
theorem forgotten_perform (within : ReachableWhile Event.Orderly process)
    (enabled : event.Enabled process) (disorderly : ¬ event.Orderly) :
    (event.perform process).forgotten = {process.server.made} := by
  have reachable := server_reachable within enabled.running
  have regular := regular_of_orderly within
  have made := (first_made reachable).1
  have alive : process.server.made ∉ process.destroyed := fun gone =>
    lt_irrefl _ (regular.destroyed _ gone).2
  cases event with
  | turn event =>
      cases event with
      | accepted ec =>
          have failed : ec.isError = true := Bool.not_eq_false _ ▸ disorderly
          have started' := started_turn reachable enabled.2
          rw [Event.starts, failed] at started'
          have server' := @server_handle process (.accepted ec)
          rw [perform_rejected failed] at server'
          refine regular.forgotten_of_last within started' destroyed_turn ?_ ?_
          · intro id member
            have inside := inside_of_released (ended_handle.trans enabled.1) member
            rw [server'] at inside
            exact ⟨inside.1, Nat.le_of_lt_succ inside.2⟩
          · rw [mem_released, mem_objects, holds_iff (ended_handle.trans enabled.1), server_handle,
              destroyed_handle]
            refine ⟨⟨⟨made, ?_⟩, alive⟩, free_of_rejected reachable failed⟩
            rw [perform_rejected failed]
            exact Nat.le_succ _
      | signal => exact absurd trivial disorderly
      | complete id op completion => exact absurd trivial disorderly
  | tearDown =>
      refine regular.forgotten_of_last within started_tearDown destroyed_tearDown ?_ ?_
      · intro id member
        exact (mem_objects.mp member).1
      · exact mem_objects.mpr ⟨⟨made, le_rfl⟩, alive⟩

theorem fits_of_reachable (reachable : ReachableWhile Allowed process) : process.Fits := by
  cases reachable with
  | start remoteHost remoteService =>
      have one : (create remoteHost remoteService).objects.length ≤ (List.range' 1 1).length :=
        List.length_filter_le ..
      exact one.trans_lt (by decide)
  | step _ _ fits _ => exact fits

theorem ReachableWhile.reachable (within : ReachableWhile Allowed process) : Reachable process := by
  induction within with
  | start remoteHost remoteService => exact .start remoteHost remoteService
  | step _ enabled fits _ ih => exact ih.step enabled fits trivial

/-- The first step that is not orderly upsets the balance. -/
theorem balanced_perform_iff (within : ReachableWhile Event.Orderly process)
    (enabled : event.Enabled process) (fits : (event.perform process).Fits) :
    (event.perform process).Balanced ↔ event.Orderly := by
  have next : Reachable (event.perform process) := within.reachable.step enabled fits trivial
  rw [balanced_iff next fits]
  constructor
  · intro even
    by_contra disorderly
    rw [forgotten_perform within enabled disorderly, Finset.card_singleton] at even
    exact absurd even (by decide)
  · intro orderly
    rw [(regular_of_orderly (within.step enabled fits orderly)).forgotten_eq]
    rfl

/-! ### A run -/

/-- One step. Nothing happens for an event that is not enabled, or for which there is no room. -/
def advance (process : Process) (event : Event) : Process :=
  if event.Enabled process ∧ (event.perform process).Fits then event.perform process else process

/-- The events in order, from the start of a process. -/
def play (remoteHost remoteService : Text) (events : List Event) : Process :=
  events.foldl advance (.create remoteHost remoteService)

theorem reachable_play (remoteHost remoteService : Text) {events : List Event}
    (allowed : ∀ event ∈ events, Allowed event) :
    ReachableWhile Allowed (play remoteHost remoteService events) := by
  have onward (process : Process) (reachable : ReachableWhile Allowed process) :
      ReachableWhile Allowed (events.foldl advance process) := by
    induction events generalizing process with
    | nil => exact reachable
    | cons event events ih =>
        rw [List.forall_mem_cons] at allowed
        apply ih allowed.2
        unfold advance
        split
        · next possible => exact reachable.step possible.1 possible.2 allowed.1
        · exact reachable
  exact onward _ (.start remoteHost remoteService)

end Process

namespace Sample

/-- One session is accepted, and another one whose host is not found. -/
def secondFails : List Process.Event :=
  [.turn (.accepted .success), .turn (.accepted .success),
    .turn (.complete 2 (.resolve (ascii "h") (ascii "443")) { ec := ⟨1⟩ })]

/-- The first accept fails. -/
def abortedAccept : List Process.Event := [.turn (.accepted ⟨103⟩)]

/-- A signal comes before any peer. -/
def earlySignal : List Process.Event := [.turn .signal, .tearDown]

end Sample

end Tunnel

/-- As long as no accept fails, and until the server is destroyed, the count is that of the sessions
    that were started and not destroyed. The first accept that fails puts an end to it, and so does
    the end of the server. -/
theorem tunnel_counter_exact {process : Tunnel.Process}
    (orderly : Tunnel.Process.ReachableWhile Tunnel.Process.Event.Orderly process) :
    process.Balanced ∧ ∀ event : Tunnel.Process.Event, event.Enabled process →
      (event.perform process).Fits →
        ((event.perform process).Balanced ↔ event.Orderly) := by
  constructor
  · rw [Tunnel.Process.balanced_iff orderly (Tunnel.Process.fits_of_reachable orderly),
      (Tunnel.Process.regular_of_orderly orderly).forgotten_eq]
    rfl
  · intro event enabled fits
    exact Tunnel.Process.balanced_perform_iff orderly enabled fits

/-- After `Tunnel.Sample.secondFails` one session runs. -/
theorem tunnel_counter_exact_sample :
    (Tunnel.Process.play (ascii "h") (ascii "443") Tunnel.Sample.secondFails).gScount = 1 ∧
      (Tunnel.Process.play (ascii "h") (ascii "443") Tunnel.Sample.secondFails).Balanced :=
  ⟨by decide, (tunnel_counter_exact (Tunnel.Process.reachable_play _ _ (by decide))).1⟩

/-- No session runs, and the count has wrapped below zero: an accept that failed has destroyed its
    session, or the end of the server has. -/
theorem tunnel_counter_wraps :
    (Tunnel.Process.Reachable
        (Tunnel.Process.play (ascii "h") (ascii "443") Tunnel.Sample.abortedAccept) ∧
      (Tunnel.Process.play (ascii "h") (ascii "443") Tunnel.Sample.abortedAccept).gScount =
        18446744073709551615 ∧
      ¬ (Tunnel.Process.play (ascii "h") (ascii "443") Tunnel.Sample.abortedAccept).Balanced) ∧
    Tunnel.Process.Reachable
        (Tunnel.Process.play (ascii "h") (ascii "443") Tunnel.Sample.earlySignal) ∧
      (Tunnel.Process.play (ascii "h") (ascii "443") Tunnel.Sample.earlySignal).gScount =
        18446744073709551615 ∧
      ¬ (Tunnel.Process.play (ascii "h") (ascii "443") Tunnel.Sample.earlySignal).Balanced := by
  refine ⟨⟨?_, by decide, by decide⟩, ?_, by decide, by decide⟩
  · exact Tunnel.Process.reachable_play _ _ fun _ _ => trivial
  · exact Tunnel.Process.reachable_play _ _ fun _ _ => trivial

end AmgiNetTools
