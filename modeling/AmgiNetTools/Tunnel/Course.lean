/-
Module: AmgiNetTools.Tunnel.Course
Layer: Tunnel
Purpose: What the completion of one operation does to a session, said once: its handler goes on to
  the next operation, or leaves and closes. A session of a server runs as if by itself, so that what
  follows is about single sessions.
Main exports: Tunnel.Op.succeeds, Tunnel.Op.followers, Tunnel.Session.after,
  Tunnel.perform_complete, Tunnel.turned, Tunnel.Session.Reachable, Tunnel.session_reachable
-/
import AmgiNetTools.Tunnel.Session

namespace AmgiNetTools.Tunnel

/-! ### One completion -/

namespace Op

/-- Whether the handler goes on; else the session leaves. -/
def succeeds (op : Op) (completion : Completion) : Bool :=
  match op with
  | .resolve _ _ | .connect | .handshake => !completion.ec.isError
  | .read _ => !completion.ec.isError && completion.bytes.length > 0
  | .write _ size => !completion.ec.isError && size > 0
  | .shutdown | .nullWrite => true

/-- The operations a handler that goes on starts. -/
def followers (op : Op) (completion : Completion) : Multiset Op :=
  match op with
  | .resolve _ _ => {.connect}
  | .connect => {.handshake}
  | .handshake => {.read .remoteSock, .read .localSock}
  | .read source => {.write source completion.bytes.length}
  | .write source _ => {.read source}
  | .shutdown | .nullWrite => 0

/-- The operations of `close()`. -/
def IsClosing (op : Op) : Prop := op = .shutdown ∨ op = .nullWrite

/-- The operations before the relay. -/
def IsSetup : Op → Prop
  | .resolve _ _ | .connect | .handshake => True
  | _ => False

instance : DecidablePred IsClosing := fun _ => inferInstanceAs (Decidable (_ ∨ _))

end Op

namespace Session

/-- A handler that goes on. -/
def proceed (op : Op) (completion : Completion) (session : Session) : Session :=
  match op with
  | .resolve _ _ => session.doConnect
  | .connect => session.handshake
  | .handshake => session.doReadFromLocal.doReadFromRemote
  | .read source => session.doWriteFrom source completion.bytes.length
  | .write source _ => session.doReadFrom source
  | .shutdown | .nullWrite => session.setOpen .remoteSock false

/-- A session after the completion of one of its operations. -/
def after (op : Op) (completion : Completion) (session : Session) : Session :=
  if op.succeeds completion then
    (session.retire op completion).proceed op completion
  else
    ((session.retire op completion).record .leave).stop

variable {session : Session} {op : Op} {completion : Completion}

@[simp] theorem pending_retire :
    (session.retire op completion).pending = session.pending.erase op := by
  cases op <;> rfl

@[simp] theorem history_retire : (session.retire op completion).history =
    session.history ++ [.completed op completion.ec (session.moved op completion)] := by
  cases op <;> rfl

@[simp] theorem pending_proceed : (session.proceed op completion).pending =
    op.followers completion + session.pending := by
  cases op with
  | shutdown | nullWrite => exact (Multiset.zero_add _).symm
  | _ => simp [proceed, Op.followers, doConnect, handshake, doReadFromLocal, doReadFromRemote,
      doReadFrom, doWriteFrom, initiate]

@[simp] theorem history_proceed : (session.proceed op completion).history = session.history := by
  cases op <;> rfl

@[simp] theorem buffer_proceed : (session.proceed op completion).buffer = session.buffer := by
  cases op <;> rfl

theorem pending_close : session.close.pending =
    (if session.isOpen .remoteSock then {.nullWrite, .shutdown} else 0) + session.pending := by
  cases isLocal : session.isOpen .localSock <;> cases isRemote : session.isOpen .remoteSock <;>
    simp [close, setOpen, record, initiate, isLocal, isRemote]

theorem history_close : session.close.history =
    session.history ++ if session.isOpen .remoteSock then [.close] else [] := by
  cases isLocal : session.isOpen .localSock <;> cases isRemote : session.isOpen .remoteSock <;>
    simp [close, setOpen, record, initiate, isLocal, isRemote]

@[simp] theorem buffer_close : session.close.buffer = session.buffer := by
  cases isLocal : session.isOpen .localSock <;> cases isRemote : session.isOpen .remoteSock <;>
    simp [close, setOpen, record, initiate, isLocal, isRemote]

@[simp] theorem isOpen_close :
    session.close.isOpen .remoteSock = session.isOpen .remoteSock := by
  cases isLocal : session.isOpen .localSock <;> cases isRemote : session.isOpen .remoteSock <;>
    simp [close, setOpen, record, initiate, isLocal, isRemote]

/-- What a session waits for after a completion. -/
theorem pending_after : (session.after op completion).pending =
    (if op.succeeds completion then op.followers completion
      else if (session.retire op completion).isOpen .remoteSock then {.nullWrite, .shutdown}
      else 0) + session.pending.erase op := by
  unfold after
  split
  · rw [pending_proceed, pending_retire]
  · rw [stop, pending_close]
    simp [record]

/-- What a completion adds to the history. -/
theorem history_after : (session.after op completion).history = session.history ++
    .completed op completion.ec (session.moved op completion) ::
      (if op.succeeds completion then []
        else .leave ::
          if (session.retire op completion).isOpen .remoteSock then [.close] else []) := by
  unfold after
  split
  · rw [history_proceed, history_retire]
  · rw [stop, history_close]
    simp [record]

theorem buffer_after :
    (session.after op completion).buffer = (session.retire op completion).buffer := by
  unfold after
  split
  · exact buffer_proceed
  · exact buffer_close

end Session

/-! ### Turns of the event loop -/

/-- A session that was accepted and is started. -/
def Session.accepted (session : Session) : Session :=
  (((session.setOpen .localSock true).record .start).record .join).doResolve

section

variable {server : Server} {id : Nat} {op : Op} {completion : Completion} {ec : ErrorCode}

theorem modify_modify (f g : Session → Session) :
    (server.modify id f).modify id g = server.modify id fun session => g (f session) := by
  simp [Server.modify]

theorem leave_eq : server.leave id =
    { server.modify id fun session => (session.record .leave).stop with
      manager := server.manager.erase id } := by
  simp [Server.leave, Server.modify]

/-- The handlers when they go on. -/
theorem complete_of_succeeds (goesOn : op.succeeds completion = true) :
    server.complete id op completion = server.modify id (Session.proceed op completion) := by
  cases op with
  | read source | write source size =>
      simp only [Op.succeeds] at goesOn
      cases source <;> simp only [Server.complete, goesOn, if_true] <;> rfl
  | handshake =>
      simp only [Op.succeeds] at goesOn
      simp only [Server.complete, goesOn, if_true, modify_modify]
      rfl
  | shutdown | nullWrite => rfl
  | _ =>
      simp only [Op.succeeds] at goesOn
      simp only [Server.complete, goesOn, if_true]
      rfl

/-- The handlers when they do not: every one of them leaves. -/
theorem complete_of_fails (fails : op.succeeds completion = false) :
    server.complete id op completion = server.leave id := by
  cases op with
  | read source | write source size =>
      simp only [Op.succeeds] at fails
      cases source <;> simp only [Server.complete, fails, Bool.false_eq_true, if_false]
  | shutdown | nullWrite => cases fails
  | _ =>
      simp only [Op.succeeds] at fails
      simp only [Server.complete, fails, Bool.false_eq_true, if_false]

/-- A completion changes its session, and takes it out of the set when it failed. -/
theorem perform_complete : (Event.complete id op completion).perform server =
    { server.modify id (Session.after op completion) with
      manager := if op.succeeds completion then server.manager else server.manager.erase id } := by
  rw [Event.perform]
  cases goesOn : op.succeeds completion with
  | true =>
      have after : Session.after op completion =
          fun session => (session.retire op completion).proceed op completion := by
        funext session
        simp only [Session.after, goesOn, if_true]
      rw [complete_of_succeeds goesOn, modify_modify, after]
      rfl
  | false =>
      have after : Session.after op completion =
          fun session => ((session.retire op completion).record .leave).stop := by
        funext session
        simp only [Session.after, goesOn, Bool.false_eq_true, if_false]
      rw [complete_of_fails goesOn, leave_eq, modify_modify, after]
      rfl

/-- An accept that succeeded starts the session that was made last. -/
theorem perform_accepted (succeeded : ec.isError = false) :
    (Event.accepted ec).perform server =
      { server.modify server.made Session.accepted with
        manager := insert server.made server.manager
        made := server.made + 1 } := by
  simp [Event.perform, Server.onAccepted, succeeded, Server.start, Server.join, Server.startAccept,
    Server.modify, Session.accepted]

theorem perform_rejected (failed : ec.isError = true) :
    (Event.accepted ec).perform server = server.startAccept := by
  simp [Event.perform, Server.onAccepted, failed]

end

/-! ### One session by itself -/

/-- What a turn of the event loop makes of a session. -/
inductive Turned (server : Server) (event : Event) (id : Nat) (session : Session) : Prop where
  | kept (same : session = server.sessions id)
  | accepted (ec : ErrorCode) (happens : event = .accepted ec) (succeeded : ec.isError = false)
      (last : id = server.made) (now : session = (server.sessions id).accepted)
  | completed (op : Op) (completion : Completion) (happens : event = .complete id op completion)
      (pending : op ∈ (server.sessions id).pending)
      (now : session = (server.sessions id).after op completion)

section

variable {server : Server} {event : Event}

theorem turned (enabled : event.Enabled server) (id : Nat) :
    Turned server event id ((event.perform server).sessions id) := by
  cases event with
  | accepted ec =>
      cases failed : ec.isError with
      | true =>
          rw [perform_rejected failed]
          exact .kept rfl
      | false =>
          rw [perform_accepted failed]
          by_cases same : id = server.made
          · refine .accepted ec rfl failed same ?_
            simp [same, Server.modify]
          · apply Turned.kept
            simp [same, Server.modify]
  | signal => exact .kept rfl
  | complete id' op completion =>
      obtain ⟨-, pending, -⟩ := enabled
      rw [perform_complete]
      by_cases same : id = id'
      · subst same
        refine .completed op completion rfl pending ?_
        simp [Server.modify]
      · apply Turned.kept
        simp [same, Server.modify]

/-- Every accept makes the next session, however it ends. -/
theorem made_perform : (event.perform server).made =
    server.made + match event with
      | .accepted _ => 1
      | .signal | .complete _ _ _ => 0 := by
  cases event with
  | accepted ec =>
      cases failed : ec.isError with
      | true => rw [perform_rejected failed]; rfl
      | false => rw [perform_accepted failed]
  | signal => rfl
  | complete id op completion => rw [perform_complete]; rfl

theorem made_le_perform : server.made ≤ (event.perform server).made := by
  rw [made_perform]
  exact Nat.le_add_right _ _

end

/-- The sessions of all runs, from the making of one on. -/
inductive Session.Reachable : Session → Prop where
  | made (remoteHost remoteService : Text) :
      Reachable { remoteHost := remoteHost, remoteService := remoteService }
  | accepted (remoteHost remoteService : Text) :
      Reachable (accepted { remoteHost := remoteHost, remoteService := remoteService })
  | after {session : Session} (op : Op) (completion : Completion) : Reachable session →
      op ∈ session.pending → Reachable (session.after op completion)

/-- The sessions of a server that have not been accepted are as they were made. -/
def Server.Unused (server : Server) : Prop :=
  ∀ id, server.made ≤ id → ∃ remoteHost remoteService,
    server.sessions id = { remoteHost := remoteHost, remoteService := remoteService }

/-- A session of a server runs as if by itself. -/
theorem session_reachable {Allowed : Server → Event → Prop} {server : Server}
    (reachable : ReachableWhile Allowed server) :
    server.Unused ∧ ∀ id, (server.sessions id).Reachable := by
  induction reachable with
  | start remoteHost remoteService =>
      exact ⟨fun _ _ => ⟨_, _, rfl⟩, fun _ => .made remoteHost remoteService⟩
  | @step server event _ enabled _ ih =>
      obtain ⟨unused, each⟩ := ih
      constructor
      · intro id later
        have fresh := unused id (made_le_perform.trans later)
        cases turned enabled id with
        | kept same => rwa [same]
        | accepted ec happens succeeded last now =>
            rw [made_perform, happens, last] at later
            exact absurd later (Nat.not_succ_le_self _)
        | completed op completion happens pending now =>
            obtain ⟨_, _, made⟩ := fresh
            simp [made] at pending
      · intro id
        cases turned enabled id with
        | kept same =>
            rw [same]
            exact each id
        | accepted ec happens succeeded last now =>
            obtain ⟨remoteHost, remoteService, made⟩ := unused id (Nat.le_of_eq last.symm)
            rw [now, made]
            exact .accepted remoteHost remoteService
        | completed op completion happens pending now =>
            rw [now]
            exact (each id).after op completion pending

end AmgiNetTools.Tunnel
