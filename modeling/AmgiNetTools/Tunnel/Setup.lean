/-
Module: AmgiNetTools.Tunnel.Setup
Layer: Tunnel
Purpose: How a session gets to its relay: the configured host is resolved, then connected, then the
  TLS handshake is made, each once and each after the one before has succeeded; the first that fails
  is the last. Neither socket is read and nothing is written before the handshake has succeeded, so
  no byte of the local peer goes out unencrypted, or anywhere but to the configured host.
Main exports: Tunnel.setupOps, Tunnel.Session.SetUp, Tunnel.Session.setUp_after,
  tunnel_sets_up_in_order
-/
import AmgiNetTools.Tunnel.Closing

namespace AmgiNetTools

namespace Tunnel

/-- The operations that connect a session, in their order. -/
def setupOps (remoteHost remoteService : Text) : List Op :=
  [.resolve remoteHost remoteService, .connect, .handshake]

/-- The lines of operations that have succeeded, and move nothing. -/
def succeededLines (ops : List Op) : List Happening :=
  ops.map fun op => .completed op .success []

/-- A line after a session has left: the TLS close is started, or an operation of it completes. -/
def Happening.Closes : Happening → Prop
  | .close => True
  | .completed op _ _ => op.IsClosing
  | .start | .join | .leave => False

namespace Session

/-- What has happened to a session, as far as its setup goes. -/
inductive SetUp (session : Session) : Prop where
  | made (silent : session.history = []) (idle : session.pending = 0)
  | connecting (done : List Op) (next : Op) (later : List Op)
      (order : setupOps session.remoteHost session.remoteService = done ++ next :: later)
      (history : session.history = [.start, .join] ++ succeededLines done)
      (waits : session.pending = {next})
  | failed (done : List Op) (next : Op) (later : List Op)
      (order : setupOps session.remoteHost session.remoteService = done ++ next :: later)
      (ec : ErrorCode) (isError : ec.isError = true) (tail : List Happening)
      (history : session.history = [.start, .join] ++ succeededLines done ++
        [.completed next ec [], .leave] ++ tail)
      (closes : ∀ line ∈ tail, line.Closes) (waits : ∀ op ∈ session.pending, op.IsClosing)
  | relays (rest : List Happening)
      (history : session.history = [.start, .join] ++
        succeededLines (setupOps session.remoteHost session.remoteService) ++ rest)
      (once : ∀ op ec bytes, .completed op ec bytes ∈ rest → ¬ op.IsSetup)
      (waits : ∀ op ∈ session.pending, ¬ op.IsSetup)

variable {session : Session} {op : Op} {completion : Completion}

/-! ### The configured host -/

theorem remote_after : (session.after op completion).remoteHost = session.remoteHost ∧
    (session.after op completion).remoteService = session.remoteService := by
  have retired : (session.retire op completion).remoteHost = session.remoteHost ∧
      (session.retire op completion).remoteService = session.remoteService := by
    cases op <;> exact ⟨rfl, rfl⟩
  have closed (session : Session) : session.close.remoteHost = session.remoteHost ∧
      session.close.remoteService = session.remoteService := by
    cases isLocal : session.isOpen .localSock <;> cases isRemote : session.isOpen .remoteSock <;>
      simp [close, setOpen, record, initiate, isLocal, isRemote]
  unfold after
  split
  · rw [← retired.1, ← retired.2]
    cases op <;> exact ⟨rfl, rfl⟩
  · exact ⟨(closed _).1.trans retired.1, (closed _).2.trans retired.2⟩

/-! ### One completion -/

theorem isSetup_of_order {done later : List Op} {next : Op} {remoteHost remoteService : Text}
    (order : setupOps remoteHost remoteService = done ++ next :: later) : next.IsSetup := by
  have member : next ∈ setupOps remoteHost remoteService := by simp [order]
  simp only [setupOps, List.mem_cons, List.not_mem_nil, or_false] at member
  rcases member with rfl | rfl | rfl <;> trivial

theorem moved_setup (isSetup : op.IsSetup) : session.moved op completion = [] := by
  cases op with
  | read | write | shutdown | nullWrite => cases isSetup
  | _ => cases failed : completion.ec.isError <;> simp [moved, failed]

theorem succeeds_setup (isSetup : op.IsSetup) :
    op.succeeds completion = !completion.ec.isError := by
  cases op with
  | read | write | shutdown | nullWrite => cases isSetup
  | _ => rfl

/-- The operation after one of the setup that has succeeded. -/
theorem followers_of_order {done later : List Op} {next : Op} {remoteHost remoteService : Text}
    (order : setupOps remoteHost remoteService = done ++ next :: later) :
    (∃ next' later', later = next' :: later' ∧ next.followers completion = {next'}) ∨
      later = [] ∧ next.followers completion = {.read .remoteSock, .read .localSock} := by
  match done, order with
  | [], order =>
      cases order
      exact .inl ⟨_, _, rfl, rfl⟩
  | [_], order =>
      cases order
      exact .inl ⟨_, _, rfl, rfl⟩
  | [_, _], order =>
      cases order
      exact .inr ⟨rfl, rfl⟩
  | _ :: _ :: _ :: done, order =>
      simp [setupOps] at order

/-- An operation of the setup succeeds, and the next is started, or the relay. -/
theorem setUp_of_success {done later : List Op} {next : Op}
    (order : setupOps session.remoteHost session.remoteService = done ++ next :: later)
    (history : session.history = [.start, .join] ++ succeededLines done)
    (waits : session.pending = {next}) (succeeded : completion.ec.isError = false) :
    (session.after next completion).SetUp := by
  have isSetup := isSetup_of_order order
  have goesOn : next.succeeds completion = true := by
    rw [succeeds_setup isSetup, succeeded]
    rfl
  have pending := @pending_after session next completion
  rw [if_pos goesOn, waits, Multiset.erase_singleton, Multiset.add_zero] at pending
  have grown := @history_after session next completion
  rw [moved_setup isSetup, history, if_pos goesOn, ErrorCode.eq_success succeeded] at grown
  obtain ⟨sameHost, sameService⟩ := @remote_after session next completion
  have order' := order
  rw [← sameHost, ← sameService] at order'
  obtain ⟨next', later', rfl, followers⟩ | ⟨rfl, followers⟩ :=
    @followers_of_order completion _ _ _ _ _ order
  · refine .connecting (done ++ [next]) next' later' ?_ ?_ (pending.trans followers)
    · rw [order', List.append_assoc]
      rfl
    · rw [grown, succeededLines, succeededLines, List.map_append, List.append_assoc]
      rfl
  · refine .relays [] ?_ (by simp) ?_
    · rw [order', grown, succeededLines, succeededLines, List.map_append, List.append_nil,
        List.append_assoc]
      rfl
    · rw [pending, followers]
      simp [Op.IsSetup]

/-- An operation of the setup fails, and the session leaves. -/
theorem setUp_of_failure {done later : List Op} {next : Op}
    (order : setupOps session.remoteHost session.remoteService = done ++ next :: later)
    (history : session.history = [.start, .join] ++ succeededLines done)
    (waits : session.pending = {next}) (failed : completion.ec.isError = true) :
    (session.after next completion).SetUp := by
  have isSetup := isSetup_of_order order
  have fails : next.succeeds completion = false := by
    rw [succeeds_setup isSetup, failed]
    rfl
  obtain ⟨closing, closers, pending⟩ := @pending_of_failure session next completion fails
  rw [waits, Multiset.erase_singleton, Multiset.add_zero] at pending
  have grown := @history_after session next completion
  rw [moved_setup isSetup, history, if_neg (by rw [fails]; exact Bool.false_ne_true)] at grown
  obtain ⟨sameHost, sameService⟩ := @remote_after session next completion
  rw [← sameHost, ← sameService] at order
  refine .failed done next later order completion.ec failed
    (if (session.retire next completion).isOpen .remoteSock then [.close] else []) ?_ ?_ ?_
  · rw [grown]
    simp
  · intro line member
    split at member
    · rw [List.mem_singleton.mp member]
      trivial
    · cases member
  · rw [pending]
    exact closers

theorem setUp_connecting {done later : List Op} {next : Op}
    (order : setupOps session.remoteHost session.remoteService = done ++ next :: later)
    (history : session.history = [.start, .join] ++ succeededLines done)
    (waits : session.pending = {next}) : (session.after next completion).SetUp := by
  cases failed : completion.ec.isError with
  | false => exact setUp_of_success order history waits failed
  | true => exact setUp_of_failure order history waits failed

theorem setUp_failed {done later : List Op} {next : Op}
    (order : setupOps session.remoteHost session.remoteService = done ++ next :: later)
    {ec : ErrorCode} (isError : ec.isError = true) {tail : List Happening}
    (history : session.history = [.start, .join] ++ succeededLines done ++
      [.completed next ec [], .leave] ++ tail)
    (closes : ∀ line ∈ tail, line.Closes) (waits : ∀ op ∈ session.pending, op.IsClosing)
    (pending : op ∈ session.pending) : (session.after op completion).SetUp := by
  have isClosing := waits op pending
  obtain ⟨sameHost, sameService⟩ := @remote_after session op completion
  have goesOn : op.succeeds completion = true := by
    rcases isClosing with rfl | rfl <;> rfl
  have nothing : op.followers completion = 0 := by
    rcases isClosing with rfl | rfl <;> rfl
  have grown := @history_after session op completion
  have left := @pending_after session op completion
  rw [if_pos goesOn, history, List.append_assoc] at grown
  rw [if_pos goesOn, nothing, Multiset.zero_add] at left
  refine .failed done next later ?_ ec isError _ grown ?_ ?_
  · rw [sameHost, sameService]
    exact order
  · intro line member
    rcases List.mem_append.mp member with old | new
    · exact closes line old
    · rw [List.mem_singleton.mp new]
      exact isClosing
  · rw [left]
    exact fun op' member => waits op' (Multiset.mem_of_mem_erase member)

/-- Nothing that follows the setup belongs to it. -/
theorem followers_relays (relays : ¬ op.IsSetup) :
    ∀ op' ∈ op.followers completion, ¬ op'.IsSetup := by
  cases op with
  | resolve | connect | handshake => exact absurd trivial relays
  | read | write =>
      intro op' member
      rw [Multiset.mem_singleton.mp member]
      exact id
  | shutdown | nullWrite => simp [Op.followers]

theorem setUp_relays {rest : List Happening}
    (history : session.history = [.start, .join] ++
      succeededLines (setupOps session.remoteHost session.remoteService) ++ rest)
    (once : ∀ op ec bytes, .completed op ec bytes ∈ rest → ¬ op.IsSetup)
    (waits : ∀ op ∈ session.pending, ¬ op.IsSetup) (pending : op ∈ session.pending) :
    (session.after op completion).SetUp := by
  have relays := waits op pending
  obtain ⟨sameHost, sameService⟩ := @remote_after session op completion
  have grown := @history_after session op completion
  rw [history, ← sameHost, ← sameService, List.append_assoc] at grown
  refine .relays _ grown ?_ ?_
  · intro op' ec bytes member
    rw [List.mem_append, List.mem_cons] at member
    rcases member with old | new | after
    · exact once op' ec bytes old
    · cases new
      exact relays
    · split at after
      · cases after
      · split at after <;> simp at after
  · intro op' member
    rw [pending_after, Multiset.mem_add] at member
    rcases member with new | old
    · split at new
      · exact followers_relays relays op' new
      · split at new
        · rw [Multiset.insert_eq_cons, Multiset.mem_cons, Multiset.mem_singleton] at new
          rcases new with rfl | rfl <;> exact id
        · simp at new
    · exact waits op' (Multiset.mem_of_mem_erase old)

theorem setUp_after (setUp : session.SetUp) (pending : op ∈ session.pending) :
    (session.after op completion).SetUp := by
  cases setUp with
  | made _ idle => simp [idle] at pending
  | connecting done next later order history waits =>
      obtain rfl : op = next := by simpa [waits] using pending
      exact setUp_connecting order history waits
  | failed done next later order ec isError tail history closes waits =>
      exact setUp_failed order isError history closes waits pending
  | relays rest history once waits => exact setUp_relays history once waits pending

theorem setUp_of_reachable (reachable : session.Reachable) : session.SetUp := by
  induction reachable with
  | made => exact .made rfl rfl
  | accepted remoteHost remoteService => exact .connecting [] _ _ rfl rfl rfl
  | after op completion _ pending ih => exact setUp_after ih pending

end Session

/-! ### The host of a server -/

variable {server : Server}

/-- No turn of the event loop changes where a server's sessions connect to. -/
theorem remote_perform (event : Event) : (event.perform server).remoteHost = server.remoteHost ∧
    (event.perform server).remoteService = server.remoteService := by
  cases event with
  | accepted ec =>
      cases failed : ec.isError with
      | true =>
          rw [perform_rejected failed]
          exact ⟨rfl, rfl⟩
      | false =>
          rw [perform_accepted failed]
          exact ⟨rfl, rfl⟩
  | signal => exact ⟨rfl, rfl⟩
  | complete id op completion =>
      rw [perform_complete]
      exact ⟨rfl, rfl⟩

/-- Every session connects to the host of its server. -/
theorem remote_of_reachable {Allowed : Server → Event → Prop}
    (reachable : ReachableWhile Allowed server) (id : Nat) :
    (server.sessions id).remoteHost = server.remoteHost ∧
      (server.sessions id).remoteService = server.remoteService := by
  induction reachable with
  | start => exact ⟨rfl, rfl⟩
  | @step server event _ enabled _ ih =>
      obtain ⟨sameHost, sameService⟩ := @remote_perform server event
      rw [sameHost, sameService]
      cases turned enabled id with
      | kept same =>
          rw [same]
          exact ih
      | accepted ec happens succeeded last now =>
          rw [now]
          exact ih
      | completed op completion happens pending now =>
          rw [now, Session.remote_after.1, Session.remote_after.2]
          exact ih

end Tunnel

/-- In every run of a tunnel server, each session is set up in order, with the host and the service
    of the server, and neither of the two changes. -/
theorem tunnel_sets_up_in_order {server : Tunnel.Server} (reachable : Tunnel.Reachable server)
    (id : Nat) :
    (server.sessions id).SetUp ∧
      (server.sessions id).remoteHost = server.remoteHost ∧
      (server.sessions id).remoteService = server.remoteService ∧
      ∀ event : Tunnel.Event, (event.perform server).remoteHost = server.remoteHost ∧
        (event.perform server).remoteService = server.remoteService :=
  have remote := Tunnel.remote_of_reachable reachable id
  ⟨Tunnel.Session.setUp_of_reachable ((Tunnel.session_reachable reachable).2 id), remote.1,
    remote.2, Tunnel.remote_perform⟩

namespace Tunnel.Sample

/-- The host of the first session is found, and refuses the connection. -/
def refused : List Event :=
  [.accepted .success,
    .complete 1 (.resolve (ascii "h") (ascii "443")) (.succeeded []),
    .complete 1 .connect { ec := ⟨111⟩, leftOpen := true }]

end Tunnel.Sample

/-- After `Tunnel.Sample.refused` the setup has failed at its second step. -/
theorem tunnel_sets_up_in_order_sample :
    .completed .connect ⟨111⟩ [] ∈ ((Tunnel.Server.play (ascii "h") (ascii "443")
        Tunnel.Sample.refused).sessions 1).history ∧
      ((Tunnel.Server.play (ascii "h") (ascii "443") Tunnel.Sample.refused).sessions 1).SetUp :=
  ⟨by decide, (tunnel_sets_up_in_order (Tunnel.Server.reachable_play _ _ _) 1).1⟩

end AmgiNetTools
