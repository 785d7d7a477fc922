/-
Module: AmgiNetTools.Tunnel.Session
Layer: Tunnel
Purpose: `amgi_tunnel`: the sessions, the manager that keeps them and the server that makes them. A
  session connects a local peer to a remote host over TLS and relays in both directions. The two
  directions are the same text with the sockets and buffers exchanged, so each is written once over
  the socket it reads from. Logging, the endpoints that are only logged, and `close_ssl`, which
  nothing calls, are left out.
Main exports: Tunnel.Sock, Tunnel.Op, Tunnel.Session, Tunnel.Server, Tunnel.Event,
  Tunnel.ReachableWhile, Tunnel.Server.play
-/
import Mathlib.Data.Finset.Card
import AmgiNetTools.Transport.Stream

namespace AmgiNetTools.Tunnel

/-- `local_sock_` and `remote_sock_`. -/
inductive Sock where
  | localSock
  | remoteSock
deriving DecidableEq, Repr

/-- The operations a session hands to asio. A write is named by the socket its bytes were read from:
    it sends the first bytes of that socket's buffer to the other socket. The last two are those of
    `close()`. -/
inductive Op where
  | resolve (host service : Text)
  | connect
  | handshake
  | read (source : Sock)
  | write (source : Sock) (size : Nat)
  | shutdown
  | nullWrite
deriving DecidableEq

/-- One line of the history of a session. `close` is the start of the TLS close sequence. A
    completion records the bytes that were read or written. -/
inductive Happening where
  | start
  | join
  | leave
  | close
  | completed (op : Op) (ec : ErrorCode) (bytes : IoBuffer)
deriving DecidableEq

/-- `max_buff_size`. -/
def maxBuffSize : Nat := 0x4000

/-- A `session`. `isOpen` tells whether `local_sock_` and the lowest layer of `remote_sock_` are
    open; `buffer` are `local_buffer_` and `remote_buffer_`; `pending` are the operations asio has
    not completed yet. No handler reads the history. -/
structure Session where
  remoteHost : Text
  remoteService : Text
  isOpen : Sock → Bool := fun _ => false
  buffer : Sock → IoBuffer := fun _ => List.replicate maxBuffSize 0
  pending : Multiset Op := 0
  history : List Happening := []

/-- The arguments of a completion handler: the error code, and for a read the bytes that are in the
    buffer now. `leftOpen` tells of a connect that failed whether its last attempt left a socket
    open (it does, unless there was no endpoint to try). -/
structure Completion where
  ec : ErrorCode
  bytes : IoBuffer := []
  leftOpen : Bool := false

/-- A completion without an error, which read the given bytes if it is that of a read. -/
def Completion.succeeded (bytes : IoBuffer) : Completion := { ec := .success, bytes := bytes }

/-! ### Sessions -/

namespace Session

/-- Hand an operation to asio. -/
def initiate (op : Op) (session : Session) : Session :=
  { session with pending := op ::ₘ session.pending }

def record (happening : Happening) (session : Session) : Session :=
  { session with history := session.history ++ [happening] }

def setOpen (sock : Sock) (isOpen : Bool) (session : Session) : Session :=
  { session with isOpen := Function.update session.isOpen sock isOpen }

/-- `close()`. Cancelling only makes the outstanding operations complete early. -/
def close (session : Session) : Session :=
  let session := if session.isOpen .localSock then session.setOpen .localSock false else session
  if session.isOpen .remoteSock then
    ((session.record .close).initiate .shutdown).initiate .nullWrite
  else
    session

/-- `stop()`. -/
def stop (session : Session) : Session := session.close

def doResolve (session : Session) : Session :=
  session.initiate (.resolve session.remoteHost session.remoteService)

def doConnect (session : Session) : Session := session.initiate .connect

def handshake (session : Session) : Session := session.initiate .handshake

/-- `do_read_from_local()` and `do_read_from_remote()`. -/
def doReadFrom (source : Sock) (session : Session) : Session := session.initiate (.read source)

/-- `do_write_to_remote(bytes_transferred)` and `do_write_to_local(bytes_transferred)`, for the
    bytes read from the other socket. -/
def doWriteFrom (source : Sock) (bytesTransferred : Nat) (session : Session) : Session :=
  session.initiate (.write source bytesTransferred)

def doReadFromLocal : Session → Session := doReadFrom .localSock

def doReadFromRemote : Session → Session := doReadFrom .remoteSock

def doWriteToRemote : Nat → Session → Session := doWriteFrom .localSock

def doWriteToLocal : Nat → Session → Session := doWriteFrom .remoteSock

/-- The bytes a completion has moved: those read into a buffer, or those of a buffer that are now on
    the wire. A completion with an error is counted as having moved none. -/
def moved (op : Op) (completion : Completion) (session : Session) : IoBuffer :=
  match completion.ec.isError, op with
  | false, .read _ => completion.bytes
  | false, .write source size => (session.buffer source).take size
  | _, _ => []

/-- What asio does to a session when it completes an operation, before the handler runs: it fills
    the buffer of a read, and a connect opens the socket. -/
def retire (op : Op) (completion : Completion) (session : Session) : Session :=
  let session :=
    { session with
      pending := session.pending.erase op
      history := session.history ++ [.completed op completion.ec (session.moved op completion)] }
  match op with
  | .read source =>
      { session with
        buffer := Function.update session.buffer source
          (copyInto completion.bytes (session.buffer source)) }
  | .connect => session.setOpen .remoteSock (!completion.ec.isError || completion.leftOpen)
  | _ => session

end Session

/-! ### Manager and server -/

/-- A `server` with its `session_manager`. Sessions are told apart by numbers: `made` is that of the
    last one made, whose socket the outstanding `async_accept` accepts into. `manager` is the set
    `sessions_`. -/
structure Server where
  remoteHost : Text
  remoteService : Text
  made : Nat := 0
  sessions : Nat → Session := fun _ => { remoteHost := remoteHost, remoteService := remoteService }
  manager : Finset Nat := ∅
  stopped : Bool := false

namespace Server

/-- Change a session object. -/
def modify (id : Nat) (f : Session → Session) (server : Server) : Server :=
  { server with sessions := Function.update server.sessions id (f (server.sessions id)) }

/-- `session_manager::join`. -/
def join (id : Nat) (server : Server) : Server :=
  { server.modify id (Session.record .join) with manager := insert id server.manager }

/-- `session_manager::leave`. -/
def leave (id : Nat) (server : Server) : Server :=
  let server := (server.modify id (Session.record .leave)).modify id Session.stop
  { server with manager := server.manager.erase id }

/-- `session_manager::ses_count`. -/
def sesCount (server : Server) : Nat := server.manager.card

/-- `session::start`. -/
def start (id : Nat) (server : Server) : Server :=
  ((server.modify id (Session.record .start)).join id).modify id Session.doResolve

/-- `server::start_accept`: make the next session. -/
def startAccept (server : Server) : Server := { server with made := server.made + 1 }

/-- The constructor. -/
def create (remoteHost remoteService : Text) : Server :=
  startAccept { remoteHost := remoteHost, remoteService := remoteService }

/-- The handler of `async_accept`. A connection that was accepted has opened `local_sock_`. -/
def onAccepted (ec : ErrorCode) (server : Server) : Server :=
  if !ec.isError then
    ((server.modify server.made (Session.setOpen .localSock true)).start server.made).startAccept
  else
    server.startAccept

/-- The handler of `async_wait`. -/
def onSignal (server : Server) : Server := { server with stopped := true }

/-- The completion handlers of a session. -/
def complete (id : Nat) (op : Op) (completion : Completion) (server : Server) : Server :=
  let ec := completion.ec
  match op with
  | .resolve _ _ =>
      if !ec.isError then
        server.modify id Session.doConnect
      else
        server.leave id
  | .connect =>
      if !ec.isError then
        server.modify id Session.handshake
      else
        server.leave id
  | .handshake =>
      if !ec.isError then
        (server.modify id Session.doReadFromLocal).modify id Session.doReadFromRemote
      else
        server.leave id
  | .read .localSock =>
      if !ec.isError && completion.bytes.length > 0 then
        server.modify id (Session.doWriteToRemote completion.bytes.length)
      else
        server.leave id
  | .read .remoteSock =>
      if !ec.isError && completion.bytes.length > 0 then
        server.modify id (Session.doWriteToLocal completion.bytes.length)
      else
        server.leave id
  | .write .localSock size =>
      if !ec.isError && size > 0 then
        server.modify id Session.doReadFromLocal
      else
        server.leave id
  | .write .remoteSock size =>
      if !ec.isError && size > 0 then
        server.modify id Session.doReadFromRemote
      else
        server.leave id
  | .shutdown | .nullWrite => server.modify id (Session.setOpen .remoteSock false)

end Server

/-! ### Runs -/

/-- What the event loop does next: complete the outstanding accept, handle a signal, or complete an
    operation of a session. -/
inductive Event where
  | accepted (ec : ErrorCode)
  | signal
  | complete (id : Nat) (op : Op) (completion : Completion)

namespace Event

/-- A stopped event loop runs no handlers. An operation that completes was outstanding, and a read
    brings no more than its buffer holds. -/
def Enabled (server : Server) : Event → Prop
  | .accepted _ | .signal => server.stopped = false
  | .complete id op completion =>
      server.stopped = false ∧ op ∈ (server.sessions id).pending ∧
        completion.bytes.length ≤ maxBuffSize

/-- The completion handler asio runs, after it is done with the operation. -/
def perform (server : Server) : Event → Server
  | .accepted ec => server.onAccepted ec
  | .signal => server.onSignal
  | .complete id op completion =>
      (server.modify id (Session.retire op completion)).complete id op completion

instance (server : Server) (event : Event) : Decidable (event.Enabled server) :=
  match event with
  | .accepted _ => inferInstanceAs (Decidable (_ = _))
  | .signal => inferInstanceAs (Decidable (_ = _))
  | .complete _ _ _ => inferInstanceAs (Decidable (_ ∧ _ ∧ _))

end Event

/-- The servers in the runs in which each turn of the event loop meets a condition on the server
    before it. -/
inductive ReachableWhile (Allowed : Server → Event → Prop) : Server → Prop where
  | start (remoteHost remoteService : Text) :
      ReachableWhile Allowed (.create remoteHost remoteService)
  | step {server : Server} {event : Event} : ReachableWhile Allowed server →
      event.Enabled server → Allowed server event → ReachableWhile Allowed (event.perform server)

/-- The servers in all runs. -/
abbrev Reachable (server : Server) : Prop := ReachableWhile (fun _ _ => True) server

namespace Server

/-- One turn of the event loop. Nothing happens for an event that is not enabled. -/
def turn (server : Server) (event : Event) : Server :=
  if event.Enabled server then event.perform server else server

/-- The events in order, from the start of a server. -/
def play (remoteHost remoteService : Text) (events : List Event) : Server :=
  events.foldl turn (.create remoteHost remoteService)

theorem reachable_play (remoteHost remoteService : Text) (events : List Event) :
    Reachable (play remoteHost remoteService events) := by
  have onward (server : Server) (reachable : Reachable server) :
      Reachable (events.foldl turn server) := by
    induction events generalizing server with
    | nil => exact reachable
    | cons event events ih =>
        apply ih
        unfold turn
        split
        · next enabled => exact reachable.step enabled trivial
        · exact reachable
  exact onward _ (.start remoteHost remoteService)

end Server

end AmgiNetTools.Tunnel
