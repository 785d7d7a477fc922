/-
Module: AmgiNetTools.Transport.StreamManager
Layer: Transport
Purpose: `socks5_stream_manager` and `http_stream_manager`, with the session classes they keep.
  The two managers are the same text but for the session they hold, and the two session classes the
  same but for the states they run, so both are written once over the type `μ` of the state objects
  and the class `SessionState μ` of their virtual handlers. A handler runs inside a map entry and
  reaches its streams by calling the manager back with the session's id.
Main exports: SessionContext, Session, SessionPair, World, ManagerM, SessionState,
  StreamManager.*, ManagerEvent, StreamManager.dispatch
-/
import AmgiNetTools.Transport.Stream

namespace AmgiNetTools

/-- `socks_ctx` and `http_ctx`. -/
structure SessionContext where
  id : Int32
  response : IoBuffer := []
  host : Text := []
  service : Text := []
  transferredBytesToRemote : UInt64 := 0
  transferredBytesToLocal : UInt64 := 0
deriving DecidableEq

/-- `socks5_session` and `http_session`: the context and the current state object. -/
structure Session (μ : Type) where
  context : SessionContext
  state : μ
deriving DecidableEq

/-- `socks_pair` and `http_pair`. -/
structure SessionPair (μ : Type) where
  id : Int32
  server : ServerStream
  client : ClientStream
  session : Session μ
deriving DecidableEq

/-- One line of the history of a stream: the manager called an operation on it, or asio completed
    one of its operations. A completion records the bytes that were read or written, and the state
    in which it found the session of the stream, if that session was still in the map. -/
inductive Happening (μ : Type) where
  | called (call : StreamCall)
  | completed (op : AsyncOp) (ec : ErrorCode) (bytes : IoBuffer) (found : Option μ)
deriving DecidableEq

structure Record (μ : Type) where
  stream : Stream
  happening : Happening μ
deriving DecidableEq

/-- The manager's map `sessions_`, the stream objects, and the history of both. No handler reads
    the history. -/
structure World (μ : Type) where
  sessions : Int32 → Option (SessionPair μ)
  streams : Stream → StreamState
  history : List (Record μ)

/-- Why a handler did not return: an exception left it (and ends the process), or it touched a
    session that was already erased. -/
inductive Fault where
  | exception
  | dangling
deriving DecidableEq, Repr

/-- A function of the manager or of a session. -/
abbrev ManagerM (μ : Type) := StateT (World μ) (Except Fault)

variable {μ : Type}

namespace World

/-- The manager before the first connection. -/
def empty : World μ :=
  { sessions := fun _ => none, streams := fun _ => .initial, history := [] }

/-- Call an operation on a stream object. -/
def invoke (stream : Stream) (call : StreamCall) (world : World μ) : World μ :=
  { world with
    streams := Function.update world.streams stream
      (stream.kind.invoke call (world.streams stream))
    history := world.history ++ [⟨stream, .called call⟩] }

/-- `sessions_.insert({id, pair})`: a key that is present keeps its value. -/
def insert (id : Int32) (pair : SessionPair μ) (world : World μ) : World μ :=
  match world.sessions id with
  | some _ => world
  | none => { world with sessions := Function.update world.sessions id (some pair) }

/-- `sessions_.erase(it)`. -/
def erase (id : Int32) (world : World μ) : World μ :=
  { world with sessions := Function.update world.sessions id none }

/-- Assign to a member of the session that lives in the entry `pair` of key `key`. -/
def setSession (key : Int32) (pair : SessionPair μ) (session : Session μ) (world : World μ) :
    World μ :=
  { world with
    sessions := Function.update world.sessions key (some { pair with session := session }) }

end World

/-- `stream->start()`, `stream->read()` and the other operations of a stream. -/
def Stream.call (stream : Stream) (call : StreamCall) : ManagerM μ Unit :=
  modify (World.invoke stream call)

/-! ### The operations sessions call -/

namespace StreamManager

/-- `sessions_.find(id)`. -/
def find (id : Int32) : ManagerM μ (Option (SessionPair μ)) := do
  return (← get).sessions id

/-- `stop(int id)`. -/
def stop (id : Int32) : ManagerM μ Unit := do
  if let some it ← find id then
    Stream.call (.client it.client) .stop
    Stream.call (.server it.server) .stop
    modify (World.erase id)

def readServer (id : Int32) : ManagerM μ Unit := do
  if let some it ← find id then
    Stream.call (.server it.server) .read

def writeServer (id : Int32) (buffer : IoBuffer) : ManagerM μ Unit := do
  if let some it ← find id then
    Stream.call (.server it.server) (.write buffer)

def readClient (id : Int32) : ManagerM μ Unit := do
  if let some it ← find id then
    Stream.call (.client it.client) .read

def writeClient (id : Int32) (buffer : IoBuffer) : ManagerM μ Unit := do
  if let some it ← find id then
    Stream.call (.client it.client) (.write buffer)

def connect (id : Int32) (host service : Text) : ManagerM μ Unit := do
  if let some it ← find id then
    Stream.call (.client it.client) (.setHost host)
    Stream.call (.client it.client) (.setService service)
    Stream.call (.client it.client) .start

end StreamManager

/-! ### Sessions

`this` is the key of the map entry the session lives in. -/

namespace Session

/-- The entry of a session that is still alive. -/
def entry (this : Int32) : ManagerM μ (SessionPair μ) := do
  match (← get).sessions this with
  | some pair => return pair
  | none => throw .dangling

/-- `session->context()`. -/
def getContext (this : Int32) : ManagerM μ SessionContext := do
  return (← entry this).session.context

/-- Assign to a member of `session->context()`. -/
def modifyContext (this : Int32) (f : SessionContext → SessionContext) : ManagerM μ Unit := do
  let pair ← entry this
  modify (World.setSession this pair { pair.session with context := f pair.session.context })

/-- `session->change_state(state)`. -/
def changeState (this : Int32) (state : μ) : ManagerM μ Unit := do
  let pair ← entry this
  modify (World.setSession this pair { pair.session with state := state })

def updateBytesSentToRemote (this : Int32) (count : Nat) : ManagerM μ Unit :=
  modifyContext this fun context =>
    { context with
      transferredBytesToRemote := context.transferredBytesToRemote + UInt64.ofNat count }

def updateBytesSentToLocal (this : Int32) (count : Nat) : ManagerM μ Unit :=
  modifyContext this fun context =>
    { context with
      transferredBytesToLocal := context.transferredBytesToLocal + UInt64.ofNat count }

def setEndpointInfo (this : Int32) (host service : Text) : ManagerM μ Unit :=
  modifyContext this fun context => { context with host := host, service := service }

/-- `set_response(io_buffer)`. -/
def setResponse (this : Int32) (buffer : IoBuffer) : ManagerM μ Unit :=
  modifyContext this fun context => { context with response := buffer }

def connect (this : Int32) : ManagerM μ Unit := do
  let context ← getContext this
  StreamManager.connect context.id context.host context.service

def stop (this : Int32) : ManagerM μ Unit := do
  StreamManager.stop (← getContext this).id

def readFromServer (this : Int32) : ManagerM μ Unit := do
  StreamManager.readServer (← getContext this).id

def readFromClient (this : Int32) : ManagerM μ Unit := do
  StreamManager.readClient (← getContext this).id

def writeToClient (this : Int32) (buffer : IoBuffer) : ManagerM μ Unit := do
  StreamManager.writeClient (← getContext this).id buffer

def writeToServer (this : Int32) (buffer : IoBuffer) : ManagerM μ Unit := do
  StreamManager.writeServer (← getContext this).id buffer

end Session

/-- The virtual handlers of `socks5_state` and `http_state`, and the state a new session is in. -/
class SessionState (μ : Type) where
  initial : μ
  handleServerRead : μ → Int32 → Received → ManagerM μ Unit
  handleClientRead : μ → Int32 → IoBuffer → ManagerM μ Unit
  handleClientConnect : μ → Int32 → IoBuffer → ManagerM μ Unit
  handleServerWrite : μ → Int32 → IoBuffer → ManagerM μ Unit
  handleClientWrite : μ → Int32 → IoBuffer → ManagerM μ Unit
  handleServerError : μ → Int32 → ErrorCode → ManagerM μ Unit
  handleClientError : μ → Int32 → ErrorCode → ManagerM μ Unit

variable [SessionState μ]

namespace Session

def handleServerRead (this : Int32) (event : Received) : ManagerM μ Unit := do
  SessionState.handleServerRead (← entry this).session.state this event

def handleClientRead (this : Int32) (event : IoBuffer) : ManagerM μ Unit := do
  SessionState.handleClientRead (← entry this).session.state this event

def handleServerWrite (this : Int32) (event : IoBuffer) : ManagerM μ Unit := do
  SessionState.handleServerWrite (← entry this).session.state this event

def handleClientWrite (this : Int32) (event : IoBuffer) : ManagerM μ Unit := do
  SessionState.handleClientWrite (← entry this).session.state this event

def handleClientConnect (this : Int32) (event : IoBuffer) : ManagerM μ Unit := do
  SessionState.handleClientConnect (← entry this).session.state this event

def handleServerError (this : Int32) (ec : ErrorCode) : ManagerM μ Unit := do
  SessionState.handleServerError (← entry this).session.state this ec

def handleClientError (this : Int32) (ec : ErrorCode) : ManagerM μ Unit := do
  SessionState.handleClientError (← entry this).session.state this ec

end Session

/-! ### The operations streams call -/

namespace StreamManager

/-- `stop(stream_ptr)`. -/
def stopStream (stream : Stream) : ManagerM μ Unit := stop stream.id

def onClose (stream : Stream) : ManagerM μ Unit := stopStream stream

def onErrorServer (ec : ErrorCode) (stream : ServerStream) : ManagerM μ Unit := do
  if let some _ ← find (μ := μ) stream.id then
    Session.handleServerError stream.id ec

def onErrorClient (ec : ErrorCode) (stream : ClientStream) : ManagerM μ Unit := do
  if let some _ ← find (μ := μ) stream.id then
    Session.handleClientError stream.id ec

def onAccept (upstream : ServerStream) : ManagerM μ Unit := do
  Stream.call (.server upstream) .start
  let id := upstream.id
  let session : Session μ := { context := { id := id }, state := SessionState.initial }
  modify (World.insert id
    { id := id, server := upstream, client := upstream.downstream, session := session })

def onReadServer (buffer : Received) (stream : ServerStream) : ManagerM μ Unit := do
  if let some _ ← find (μ := μ) stream.id then
    Session.handleServerRead stream.id buffer

def onWriteServer (buffer : IoBuffer) (stream : ServerStream) : ManagerM μ Unit := do
  if let some _ ← find (μ := μ) stream.id then
    Session.handleServerWrite stream.id buffer

def onReadClient (buffer : IoBuffer) (stream : ClientStream) : ManagerM μ Unit := do
  if let some _ ← find (μ := μ) stream.id then
    Session.handleClientRead stream.id buffer

def onWriteClient (buffer : IoBuffer) (stream : ClientStream) : ManagerM μ Unit := do
  if let some _ ← find (μ := μ) stream.id then
    Session.handleClientWrite stream.id buffer

def onConnect (buffer : IoBuffer) (stream : ClientStream) : ManagerM μ Unit := do
  if let some _ ← find (μ := μ) stream.id then
    Session.handleClientConnect stream.id buffer

end StreamManager

/-- A call into the manager from outside: by a server that accepted a connection, by a stream whose
    operation completed, or by anyone who closes a session. -/
inductive ManagerEvent where
  | accept (upstream : ServerStream)
  | readServer (buffer : Received) (stream : ServerStream)
  | writeServer (buffer : IoBuffer) (stream : ServerStream)
  | errorServer (ec : ErrorCode) (stream : ServerStream)
  | connect (buffer : IoBuffer) (stream : ClientStream)
  | readClient (buffer : IoBuffer) (stream : ClientStream)
  | writeClient (buffer : IoBuffer) (stream : ClientStream)
  | errorClient (ec : ErrorCode) (stream : ClientStream)
  | stop (id : Int32)
  | stopStream (stream : Stream)
  | close (stream : Stream)

/-- The id an event carries. -/
def ManagerEvent.id : ManagerEvent → Int32
  | .accept upstream => upstream.id
  | .readServer _ stream | .writeServer _ stream | .errorServer _ stream => stream.id
  | .connect _ stream | .readClient _ stream | .writeClient _ stream | .errorClient _ stream =>
      stream.id
  | .stop id => id
  | .stopStream stream | .close stream => stream.id

/-- The manager's function an event calls. -/
def StreamManager.dispatch : ManagerEvent → ManagerM μ Unit
  | .accept upstream => onAccept upstream
  | .readServer buffer stream => onReadServer buffer stream
  | .writeServer buffer stream => onWriteServer buffer stream
  | .errorServer ec stream => onErrorServer ec stream
  | .connect buffer stream => onConnect buffer stream
  | .readClient buffer stream => onReadClient buffer stream
  | .writeClient buffer stream => onWriteClient buffer stream
  | .errorClient ec stream => onErrorClient ec stream
  | .stop id => stop id
  | .stopStream stream => stopStream stream
  | .close stream => onClose stream

end AmgiNetTools
