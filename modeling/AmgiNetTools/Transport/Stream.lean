/-
Module: AmgiNetTools.Transport.Stream
Layer: Transport
Purpose: The stream objects of `transport/`: `tcp_server_stream`, `tls_server_stream` and
  `tcp_client_stream`. A stream object is a pointer (`Stream`) and a state (`StreamState`); its
  virtual functions `do_start`, `do_stop`, `do_read`, `do_write`, `do_set_host`, `do_set_service`
  are functions on the state. Starting an asio operation adds it to the stream's outstanding
  operations; completing it is the business of `Transport.IoContext`.
Main exports: IoBuffer, ErrorCode, Stream, StreamCall, AsyncOp, StreamState, Stream.invoke
-/
import Mathlib.Data.Multiset.AddSub
import Mathlib.Logic.Function.Basic

namespace AmgiNetTools

/-- `io_buffer`, a `std::vector<std::uint8_t>`. -/
abbrev IoBuffer := List UInt8

/-- The bytes of a `std::string` or of a `std::string_view`. -/
abbrev Text := List UInt8

/-- The bytes of a string literal of the source (they are all ASCII). -/
def ascii (literal : String) : Text :=
  literal.toList.map fun c => UInt8.ofNat c.toNat

/-- An `io_buffer` as a handler receives it from `do_read`: the vector's bytes, and what memory
    holds behind its storage. Only an access past `size()` can see the latter. -/
structure Received where
  bytes : IoBuffer
  behind : Nat → UInt8

/-- The memory `buffer.data()` points to. -/
def Received.data (buffer : Received) (i : Nat) : UInt8 :=
  buffer.bytes.getD i (buffer.behind (i - buffer.bytes.length))

/-- `buffer.size()`. -/
def Received.size (buffer : Received) : Nat := buffer.bytes.length

/-- `asio::error_code`, by its integer value. -/
structure ErrorCode where
  value : Int
deriving DecidableEq, Repr, Inhabited

namespace ErrorCode

/-- The error code of a completion that succeeded. -/
def success : ErrorCode := ⟨0⟩

/-- `explicit operator bool`. -/
def isError (ec : ErrorCode) : Bool := ec.value != 0

@[simp] theorem isError_success : success.isError = false := rfl

theorem eq_success {ec : ErrorCode} (succeeded : ec.isError = false) : ec = .success := by
  cases ec
  simpa [isError, success] using succeeded

end ErrorCode

/-! ### Stream objects -/

/-- A `server_stream_ptr`. Two streams may carry the same `id`, but they are never made for the same
    accepted connection, so `conn` stands for the object's identity. `tls` is its dynamic type:
    `tls_server_stream` or `tcp_server_stream`. -/
structure ServerStream where
  tls : Bool
  conn : Nat
  id : Int32
deriving DecidableEq

/-- A `client_stream_ptr`, always a `tcp_client_stream`. `on_accept` makes one for the connection it
    accepts. -/
structure ClientStream where
  conn : Nat
  id : Int32
deriving DecidableEq

/-- The client stream that `on_accept` makes next to `stream`: `make_shared<tcp_client_stream>` with
    the id of `stream`. -/
def ServerStream.downstream (stream : ServerStream) : ClientStream :=
  { conn := stream.conn, id := stream.id }

@[simp] theorem ServerStream.downstream_id (stream : ServerStream) :
    stream.downstream.id = stream.id := rfl

/-- A `stream_ptr`. -/
inductive Stream where
  | server (stream : ServerStream)
  | client (stream : ClientStream)
deriving DecidableEq

/-- The two ends of a proxied connection: the peer that was accepted, and the remote host. -/
inductive Side where
  | server
  | client
deriving DecidableEq, Repr

/-- `stream::id()`. -/
def Stream.id : Stream → Int32
  | .server stream => stream.id
  | .client stream => stream.id

def Stream.side : Stream → Side
  | .server _ => .server
  | .client _ => .client

@[simp] theorem Stream.id_server (stream : ServerStream) :
    (Stream.server stream).id = stream.id := rfl
@[simp] theorem Stream.id_client (stream : ClientStream) :
    (Stream.client stream).id = stream.id := rfl

/-- The public operations of `stream` and `client_stream` a manager calls. -/
inductive StreamCall where
  | start
  | stop
  | read
  | write (event : IoBuffer)
  | setHost (host : Text)
  | setService (service : Text)
deriving DecidableEq

/-- The operations a stream hands to asio. `write` carries the size of the buffer it was given,
    since the bytes stay in `write_buffer_`; `shutdown` and `nullWrite` are the two that close a TLS
    stream. -/
inductive AsyncOp where
  | handshake
  | read
  | write (size : Nat)
  | resolve (host service : Text)
  | connect
  | shutdown
  | nullWrite
deriving DecidableEq

/-- `stream::max_buffer_size`. -/
def maxBufferSize : Nat := 0x4000

/-- What a stream object holds. `pending` are the operations asio has not completed yet. -/
structure StreamState where
  isOpen : Bool := true
  host : Text := []
  port : Text := []
  writeBuffer : List UInt8 := List.replicate maxBufferSize 0
  pending : Multiset AsyncOp := 0

/-- `std::copy(event.begin(), event.end(), buffer.begin())`. -/
def copyInto (event : IoBuffer) (buffer : List UInt8) : List UInt8 :=
  event ++ buffer.drop event.length

@[simp] theorem take_copyInto (event : IoBuffer) (buffer : List UInt8) :
    (copyInto event buffer).take event.length = event := by
  simp [copyInto]

namespace StreamState

/-- The state of a stream object when it is made. -/
def initial : StreamState := {}

@[simp] theorem pending_initial : initial.pending = 0 := rfl

/-- Hand an operation to asio. -/
def initiate (op : AsyncOp) (state : StreamState) : StreamState :=
  { state with pending := op ::ₘ state.pending }

/-- Asio is done with an operation. -/
def retire (op : AsyncOp) (state : StreamState) : StreamState :=
  { state with pending := state.pending.erase op }

/-- `socket_.lowest_layer().close()`. -/
def close (state : StreamState) : StreamState :=
  { state with isOpen := false }

/-- The bytes a successful completion of `write size` has put on the wire. -/
def written (size : Nat) (state : StreamState) : IoBuffer :=
  state.writeBuffer.take size

end StreamState

namespace TcpServerStream

def doRead (state : StreamState) : StreamState := state.initiate .read

def doStart (state : StreamState) : StreamState := doRead state

/-- The socket is shut down in both directions; what was outstanding stays outstanding. -/
def doStop (state : StreamState) : StreamState := state

def doWrite (event : IoBuffer) (state : StreamState) : StreamState :=
  { state with writeBuffer := copyInto event state.writeBuffer }.initiate (.write event.length)

end TcpServerStream

namespace TlsServerStream

def doHandshake (state : StreamState) : StreamState := state.initiate .handshake

def doStart (state : StreamState) : StreamState := doHandshake state

/-- `cancel` only makes the outstanding operations complete early; then the TLS shutdown and a write
    of no bytes are started. -/
def doStop (state : StreamState) : StreamState :=
  if state.isOpen then (state.initiate .shutdown).initiate .nullWrite else state

def doRead (state : StreamState) : StreamState := state.initiate .read

def doWrite (event : IoBuffer) (state : StreamState) : StreamState :=
  { state with writeBuffer := copyInto event state.writeBuffer }.initiate (.write event.length)

end TlsServerStream

namespace TcpClientStream

def doStart (state : StreamState) : StreamState :=
  state.initiate (.resolve state.host state.port)

def doStop (state : StreamState) : StreamState := state

def doConnect (state : StreamState) : StreamState := state.initiate .connect

def doRead (state : StreamState) : StreamState := state.initiate .read

def doWrite (event : IoBuffer) (state : StreamState) : StreamState :=
  { state with writeBuffer := copyInto event state.writeBuffer }.initiate (.write event.length)

def doSetHost (host : Text) (state : StreamState) : StreamState := { state with host := host }

def doSetService (service : Text) (state : StreamState) : StreamState :=
  { state with port := service }

end TcpClientStream

/-- The dynamic type of a stream object. -/
inductive StreamKind where
  | tcpServer
  | tlsServer
  | tcpClient
deriving DecidableEq

def ServerStream.kind (stream : ServerStream) : StreamKind :=
  if stream.tls then .tlsServer else .tcpServer

def Stream.kind : Stream → StreamKind
  | .server stream => stream.kind
  | .client _ => .tcpClient

/-- The virtual dispatch of `start()`, `stop()`, `read()`, `write()`, `set_host()`, `set_service()`.
    Server streams have no `set_host` and no `set_service`. -/
def StreamKind.invoke : StreamKind → StreamCall → StreamState → StreamState
  | .tcpServer, .start => TcpServerStream.doStart
  | .tcpServer, .stop => TcpServerStream.doStop
  | .tcpServer, .read => TcpServerStream.doRead
  | .tcpServer, .write event => TcpServerStream.doWrite event
  | .tlsServer, .start => TlsServerStream.doStart
  | .tlsServer, .stop => TlsServerStream.doStop
  | .tlsServer, .read => TlsServerStream.doRead
  | .tlsServer, .write event => TlsServerStream.doWrite event
  | .tcpClient, .start => TcpClientStream.doStart
  | .tcpClient, .stop => TcpClientStream.doStop
  | .tcpClient, .read => TcpClientStream.doRead
  | .tcpClient, .write event => TcpClientStream.doWrite event
  | .tcpClient, .setHost host => TcpClientStream.doSetHost host
  | .tcpClient, .setService service => TcpClientStream.doSetService service
  | .tcpServer, .setHost _ | .tcpServer, .setService _ => id
  | .tlsServer, .setHost _ | .tlsServer, .setService _ => id

end AmgiNetTools
