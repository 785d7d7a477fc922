/-
Module: AmgiNetTools.Socks5.States
Layer: Socks5
Purpose: `socks5_state.cpp` and the parts of `socks5_session.h` only it uses: the five state objects
  of a SOCKS5 session and the handlers each overrides. Logging is left out.
Main exports: Socks5State, getResponseErrorCode, Socks5StreamManager
-/
import AmgiNetTools.Socks5.Proto
import AmgiNetTools.Transport.IoContext

namespace AmgiNetTools

/-! ### Error codes of asio

Their values on Linux. The handlers compare values only, never categories. -/

namespace NetError

def networkUnreachable : Int := 101
def hostUnreachable : Int := 113
def hostNotFound : Int := 1
def noData : Int := 4
def connectionRefused : Int := 111
def connectionAborted : Int := 103
def connectionReset : Int := 104
def timedOut : Int := 110

end NetError

/-- The state objects of `socks5_state.h`. -/
inductive Socks5State where
  | authRequest
  | connectionRequest
  | connectionEstablished
  | readyToTransferData
  | dataTransferMode
deriving DecidableEq, Repr

namespace Socks5

/-- `get_response_error_code`. -/
def getResponseErrorCode (ec : ErrorCode) : UInt8 :=
  let errval := ec.value
  if errval = NetError.networkUnreachable then
    Responses.networkUnreachable
  else if errval = NetError.hostUnreachable ∨ errval = NetError.hostNotFound ∨
      errval = NetError.noData then
    Responses.hostUnreachable
  else if errval = NetError.connectionRefused ∨ errval = NetError.connectionAborted ∨
      errval = NetError.connectionReset then
    Responses.connectionRefused
  else if errval = NetError.timedOut then
    Responses.ttlExpired
  else
    Responses.generalSocksServerFailure

end Socks5

/-! ### The parts of `socks5_session` that `http_session` lacks -/

namespace Socks5Session

/-- `set_response(version, auth_mode)`: the response is resized to two bytes and both are set. -/
def setResponse (this : Int32) (version authMode : UInt8) : ManagerM Socks5State Unit :=
  Session.modifyContext this fun context => { context with response := [version, authMode] }

/-- `set_response_error_code`: the byte of the response where `request_header` has its command. -/
def setResponseErrorCode (this : Int32) (errCode : UInt8) : ManagerM Socks5State Unit :=
  Session.modifyContext this fun context =>
    { context with response := context.response.set 1 errCode }

/-- `response()`. -/
def response (this : Int32) : ManagerM Socks5State IoBuffer := do
  return (← Session.getContext this).response

end Socks5Session

/-! ### Handlers

`Socks5BaseState` has the error handlers of `socks5_state` itself. -/

namespace Socks5BaseState

def handleServerError (session : Int32) (_ec : ErrorCode) : ManagerM Socks5State Unit :=
  Session.stop session

def handleClientError (session : Int32) (_ec : ErrorCode) : ManagerM Socks5State Unit :=
  Session.stop session

end Socks5BaseState

namespace Socks5AuthRequest

def handleServerRead (session : Int32) (buffer : Received) : ManagerM Socks5State Unit := do
  let error := Socks5.isSocks5AuthRequest buffer.data buffer.size
  let authMode := if error.isSome then Socks5.Auth.notSupported else Socks5.Auth.noAuth
  Socks5Session.setResponse session Socks5.version authMode
  Session.writeToServer session (← Socks5Session.response session)
  Session.changeState session .connectionRequest

end Socks5AuthRequest

namespace Socks5ConnectionRequest

def handleServerWrite (session : Int32) (_buffer : IoBuffer) : ManagerM Socks5State Unit := do
  StreamManager.readServer (← Session.getContext session).id

def handleServerRead [Platform] (session : Int32) (buffer : Received) :
    ManagerM Socks5State Unit := do
  if !Socks5.isValidRequestPacket buffer.data buffer.size then
    Session.stop session
    return
  match Socks5.getRemoteAddressInfo buffer.data buffer.size with
  | none =>
      Session.stop session
      return
  | some (host, service) =>
      Session.setEndpointInfo session host service
      Session.setResponse session buffer.bytes
      Session.connect session
      Session.changeState session .connectionEstablished

end Socks5ConnectionRequest

namespace Socks5ConnectionEstablished

def handleClientConnect (session : Int32) (_buffer : IoBuffer) : ManagerM Socks5State Unit := do
  Socks5Session.setResponseErrorCode session Socks5.Responses.succeeded
  Session.writeToServer session (← Socks5Session.response session)
  Session.changeState session .readyToTransferData

def handleClientError (session : Int32) (ec : ErrorCode) : ManagerM Socks5State Unit := do
  Socks5Session.setResponseErrorCode session (Socks5.getResponseErrorCode ec)
  Session.writeToServer session (← Socks5Session.response session)

def handleServerWrite (session : Int32) (_buffer : IoBuffer) : ManagerM Socks5State Unit :=
  Session.stop session

end Socks5ConnectionEstablished

namespace Socks5ReadyToTransferData

def handleServerWrite (session : Int32) (_buffer : IoBuffer) : ManagerM Socks5State Unit := do
  Session.readFromServer session
  Session.readFromClient session
  Session.changeState session .dataTransferMode

end Socks5ReadyToTransferData

namespace Socks5DataTransferMode

def handleServerWrite (session : Int32) (_buffer : IoBuffer) : ManagerM Socks5State Unit :=
  Session.readFromClient session

def handleServerRead (session : Int32) (buffer : Received) : ManagerM Socks5State Unit := do
  Session.updateBytesSentToRemote session buffer.size
  Session.writeToClient session buffer.bytes

def handleClientWrite (session : Int32) (_buffer : IoBuffer) : ManagerM Socks5State Unit :=
  Session.readFromServer session

def handleClientRead (session : Int32) (buffer : IoBuffer) : ManagerM Socks5State Unit := do
  Session.updateBytesSentToLocal session buffer.length
  Session.writeToServer session buffer

end Socks5DataTransferMode

/-! ### Virtual dispatch

A handler that a state does not override is the empty one of `socks5_state`, or for the two error
handlers the one that stops the session. -/

namespace Socks5State

def handleServerRead [Platform] : Socks5State → Int32 → Received → ManagerM Socks5State Unit
  | .authRequest => Socks5AuthRequest.handleServerRead
  | .connectionRequest => Socks5ConnectionRequest.handleServerRead
  | .dataTransferMode => Socks5DataTransferMode.handleServerRead
  | .connectionEstablished | .readyToTransferData => fun _ _ => pure ()

def handleClientRead : Socks5State → Int32 → IoBuffer → ManagerM Socks5State Unit
  | .dataTransferMode => Socks5DataTransferMode.handleClientRead
  | .authRequest | .connectionRequest | .connectionEstablished | .readyToTransferData =>
      fun _ _ => pure ()

def handleClientConnect : Socks5State → Int32 → IoBuffer → ManagerM Socks5State Unit
  | .connectionEstablished => Socks5ConnectionEstablished.handleClientConnect
  | .authRequest | .connectionRequest | .readyToTransferData | .dataTransferMode =>
      fun _ _ => pure ()

def handleServerWrite : Socks5State → Int32 → IoBuffer → ManagerM Socks5State Unit
  | .authRequest => fun _ _ => pure ()
  | .connectionRequest => Socks5ConnectionRequest.handleServerWrite
  | .connectionEstablished => Socks5ConnectionEstablished.handleServerWrite
  | .readyToTransferData => Socks5ReadyToTransferData.handleServerWrite
  | .dataTransferMode => Socks5DataTransferMode.handleServerWrite

def handleClientWrite : Socks5State → Int32 → IoBuffer → ManagerM Socks5State Unit
  | .dataTransferMode => Socks5DataTransferMode.handleClientWrite
  | .authRequest | .connectionRequest | .connectionEstablished | .readyToTransferData =>
      fun _ _ => pure ()

def handleServerError : Socks5State → Int32 → ErrorCode → ManagerM Socks5State Unit :=
  fun _ => Socks5BaseState.handleServerError

def handleClientError : Socks5State → Int32 → ErrorCode → ManagerM Socks5State Unit
  | .connectionEstablished => Socks5ConnectionEstablished.handleClientError
  | .authRequest | .connectionRequest | .readyToTransferData | .dataTransferMode =>
      Socks5BaseState.handleClientError

end Socks5State

instance [Platform] : SessionState Socks5State where
  initial := .authRequest
  handleServerRead := Socks5State.handleServerRead
  handleClientRead := Socks5State.handleClientRead
  handleClientConnect := Socks5State.handleClientConnect
  handleServerWrite := Socks5State.handleServerWrite
  handleClientWrite := Socks5State.handleClientWrite
  handleServerError := Socks5State.handleServerError
  handleClientError := Socks5State.handleClientError

/-- `socks5_stream_manager`. -/
abbrev Socks5StreamManager := World Socks5State

end AmgiNetTools
