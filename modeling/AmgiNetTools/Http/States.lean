/-
Module: AmgiNetTools.Http.States
Layer: Http
Purpose: `http_state.cpp`: the four state objects of an HTTP session and the handlers each
  overrides. Logging is left out.
Main exports: HttpState, Http.kHttpError500, Http.kHttpDone, HttpStreamManager
-/
import AmgiNetTools.Http.Parser
import AmgiNetTools.Transport.IoContext

namespace AmgiNetTools

/-- The state objects of `http_state.h`. -/
inductive HttpState where
  | waitRequest
  | connectionEstablished
  | readyToTransferData
  | dataTransferMode
deriving DecidableEq, Repr

namespace Http

def kHttpError500 : Text :=
  ascii "HTTP/1.1 500 Internal Server Error\r\nConnection : Closed\r\n\r\n"

def kHttpDone : Text := ascii "HTTP/1.1 200 OK\r\n\r\n"

end Http

/-! ### Handlers

`HttpBaseState` has the error handlers of `http_state` itself. -/

namespace HttpBaseState

def handleServerError (session : Int32) (_ec : ErrorCode) : ManagerM HttpState Unit :=
  Session.stop session

def handleClientError (session : Int32) (_ec : ErrorCode) : ManagerM HttpState Unit :=
  Session.stop session

end HttpBaseState

namespace HttpWaitRequest

def handleServerRead (session : Int32) (buffer : Received) : ManagerM HttpState Unit := do
  let httpReq := Http.getHeaders buffer.bytes
  let host ← httpReq.getHost buffer.bytes
  let service ← httpReq.getService buffer.bytes
  if host.isEmpty then
    Session.writeToServer session Http.kHttpError500
    Session.stop session
    return
  if service.isEmpty then
    Session.writeToServer session Http.kHttpError500
    Session.stop session
    return
  if httpReq.method = .kConnect then
    Session.setResponse session Http.kHttpDone
  else
    Session.setResponse session buffer.bytes
  Session.setEndpointInfo session host service
  Session.connect session
  Session.changeState session .connectionEstablished

end HttpWaitRequest

namespace HttpConnectionEstablished

def handleClientConnect (session : Int32) (_buffer : IoBuffer) : ManagerM HttpState Unit := do
  let resp := (← Session.getContext session).response
  if resp = Http.kHttpDone then
    Session.writeToServer session (← Session.getContext session).response
  else
    Session.writeToClient session (← Session.getContext session).response
  Session.changeState session .readyToTransferData

end HttpConnectionEstablished

namespace HttpReadyToTransferData

/-- Both reads are from the server stream. -/
def handleClientWrite (session : Int32) (_buffer : IoBuffer) : ManagerM HttpState Unit := do
  Session.readFromServer session
  Session.readFromServer session
  Session.changeState session .dataTransferMode

def handleServerWrite (session : Int32) (_buffer : IoBuffer) : ManagerM HttpState Unit := do
  Session.readFromServer session
  Session.readFromClient session
  Session.changeState session .dataTransferMode

end HttpReadyToTransferData

namespace HttpDataTransferMode

def handleServerWrite (session : Int32) (_buffer : IoBuffer) : ManagerM HttpState Unit :=
  Session.readFromClient session

def handleServerRead (session : Int32) (buffer : Received) : ManagerM HttpState Unit := do
  Session.updateBytesSentToRemote session buffer.size
  Session.writeToClient session buffer.bytes

def handleClientWrite (session : Int32) (_buffer : IoBuffer) : ManagerM HttpState Unit :=
  Session.readFromServer session

def handleClientRead (session : Int32) (buffer : IoBuffer) : ManagerM HttpState Unit := do
  Session.updateBytesSentToLocal session buffer.length
  Session.writeToServer session buffer

end HttpDataTransferMode

/-! ### Virtual dispatch

A handler that a state does not override is the empty one of `http_state`, or for the two error
handlers the one that stops the session. -/

namespace HttpState

def handleServerRead : HttpState → Int32 → Received → ManagerM HttpState Unit
  | .waitRequest => HttpWaitRequest.handleServerRead
  | .dataTransferMode => HttpDataTransferMode.handleServerRead
  | .connectionEstablished | .readyToTransferData => fun _ _ => pure ()

def handleClientRead : HttpState → Int32 → IoBuffer → ManagerM HttpState Unit
  | .dataTransferMode => HttpDataTransferMode.handleClientRead
  | .waitRequest | .connectionEstablished | .readyToTransferData => fun _ _ => pure ()

def handleClientConnect : HttpState → Int32 → IoBuffer → ManagerM HttpState Unit
  | .connectionEstablished => HttpConnectionEstablished.handleClientConnect
  | .waitRequest | .readyToTransferData | .dataTransferMode => fun _ _ => pure ()

def handleServerWrite : HttpState → Int32 → IoBuffer → ManagerM HttpState Unit
  | .readyToTransferData => HttpReadyToTransferData.handleServerWrite
  | .dataTransferMode => HttpDataTransferMode.handleServerWrite
  | .waitRequest | .connectionEstablished => fun _ _ => pure ()

def handleClientWrite : HttpState → Int32 → IoBuffer → ManagerM HttpState Unit
  | .readyToTransferData => HttpReadyToTransferData.handleClientWrite
  | .dataTransferMode => HttpDataTransferMode.handleClientWrite
  | .waitRequest | .connectionEstablished => fun _ _ => pure ()

def handleServerError : HttpState → Int32 → ErrorCode → ManagerM HttpState Unit :=
  fun _ => HttpBaseState.handleServerError

def handleClientError : HttpState → Int32 → ErrorCode → ManagerM HttpState Unit :=
  fun _ => HttpBaseState.handleClientError

end HttpState

instance : SessionState HttpState where
  initial := .waitRequest
  handleServerRead := HttpState.handleServerRead
  handleClientRead := HttpState.handleClientRead
  handleClientConnect := HttpState.handleClientConnect
  handleServerWrite := HttpState.handleServerWrite
  handleClientWrite := HttpState.handleClientWrite
  handleServerError := HttpState.handleServerError
  handleClientError := HttpState.handleClientError

/-- `http_stream_manager`. -/
abbrev HttpStreamManager := World HttpState

end AmgiNetTools
