/-
Module: AmgiNetTools.Http.Parser
Layer: Http
Purpose: `http.h` and `http.cpp`: the request line and the two header fields the proxy looks at. A
  `std::string_view` is an offset and a size in the buffer that was read; the sizes are computed in
  `std::size_t`, so a view can leave the buffer. `rtrim_copy` is not called and left out.
Main exports: StringView, Http.split, Http.RequestHeaders, Http.getHeaders,
  Http.RequestHeaders.getHost, Http.RequestHeaders.getService
-/
import AmgiNetTools.Transport.StreamManager

namespace AmgiNetTools

/-- A `std::string_view`, by the offset of its data in the buffer and its size. -/
structure StringView where
  data : Nat
  size : Nat
deriving DecidableEq, Repr

/-- Subtraction of `std::size_t`, for operands in range. -/
def sizeSub (a b : Nat) : Nat :=
  if b ≤ a then a - b else a + UInt64.size - b

namespace StringView

/-- `std::string_view{}`. -/
def none : StringView := { data := 0, size := 0 }

def empty (view : StringView) : Bool := view.size == 0

/-- The characters a view shows, as far as they lie in the buffer. -/
def text (buffer : Text) (view : StringView) : Text :=
  (buffer.drop view.data).take view.size

/-- `std::string::max_size()`. -/
def maxStringSize : Nat := UInt64.size / 2 - 1

/-- `std::string{view}`, which throws on a view that is too long. -/
def toString (buffer : Text) (view : StringView) : Except Fault Text :=
  if view.size > maxStringSize then .error .exception else .ok (view.text buffer)

end StringView

namespace Http

/-! ### Searching in strings -/

/-- `str.find_first_of(chars, pos)`. -/
def findFirstOf (str chars : Text) (pos : Nat) : Option Nat :=
  ((str.drop pos).findIdx? fun c => chars.contains c).map (pos + ·)

/-- `str.find(name)`. -/
def find (str name : Text) : Option Nat :=
  (List.range (str.length + 1)).find? fun pos => name.isPrefixOf (str.drop pos)

/-- The loop of `split` from `cur_pos` on. A turn that finds a delimiter moves past it, so the size
    of the string bounds the number of turns. -/
def splitLoop (buffer : Text) (str : StringView) (delimeter : Text) :
    Nat → Nat → List StringView → List StringView
  | 0, _, items => items
  | turns + 1, curPos, items =>
      match findFirstOf (str.text buffer) delimeter curPos with
      | some nextPos =>
          let items :=
            if nextPos - curPos > 0 then
              items ++ [{ data := str.data + curPos, size := nextPos - curPos }]
            else
              items
          splitLoop buffer str delimeter turns (nextPos + 1) items
      | none =>
          if curPos < str.size then
            items ++ [{ data := str.data + curPos, size := str.size - curPos }]
          else
            items

/-- `split`. -/
def split (buffer : Text) (str : StringView) (delimeter : Text) : List StringView :=
  splitLoop buffer str delimeter ((str.text buffer).length + 1) 0 []

/-! ### Request headers -/

def kHost : Text := ascii "Host:"
def kConnection : Text := ascii "Connection:"

/-- `http::request_method`. -/
inductive RequestMethod where
  | kNone
  | kGet
  | kPost
  | kDelete
  | kUpdate
  | kHead
  | kConnect
deriving DecidableEq, Repr

/-- `http::request_headers`. -/
structure RequestHeaders where
  method : RequestMethod := .kNone
  uri : StringView := .none
  version : StringView := .none
  host : StringView := .none
  connection : StringView := .none
deriving DecidableEq

/-- `get_request_fields`: the request line. An unknown method returns `npos`, which is true, with
    the method set to `kNone` and nothing else set. -/
def getRequestFields (buffer : Text) (header : StringView) (req : RequestHeaders) :
    Option RequestHeaders :=
  match split buffer header (ascii " ") with
  | [method, uri, version] =>
      if method.empty || uri.empty || version.empty then
        none
      else
        let name := method.text buffer
        if name = ascii "GET" then
          some { req with method := .kGet, uri := uri, version := version }
        else if name = ascii "POST" then
          some { req with method := .kPost, uri := uri, version := version }
        else if name = ascii "DELETE" then
          some { req with method := .kDelete, uri := uri, version := version }
        else if name = ascii "UPDATE" then
          some { req with method := .kUpdate, uri := uri, version := version }
        else if name = ascii "HEAD" then
          some { req with method := .kHead, uri := uri, version := version }
        else if name = ascii "CONNECT" then
          some { req with method := .kConnect, host := uri, uri := uri, version := version }
        else
          some { req with method := .kNone }
  | _ => none

/-- `get_http_header_value`: what follows `name` and one more character. -/
def getHttpHeaderValue (buffer : Text) (name : Text) (str : StringView) : StringView :=
  match find (str.text buffer) name with
  | some pos =>
      { data := str.data + name.length + pos + 1
        size := sizeSub (sizeSub (sizeSub str.size name.length) pos) 1 }
  | none => .none

/-- One turn of the loop of `get_remaining_required_fields`. -/
def scanHeader (buffer : Text) (req : RequestHeaders) (header : StringView) : RequestHeaders :=
  if req.host.empty then
    if (find (header.text buffer) kHost).isSome then
      { req with host := getHttpHeaderValue buffer kHost header }
    else
      req
  else if (find (header.text buffer) kConnection).isSome then
    { req with connection := getHttpHeaderValue buffer kConnection header }
  else
    req

/-- `get_remaining_required_fields`. -/
def getRemainingRequiredFields (buffer : Text) (httpHeaders : List StringView) (startIdx : Nat)
    (req : RequestHeaders) : Option RequestHeaders :=
  let req := (httpHeaders.drop startIdx).foldl (scanHeader buffer) req
  if !req.host.empty then some req else none

/-- `http::get_headers` on the string that fills `buffer`. The `method` of a fresh `request_headers`
    is indeterminate in the source; every path that returns it has assigned it. -/
def getHeaders (buffer : Text) : RequestHeaders :=
  let httpReqHdrs := split buffer { data := 0, size := buffer.length } (ascii "\r\n")
  match httpReqHdrs with
  | first :: _ :: _ =>
      match getRequestFields buffer first {} with
      | none => {}
      | some req =>
          match getRemainingRequiredFields buffer httpReqHdrs 1 req with
          | none => {}
          | some req => req
  | _ => {}

namespace RequestHeaders

/-- `request_headers::get_service`. -/
def getService (buffer : Text) (req : RequestHeaders) : Except Fault Text :=
  if req.method ≠ .kConnect then
    match split buffer req.uri (ascii ":") with
    | [scheme, _] => scheme.toString buffer
    | _ => .ok []
  else
    match split buffer req.host (ascii ":") with
    | [_, service] => service.toString buffer
    | _ => .ok []

/-- `request_headers::get_host`. -/
def getHost (buffer : Text) (req : RequestHeaders) : Except Fault Text :=
  if req.method ≠ .kConnect then
    req.host.toString buffer
  else
    match split buffer req.host (ascii ":") with
    | [host, _] => host.toString buffer
    | _ => .ok []

end RequestHeaders

end Http

end AmgiNetTools
