/-
Module: AmgiNetTools.Http.Message
Layer: Http
Purpose: A CONNECT request as its client means it and as bytes, and what the parser makes of one
  that fills the buffer: the host and the service it was made of, as long as the host has no colon
  in it.
Main exports: Http.ConnectRequest, Http.ConnectRequest.bytes,
  Http.ConnectRequest.target_bytes, Http.no_colon_of_target
-/
import AmgiNetTools.Http.Headers

namespace AmgiNetTools.Http

open Tokens

/-! ### Requests -/

/-- A CONNECT request. The service has no colon in it; the host may have (an IPv6 address has). -/
structure ConnectRequest where
  host : Text
  service : Text
  version : Text
  headers : List Text
  host_isToken : IsToken host
  service_isToken : IsToken service
  service_no_colon : ∀ c ∈ service, c ∉ ascii ":"
  version_isToken : IsToken version
  headers_ne_nil : headers ≠ []
  headers_isLine : ∀ header ∈ headers, IsLine header

namespace ConnectRequest

variable (request : ConnectRequest)

/-- The target in the request line. -/
def authority : Text := request.host ++ ascii ":" ++ request.service

def requestLine : Text := ascii "CONNECT" ++ ascii " " ++ request.authority ++ ascii " " ++
  request.version

/-- A request on the wire: the request line, one or more headers, and an empty line. -/
def bytes : IoBuffer :=
  request.requestLine ++ crlf ++ request.headers.flatMap (fun header => header ++ crlf) ++ crlf

end ConnectRequest

/-! ### Parsing a request -/

/-- What becomes of a buffer that throws nothing. -/
theorem target_eq_ok {buffer : IoBuffer} {result : Option Target} :
    target buffer = .ok result ↔ ∃ host, (getHeaders buffer).getHost buffer = .ok host ∧
      ∃ service, (getHeaders buffer).getService buffer = .ok service ∧
        result = if host.isEmpty || service.isEmpty then none else some ⟨host, service⟩ := by
  unfold target
  cases (getHeaders buffer).getHost buffer with
  | error fault => simp [bind, Except.bind]
  | ok host =>
      cases (getHeaders buffer).getService buffer with
      | error fault => simp [bind, Except.bind]
      | ok service =>
          simp only [bind, Except.bind, pure, Except.pure, Except.ok.injEq, exists_eq_left',
            eq_comm (b := result)]

/-- A host that the parser takes from a CONNECT request has no colon in it. -/
theorem no_colon_of_target {buffer : IoBuffer} {found : Target}
    (connect : (getHeaders buffer).method = .kConnect)
    (decoded : target buffer = .ok (some found)) : ∀ c ∈ found.host, c ∉ ascii ":" := by
  obtain ⟨host, gotHost, service, -, same⟩ := target_eq_ok.mp decoded
  have isHost : found.host = host := by
    split at same
    · cases same
    · exact congrArg Target.host (Option.some.inj same)
  rw [isHost]
  rw [RequestHeaders.getHost, if_neg (by simp [connect])] at gotHost
  split at gotHost
  · next first second parts =>
      rw [eq_text_of_toString gotHost]
      exact not_mem_split first (by rw [parts]; exact List.mem_cons_self ..)
  · cases gotHost
    simp

/-! ### Parsing a CONNECT -/

section

variable {host service version rest : Text}

/-- The target of a CONNECT, as a part of its request line. -/
theorem isToken_authority (host_ : IsToken host) (service_ : IsToken service) :
    IsToken (host ++ ascii ":" ++ service) := by
  constructor
  · simp [ascii]
  · intro c member
    rcases List.mem_append.mp member with inFront | inService
    · rcases List.mem_append.mp inFront with inHost | colon
      · exact host_.2 c inHost
      · exact free_of_all (by decide) c colon
    · exact service_.2 c inService

/-- The headers of a CONNECT leave its method and its target alone. -/
theorem getHeaders_connect {authority : Text} (authority_ : IsToken authority)
    (version_ : IsToken version) (more : ∃ c ∈ rest, c ∉ crlf) :
    ∃ connection,
      getHeaders (requestLine (ascii "CONNECT") authority version ++ crlf ++ rest) =
        { method := .kConnect
          uri := ⟨8, authority.length⟩
          version := ⟨authority.length + 9, version.length⟩
          host := ⟨8, authority.length⟩
          connection := connection } := by
  have method_ : IsToken (ascii "CONNECT") := ⟨by decide, free_of_all (by decide)⟩
  have items := split_line (isLine_requestLine method_ authority_ version_) rest
  have later := lineViews_ne_nil (requestLine (ascii "CONNECT") authority version ++ crlf ++ rest)
    ((requestLine (ascii "CONNECT") authority version).length + 2) more
  have given := getRequestFields_requestLine method_ authority_ version_ (crlf ++ rest)
  rw [← List.append_assoc] at given
  have host : authority.length ≠ 0 := by simpa using authority_.1
  have length : 7 + authority.length + 2 = authority.length + 9 := by omega
  rw [getHeaders_eq items later given, foldl_scanHeader_given
    (by simpa [requestFields, methodNamed, ascii, StringView.empty] using host)]
  simp [requestFields, methodNamed, ascii, StringView.empty, host, length]

/-- The text of the target. -/
theorem text_authority (authority version rest : Text) :
    StringView.text (requestLine (ascii "CONNECT") authority version ++ crlf ++ rest)
      ⟨8, authority.length⟩ = authority := by
  have between := text_between (ascii "CONNECT ") authority (ascii " " ++ version ++ crlf ++ rest)
  simpa [requestLine, ascii] using between

/-- Two words with a colon between them. -/
theorem split_colon {buffer first second : Text} {view : StringView} (inside : Inside buffer view)
    (shows : view.text buffer = first ++ ascii ":" ++ second)
    (first_ : first ≠ [] ∧ ∀ c ∈ first, c ∉ ascii ":")
    (second_ : second ≠ [] ∧ ∀ c ∈ second, c ∉ ascii ":") :
    ∃ front back, split buffer view (ascii ":") = [front, back] ∧
      (Inside buffer front ∧ front.text buffer = first) ∧
        Inside buffer back ∧ back.text buffer = second := by
  have colon : isDelimeter (ascii ":") 58 := by decide
  have texts := @map_text_split buffer (ascii ":") view inside.whole
  have shape : first ++ ascii ":" ++ second = first ++ 58 :: second := by simp [ascii]
  rw [shows, shape, words_append colon, words_word (by simpa using first_.2) first_.1,
    words_word (by simpa using second_.2) second_.1] at texts
  obtain ⟨front, others, items, frontText, rest⟩ := List.map_eq_cons_iff.mp texts
  obtain ⟨back, none_, rfl, backText, empty⟩ := List.map_eq_cons_iff.mp rest
  obtain rfl := List.map_eq_nil_iff.mp empty
  have parts := @isPart_split buffer view (ascii ":")
  rw [items] at parts
  exact ⟨front, back, items, ⟨inside.ofPart (parts front (by simp)), frontText⟩,
    inside.ofPart (parts back (by simp)), backText⟩

/-- Host and service of a CONNECT are the two sides of the colon in its target. -/
theorem getHost_connect (host_ : IsToken host ∧ ∀ c ∈ host, c ∉ ascii ":")
    (service_ : IsToken service ∧ ∀ c ∈ service, c ∉ ascii ":") (version_ : IsToken version)
    (more : ∃ c ∈ rest, c ∉ crlf) {buffer : Text}
    (shape : buffer = requestLine (ascii "CONNECT") (host ++ ascii ":" ++ service) version ++
      crlf ++ rest) :
    ∃ front back, ((Inside buffer front ∧ front.text buffer = host) ∧
        Inside buffer back ∧ back.text buffer = service) ∧
      (getHeaders buffer).method = .kConnect ∧
      (getHeaders buffer).getHost buffer = front.toString buffer ∧
      (getHeaders buffer).getService buffer = back.toString buffer := by
  have authority_ := isToken_authority host_.1 service_.1
  obtain ⟨connection, parsed⟩ := getHeaders_connect authority_ version_ more
  have shows := text_authority (host ++ ascii ":" ++ service) version rest
  rw [← shape] at parsed shows
  have inside : Inside buffer ⟨8, (host ++ ascii ":" ++ service).length⟩ := by
    right
    rw [shape]
    simp [requestLine, ascii]
    omega
  obtain ⟨front, back, items, front_, back_⟩ :=
    split_colon inside shows ⟨host_.1.1, host_.2⟩ ⟨service_.1.1, service_.2⟩
  refine ⟨front, back, ⟨front_, back_⟩, ?_, ?_, ?_⟩
  · rw [parsed]
  · rw [RequestHeaders.getHost, parsed, if_neg (by simp)]
    dsimp only
    rw [items]
  · rw [RequestHeaders.getService, parsed, if_neg (by simp)]
    dsimp only
    rw [items]

end

namespace ConnectRequest

variable (request : ConnectRequest)

/-- Where the target is in the request line. -/
def authorityView : StringView := { data := 8, size := request.authority.length }

/-- What the request line gives. -/
def fields : RequestHeaders where
  method := .kConnect
  uri := request.authorityView
  version := { data := request.authority.length + 9, size := request.version.length }
  host := request.authorityView

/-- What follows the request line. -/
theorem bytes_eq : request.bytes =
    Http.requestLine (ascii "CONNECT") request.authority request.version ++ crlf ++
      (request.headers.flatMap (fun header => header ++ crlf) ++ crlf) :=
  List.append_assoc ..

/-- There is more than the request line. -/
theorem exists_header :
    ∃ c ∈ request.headers.flatMap (fun header => header ++ crlf) ++ crlf, c ∉ crlf := by
  obtain ⟨header, others, headers⟩ := List.exists_cons_of_ne_nil request.headers_ne_nil
  obtain ⟨nonempty, free⟩ := request.headers_isLine header (headers ▸ List.mem_cons_self)
  obtain ⟨c, line, rfl⟩ := List.exists_cons_of_ne_nil nonempty
  exact ⟨c, by simp [headers], free c List.mem_cons_self⟩

/-- The parser takes the request for a CONNECT to its target. -/
theorem getHeaders_bytes :
    ∃ connection, getHeaders request.bytes = { request.fields with connection := connection } := by
  rw [bytes_eq]
  exact getHeaders_connect (isToken_authority request.host_isToken request.service_isToken)
    request.version_isToken request.exists_header

/-- The result is what the request was made of, unless the host has a colon in it. -/
theorem target_bytes (plain : ∀ c ∈ request.host, c ∉ ascii ":") {result : Option Target}
    (decoded : target request.bytes = .ok result) :
    result = some ⟨request.host, request.service⟩ := by
  obtain ⟨front, back, ⟨front_, back_⟩, -, hostPart, servicePart⟩ :=
    getHost_connect ⟨request.host_isToken, plain⟩
      ⟨request.service_isToken, request.service_no_colon⟩ request.version_isToken
      request.exists_header request.bytes_eq
  obtain ⟨host, gotHost, service, gotService, rfl⟩ := target_eq_ok.mp decoded
  rw [hostPart] at gotHost
  rw [servicePart] at gotService
  rw [eq_text_of_toString gotHost, eq_text_of_toString gotService, front_.2, back_.2]
  simp [request.host_isToken.1, request.service_isToken.1]

end ConnectRequest

end AmgiNetTools.Http
