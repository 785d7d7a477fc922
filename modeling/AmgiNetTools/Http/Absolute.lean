/-
Module: AmgiNetTools.Http.Absolute
Layer: Http
Purpose: A request with an absolute URI and a `Host` line for the same authority, as its client
  means it and as bytes. It leads to the authority it names when the URI has two parts with a colon
  between them, so that `get_service` returns the scheme: a port is a third part, and is answered
  500.
Main exports: Http.AbsoluteRequest, Http.AbsoluteRequest.bytes, Http.AbsoluteRequest.Reaches,
  Http.AbsoluteRequest.Direct, http_absolute_reaches, http_port_refused
-/
import AmgiNetTools.Http.Targets

namespace AmgiNetTools

namespace Http

open Tokens

/-- A request with an absolute URI. `before` and `after` are the header lines on the two sides of
    the `Host` line, `path` is the path with its query. -/
structure AbsoluteRequest where
  method : RequestMethod
  host : Text
  port : Option Text
  path : Text
  version : Text
  before : List Text
  after : List Text
  body : Text
  known : method ≠ .kNone
  plain : method ≠ .kConnect
  host_isToken : IsToken host
  host_name : ∀ c ∈ host, c ∉ ascii ":/"
  port_decimal : ∀ digits ∈ port, digits ≠ [] ∧ ∀ c ∈ digits, c ∈ ascii "0123456789"
  path_isToken : IsToken path
  path_slash : path.head? = some 47
  version_isToken : IsToken version
  before_isLine : ∀ line ∈ before, IsLine line
  after_isLine : ∀ line ∈ after, IsLine line

/-- Whether a character is in a part between colons. -/
def noColon (c : UInt8) : Bool := !isDelimeter (ascii ":") c

namespace AbsoluteRequest

variable (request : AbsoluteRequest)

/-- The port as it is written behind the host. -/
def portText : Text := (request.port.map (ascii ":" ++ ·)).getD []

def authority : Text := request.host ++ request.portText

def uri : Text := ascii "http://" ++ request.authority ++ request.path

def hostLine : Text := ascii "Host: " ++ request.authority

/-- What follows the request line. -/
def headers : Text :=
  wire request.before ++ (request.hostLine ++ crlf ++
    (wire request.after ++ (crlf ++ request.body)))

def bytes : IoBuffer :=
  requestLine request.method.name request.uri request.version ++ crlf ++ request.headers

/-- The service that the URI names. -/
def service : Text := request.port.getD (ascii "http")

/-- The proxy connects to the authority that the URI names. -/
def Reaches : Prop := Connects request.bytes request.host request.service

/-- The URI has no port, nothing but colons stands behind a colon in its path, and the first line
    before the `Host` line that gives a host, if there is one, gives the same. -/
structure Direct : Prop where
  port : request.port = none
  path : ∀ c ∈ request.path.dropWhile noColon, c ∈ ascii ":"
  host : ∀ line, request.before.find? gives = some line →
    ∃ c, behind kHost line = some (c :: request.host)

/-! ### The lines of the request -/

theorem portText_free : ∀ c ∈ request.portText, c ∉ ascii " \r\n" := by
  intro c member
  unfold portText at member
  cases given : request.port with
  | none => simp [given] at member
  | some digits =>
      obtain ⟨-, decimal⟩ := request.port_decimal digits given
      rw [given] at member
      rcases List.mem_append.mp member with colon | digit
      · exact free_of_all (by decide) c colon
      · exact free_of_all (by decide) c (decimal c digit)

theorem authority_isToken : IsToken request.authority := by
  constructor
  · exact List.append_ne_nil_of_left_ne_nil request.host_isToken.1 _
  · intro c member
    rcases List.mem_append.mp member with inHost | inPort
    · exact request.host_isToken.2 c inHost
    · exact request.portText_free c inPort

theorem uri_isToken : IsToken request.uri := by
  constructor
  · simp [uri, ascii]
  · intro c member
    rcases List.mem_append.mp member with front | inPath
    · rcases List.mem_append.mp front with scheme | inAuthority
      · exact free_of_all (by decide) c scheme
      · exact request.authority_isToken.2 c inAuthority
    · exact request.path_isToken.2 c inPath

theorem hostLine_isLine : IsLine request.hostLine := by
  constructor
  · simp [hostLine, ascii]
  · intro c member
    rcases List.mem_append.mp member with name | inAuthority
    · exact free_of_all (by decide) c name
    · exact request.authority_isToken.isLine.2 c inAuthority

/-- The lines behind the request line. -/
theorem lines_headers : lines request.headers =
    request.before ++ request.hostLine :: (request.after ++ lines request.body) := by
  rw [headers, lines_wire request.before_isLine, lines_line request.hostLine_isLine,
    lines_wire request.after_isLine, lines_crlf]

/-- What stands behind the name in the `Host` line. -/
theorem behind_hostLine : behind kHost request.hostLine = some (32 :: request.authority) :=
  behind_start kHost _

theorem gives_hostLine : gives request.hostLine = true := by
  have nonempty := request.authority_isToken.1
  simpa [gives, behind_hostLine] using nonempty

/-- The line that gives the host. -/
def giver : Text := (request.before.find? gives).getD request.hostLine

theorem find_giver : (lines request.headers).find? gives = some request.giver := by
  rw [lines_headers, List.find?_append, List.find?_cons_of_pos request.gives_hostLine, giver]
  cases request.before.find? gives <;> rfl

/-- Where the URI is in the request. -/
def uriView : StringView where
  data := request.method.name.length + 1
  size := request.uri.length

theorem text_uriView : request.uriView.text request.bytes = request.uri := by
  have between := text_between (request.method.name ++ ascii " ") request.uri
    (ascii " " ++ request.version ++ crlf ++ request.headers)
  have start : (request.method.name ++ ascii " ").length = request.method.name.length + 1 := by
    simp [ascii]
  rw [start] at between
  have shape : request.bytes = request.method.name ++ ascii " " ++ request.uri ++
      (ascii " " ++ request.version ++ crlf ++ request.headers) := by
    simp [bytes, requestLine]
  rwa [uriView, shape]

theorem inside_uriView : Inside request.bytes request.uriView := by
  right
  simp only [uriView, bytes, requestLine, List.length_append, ascii]
  simp
  omega

/-- What the parser makes of the request. -/
theorem getHeaders_bytes : ∃ view,
    (Inside request.bytes view ∧ view.text request.bytes = request.giver) ∧
      (getHeaders request.bytes).method = request.method ∧
      (getHeaders request.bytes).uri = request.uriView ∧
      (getHeaders request.bytes).host = getHttpHeaderValue request.bytes kHost view :=
  getHeaders_giver request.known request.plain request.uri_isToken request.version_isToken rfl
    request.find_giver

/-! ### Host and service -/

theorem gives_giver : gives request.giver = true := List.find?_some request.find_giver

/-- The host is right when the line that gives it has it behind the name and one character. -/
theorem getHost_iff (small : request.bytes.length ≤ StringView.maxStringSize) :
    (getHeaders request.bytes).getHost request.bytes = .ok request.host ↔
      ∃ c, behind kHost request.giver = some (c :: request.host) := by
  obtain ⟨view, ⟨inside, text⟩, method, -, host⟩ := request.getHeaders_bytes
  have giver := request.gives_giver
  rw [← text] at giver ⊢
  rw [RequestHeaders.getHost, method, if_pos request.plain, host]
  exact toString_value inside giver small

/-- The service is the first of the two parts of the URI, where there are two. -/
theorem getService_iff (small : request.bytes.length ≤ StringView.maxStringSize) {service : Text}
    (nonempty : service ≠ []) :
    (getHeaders request.bytes).getService request.bytes = .ok service ↔
      ∃ other, words (isDelimeter (ascii ":")) request.uri = [service, other] := by
  obtain ⟨-, -, method, uri, -⟩ := request.getHeaders_bytes
  have inside := request.inside_uriView
  have texts := @map_text_split request.bytes (ascii ":") request.uriView inside.whole
  have parts := @isPart_split request.bytes request.uriView (ascii ":")
  rw [text_uriView] at texts
  rw [RequestHeaders.getService, method, if_pos request.plain, uri, ← texts]
  split
  · next scheme other items =>
      rw [items] at parts
      rw [(inside.ofPart (parts scheme (by simp))).toString_eq small, items]
      simp
  · next items =>
      constructor
      · intro returned
        exact absurd (Except.ok.inj returned).symm nonempty
      · rintro ⟨other, two⟩
        obtain ⟨first, rest, shape, -, more⟩ := List.map_eq_cons_iff.mp two
        obtain ⟨second, none_, rfl, -, empty⟩ := List.map_eq_cons_iff.mp more
        obtain rfl := List.map_eq_nil_iff.mp empty
        exact absurd shape (items first second)

/-- The part of the URI behind the scheme. -/
theorem words_uri : words (isDelimeter (ascii ":")) request.uri =
    ascii "http" ::
      words (isDelimeter (ascii ":")) (ascii "//" ++ request.host ++ request.portText ++
        request.path) := by
  have colon : isDelimeter (ascii ":") 58 := by decide
  have shape : request.uri = ascii "http" ++ 58 ::
      (ascii "//" ++ request.host ++ request.portText ++ request.path) := by
    simp [uri, authority, ascii]
  have scheme : ∀ c ∈ ascii "http", isDelimeter (ascii ":") c = false := fun c member =>
    isDelimeter_eq_false.mpr (free_of_all (by decide) c member)
  rw [shape, words_append colon, words_word scheme (List.cons_ne_nil _ _)]
  rfl

theorem name_free : ∀ c ∈ ascii "//" ++ request.host, isDelimeter (ascii ":") c = false := by
  intro c member
  rw [isDelimeter_eq_false]
  rcases List.mem_append.mp member with slash | inHost
  · exact free_of_all (by decide) c slash
  · exact fun colon => request.host_name c inHost (List.mem_append_left (ascii "/") colon)

/-- With a port there are three parts or more. -/
theorem not_two_of_port {digits : Text} (given : request.port = some digits)
    {service other : Text} : words (isDelimeter (ascii ":")) request.uri ≠ [service, other] := by
  have colon : isDelimeter (ascii ":") 58 := by decide
  have shape : ascii "//" ++ request.host ++ request.portText ++ request.path =
      (ascii "//" ++ request.host) ++ 58 :: (digits ++ request.path) := by
    simp [portText, given, ascii]
  have last : words (isDelimeter (ascii ":")) (digits ++ request.path) ≠ [] := by
    obtain ⟨nonempty, decimal⟩ := request.port_decimal digits given
    obtain ⟨c, digits, rfl⟩ := List.exists_cons_of_ne_nil nonempty
    refine words_ne_nil ⟨c, by simp, isDelimeter_eq_false.mpr ?_⟩
    exact free_of_all (by decide) c (decimal c List.mem_cons_self)
  rw [words_uri, shape, words_append colon, words_word request.name_free (by simp [ascii])]
  intro two
  simp only [List.singleton_append, List.cons.injEq] at two
  exact last two.2.2

/-- Without one there are two when nothing but colons stands behind a colon in the path. -/
theorem two_iff_of_no_port (absent : request.port = none) {service : Text} :
    (∃ other, words (isDelimeter (ascii ":")) request.uri = [service, other]) ↔
      ascii "http" = service ∧ ∀ c ∈ request.path.dropWhile noColon, c ∈ ascii ":" := by
  have shape : ascii "//" ++ request.host ++ request.portText ++ request.path =
      (ascii "//" ++ request.host) ++ request.path := by
    simp [portText, absent]
  have starts : ∀ c, ((ascii "//" ++ request.host) ++ request.path).head? = some c →
      isDelimeter (ascii ":") c = false := by
    rintro c head
    cases head
    decide
  have behind_ : ((ascii "//" ++ request.host) ++ request.path).dropWhile noColon =
      request.path.dropWhile noColon :=
    List.dropWhile_append_of_pos fun c member => by simp [noColon, request.name_free c member]
  rw [words_uri, shape, words_eq_takeWhile starts (by simp [ascii])]
  change (∃ other, _ :: _ :: words _ (List.dropWhile noColon _) = [service, other]) ↔ _
  rw [behind_]
  constructor
  · rintro ⟨other, two⟩
    injection two with same rest
    injection rest with first nothing
    exact ⟨same, by simpa using words_eq_nil_iff.mp nothing⟩
  · rintro ⟨rfl, colons⟩
    rw [words_eq_nil_iff.mpr (by simpa using colons)]
    exact ⟨_, rfl⟩

end AbsoluteRequest

end Http

/-- For every request with an absolute URI that memory can hold, the proxy connects to the authority
    that the URI names, exactly when the URI has no port, nothing but colons behind a colon in its
    path, and no line before the `Host` line gives another host. -/
theorem http_absolute_reaches (request : Http.AbsoluteRequest)
    (small : request.bytes.length ≤ StringView.maxStringSize) :
    request.Reaches ↔ request.Direct := by
  have service_ : request.service ≠ [] := by
    unfold Http.AbsoluteRequest.service
    cases given : request.port with
    | none => decide
    | some digits => exact (request.port_decimal digits given).1
  rw [Http.AbsoluteRequest.Reaches,
    Http.connects_iff_of_ne_nil request.host_isToken.1 service_, request.getHost_iff small,
    request.getService_iff small service_]
  constructor
  · rintro ⟨host, two⟩
    have absent : request.port = none := by
      cases given : request.port with
      | none => rfl
      | some digits =>
          obtain ⟨other, two⟩ := two
          exact absurd two (request.not_two_of_port given)
    refine ⟨absent, ((request.two_iff_of_no_port absent).mp two).2, ?_⟩
    intro line found
    rwa [Http.AbsoluteRequest.giver, found] at host
  · intro direct
    constructor
    · unfold Http.AbsoluteRequest.giver
      cases found : request.before.find? Http.gives with
      | none =>
          refine ⟨32, ?_⟩
          rw [Option.getD_none, request.behind_hostLine, Http.AbsoluteRequest.authority,
            Http.AbsoluteRequest.portText, direct.port]
          simp
      | some line => exact direct.host line found
    · apply (request.two_iff_of_no_port direct.port).mpr
      exact ⟨by simp [Http.AbsoluteRequest.service, direct.port], direct.path⟩

namespace Http.Sample

/-- A request without a port. -/
def portless : AbsoluteRequest where
  method := .kGet
  host := ascii "h"
  port := none
  path := ascii "/"
  version := ascii "HTTP/1.1"
  before := []
  after := []
  body := []
  known := kGet_known
  plain := kGet_plain
  host_isToken := isToken_h
  host_name := free_of_all (by decide)
  port_decimal := fun _ given => nomatch given
  path_isToken := isToken_slash
  path_slash := rfl
  version_isToken := isToken_version
  before_isLine := List.forall_mem_nil _
  after_isLine := List.forall_mem_nil _

/-- The same with a port. -/
def ported : AbsoluteRequest :=
  { portless with
    port := some (ascii "8080")
    port_decimal := by
      rintro digits ⟨⟩
      exact ⟨by decide, by simp [ascii]⟩ }

end Http.Sample

theorem http_absolute_reaches_sample : Http.Sample.portless.Reaches :=
  (http_absolute_reaches Http.Sample.portless (by decide)).mpr
    { port := rfl
      path := by simp [Http.Sample.portless, Http.noColon, Http.isDelimeter, ascii]
      host := by simp [Http.Sample.portless] }

/-- A request for `http://h:8080/` is answered 500. -/
theorem http_port_refused :
    Http.Sample.ported.bytes = ascii "GET http://h:8080/ HTTP/1.1\r\nHost: h:8080\r\n\r\n" ∧
      Http.target Http.Sample.ported.bytes = .ok none ∧ ¬ Http.Sample.ported.Reaches := by
  have refused : Http.target Http.Sample.ported.bytes = .ok none := by decide
  refine ⟨by decide, refused, fun reaches => ?_⟩
  rw [Http.AbsoluteRequest.Reaches, Http.connects_iff, refused] at reaches
  cases reaches

end AmgiNetTools
