/-
Module: AmgiNetTools.Http.Fields
Layer: Http
Purpose: A request made of header fields, and whether `get_headers` takes the host and the
  connection from the fields of these names. It does when the fields stand as the parser wants them:
  one space behind the colon, `Host` before `Connection`, and no other line that names one of them
  in the wrong place.
Main exports: Http.Field, Http.FieldRequest, Http.FieldRequest.bytes, Http.FieldRequest.FromFields,
  Http.FieldRequest.WellPlaced, http_fields_exact, http_other_field_taken
-/
import AmgiNetTools.Http.Headers

namespace AmgiNetTools

namespace Http

/-- A header line: a name, a colon, some spaces and a value. -/
structure Field where
  name : Text
  spaces : Nat
  value : Text
  name_free : ∀ c ∈ name, c ∉ ascii ":\r\n"
  value_free : ∀ c ∈ value, c ∉ ascii "\r\n"
  value_trimmed : value.head? ≠ some 32

namespace Field

variable (field : Field)

/-- The spaces and the value. -/
def content : Text := List.replicate field.spaces 32 ++ field.value

def line : Text := field.name ++ ascii ":" ++ field.content

def isConnection : Bool := field.name == ascii "Connection"

/-- Where the value is when the line stands at `pos`. -/
def valueView (pos : Nat) : StringView where
  data := pos + (field.name.length + 1 + field.spaces)
  size := field.value.length

end Field

/-- Some fields, each with the position of its line when the first stands at `pos`. -/
def place : Nat → List Field → List (Field × Nat)
  | _, [] => []
  | pos, field :: fields => (field, pos) :: place (pos + field.line.length + 2) fields

/-- A request of one of the methods other than CONNECT, with one field of the name `Host` and at
    most one of the name `Connection`. -/
structure FieldRequest where
  method : RequestMethod
  uri : Text
  version : Text
  before : List Field
  host : Field
  after : List Field
  body : Text
  known : method ≠ .kNone
  plain : method ≠ .kConnect
  uri_isToken : IsToken uri
  version_isToken : IsToken version
  host_name : host.name = ascii "Host"
  host_value : host.value ≠ []
  others : ∀ field ∈ before ++ after, field.name ≠ ascii "Host"
  once : ((before ++ after).filter Field.isConnection).length ≤ 1

/-- Two views that are equal, or both empty. -/
def Same (first second : StringView) : Prop := first = second ∨ (first.size = 0 ∧ second.size = 0)

namespace FieldRequest

variable (request : FieldRequest)

def line : Text := requestLine request.method.name request.uri request.version

def fields : List Field := request.before ++ request.host :: request.after

/-- What follows the `Host` line. -/
def tail : Text := wire (request.after.map Field.line) ++ (crlf ++ request.body)

def headers : Text :=
  wire (request.before.map Field.line) ++ (request.host.line ++ crlf ++ request.tail)

def bytes : IoBuffer := request.line ++ crlf ++ request.headers

/-- Where the first field stands. -/
def start : Nat := request.line.length + 2

/-- Where the `Host` line stands. -/
def hostStart : Nat := request.start + (wire (request.before.map Field.line)).length

/-- Where the line behind it stands. -/
def tailStart : Nat := request.hostStart + request.host.line.length + 2

/-- The value of the `Host` field in the buffer. -/
def hostView : StringView := request.host.valueView request.hostStart

/-- The value of the `Connection` field in the buffer, if there is one. -/
def connectionView : StringView :=
  (((place request.start request.fields).find? fun placed => placed.1.isConnection).map
    fun placed => placed.1.valueView placed.2).getD .none

/-- The value of the `Connection` field, empty if there is none. -/
def connectionValue : Text :=
  ((request.fields.find? Field.isConnection).map Field.value).getD []

/-- The parser takes the host and the connection from the values of the fields of that name. -/
structure FromFields : Prop where
  host : (getHeaders request.bytes).host = request.hostView
  connection : Same (getHeaders request.bytes).connection request.connectionView

/-- The lines behind the `Host` line. -/
def behindHost : List Text := request.after.map Field.line ++ lines request.body

/-- The lines behind the first `Connection` line that comes after the `Host` line. -/
def behindConnection : List Text :=
  ((request.after.dropWhile fun field => !field.isConnection).tail).map Field.line ++
    lines request.body

/-- The `Host` field has one space, and no field before it has a line that gives a host. A
    `Connection` field with a value stands behind it, has one space, and no line behind it names the
    connection. When the connection has no value, the last line behind the `Host` line that names
    it, if there is one, has a single character behind the name. -/
structure WellPlaced : Prop where
  spaces : request.host.spaces = 1
  first : ∀ field ∈ request.before, gives field.line = false
  named : request.connectionValue ≠ [] → ∃ field,
    request.after.find? Field.isConnection = some field ∧ field.spaces = 1 ∧
      ∀ line ∈ request.behindConnection, behind kConnection line = none
  silent : request.connectionValue = [] → ∀ line,
    (request.behindHost.filter fun line => (behind kConnection line).isSome).getLast? = some line →
      ∃ c, behind kConnection line = some [c]

end FieldRequest

/-! ### Fields in a buffer -/

namespace Field

variable (field : Field)

theorem content_free : ∀ c ∈ field.content, c ∉ ascii "\r\n" := by
  intro c member
  rcases List.mem_append.mp member with space | inValue
  · rw [(List.mem_replicate.mp space).2]
    decide
  · exact field.value_free c inValue

theorem line_isLine : IsLine field.line := by
  constructor
  · simp [line, ascii]
  · intro c member
    rcases List.mem_append.mp member with front | inContent
    · rcases List.mem_append.mp front with inName | colon
      · exact fun lineEnd => field.name_free c inName (List.mem_append_right (ascii ":") lineEnd)
      · exact free_of_all (by decide) c colon
    · exact field.content_free c inContent

theorem length_line :
    field.line.length = field.name.length + 1 + (field.spaces + field.value.length) := by
  simp [line, content, ascii]
  omega

/-- The name and the colon are the name that the parser looks for. -/
theorem behind_line {key : Text} (named : field.name ++ ascii ":" = key) :
    behind key field.line = some field.content := by
  rw [line, named]
  exact behind_start key _

variable {buffer key : Text} {pos : Nat}

/-- The parser takes the value of a field when there is one space before it. -/
theorem value_iff (named : field.name ++ ascii ":" = key) (nonempty : field.value ≠ [])
    (shows : StringView.text buffer ⟨pos, field.line.length⟩ = field.line) :
    getHttpHeaderValue buffer key ⟨pos, field.line.length⟩ = field.valueView pos ↔
      field.spaces = 1 := by
  have some_ : 0 < field.value.length := List.length_pos_iff.mpr nonempty
  have long : field.content.length = field.spaces + field.value.length := by simp [content]
  have total := field.length_line
  cases shape : field.content with
  | nil =>
      rw [shape, List.length_nil] at long
      omega
  | cons c value =>
      have found : behind key (StringView.text buffer ⟨pos, field.line.length⟩) =
          some (c :: value) := by
        rw [shows, field.behind_line named, shape]
      rw [shape, List.length_cons] at long
      rw [getHttpHeaderValue_of_behind (by rw [shows]) found, lastPart, valueView,
        StringView.mk.injEq]
      dsimp only
      omega

end Field

theorem place_append (pos : Nat) (first second : List Field) :
    place pos (first ++ second) =
      place pos first ++ place (pos + (wire (first.map Field.line)).length) second := by
  induction first generalizing pos with
  | nil => rfl
  | cons field first ih =>
      rw [List.cons_append, place, ih, place, List.cons_append]
      congr 3
      simp [wire, crlf, ascii]
      omega

/-- The fields keep their order. -/
theorem map_fst_place (pos : Nat) (fields : List Field) :
    (place pos fields).map Prod.fst = fields := by
  induction fields generalizing pos with
  | nil => rfl
  | cons field fields ih => rw [place, List.map_cons, ih]

variable {p : Field → Bool} {field : Field} {before after : List Field} {pos : Nat}

theorem find_place_eq_none (none_ : ∀ field ∈ before, p field = false) :
    (place pos before).find? (fun placed => p placed.1) = none := by
  rw [List.find?_eq_none]
  intro placed member
  have among : placed.1 ∈ before := by
    rw [← map_fst_place pos before]
    exact List.mem_map_of_mem member
  simp [none_ placed.1 among]

/-- The first field of a kind, with its position. -/
theorem find_place (none_ : ∀ field ∈ before, p field = false) (this : p field = true) :
    (place pos (before ++ field :: after)).find? (fun placed => p placed.1) =
      some (field, pos + (wire (before.map Field.line)).length) := by
  rw [place_append, List.find?_append, find_place_eq_none none_, place, Option.none_or]
  exact List.find?_cons_of_pos this

namespace FieldRequest

variable (request : FieldRequest)

/-! ### The lines of the request -/

/-- The items for the lines before the `Host` line. -/
def early : List StringView :=
  lineViews request.bytes request.start (wire (request.before.map Field.line))

/-- The item for the `Host` line. -/
def hostItem : StringView := { data := request.hostStart, size := request.host.line.length }

/-- The items for the lines behind it. -/
def late : List StringView := lineViews request.bytes request.tailStart request.tail

theorem isLine_of_mem {fields : List Field} : ∀ line ∈ fields.map Field.line, IsLine line := by
  intro line member
  obtain ⟨field, -, rfl⟩ := List.mem_map.mp member
  exact field.line_isLine

/-- The items behind the request line. -/
theorem lineViews_headers : lineViews request.bytes request.start request.headers =
    request.early ++ request.hostItem :: request.late := by
  rw [headers, lineViews_line _ request.host.line_isLine]
  rfl

/-- What the items show. -/
theorem texts_items :
    request.early.map (StringView.text request.bytes) = request.before.map Field.line ∧
      request.hostItem.text request.bytes = request.host.line ∧
      request.late.map (StringView.text request.bytes) = lines request.tail :=
  texts_lineViews_line isLine_of_mem (by simp [start, crlf, ascii]) rfl

theorem lines_tail : lines request.tail = request.behindHost := by
  rw [tail, lines_wire isLine_of_mem, lines_crlf]
  rfl

theorem inside_items :
    ∀ item ∈ request.early ++ request.hostItem :: request.late, Inside request.bytes item := by
  intro item member
  have line_ := isLine_requestLine (isToken_name request.known) request.uri_isToken
    request.version_isToken
  rw [← lineViews_headers] at member
  exact inside_line (split_line line_ request.headers) item (List.mem_cons_of_mem _ member)

/-! ### The host -/

/-- The result, where a line gives the host. -/
theorem getHeaders_eq {view : StringView}
    (found : (request.early ++ request.hostItem :: request.late).find?
      (givesHost request.bytes) = some view) :
    getHeaders request.bytes =
      (request.early ++ request.hostItem :: request.late).foldl (scanHeader request.bytes)
        (plainFields request.method request.uri request.version) :=
  getHeaders_found request.known request.plain request.uri_isToken request.version_isToken rfl
    request.lineViews_headers.symm found

/-- The host is the value of the first line that gives one. -/
theorem host_eq : (getHeaders request.bytes).host =
    (((request.early ++ request.hostItem :: request.late).find? (givesHost request.bytes)).map
      (getHttpHeaderValue request.bytes kHost)).getD .none := by
  have items := request.lineViews_headers.symm
  cases found : (request.early ++ request.hostItem :: request.late).find?
      (givesHost request.bytes) with
  | none =>
      have result : getHeaders request.bytes = {} :=
        getHeaders_absent request.known request.plain request.uri_isToken
          request.version_isToken rfl items (by simp) found
      rw [result]
      rfl
  | some view =>
      have result := request.getHeaders_eq found
      rw [result]
      exact (foldl_scanHeader_find rfl found).1

theorem hostName : request.host.name ++ ascii ":" = kHost := by
  rw [request.host_name]
  decide

/-- The `Host` line gives a host, unless its value is a single character and follows the colon. -/
theorem givesHost_hostItem : givesHost request.bytes request.hostItem = true ↔
    request.host.content.length ≠ 1 := by
  rw [givesHost_eq_gives (request.inside_items _ (by simp)).whole, request.texts_items.2.1, gives,
    request.host.behind_line request.hostName]
  simp

theorem find_early : request.early.find? (givesHost request.bytes) = none ↔
    ∀ field ∈ request.before, gives field.line = false := by
  have texts := find_gives fun item member =>
    request.inside_items item (List.mem_append_left _ member)
  rw [request.texts_items.1] at texts
  rw [← Option.map_eq_none_iff, ← texts, List.find?_eq_none]
  simp

/-- The value of a line that is not the `Host` line is not the value of the `Host` field. -/
theorem value_ne_hostView {item : StringView} (giver : givesHost request.bytes item = true)
    (elsewhere : item ∈ request.early ∨ item ∈ request.late) :
    getHttpHeaderValue request.bytes kHost item ≠ request.hostView := by
  have inside : Inside request.bytes item := by
    apply request.inside_items
    rcases elsewhere with early | late
    · exact List.mem_append_left _ early
    · exact List.mem_append_right _ (List.mem_cons_of_mem _ late)
  rw [givesHost_eq_gives inside.whole] at giver
  obtain ⟨behind_, before_⟩ := data_value inside (isSome_of_gives giver)
  have name := congrArg List.length request.host_name
  have long := request.host.length_line
  intro same
  rw [same] at behind_ before_
  simp only [hostView, Field.valueView, name] at behind_ before_
  rw [name] at long
  simp only [show (ascii "Host").length = 4 from rfl] at behind_ before_ long
  rcases elsewhere with early | late
  · have bounds := (bounds_of_mem_lineViews early).2
    change _ ≤ request.hostStart at bounds
    omega
  · have bounds := (bounds_of_mem_lineViews late).1
    rw [tailStart] at bounds
    omega

/-- The host is that of the `Host` field when the field has one space and no line before it gives a
    host. -/
theorem host_iff : (getHeaders request.bytes).host = request.hostView ↔
    request.host.spaces = 1 ∧ ∀ field ∈ request.before, gives field.line = false := by
  have some_ : 0 < request.host.value.length := List.length_pos_iff.mpr request.host_value
  rw [host_eq, ← find_early, List.find?_append]
  cases found : request.early.find? (givesHost request.bytes) with
  | some item =>
      apply iff_of_false
      · exact request.value_ne_hostView (List.find?_some found)
          (.inl (List.mem_of_find?_eq_some found))
      · simp
  | none =>
      rw [Option.none_or]
      by_cases giver : givesHost request.bytes request.hostItem = true
      · rw [List.find?_cons_of_pos giver]
        change getHttpHeaderValue _ _ request.hostItem = request.hostView ↔ _
        rw [and_iff_left rfl]
        exact request.host.value_iff request.hostName request.host_value request.texts_items.2.1
      · rw [List.find?_cons_of_neg giver]
        have short := not_not.mp (mt request.givesHost_hostItem.mpr giver)
        simp only [Field.content, List.length_append, List.length_replicate] at short
        apply iff_of_false
        · cases later : request.late.find? (givesHost request.bytes) with
          | some item =>
              exact request.value_ne_hostView (List.find?_some later)
                (.inr (List.mem_of_find?_eq_some later))
          | none =>
              intro same
              have size : 0 = request.host.value.length := congrArg StringView.size same
              omega
        · omega

/-! ### The connection -/

/-- The connection is that of the last line behind the `Host` line that names it. -/
theorem connection_eq (host : (getHeaders request.bytes).host = request.hostView) :
    (getHeaders request.bytes).connection =
      (lastConnection request.bytes request.late).getD .none := by
  obtain ⟨spaces, silent⟩ := request.host_iff.mp host
  have absent := request.find_early.mpr silent
  have giver : givesHost request.bytes request.hostItem = true := by
    rw [givesHost_hostItem]
    have some_ : 0 < request.host.value.length := List.length_pos_iff.mpr request.host_value
    simp only [Field.content, List.length_append, List.length_replicate]
    omega
  have found : (request.early ++ request.hostItem :: request.late).find?
      (givesHost request.bytes) = some request.hostItem := by
    rw [List.find?_append, absent, List.find?_cons_of_pos giver]
    rfl
  rw [request.getHeaders_eq found, foldl_scanHeader_first rfl (by simpa using absent) giver]
  rfl

/-- Whether a line names the connection. -/
def names (buffer : Text) (item : StringView) : Bool :=
  (behind kConnection (item.text buffer)).isSome

theorem inside_late {item : StringView} (member : item ∈ request.late) :
    Inside request.bytes item :=
  request.inside_items item (List.mem_append_right _ (List.mem_cons_of_mem _ member))

/-- The text of the line that gives the connection. -/
theorem getLast?_behindHost :
    (request.behindHost.filter fun line => (behind kConnection line).isSome).getLast? =
      (request.late.filter (names request.bytes)).getLast?.map (StringView.text request.bytes) := by
  rw [← lines_tail, ← request.texts_items.2.2, List.filter_map, List.getLast?_map]
  rfl

theorem lastConnection_eq : lastConnection request.bytes request.late =
    (request.late.filter (names request.bytes)).getLast?.map
      (getHttpHeaderValue request.bytes kConnection) := rfl

theorem mem_of_last {item : StringView}
    (last : (request.late.filter (names request.bytes)).getLast? = some item) :
    item ∈ request.late ∧ (behind kConnection (item.text request.bytes)).isSome :=
  List.mem_filter.mp (List.mem_of_getLast? last)

theorem find_fields : request.fields.find? Field.isConnection =
    ((place request.start request.fields).find? fun placed => placed.1.isConnection).map
      Prod.fst := by
  conv_lhs => rw [← map_fst_place request.start request.fields]
  exact List.find?_map

/-- The value that is expected has the size of the value of the field. -/
theorem size_connectionView : request.connectionView.size = request.connectionValue.length := by
  rw [connectionView, connectionValue, find_fields]
  cases (place request.start request.fields).find? fun placed => placed.1.isConnection <;> rfl

/-- Without a value the connection is empty when the last line that names it has a single character
    behind the name. -/
theorem silent_iff : ((lastConnection request.bytes request.late).getD .none).size = 0 ↔
    ∀ line,
      (request.behindHost.filter fun line => (behind kConnection line).isSome).getLast? =
          some line →
        ∃ c, behind kConnection line = some [c] := by
  rw [getLast?_behindHost, lastConnection_eq]
  cases last : (request.late.filter (names request.bytes)).getLast? with
  | none => simp [StringView.none]
  | some item =>
      obtain ⟨among, named⟩ := request.mem_of_last last
      simpa using size_value_eq_zero (request.inside_late among) named

theorem after_silent {field : Field} (member : field ∈ request.before)
    (connection : field.isConnection = true) :
    ∀ other ∈ request.after, other.isConnection = false := by
  have once := request.once
  have one : 0 < (request.before.filter Field.isConnection).length :=
    List.length_pos_of_mem (List.mem_filter.mpr ⟨member, connection⟩)
  rw [List.filter_append, List.length_append] at once
  have none_ : request.after.filter Field.isConnection = [] :=
    List.eq_nil_of_length_eq_zero (by omega)
  simpa using none_

theorem host_isConnection : request.host.isConnection = false := by
  rw [Field.isConnection, request.host_name]
  decide

/-- The connection is given by a line behind the `Host` line, or not at all. -/
theorem tailStart_lt_connection {view : StringView}
    (given : (lastConnection request.bytes request.late).getD .none = view)
    (some_ : view.size ≠ 0) : request.tailStart < view.data := by
  rw [lastConnection_eq] at given
  cases last : (request.late.filter (names request.bytes)).getLast? with
  | none =>
      rw [last] at given
      exact absurd (congrArg StringView.size given).symm some_
  | some item =>
      rw [last] at given
      obtain ⟨among, named⟩ := request.mem_of_last last
      have starts := (data_value (request.inside_late among) named).1
      have bounds := (bounds_of_mem_lineViews among).1
      rw [show getHttpHeaderValue request.bytes kConnection item = view from given] at starts
      omega

theorem length_wire_cons (early late : List Field) (field : Field) :
    (wire ((early ++ field :: late).map Field.line)).length =
      (wire (early.map Field.line)).length + (field.line.length + 2) +
        (wire (late.map Field.line)).length := by
  simp [wire, crlf, ascii]
  omega

/-- A `Connection` field before the `Host` field is not seen. -/
theorem not_given_before {field : Field} {first second : List Field}
    (shape : request.before = first ++ field :: second)
    (none_ : ∀ other ∈ first, other.isConnection = false) (connection : field.isConnection = true)
    (some_ : request.connectionValue ≠ []) :
    (lastConnection request.bytes request.late).getD .none ≠ request.connectionView := by
  have fields_ : request.fields = first ++ field :: (second ++ request.host :: request.after) := by
    simp [fields, shape]
  have view : request.connectionView =
      field.valueView (request.start + (wire (first.map Field.line)).length) := by
    rw [connectionView, fields_, find_place none_ connection]
    rfl
  have size : request.connectionView.size ≠ 0 := by
    rw [size_connectionView]
    simpa using some_
  intro given
  have late := request.tailStart_lt_connection given size
  have long := field.length_line
  have total := length_wire_cons first second field
  rw [view] at late
  simp only [Field.valueView, tailStart, hostStart, shape] at late
  omega

/-! ### A `Connection` field behind the `Host` field

`first` are the fields between the two, and `second` those behind it. -/

section

/-- Where its line stands. -/
def connectionStart (first : List Field) : Nat :=
  request.tailStart + (wire (first.map Field.line)).length

/-- What comes behind its line. -/
def connectionRest (second : List Field) : Text :=
  wire (second.map Field.line) ++ (crlf ++ request.body)

/-- The items for the lines behind it. -/
def lateRest (first : List Field) (field : Field) (second : List Field) : List StringView :=
  lineViews request.bytes (request.connectionStart first + field.line.length + 2)
    (request.connectionRest second)

variable {field : Field} {first second : List Field}

theorem connectionName (connection : field.isConnection = true) :
    field.name ++ ascii ":" = kConnection := by
  have name : field.name = ascii "Connection" := by simpa [Field.isConnection] using connection
  rw [name]
  decide

variable (shape : request.after = first ++ field :: second)
include shape

theorem connectionView_behind (silent : ∀ other ∈ request.before, other.isConnection = false)
    (none_ : ∀ other ∈ first, other.isConnection = false) (connection : field.isConnection = true) :
    request.connectionView = field.valueView (request.connectionStart first) := by
  have fields_ : request.fields = (request.before ++ request.host :: first) ++ field :: second := by
    simp [fields, shape]
  have none' : ∀ other ∈ request.before ++ request.host :: first, other.isConnection = false := by
    intro other member
    rcases List.mem_append.mp member with early | late
    · exact silent other early
    · rcases List.mem_cons.mp late with rfl | late
      · exact request.host_isConnection
      · exact none_ other late
  have total := length_wire_cons request.before first request.host
  rw [connectionView, fields_, find_place none' connection, Option.map_some, Option.getD_some]
  congr 1
  rw [total, connectionStart, tailStart, hostStart]
  omega

theorem tail_behind : request.tail =
    wire (first.map Field.line) ++ (field.line ++ crlf ++ request.connectionRest second) := by
  simp [tail, shape, wire, connectionRest]

/-- The items behind the `Host` line are those up to the field, the field, and the rest. -/
theorem late_behind : request.late =
    lineViews request.bytes request.tailStart (wire (first.map Field.line)) ++
      ⟨request.connectionStart first, field.line.length⟩ ::
        request.lateRest first field second := by
  rw [late, request.tail_behind shape, lineViews_line _ field.line_isLine]
  rfl

theorem texts_behind :
    StringView.text request.bytes ⟨request.connectionStart first, field.line.length⟩ = field.line ∧
      (request.lateRest first field second).map (StringView.text request.bytes) =
        lines (request.connectionRest second) := by
  have bytes_ : request.bytes = (request.line ++ crlf ++ wire (request.before.map Field.line) ++
      request.host.line ++ crlf) ++ (wire (first.map Field.line) ++
        (field.line ++ crlf ++ request.connectionRest second)) := by
    simp [bytes, headers, request.tail_behind shape]
  have front : request.tailStart = (request.line ++ crlf ++
      wire (request.before.map Field.line) ++ request.host.line ++ crlf).length := by
    simp [tailStart, hostStart, start, crlf, ascii]
    omega
  exact (texts_lineViews_line (@isLine_of_mem first) front bytes_).2

theorem behindConnection_eq (none_ : ∀ other ∈ first, other.isConnection = false)
    (connection : field.isConnection = true) :
    request.behindConnection =
      (request.lateRest first field second).map (StringView.text request.bytes) := by
  have dropped : request.after.dropWhile (fun other => !other.isConnection) = field :: second := by
    rw [shape, List.dropWhile_append_of_pos (by simpa using none_),
      List.dropWhile_cons_of_neg (by simp [connection])]
  rw [(request.texts_behind shape).2, behindConnection, dropped, connectionRest,
    lines_wire isLine_of_mem, lines_crlf]
  rfl

/-- The connection comes from the last line behind the field that names it, or from the field. -/
theorem lastConnection_behind (connection : field.isConnection = true) :
    (lastConnection request.bytes request.late).getD .none =
      getHttpHeaderValue request.bytes kConnection
        (((request.lateRest first field second).filter (names request.bytes)).getLast?.getD
          ⟨request.connectionStart first, field.line.length⟩) := by
  have named : names request.bytes ⟨request.connectionStart first, field.line.length⟩ = true := by
    rw [names, (request.texts_behind shape).1, field.behind_line (connectionName connection)]
    rfl
  rw [lastConnection_eq, request.late_behind shape, List.filter_append,
    List.filter_cons_of_pos named, List.getLast?_append, List.getLast?_cons]
  rfl

/-- It is taken when it has one space and no line behind it names the connection. -/
theorem given_behind (silent : ∀ other ∈ request.before, other.isConnection = false)
    (none_ : ∀ other ∈ first, other.isConnection = false) (connection : field.isConnection = true)
    (some_ : field.value ≠ []) :
    (lastConnection request.bytes request.late).getD .none = request.connectionView ↔
      field.spaces = 1 ∧ ∀ line ∈ request.behindConnection, behind kConnection line = none := by
  have view := request.connectionView_behind shape silent none_ connection
  rw [request.behindConnection_eq shape none_ connection,
    request.lastConnection_behind shape connection]
  cases last : ((request.lateRest first field second).filter (names request.bytes)).getLast? with
  | none =>
      have quiet := List.getLast?_eq_none_iff.mp last
      rw [List.filter_eq_nil_iff] at quiet
      have silentRest : ∀ line ∈ (request.lateRest first field second).map
          (StringView.text request.bytes), behind kConnection line = none := by
        intro line member
        obtain ⟨item, among, rfl⟩ := List.mem_map.mp member
        simpa [names] using quiet item among
      rw [and_iff_left silentRest, view]
      exact field.value_iff (connectionName connection) some_ (request.texts_behind shape).1
  | some item =>
      obtain ⟨among, itemNames⟩ := List.mem_filter.mp (List.mem_of_getLast? last)
      apply iff_of_false
      · -- The value of a later line starts behind the field.
        intro given
        have inside : Inside request.bytes item := by
          apply request.inside_late
          rw [request.late_behind shape]
          exact List.mem_append_right _ (List.mem_cons_of_mem _ among)
        have starts := (data_value inside itemNames).1
        have bounds := (bounds_of_mem_lineViews among).1
        have long := field.length_line
        have same : getHttpHeaderValue request.bytes kConnection item = request.connectionView :=
          given
        rw [same, view] at starts
        simp only [Field.valueView] at starts
        omega
      · rintro ⟨-, silentRest⟩
        have absent := silentRest _ (List.mem_map_of_mem among)
        rw [names, absent] at itemNames
        cases itemNames

end

/-- Without a value, nothing is to be found. -/
theorem same_silent_iff (value : request.connectionValue = []) :
    Same ((lastConnection request.bytes request.late).getD .none) request.connectionView ↔
      ∀ line,
        (request.behindHost.filter fun line => (behind kConnection line).isSome).getLast? =
            some line →
          ∃ c, behind kConnection line = some [c] := by
  have empty : request.connectionView.size = 0 := by
    rw [size_connectionView, value, List.length_nil]
  rw [← silent_iff]
  constructor
  · rintro (equal | both)
    · rw [equal, empty]
    · exact both.1
  · exact fun none_ => .inr ⟨none_, empty⟩

/-- A value is found when its field is the first one behind the `Host` field, and well placed. -/
theorem same_named_iff (value : request.connectionValue ≠ []) :
    Same ((lastConnection request.bytes request.late).getD .none) request.connectionView ↔
      ∃ field, request.after.find? Field.isConnection = some field ∧ field.spaces = 1 ∧
        ∀ line ∈ request.behindConnection, behind kConnection line = none := by
  have some_ : request.connectionView.size ≠ 0 := by
    rw [size_connectionView]
    simpa using value
  rw [Same, or_iff_left fun both => some_ both.2]
  cases early : request.before.find? Field.isConnection with
  | some field =>
      obtain ⟨connection, first, second, shape, none_⟩ := List.find?_eq_some_iff_append.mp early
      have member : field ∈ request.before := List.mem_of_find?_eq_some early
      have absent : request.after.find? Field.isConnection = none := by
        simpa using request.after_silent member connection
      apply iff_of_false
      · exact request.not_given_before shape (by simpa using none_) connection value
      · simp [absent]
  | none =>
      have silent : ∀ other ∈ request.before, other.isConnection = false := by simpa using early
      cases found : request.after.find? Field.isConnection with
      | none =>
          refine absurd ?_ value
          simp [connectionValue, fields, early, found, request.host_isConnection]
      | some field =>
          obtain ⟨connection, first, second, shape, none_⟩ :=
            List.find?_eq_some_iff_append.mp found
          have fieldValue : field.value ≠ [] := by
            simpa [connectionValue, fields, early, found, request.host_isConnection] using value
          rw [request.given_behind shape silent (by simpa using none_) connection fieldValue]
          simp

/-- The connection is that of the `Connection` field when the fields stand as the parser wants
    them. -/
theorem connection_iff (host : (getHeaders request.bytes).host = request.hostView) :
    Same (getHeaders request.bytes).connection request.connectionView ↔
      (request.connectionValue ≠ [] → ∃ field,
        request.after.find? Field.isConnection = some field ∧ field.spaces = 1 ∧
          ∀ line ∈ request.behindConnection, behind kConnection line = none) ∧
      (request.connectionValue = [] → ∀ line,
        (request.behindHost.filter fun line => (behind kConnection line).isSome).getLast? =
            some line →
          ∃ c, behind kConnection line = some [c]) := by
  rw [request.connection_eq host]
  by_cases value : request.connectionValue = []
  · rw [request.same_silent_iff value, imp_iff_right value]
    exact (and_iff_right fun some_ => absurd value some_).symm
  · rw [request.same_named_iff value, imp_iff_right value]
    exact (and_iff_left fun none_ => absurd none_ value).symm

theorem fromFields_iff : request.FromFields ↔ request.WellPlaced := by
  constructor
  · rintro ⟨host, connection⟩
    obtain ⟨spaces, first⟩ := request.host_iff.mp host
    obtain ⟨named, silent⟩ := (request.connection_iff host).mp connection
    exact ⟨spaces, first, named, silent⟩
  · rintro ⟨spaces, first, named, silent⟩
    have host := request.host_iff.mpr ⟨spaces, first⟩
    exact ⟨host, (request.connection_iff host).mpr ⟨named, silent⟩⟩

/-! ### The values -/

/-- Where the value of a field is, its text is. -/
theorem text_valueView {fields : List Field} {front rest : Text} {placed : Field × Nat}
    (member : placed ∈ place front.length fields) :
    (placed.1.valueView placed.2).text (front ++ wire (fields.map Field.line) ++ rest) =
      placed.1.value := by
  induction fields generalizing front with
  | nil => cases member
  | cons field fields ih =>
      rcases List.mem_cons.mp member with rfl | later
      · have between := text_between
          (front ++ (field.name ++ ascii ":" ++ List.replicate field.spaces 32)) field.value
          (crlf ++ wire (fields.map Field.line) ++ rest)
        convert between using 2
        · simp [wire, Field.line, Field.content]
        · simp [Field.valueView, ascii]
          omega
      · have shape : front ++ wire ((field :: fields).map Field.line) ++ rest =
            (front ++ field.line ++ crlf) ++ wire (fields.map Field.line) ++ rest := by
          simp [wire]
        have start : front.length + field.line.length + 2 =
            (front ++ field.line ++ crlf).length := by
          simp [crlf, ascii]
          omega
        rw [shape]
        exact ih (start ▸ later)

theorem text_placed {placed : Field × Nat} (member : placed ∈ place request.start request.fields) :
    (placed.1.valueView placed.2).text request.bytes = placed.1.value := by
  have shape : request.bytes = (request.line ++ crlf) ++ wire (request.fields.map Field.line) ++
      (crlf ++ request.body) := by
    simp [bytes, headers, tail, fields, wire]
  have start_ : request.start = (request.line ++ crlf).length := by simp [start, crlf, ascii]
  rw [start_] at member
  rw [shape]
  exact text_valueView member

theorem text_of_size {buffer : Text} {view : StringView} (empty : view.size = 0) :
    view.text buffer = [] := by
  rw [StringView.text, empty, List.take_zero]

theorem text_hostView : request.hostView.text request.bytes = request.host.value := by
  have member : (request.host, request.hostStart) ∈ place request.start request.fields := by
    rw [fields, place_append]
    exact List.mem_append_right _ List.mem_cons_self
  exact request.text_placed member

theorem text_connectionView :
    request.connectionView.text request.bytes = request.connectionValue := by
  rw [connectionView, connectionValue, find_fields]
  cases found : (place request.start request.fields).find? fun placed => placed.1.isConnection with
  | none => exact text_of_size rfl
  | some placed => exact request.text_placed (List.mem_of_find?_eq_some found)

/-- The texts of host and connection, when they come from their fields. -/
theorem FromFields.texts {request : FieldRequest} (from_ : request.FromFields) :
    (getHeaders request.bytes).host.text request.bytes = request.host.value ∧
      (getHeaders request.bytes).connection.text request.bytes = request.connectionValue := by
  constructor
  · rw [from_.host, text_hostView]
  · rcases from_.connection with equal | both
    · rw [equal, text_connectionView]
    · rw [← text_connectionView, text_of_size both.1, text_of_size both.2]

/-- Well placed requests that agree in the two values are read alike, whatever the order of their
    fields, their other fields and their bodies. -/
theorem WellPlaced.texts_eq {request other : FieldRequest} (placed : request.WellPlaced)
    (placed' : other.WellPlaced) (hosts : request.host.value = other.host.value)
    (connections : request.connectionValue = other.connectionValue) :
    (getHeaders request.bytes).host.text request.bytes =
        (getHeaders other.bytes).host.text other.bytes ∧
      (getHeaders request.bytes).connection.text request.bytes =
        (getHeaders other.bytes).connection.text other.bytes := by
  obtain ⟨host, connection⟩ := (request.fromFields_iff.mpr placed).texts
  obtain ⟨host', connection'⟩ := (other.fromFields_iff.mpr placed').texts
  exact ⟨host.trans (hosts.trans host'.symm), connection.trans (connections.trans connection'.symm)⟩

/-- The order of the fields does not change what the values are. -/
theorem values_of_perm {other : FieldRequest} (perm : request.fields.Perm other.fields) :
    request.host.value = other.host.value ∧ request.connectionValue = other.connectionValue := by
  have hosts (request : FieldRequest) :
      request.fields.filter (fun field => field.name == ascii "Host") = [request.host] := by
    have none_ (fields : List Field) (part : fields ⊆ request.before ++ request.after) :
        fields.filter (fun field => field.name == ascii "Host") = [] := by
      rw [List.filter_eq_nil_iff]
      intro field member
      simpa using request.others field (part member)
    rw [fields, List.filter_append, List.filter_cons_of_pos (by simp [request.host_name]),
      none_ _ (List.subset_append_left ..), none_ _ (List.subset_append_right ..)]
    rfl
  have connections (request : FieldRequest) :
      (request.fields.filter Field.isConnection).length ≤ 1 := by
    have once := request.once
    rw [List.filter_append] at once
    rwa [fields, List.filter_append, List.filter_cons_of_neg (by simp [request.host_isConnection])]
  constructor
  · have same := perm.filter fun field => field.name == ascii "Host"
    rw [hosts, hosts, List.singleton_perm_singleton] at same
    rw [same]
  · have same := perm.filter Field.isConnection
    have equal : request.fields.filter Field.isConnection =
        other.fields.filter Field.isConnection := by
      have one := connections request
      cases early : request.fields.filter Field.isConnection with
      | nil =>
          rw [early] at same
          exact (List.nil_perm.mp same).symm
      | cons field more =>
          rw [early, List.length_cons] at one
          obtain rfl : more = [] := List.eq_nil_of_length_eq_zero (by omega)
          rw [early] at same
          exact (List.singleton_perm.mp same)
    rw [connectionValue, connectionValue, ← List.head?_filter, ← List.head?_filter, equal]

end FieldRequest

end Http

/-- The parser takes host and connection from the fields of these names exactly when the fields
    stand as it wants them. It then has their values, and so it has the same for all such requests
    with these values, whatever else is in them. The values are the same in every order of the
    fields. -/
theorem http_fields_exact (request : Http.FieldRequest) :
    (request.FromFields ↔ request.WellPlaced) ∧
      (request.FromFields →
        (Http.getHeaders request.bytes).host.text request.bytes = request.host.value ∧
        (Http.getHeaders request.bytes).connection.text request.bytes =
          request.connectionValue) ∧
      (∀ other : Http.FieldRequest, request.WellPlaced → other.WellPlaced →
        request.host.value = other.host.value →
        request.connectionValue = other.connectionValue →
        (Http.getHeaders request.bytes).host.text request.bytes =
            (Http.getHeaders other.bytes).host.text other.bytes ∧
          (Http.getHeaders request.bytes).connection.text request.bytes =
            (Http.getHeaders other.bytes).connection.text other.bytes) ∧
      ∀ other : Http.FieldRequest, request.fields.Perm other.fields →
        request.host.value = other.host.value ∧
          request.connectionValue = other.connectionValue :=
  ⟨request.fromFields_iff, Http.FieldRequest.FromFields.texts,
    fun _ => Http.FieldRequest.WellPlaced.texts_eq,
    fun _ => request.values_of_perm⟩

namespace Http.Sample

def hostField : Field where
  name := ascii "Host"
  spaces := 1
  value := ascii "good"
  name_free := free_of_all (by decide)
  value_free := free_of_all (by decide)
  value_trimmed := by decide

/-- A field whose name ends with that of the host. -/
def forwardedField : Field where
  name := ascii "X-Forwarded-Host"
  spaces := 1
  value := ascii "evil"
  name_free := free_of_all (by decide)
  value_free := free_of_all (by decide)
  value_trimmed := by decide

def connectionField : Field where
  name := ascii "Connection"
  spaces := 1
  value := ascii "close"
  name_free := free_of_all (by decide)
  value_free := free_of_all (by decide)
  value_trimmed := by decide

/-- A request with both before the `Host` field. -/
def forwarded : FieldRequest where
  method := .kGet
  uri := ascii "/"
  version := ascii "HTTP/1.1"
  before := [connectionField, forwardedField]
  host := hostField
  after := []
  body := []
  known := kGet_known
  plain := kGet_plain
  uri_isToken := isToken_slash
  version_isToken := isToken_version
  host_name := rfl
  host_value := by decide
  others := by decide
  once := by decide

end Http.Sample

/-- The host is taken from the other field, and the connection is lost. -/
theorem http_other_field_taken :
    Http.Sample.forwarded.bytes =
        ascii ("GET / HTTP/1.1\r\nConnection: close\r\nX-Forwarded-Host: evil\r\n" ++
          "Host: good\r\n\r\n") ∧
      (Http.getHeaders Http.Sample.forwarded.bytes).getHost Http.Sample.forwarded.bytes =
        .ok (ascii "evil") ∧
      (Http.getHeaders Http.Sample.forwarded.bytes).connection.size = 0 ∧
      ¬ Http.Sample.forwarded.FromFields := by
  refine ⟨by decide, by decide, by decide, fun from_ => ?_⟩
  have early := (Http.Sample.forwarded.fromFields_iff.mp from_).first Http.Sample.forwardedField
    (List.mem_cons_of_mem _ List.mem_cons_self)
  exact absurd early (by decide)

end AmgiNetTools
