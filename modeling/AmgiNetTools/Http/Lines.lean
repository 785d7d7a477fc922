/-
Module: AmgiNetTools.Http.Lines
Layer: Http
Purpose: The lines of a buffer and the parts of its first line, as texts and as the items that
  `get_headers` splits off: which method a name stands for, what the three parts of a request line
  give, and what the items are for a buffer that was put together of lines.
Main exports: Http.IsToken, Http.IsLine, Http.lines, Http.fields, Http.RequestMethod.name,
  Http.requestFields, Http.getRequestFields_of_split, Http.requestLine, Http.split_line,
  Http.getRequestFields_requestLine, Http.wire, Http.lines_wire
-/
import AmgiNetTools.Http.Split

namespace AmgiNetTools.Http

open Tokens

/-- A part of a request line: something, without blanks and line ends. -/
def IsToken (text : Text) : Prop := text ≠ [] ∧ ∀ c ∈ text, c ∉ ascii " \r\n"

/-- A header line: something, without line ends. -/
def IsLine (text : Text) : Prop := text ≠ [] ∧ ∀ c ∈ text, c ∉ ascii "\r\n"

def crlf : Text := ascii "\r\n"

/-- Whether a text has one of the characters of a set in it can be seen by running along it. -/
theorem free_of_all {text set : Text} (free : text.all fun c => !set.contains c) :
    ∀ c ∈ text, c ∉ set := by
  simpa using free

/-- The buffer as the string that is parsed. -/
def whole (buffer : Text) : StringView := { data := 0, size := buffer.length }

@[simp] theorem text_whole (buffer : Text) : (whole buffer).text buffer = buffer := by
  simp [whole, StringView.text]

theorem inside_whole (buffer : Text) : Inside buffer (whole buffer) :=
  .inr (Nat.le_of_eq (Nat.zero_add _))

/-- What stands between two texts. -/
theorem text_between (before word after : Text) :
    StringView.text (before ++ word ++ after) ⟨before.length, word.length⟩ = word := by
  simp [StringView.text]

/-- A string that was made of a view shows its text. -/
theorem eq_text_of_toString {buffer text : Text} {view : StringView}
    (made : view.toString buffer = .ok text) : text = view.text buffer := by
  unfold StringView.toString at made
  split at made
  · cases made
  · exact (Except.ok.inj made).symm

/-- A view that lies in a buffer that memory can hold can be made a string. -/
theorem Inside.toString_eq {buffer : Text} {view : StringView} (inside : Inside buffer view)
    (small : buffer.length ≤ StringView.maxStringSize) :
    view.toString buffer = .ok (view.text buffer) := by
  obtain ⟨text, made⟩ := inside.toString small
  rw [made, eq_text_of_toString made]

/-- The lines of a text; none is empty. -/
def lines (text : Text) : List Text := words (isDelimeter crlf) text

/-- The items for the lines of a text that stands at `pos` in the buffer. -/
def lineViews (buffer : Text) (pos : Nat) (text : Text) : List StringView :=
  (spans (isDelimeter crlf) pos text).map (part (whole buffer))

/-- The parts of a line. -/
def fields (line : Text) : List Text := words (isDelimeter (ascii " ")) line

/-! ### The request line -/

/-- The name of a method in a request line. -/
def RequestMethod.name : RequestMethod → Text
  | .kNone => []
  | .kGet => ascii "GET"
  | .kPost => ascii "POST"
  | .kDelete => ascii "DELETE"
  | .kUpdate => ascii "UPDATE"
  | .kHead => ascii "HEAD"
  | .kConnect => ascii "CONNECT"

/-- The name of one of the six methods. -/
def IsMethod (name : Text) : Prop := ∃ method : RequestMethod, method ≠ .kNone ∧ name = method.name

/-- The method of a name; `kNone` when it is not one of the six. -/
def methodNamed (name : Text) : RequestMethod :=
  if name = ascii "GET" then .kGet
  else if name = ascii "POST" then .kPost
  else if name = ascii "DELETE" then .kDelete
  else if name = ascii "UPDATE" then .kUpdate
  else if name = ascii "HEAD" then .kHead
  else if name = ascii "CONNECT" then .kConnect
  else .kNone

/-- What the three parts of a request line give. -/
def requestFields (method : RequestMethod) (uri version : StringView) : RequestHeaders :=
  match method with
  | .kNone => {}
  | .kConnect => { method := .kConnect, host := uri, uri := uri, version := version }
  | method => { method := method, uri := uri, version := version }

/-- The method of a name has that name. -/
theorem name_methodNamed {name : Text} (known : methodNamed name ≠ .kNone) :
    name = (methodNamed name).name := by
  unfold methodNamed at known ⊢
  split_ifs at known ⊢ <;> first | assumption | exact absurd rfl known

theorem methodNamed_name (method : RequestMethod) : methodNamed method.name = method := by
  cases method <;> decide

theorem isMethod_iff {name : Text} : IsMethod name ↔ methodNamed name ≠ .kNone := by
  constructor
  · rintro ⟨method, some_, rfl⟩
    rwa [methodNamed_name]
  · intro known
    exact ⟨_, known, name_methodNamed known⟩

section

variable {buffer : Text} {str line method uri version : StringView}

/-- An item of a string is not empty. -/
theorem size_ne_zero_of_split {delimeter : Text} {item : StringView}
    (inside : Inside buffer str) (member : item ∈ split buffer str delimeter) : item.size ≠ 0 := by
  rw [split_eq_spans inside.whole, List.mem_map] at member
  obtain ⟨span, member, rfl⟩ := member
  obtain ⟨before, word, after, run, rfl⟩ := mem_spans.mp member
  simpa [part] using run.nonempty

theorem getRequestFields_of_split (inside : Inside buffer line)
    (items : split buffer line (ascii " ") = [method, uri, version]) :
    getRequestFields buffer line {} =
      some (requestFields (methodNamed (method.text buffer)) uri version) := by
  have nonempty (item : StringView) (member : item ∈ [method, uri, version]) :
      item.empty = false := by
    simpa [StringView.empty] using size_ne_zero_of_split inside (items ▸ member)
  have method_ := nonempty method (by simp)
  have uri_ := nonempty uri (by simp)
  have version_ := nonempty version (by simp)
  rw [getRequestFields, items]
  simp only [method_, uri_, version_, Bool.or_self, Bool.false_eq_true, if_false, methodNamed]
  repeat' split
  all_goals rfl

end

/-- A request line. -/
def requestLine (method uri version : Text) : Text :=
  method ++ ascii " " ++ uri ++ ascii " " ++ version

section

variable {method uri version rest : Text}

/-- A token is in one line. -/
theorem IsToken.isLine {token : Text} (isToken : IsToken token) : IsLine token :=
  ⟨isToken.1, fun c member lineEnd => isToken.2 c member (List.mem_cons_of_mem _ lineEnd)⟩

theorem IsToken.free {token : Text} (isToken : IsToken token) :
    ∀ c ∈ token, isDelimeter (ascii " ") c = false := by
  intro c member
  have blank := isToken.2 c member
  simp only [ascii, isDelimeter_eq_false] at blank ⊢
  simp_all

theorem IsLine.free {line : Text} (isLine : IsLine line) :
    ∀ c ∈ line, isDelimeter crlf c = false :=
  fun c member => isDelimeter_eq_false.mpr (isLine.2 c member)

theorem isLine_requestLine (method_ : IsToken method) (uri_ : IsToken uri)
    (version_ : IsToken version) : IsLine (requestLine method uri version) := by
  constructor
  · simp [requestLine, method_.1]
  · intro c member
    simp only [requestLine, List.mem_append] at member
    rcases member with (((inMethod | blank) | inUri) | blank) | inVersion
    · exact method_.isLine.2 c inMethod
    · exact free_of_all (by decide) c blank
    · exact uri_.isLine.2 c inUri
    · exact free_of_all (by decide) c blank
    · exact version_.isLine.2 c inVersion

/-- The first line of a buffer is the first item. -/
theorem split_line {line : Text} (isLine : IsLine line) (rest : Text) :
    split (line ++ crlf ++ rest) (whole (line ++ crlf ++ rest)) crlf =
      ⟨0, line.length⟩ :: lineViews (line ++ crlf ++ rest) (line.length + 2) rest := by
  have shape : line ++ crlf ++ rest = line ++ 13 :: (10 :: rest) := by simp [crlf, ascii]
  have return_ : isDelimeter crlf 13 := by decide
  have feed : isDelimeter crlf 10 := by decide
  rw [split_eq_spans (inside_whole _).whole, text_whole]
  conv_lhs => rw [shape]
  rw [spans_append return_, spans_sep feed, spans_single isLine.free isLine.1, Nat.zero_add]
  rfl

variable (method_ : IsToken method) (uri_ : IsToken uri) (version_ : IsToken version)
include method_ uri_ version_

/-- The parts of the request line are the items of the first line. -/
theorem split_requestLine (rest : Text) :
    split (requestLine method uri version ++ rest) ⟨0, (requestLine method uri version).length⟩
        (ascii " ") =
      [⟨0, method.length⟩, ⟨method.length + 1, uri.length⟩,
        ⟨method.length + uri.length + 2, version.length⟩] := by
  have text := text_between [] (requestLine method uri version) rest
  have shape : requestLine method uri version = method ++ 32 :: (uri ++ 32 :: version) := by
    simp [requestLine, ascii]
  have blank : isDelimeter (ascii " ") 32 := by decide
  rw [List.nil_append, List.length_nil] at text
  rw [split_eq_spans (by rw [text]), text, shape, spans_append blank, spans_append blank,
    spans_single method_.free method_.1, spans_single uri_.free uri_.1,
    spans_single version_.free version_.1]
  simp only [part, List.map_cons, List.map_nil, List.singleton_append, Nat.zero_add]
  congr 4
  omega

theorem getRequestFields_requestLine (rest : Text) :
    getRequestFields (requestLine method uri version ++ rest)
        ⟨0, (requestLine method uri version).length⟩ {} =
      some (requestFields (methodNamed method) ⟨method.length + 1, uri.length⟩
        ⟨method.length + uri.length + 2, version.length⟩) := by
  have inside : Inside (requestLine method uri version ++ rest)
      ⟨0, (requestLine method uri version).length⟩ := .inr (by simp)
  have name : StringView.text (requestLine method uri version ++ rest) ⟨0, method.length⟩ =
      method := by
    have between := text_between [] method
      (ascii " " ++ uri ++ ascii " " ++ version ++ rest)
    simpa [requestLine] using between
  rw [getRequestFields_of_split inside (split_requestLine method_ uri_ version_ rest), name]

end

/-! ### The lines -/

/-- Lines as they are sent. -/
def wire (lines : List Text) : Text := lines.flatMap fun line => line ++ crlf

section

variable {buffer : Text} {line : StringView} {later : List StringView}

/-- The texts of the lines. -/
theorem lines_eq (items : split buffer (whole buffer) crlf = line :: later) :
    lines buffer = line.text buffer :: later.map (StringView.text buffer) := by
  have texts := @map_text_split buffer crlf (whole buffer) (inside_whole buffer).whole
  rw [items, text_whole] at texts
  exact texts.symm

theorem inside_line (items : split buffer (whole buffer) crlf = line :: later) :
    ∀ item ∈ line :: later, Inside buffer item := by
  intro item member
  exact (inside_whole buffer).ofPart (isPart_split item (items ▸ member))

theorem lines_wire {sent : List Text} (isLine : ∀ line ∈ sent, IsLine line) (rest : Text) :
    lines (wire sent ++ rest) = sent ++ lines rest :=
  words_lines (fun line member => (isLine line member).free) (fun line member =>
    (isLine line member).1) (by simp) (by decide) rest

theorem lines_line {line : Text} (isLine : IsLine line) (rest : Text) :
    lines (line ++ crlf ++ rest) = line :: lines rest :=
  words_cons isLine.free isLine.1 (by simp) (.inl (by decide))

/-- An empty line is none. -/
theorem lines_crlf (rest : Text) : lines (crlf ++ rest) = lines rest := words_lead (by simp) rest

theorem lineViews_ne_nil {text : Text} (buffer : Text) (pos : Nat) (more : ∃ c ∈ text, c ∉ crlf) :
    lineViews buffer pos text ≠ [] := by
  have nonempty : spans (isDelimeter crlf) pos text ≠ [] := spans_ne_nil (by simpa using more)
  simpa [lineViews] using nonempty

theorem bounds_of_mem_lineViews {pos : Nat} {text : Text} {item : StringView}
    (member : item ∈ lineViews buffer pos text) :
    pos ≤ item.data ∧ item.data + item.size ≤ pos + text.length := by
  obtain ⟨span, among, rfl⟩ := List.mem_map.mp member
  have bounds := bounds_of_mem_spans among
  simp only [part, whole]
  omega

/-- The items show the lines. -/
theorem map_text_lineViews (before text after : Text) :
    (lineViews (before ++ text ++ after) before.length text).map
      (StringView.text (before ++ text ++ after)) = lines text := by
  rw [lines, ← map_of_spans before text after, lineViews, List.map_map]
  apply List.map_congr_left
  intro span member
  simp [StringView.text, part, whole, Span.of]

/-- The items of lines that are sent, and of the line behind them. -/
theorem lineViews_line {pos : Nat} {line : Text} (sent : List Text) (isLine : IsLine line)
    (rest : Text) :
    lineViews buffer pos (wire sent ++ (line ++ crlf ++ rest)) =
      lineViews buffer pos (wire sent) ++ ⟨pos + (wire sent).length, line.length⟩ ::
        lineViews buffer (pos + (wire sent).length + line.length + 2) rest := by
  have return_ : isDelimeter crlf 13 := by decide
  have feed : isDelimeter crlf 10 := by decide
  have ends : ∀ c, (wire sent).getLast? = some c → isDelimeter crlf c := by
    intro c last
    rcases List.eq_nil_or_concat' sent with rfl | ⟨early, line, rfl⟩
    · cases last
    · have shape : wire (early ++ [line]) = wire early ++ line ++ [13] ++ [10] := by
        simp [wire, crlf, ascii]
      rw [shape, List.getLast?_append] at last
      cases last
      exact feed
  have shape : line ++ crlf ++ rest = line ++ 13 :: 10 :: rest := by simp [crlf, ascii]
  rw [lineViews, spans_behind ends, shape, spans_append return_, spans_sep feed,
    spans_single isLine.free isLine.1]
  simp [lineViews, part, whole]

/-- These items show the lines that are sent, the line behind them, and the lines of the rest. -/
theorem texts_lineViews_line {sent : List Text} {line front rest : Text} {pos : Nat}
    (isLine : ∀ line ∈ sent, IsLine line) (start : pos = front.length)
    (shape : buffer = front ++ (wire sent ++ (line ++ crlf ++ rest))) :
    (lineViews buffer pos (wire sent)).map (StringView.text buffer) = sent ∧
      StringView.text buffer ⟨pos + (wire sent).length, line.length⟩ = line ∧
      (lineViews buffer (pos + (wire sent).length + line.length + 2) rest).map
        (StringView.text buffer) = lines rest := by
  have sentLines := lines_wire isLine []
  rw [List.append_nil, show lines [] = [] from rfl, List.append_nil] at sentLines
  subst shape start
  refine ⟨?_, ?_, ?_⟩
  · have texts := map_text_lineViews front (wire sent) (line ++ crlf ++ rest)
    rwa [sentLines, List.append_assoc front] at texts
  · have between := text_between (front ++ wire sent) line (crlf ++ rest)
    rw [List.length_append] at between
    simpa using between
  · have texts := map_text_lineViews (front ++ wire sent ++ line ++ crlf) rest []
    have start : (front ++ wire sent ++ line ++ crlf).length =
        front.length + (wire sent).length + line.length + 2 := by
      simp [crlf, ascii]
      omega
    rw [start] at texts
    simpa using texts

end

/-! ### The tokens of the samples -/

namespace Sample

theorem isToken_h : IsToken (ascii "h") := ⟨by decide, free_of_all (by decide)⟩

theorem isToken_slash : IsToken (ascii "/") := ⟨by decide, free_of_all (by decide)⟩

theorem isToken_version : IsToken (ascii "HTTP/1.1") := ⟨by decide, free_of_all (by decide)⟩

theorem kGet_known : RequestMethod.kGet ≠ .kNone := by decide

theorem kGet_plain : RequestMethod.kGet ≠ .kConnect := by decide

end Sample

end AmgiNetTools.Http
