/-
Module: AmgiNetTools.Http.Headers
Layer: Http
Purpose: The loop over the header lines, said about the texts of the lines. The value of a line is
  what is behind the first place where the name is in it, but for one character. The host is that of
  the first line that gives one, and the connection is that of the last line behind it that names
  one.
Main exports: Http.behind, Http.gives, Http.getHttpHeaderValue_of_behind, Http.lastConnection,
  Http.foldl_scanHeader_missing, Http.foldl_scanHeader_given, Http.foldl_scanHeader_first,
  Http.host_of_giver, Http.toString_value, Http.getHeaders_eq, Http.getHeaders_plain
-/
import Mathlib.Data.List.Find
import AmgiNetTools.Http.Lines

namespace AmgiNetTools.Http

open Tokens

/-! ### The header lines -/

/-- What a line has behind the first place where a name is in it. -/
def behind (name line : Text) : Option Text :=
  (find line name).map fun pos => line.drop (pos + name.length)

/-- A line that gives the host: it names it, with anything but a single character behind. -/
def gives (line : Text) : Bool := (behind kHost line).any fun after => after.length != 1

/-- The last characters of a string. -/
def lastPart (line : StringView) (size : Nat) : StringView where
  data := line.data + (line.size - size)
  size := size

/-- The connection after a list of lines. -/
def lastConnection (buffer : Text) (lines : List StringView) : Option StringView :=
  (lines.filter fun line => (behind kConnection (line.text buffer)).isSome).getLast?.map
    (getHttpHeaderValue buffer kConnection)

section

variable {buffer name value after : Text} {line : StringView} {lines : List StringView}
  {req : RequestHeaders} {c : UInt8} {later : List StringView}

theorem isSome_behind : (behind name after).isSome = (find after name).isSome := by
  simp [behind]

/-- What stands behind a name at the start of a line. -/
theorem behind_start (name after : Text) : behind name (name ++ after) = some after := by
  have found : find (name ++ after) name = some 0 := by
    rw [find, List.range_succ_eq_map, List.find?_cons_of_pos (by simp)]
  rw [behind, found, Option.map_some, Nat.zero_add, List.drop_left]

theorem length_of_behind {text : Text} (found : behind name text = some after) :
    ∃ pos, find text name = some pos ∧ text.length = pos + name.length + after.length := by
  obtain ⟨pos, there, rfl⟩ := Option.map_eq_some_iff.mp found
  have fits := le_of_find there
  refine ⟨pos, there, ?_⟩
  rw [List.length_drop]
  omega

theorem suffix_of_behind {text : Text} (found : behind name text = some after) :
    after <:+ text := by
  obtain ⟨pos, -, rfl⟩ := Option.map_eq_some_iff.mp found
  exact List.drop_suffix ..

/-- The value is what comes behind the name and one more character. -/
theorem getHttpHeaderValue_of_behind (shows : (line.text buffer).length = line.size)
    (found : behind name (line.text buffer) = some (c :: value)) :
    getHttpHeaderValue buffer name line = lastPart line value.length := by
  obtain ⟨pos, there, long⟩ := length_of_behind found
  rw [shows, List.length_cons] at long
  unfold getHttpHeaderValue
  rw [there]
  dsimp only
  rw [size_value (by omega), lastPart]
  congr 1 <;> omega

theorem text_lastPart (shows : (line.text buffer).length = line.size)
    (found : behind name (line.text buffer) = some (c :: value)) :
    (lastPart line value.length).text buffer = value := by
  obtain ⟨front, reach⟩ := (List.suffix_cons c value).trans (suffix_of_behind found)
  have long := congrArg List.length reach
  rw [List.length_append, shows] at long
  rw [lastPart, text_part (by omega), ← reach, List.drop_append_of_le_length (by omega)]
  simp [show line.size - value.length = front.length by omega]

/-- A value starts in its line, or one character behind it. -/
theorem data_value (inside : Inside buffer line)
    (named : (behind name (line.text buffer)).isSome) :
    line.data < (getHttpHeaderValue buffer name line).data ∧
      (getHttpHeaderValue buffer name line).data ≤ line.data + line.size + 1 := by
  obtain ⟨after, found⟩ := Option.isSome_iff_exists.mp named
  obtain ⟨pos, there, long⟩ := length_of_behind found
  rw [inside.whole] at long
  rw [getHttpHeaderValue, there]
  dsimp only
  omega

/-- A value is empty when one character stands behind the name. -/
theorem size_value_eq_zero (inside : Inside buffer line)
    (named : (behind name (line.text buffer)).isSome) :
    (getHttpHeaderValue buffer name line).size = 0 ↔
      ∃ c, behind name (line.text buffer) = some [c] := by
  obtain ⟨after, found⟩ := Option.isSome_iff_exists.mp named
  cases after with
  | nil =>
      -- The size of the value wraps.
      obtain ⟨pos, there, long⟩ := length_of_behind found
      rw [inside.whole, List.length_nil] at long
      rw [getHttpHeaderValue, there]
      dsimp only
      rw [size_value_wraps (by omega), found]
      simp [UInt64.size]
  | cons c value =>
      rw [getHttpHeaderValue_of_behind inside.whole found, found]
      simp [lastPart]

theorem isSome_of_gives {text : Text} (giver : gives text = true) : (behind kHost text).isSome := by
  unfold gives at giver
  cases found : behind kHost text with
  | none => simp [found] at giver
  | some after => rfl

theorem givesHost_eq_gives (shows : (line.text buffer).length = line.size) :
    givesHost buffer line = gives (line.text buffer) := by
  unfold givesHost gives behind
  cases found : find (line.text buffer) kHost with
  | none => rfl
  | some pos =>
      have fits := le_of_find found
      rw [shows] at fits
      simp only [Option.map_some, Option.any_some, List.length_drop, shows]
      rw [Bool.eq_iff_iff, bne_iff_ne, bne_iff_ne]
      omega

/-- Without a line that gives the host, there is none at the end. -/
theorem foldl_scanHeader_missing (missing : req.host.empty = true)
    (none_ : ∀ line ∈ lines, givesHost buffer line = false) :
    ∃ host, host.empty = true ∧
      lines.foldl (scanHeader buffer) req = { req with host := host } := by
  induction lines generalizing req with
  | nil => exact ⟨req.host, missing, rfl⟩
  | cons line lines ih =>
      have still : (scanHeader buffer req line).host.empty = true := by
        rw [scanHeader_empty missing, none_ line List.mem_cons_self]
        rfl
      obtain ⟨host, empty, result⟩ := ih still fun other member =>
        none_ other (List.mem_cons_of_mem _ member)
      refine ⟨host, empty, ?_⟩
      rw [List.foldl_cons, result, scanHeader, if_pos missing]
      split <;> rfl

/-- The header lines change nothing that the request line gave, but for a host that is missing. -/
theorem foldl_scanHeader_keeps (req : RequestHeaders) :
    (later.foldl (scanHeader buffer) req).method = req.method ∧
      (later.foldl (scanHeader buffer) req).uri = req.uri ∧
      (later.foldl (scanHeader buffer) req).version = req.version := by
  induction later generalizing req with
  | nil => exact ⟨rfl, rfl, rfl⟩
  | cons line later ih =>
      have kept : (scanHeader buffer req line).method = req.method ∧
          (scanHeader buffer req line).uri = req.uri ∧
          (scanHeader buffer req line).version = req.version := by
        unfold scanHeader
        repeat' split
        all_goals exact ⟨rfl, rfl, rfl⟩
      obtain ⟨method, uri, version⟩ := ih (scanHeader buffer req line)
      exact ⟨method.trans kept.1, uri.trans kept.2.1, version.trans kept.2.2⟩

/-- Once there is a host, the last line that names the connection gives it. -/
theorem foldl_scanHeader_given (given : req.host.empty = false) :
    lines.foldl (scanHeader buffer) req =
      { req with connection := (lastConnection buffer lines).getD req.connection } := by
  induction lines generalizing req with
  | nil => rfl
  | cons line lines ih =>
      have host : (scanHeader buffer req line).host = req.host := scanHeader_of_host given
      rw [List.foldl_cons, ih (by rw [host, given]), scanHeader, if_neg (by simp [given]),
        lastConnection, lastConnection, List.filter_cons, isSome_behind]
      split
      · rw [List.getLast?_cons]
        cases (List.filter _ lines).getLast? <;> rfl
      · rfl

/-- The host is that of the first line that gives one. -/
theorem foldl_scanHeader_first {before : List StringView} (missing : req.host.empty = true)
    (none_ : ∀ line ∈ before, givesHost buffer line = false) (giver : givesHost buffer line) :
    (before ++ line :: lines).foldl (scanHeader buffer) req =
      { req with
          host := getHttpHeaderValue buffer kHost line
          connection := (lastConnection buffer lines).getD req.connection } := by
  obtain ⟨host, empty, early⟩ := foldl_scanHeader_missing missing none_
  have turn : scanHeader buffer { req with host := host } line =
      { req with host := getHttpHeaderValue buffer kHost line } := by
    have named : (find (line.text buffer) kHost).isSome := by
      unfold givesHost at giver
      cases found : find (line.text buffer) kHost with
      | none => simp [found] at giver
      | some pos => rfl
    rw [scanHeader, if_pos empty, if_pos named]
  have given : (getHttpHeaderValue buffer kHost line).empty = false := by
    simpa [givesHost_eq] using giver
  rw [List.foldl_append, List.foldl_cons, early, turn, foldl_scanHeader_given given]

/-- A missing host is found when a line gives one. -/
theorem foldl_scanHeader_empty {req : RequestHeaders} (missing : req.host.empty = true) :
    (later.foldl (scanHeader buffer) req).host.empty = !later.any (givesHost buffer) := by
  induction later generalizing req with
  | nil => exact missing
  | cons line later ih =>
      have turn := @scanHeader_empty buffer line req missing
      rw [List.foldl_cons, List.any_cons]
      cases giver : givesHost buffer line with
      | false =>
          rw [giver] at turn
          rw [ih turn, Bool.false_or]
      | true =>
          rw [giver] at turn
          rw [foldl_scanHeader_given turn]
          exact turn

/-- Which line gives the host can be seen from the texts of the lines. -/
theorem find_gives (inside : ∀ item ∈ later, Inside buffer item) :
    (later.map (StringView.text buffer)).find? gives =
      (later.find? (givesHost buffer)).map (StringView.text buffer) := by
  have same : later.find? (gives ∘ StringView.text buffer) = later.find? (givesHost buffer) :=
    List.find?_congr fun item member => (givesHost_eq_gives (inside item member).whole).symm
  rw [List.find?_map, same]

/-- The host is the value of the first line that gives one. -/
theorem foldl_scanHeader_find (missing : req.host.empty = true)
    (found : later.find? (givesHost buffer) = some line) :
    (later.foldl (scanHeader buffer) req).host = getHttpHeaderValue buffer kHost line ∧
      (later.foldl (scanHeader buffer) req).host.empty = false := by
  obtain ⟨giver, before, after, rfl, none_⟩ := List.find?_eq_some_iff_append.mp found
  rw [foldl_scanHeader_first missing (by simpa using none_) giver]
  exact ⟨rfl, by simpa [givesHost_eq] using giver⟩

/-- The value of a line that gives the host, as a string. -/
theorem toString_value {text : Text} (inside : Inside buffer line)
    (giver : gives (line.text buffer) = true) (small : buffer.length ≤ StringView.maxStringSize) :
    (getHttpHeaderValue buffer kHost line).toString buffer = .ok text ↔
      ∃ c, behind kHost (line.text buffer) = some (c :: text) := by
  unfold gives at giver
  cases found : behind kHost (line.text buffer) with
  | none => simp [found] at giver
  | some after =>
      cases after with
      | nil =>
          -- The size of the value wraps.
          obtain ⟨pos, there, long⟩ := length_of_behind found
          rw [inside.whole, List.length_nil] at long
          rw [getHttpHeaderValue, there]
          dsimp only
          have large : StringView.maxStringSize < UInt64.size - 1 := by
            simp [UInt64.size, StringView.maxStringSize]
          rw [size_value_wraps (by omega), StringView.toString, if_pos large]
          simp
      | cons c value =>
          have shows := text_lastPart inside.whole found
          have bound := (suffix_of_behind found).length_le
          rw [List.length_cons, inside.whole] at bound
          have part_ : Inside buffer (lastPart line value.length) := inside.ofPart
            ⟨Nat.le_add_right .., by simp only [lastPart]; omega⟩
          rw [getHttpHeaderValue_of_behind inside.whole found, part_.toString_eq small, shows]
          simp [eq_comm]

end

/-! ### The result -/

/-- The items behind the first line show the lines behind it. -/
theorem map_text_later (line rest : Text) :
    (lineViews (line ++ crlf ++ rest) (line.length + 2) rest).map
      (StringView.text (line ++ crlf ++ rest)) = lines rest := by
  have texts := map_text_lineViews (line ++ crlf) rest []
  rwa [List.append_nil, List.length_append] at texts

/-- What the request line of a method other than CONNECT gives. -/
def plainFields (method : RequestMethod) (uri version : Text) : RequestHeaders where
  method := method
  uri := { data := method.name.length + 1, size := uri.length }
  version := { data := method.name.length + uri.length + 2, size := version.length }

/-- The result for a buffer of at least two lines. -/
theorem getHeaders_eq {buffer : Text} {line : StringView} {later : List StringView}
    {req : RequestHeaders} (items : split buffer (whole buffer) crlf = line :: later)
    (more : later ≠ []) (given : getRequestFields buffer line {} = some req) :
    getHeaders buffer = if (later.foldl (scanHeader buffer) req).host.empty then {}
      else later.foldl (scanHeader buffer) req := by
  obtain ⟨header, later, rfl⟩ := List.exists_cons_of_ne_nil more
  unfold getHeaders
  rw [show split buffer { data := 0, size := buffer.length } (ascii "\r\n") = _ from items]
  simp only [given, getRemainingRequiredFields, List.drop_one, List.tail_cons]
  cases ((header :: later).foldl (scanHeader buffer) req).host.empty <;> rfl

section

variable {method : RequestMethod} {uri version rest : Text}

theorem isToken_name (known : method ≠ .kNone) : IsToken method.name := by
  cases method with
  | kNone => exact absurd rfl known
  | _ => exact ⟨by decide, free_of_all (by decide)⟩

theorem requestFields_plain {uri version : StringView} (known : method ≠ .kNone)
    (plain : method ≠ .kConnect) :
    requestFields method uri version = { method := method, uri := uri, version := version } := by
  cases method with
  | kNone => exact absurd rfl known
  | kConnect => exact absurd rfl plain
  | _ => rfl

/-- A request line of a method other than CONNECT, and the lines behind it. -/
theorem getHeaders_plain (known : method ≠ .kNone) (plain : method ≠ .kConnect)
    (uri_ : IsToken uri) (version_ : IsToken version) {buffer : Text} {later : List StringView}
    (shape : buffer = requestLine method.name uri version ++ crlf ++ rest)
    (items : later = lineViews buffer ((requestLine method.name uri version).length + 2) rest)
    (more : later ≠ []) :
    getHeaders buffer =
      let req := later.foldl (scanHeader buffer) (plainFields method uri version)
      if req.host.empty then {} else req := by
  have method_ := isToken_name known
  have split_ := split_line (isLine_requestLine method_ uri_ version_) rest
  have given := getRequestFields_requestLine method_ uri_ version_ (crlf ++ rest)
  rw [← List.append_assoc, methodNamed_name, requestFields_plain known plain] at given
  subst shape items
  exact getHeaders_eq split_ more given

/-- Without a line that gives the host, such a request is none. -/
theorem getHeaders_absent (known : method ≠ .kNone) (plain : method ≠ .kConnect)
    (uri_ : IsToken uri) (version_ : IsToken version) {buffer : Text} {later : List StringView}
    (shape : buffer = requestLine method.name uri version ++ crlf ++ rest)
    (items : later = lineViews buffer ((requestLine method.name uri version).length + 2) rest)
    (more : later ≠ []) (absent : later.find? (givesHost buffer) = none) :
    getHeaders buffer = {} := by
  have missing : (plainFields method uri version).host.empty = true := rfl
  have silent : later.any (givesHost buffer) = false := by
    simpa using List.find?_eq_none.mp absent
  have result := getHeaders_plain known plain uri_ version_ shape items more
  simp only [foldl_scanHeader_empty missing, silent, Bool.not_false, if_true] at result
  exact result

/-- With one, it is what the loop makes of the lines. -/
theorem getHeaders_found (known : method ≠ .kNone) (plain : method ≠ .kConnect)
    (uri_ : IsToken uri) (version_ : IsToken version) {buffer : Text} {later : List StringView}
    {view : StringView} (shape : buffer = requestLine method.name uri version ++ crlf ++ rest)
    (items : later = lineViews buffer ((requestLine method.name uri version).length + 2) rest)
    (found : later.find? (givesHost buffer) = some view) :
    getHeaders buffer = later.foldl (scanHeader buffer) (plainFields method uri version) := by
  have missing : (plainFields method uri version).host.empty = true := rfl
  obtain ⟨-, given⟩ := foldl_scanHeader_find missing found
  have more := List.ne_nil_of_mem (List.mem_of_find?_eq_some found)
  have result := getHeaders_plain known plain uri_ version_ shape items more
  simpa only [given, Bool.false_eq_true, if_false] using result

/-- The host of such a request, where a line gives one. -/
theorem getHeaders_giver (known : method ≠ .kNone) (plain : method ≠ .kConnect)
    (uri_ : IsToken uri) (version_ : IsToken version) {buffer giver : Text}
    (shape : buffer = requestLine method.name uri version ++ crlf ++ rest)
    (found : (lines rest).find? gives = some giver) :
    ∃ view, (Inside buffer view ∧ view.text buffer = giver) ∧
      (getHeaders buffer).method = method ∧
      (getHeaders buffer).uri = ⟨method.name.length + 1, uri.length⟩ ∧
      (getHeaders buffer).host = getHttpHeaderValue buffer kHost view := by
  have line_ := isLine_requestLine (isToken_name known) uri_ version_
  have texts := map_text_later (requestLine method.name uri version) rest
  rw [← shape] at texts
  have inside : ∀ item ∈ lineViews buffer ((requestLine method.name uri version).length + 2) rest,
      Inside buffer item := by
    subst shape
    intro item member
    exact inside_line (split_line line_ rest) item (List.mem_cons_of_mem _ member)
  rw [← texts, find_gives inside] at found
  obtain ⟨view, viewFound, rfl⟩ := Option.map_eq_some_iff.mp found
  have missing : (plainFields method uri version).host.empty = true := rfl
  obtain ⟨host, -⟩ := foldl_scanHeader_find missing viewFound
  obtain ⟨sameMethod, sameUri, -⟩ := foldl_scanHeader_keeps (plainFields method uri version)
  have among := List.mem_of_find?_eq_some viewFound
  rw [getHeaders_found known plain uri_ version_ shape rfl viewFound]
  exact ⟨view, ⟨inside view among, rfl⟩, sameMethod, sameUri, host⟩

end

end AmgiNetTools.Http
