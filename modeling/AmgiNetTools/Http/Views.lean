/-
Module: AmgiNetTools.Http.Views
Layer: Http
Purpose: Where the views in the result of `get_headers` lie. They are sub-ranges of the buffer,
  unless a header line whose value is taken ends with the name of the header: then the size of the
  value wraps below zero. What the request line gives is never outside.
Main exports: Http.Inside, Http.headerValueCalls, Http.ViewsInside, Http.bareHeader,
  http_views_inside
-/
import AmgiNetTools.Http.Reactions

namespace AmgiNetTools

namespace Http

/-- A view that is empty or a sub-range of the buffer. -/
def Inside (buffer : Text) (view : StringView) : Prop :=
  view.size = 0 ∨ view.data + view.size ≤ buffer.length

/-- The calls of `get_http_header_value` in the turns of `get_remaining_required_fields`. -/
def valueCalls (buffer : Text) : RequestHeaders → List StringView → List (Text × StringView)
  | _, [] => []
  | req, header :: httpHeaders =>
      let later := valueCalls buffer (scanHeader buffer req header) httpHeaders
      let name := if req.host.empty then kHost else kConnection
      if (find (header.text buffer) name).isSome then (name, header) :: later else later

/-- The calls of `get_http_header_value` in `get_headers`. -/
def headerValueCalls (buffer : Text) : List (Text × StringView) :=
  match split buffer { data := 0, size := buffer.length } (ascii "\r\n") with
  | first :: second :: rest =>
      match getRequestFields buffer first {} with
      | none => []
      | some req => valueCalls buffer req (second :: rest)
  | _ => []

/-- The views of the result lie in the buffer, no size was computed below zero, and the host and the
    service are made of views that lie in the buffer. -/
structure ViewsInside (buffer : Text) : Prop where
  uri : Inside buffer (getHeaders buffer).uri
  version : Inside buffer (getHeaders buffer).version
  host : Inside buffer (getHeaders buffer).host
  connection : Inside buffer (getHeaders buffer).connection
  sizes : ∀ call ∈ headerValueCalls buffer, ∀ pos, find (call.2.text buffer) call.1 = some pos →
    call.1.length + pos + 1 ≤ call.2.size
  parts : ∀ view ∈ split buffer (getHeaders buffer).uri (ascii ":") ++
    split buffer (getHeaders buffer).host (ascii ":"), Inside buffer view
  getHost : ∃ host, (getHeaders buffer).getHost buffer = .ok host
  getService : ∃ service, (getHeaders buffer).getService buffer = .ok service

/-! ### Headers without a value -/

/-- A line that ends where the name it contains ends. -/
def endsWithName (buffer name : Text) (line : StringView) : Bool :=
  match find (line.text buffer) name with
  | some pos => name.length + pos == line.size
  | none => false

/-- A line that gives the host: anything but a single byte follows `Host:`. -/
def givesHost (buffer : Text) (line : StringView) : Bool :=
  match find (line.text buffer) kHost with
  | some pos => kHost.length + pos + 1 != line.size
  | none => false

/-- Among the lines after the request line, the first that gives a host ends with `Host:`, or one of
    those after it ends with `Connection:`. A CONNECT request has its host from the request line. -/
def bareLine (buffer : Text) (req : RequestHeaders) (lines : List StringView) : Bool :=
  if req.host.empty then
    match lines.dropWhile fun line => !givesHost buffer line with
    | line :: later =>
        endsWithName buffer kHost line || later.any (endsWithName buffer kConnection)
    | [] => false
  else
    lines.any (endsWithName buffer kConnection)

/-- A request with such a line. -/
def bareHeader (buffer : Text) : Bool :=
  match split buffer { data := 0, size := buffer.length } (ascii "\r\n") with
  | first :: second :: rest =>
      match getRequestFields buffer first {} with
      | none => false
      | some req => bareLine buffer req (second :: rest)
  | _ => false

/-! ### Views of views -/

/-- A view into another. -/
def IsPart (view part : StringView) : Prop :=
  view.data ≤ part.data ∧ part.data + part.size ≤ view.data + view.size

theorem length_text_le (buffer : Text) (view : StringView) :
    (view.text buffer).length ≤ view.size := by
  rw [StringView.text, List.length_take]
  exact Nat.min_le_left ..

theorem lt_of_findFirstOf {str chars : Text} {pos next : Nat}
    (found : findFirstOf str chars pos = some next) : pos ≤ next ∧ next < str.length := by
  unfold findFirstOf at found
  obtain ⟨i, first, rfl⟩ := Option.map_eq_some_iff.mp found
  obtain ⟨inside, -⟩ := List.findIdx?_eq_some_iff_getElem.mp first
  rw [List.length_drop] at inside
  omega

theorem isPart_splitLoop {buffer : Text} {str : StringView} {delimeter : Text} {turns curPos : Nat}
    {items : List StringView} (earlier : ∀ item ∈ items, IsPart str item) :
    ∀ item ∈ splitLoop buffer str delimeter turns curPos items, IsPart str item := by
  induction turns generalizing curPos items with
  | zero => exact earlier
  | succ turns ih =>
      rw [splitLoop]
      have bound := length_text_le buffer str
      split
      · next nextPos found =>
          obtain ⟨after, before⟩ := lt_of_findFirstOf found
          apply ih
          intro item member
          split at member
          · rcases List.mem_append.mp member with old | new
            · exact earlier item old
            · cases List.mem_singleton.mp new
              constructor
              · exact Nat.le_add_right ..
              · dsimp only
                omega
          · exact earlier item member
      · split
        · intro item member
          rcases List.mem_append.mp member with old | new
          · exact earlier item old
          · cases List.mem_singleton.mp new
            constructor
            · exact Nat.le_add_right ..
            · dsimp only
              omega
        · exact earlier

/-- The items of a string lie in it. -/
theorem isPart_split {buffer : Text} {str : StringView} {delimeter : Text} :
    ∀ item ∈ split buffer str delimeter, IsPart str item :=
  isPart_splitLoop (by simp)

variable {buffer name : Text} {view item line : StringView}

theorem Inside.ofPart (inside : Inside buffer view) (isPart : IsPart view item) :
    Inside buffer item := by
  obtain ⟨after, before⟩ := isPart
  rcases inside with empty | inside
  · left
    omega
  · right
    omega

theorem inside_none (buffer : Text) : Inside buffer .none := .inl rfl

/-- A view that lies in the buffer can be made a string. -/
theorem Inside.toString (inside : Inside buffer view)
    (small : buffer.length ≤ StringView.maxStringSize) :
    ∃ text, view.toString buffer = .ok text := by
  have short : ¬ view.size > StringView.maxStringSize := by
    rcases inside with empty | inside
    · rw [empty]
      exact Nat.not_lt_zero _
    · omega
  exact ⟨_, if_neg short⟩

/-! ### Values of headers -/

/-- What `find` finds is there. -/
theorem le_of_find {str : Text} {pos : Nat} (found : find str name = some pos) :
    name.length + pos ≤ str.length := by
  have there := List.find?_some found
  have inside := List.mem_range.mp (List.mem_of_find?_eq_some found)
  have short := (List.isPrefixOf_iff_prefix.mp there).length_le
  rw [List.length_drop] at short
  omega

theorem le_size_of_find {pos : Nat} (found : find (line.text buffer) name = some pos) :
    name.length + pos ≤ line.size :=
  (le_of_find found).trans (length_text_le buffer line)

theorem sizeSub_of_le {a b : Nat} (fits : b ≤ a) : sizeSub a b = a - b := if_pos fits

/-- The size of a value, where it does not wrap. -/
theorem size_value {size pos : Nat} (fits : name.length + pos + 1 ≤ size) :
    sizeSub (sizeSub (sizeSub size name.length) pos) 1 = size - (name.length + pos + 1) := by
  have first : sizeSub size name.length = size - name.length := sizeSub_of_le (by omega)
  have second : sizeSub (size - name.length) pos = size - name.length - pos :=
    sizeSub_of_le (by omega)
  rw [first, second, sizeSub_of_le (by omega)]
  omega

/-- The size of the value of a line that ends with the name. -/
theorem size_value_wraps {size pos : Nat} (ends : name.length + pos = size) :
    sizeSub (sizeSub (sizeSub size name.length) pos) 1 = UInt64.size - 1 := by
  have first : sizeSub size name.length = pos := by
    rw [sizeSub_of_le (by omega)]
    omega
  rw [first, sizeSub_of_le le_rfl, Nat.sub_self]
  rfl

/-- A value lies in its line, unless the line ends with the name. -/
theorem inside_value (inside : Inside buffer line)
    (whole : ∀ pos, find (line.text buffer) name = some pos → name.length + pos + 1 ≤ line.size) :
    Inside buffer (getHttpHeaderValue buffer name line) := by
  unfold getHttpHeaderValue
  split
  · next pos found =>
      have fits := whole pos found
      rw [Inside, size_value fits]
      rcases inside with empty | inside
      · omega
      · right
        dsimp only
        omega
  · exact inside_none buffer

theorem endsWithName_eq_false : endsWithName buffer name line = false ↔
    ∀ pos, find (line.text buffer) name = some pos → name.length + pos + 1 ≤ line.size := by
  unfold endsWithName
  cases found : find (line.text buffer) name with
  | none => simp
  | some pos =>
      have fits := le_size_of_find found
      simp only [beq_eq_false_iff_ne, Option.some.injEq, forall_eq']
      omega

/-- A line gives the host when the value it has for it is not empty. -/
theorem givesHost_eq (line : StringView) :
    givesHost buffer line = !(getHttpHeaderValue buffer kHost line).empty := by
  unfold givesHost getHttpHeaderValue StringView.empty
  cases found : find (line.text buffer) kHost with
  | none => rfl
  | some pos =>
      have fits := le_size_of_find found
      dsimp only
      rw [Bool.eq_iff_iff]
      by_cases ends : kHost.length + pos = line.size
      · rw [size_value_wraps ends, ← ends]
        simp [UInt64.size]
      · rw [size_value (by omega)]
        simp
        omega

/-- A line that ends with `Host:` gives the host a size that has wrapped. -/
theorem givesHost_of_endsWithName (ends : endsWithName buffer kHost line = true) :
    givesHost buffer line = true := by
  unfold endsWithName at ends
  unfold givesHost
  cases found : find (line.text buffer) kHost with
  | none => simp [found] at ends
  | some pos =>
      rw [found] at ends
      simp only [beq_iff_eq] at ends
      simp [← ends]

/-! ### The loop over the headers -/

variable {req : RequestHeaders} {lines : List StringView}

/-- Once there is a host, it stays. -/
theorem scanHeader_of_host (given : req.host.empty = false) :
    (scanHeader buffer req line).host = req.host := by
  unfold scanHeader
  rw [if_neg (by simp [given])]
  split <;> rfl

/-- A turn looks for a host as long as there is none. -/
theorem scanHeader_empty (missing : req.host.empty = true) :
    (scanHeader buffer req line).host.empty = !givesHost buffer line := by
  unfold scanHeader
  rw [if_pos missing, givesHost_eq, Bool.not_not]
  cases found : find (line.text buffer) kHost with
  | none =>
      have nothing : (getHttpHeaderValue buffer kHost line).empty = true := by
        rw [getHttpHeaderValue, found]
        rfl
      simp [nothing, missing]
  | some pos => simp

/-- No line whose value is taken ends with the name of the header. -/
def Whole (buffer : Text) (calls : List (Text × StringView)) : Prop :=
  ∀ call ∈ calls, endsWithName buffer call.1 call.2 = false

/-- A turn takes the value of one line at most. -/
theorem whole_cons : Whole buffer (valueCalls buffer req (line :: lines)) ↔
    endsWithName buffer (if req.host.empty then kHost else kConnection) line = false ∧
      Whole buffer (valueCalls buffer (scanHeader buffer req line) lines) := by
  rw [valueCalls]
  generalize (if req.host.empty then kHost else kConnection) = name
  cases found : find (line.text buffer) name with
  | none => simp [Whole, endsWithName, found]
  | some pos => exact List.forall_mem_cons

/-- Those are the lines among which there may be a bare one. -/
theorem whole_iff :
    Whole buffer (valueCalls buffer req lines) ↔ bareLine buffer req lines = false := by
  induction lines generalizing req with
  | nil => cases missing : req.host.empty <;> simp [Whole, valueCalls, bareLine, missing]
  | cons line lines ih =>
      rw [whole_cons, ih]
      cases missing : req.host.empty with
      | false =>
          -- Only `Connection:` is looked for from here on.
          simp only [bareLine, scanHeader_of_host missing, missing]
          simp
      | true =>
          simp only [bareLine, scanHeader_empty missing, missing]
          cases gives : givesHost buffer line with
          | false =>
              have whole : endsWithName buffer kHost line = false := by
                by_contra ends
                rw [Bool.not_eq_false] at ends
                rw [givesHost_of_endsWithName ends] at gives
                cases gives
              simp [gives, whole]
          | true => simp [gives]

/-! ### The result -/

/-- The four views of some headers lie in the buffer. -/
structure HeadersInside (buffer : Text) (req : RequestHeaders) : Prop where
  uri : Inside buffer req.uri
  version : Inside buffer req.version
  host : Inside buffer req.host
  connection : Inside buffer req.connection

theorem headersInside_empty (buffer : Text) : HeadersInside buffer {} :=
  ⟨inside_none buffer, inside_none buffer, inside_none buffer, inside_none buffer⟩

/-- The request line gives views of itself. -/
theorem HeadersInside.getRequestFields {req' : RequestHeaders} (inside : HeadersInside buffer req)
    (header : Inside buffer line) (given : Http.getRequestFields buffer line req = some req') :
    HeadersInside buffer req' := by
  unfold Http.getRequestFields at given
  split at given
  · next method uri version items =>
      have member {item : StringView} (among : item ∈ [method, uri, version]) :
          Inside buffer item := by
        rw [← items] at among
        exact header.ofPart (isPart_split item among)
      have uri : Inside buffer uri := member (by simp)
      have version : Inside buffer version := member (by simp)
      split at given
      · cases given
      · dsimp only at given
        repeat' split at given
        all_goals cases given
        all_goals first
          | exact ⟨uri, version, inside.host, inside.connection⟩
          | exact ⟨uri, version, uri, inside.connection⟩
          | exact ⟨inside.uri, inside.version, inside.host, inside.connection⟩
  · cases given

/-- A turn whose line is not bare keeps the views in the buffer. -/
theorem HeadersInside.scanHeader (inside : HeadersInside buffer req) (header : Inside buffer line)
    (whole : endsWithName buffer (if req.host.empty then kHost else kConnection) line = false) :
    HeadersInside buffer (Http.scanHeader buffer req line) := by
  have value := inside_value header (endsWithName_eq_false.mp whole)
  unfold Http.scanHeader
  cases missing : req.host.empty with
  | true =>
      rw [missing] at value
      rw [if_pos rfl]
      split
      · exact ⟨inside.uri, inside.version, value, inside.connection⟩
      · exact inside
  | false =>
      rw [missing] at value
      rw [if_neg (by simp)]
      split
      · exact ⟨inside.uri, inside.version, inside.host, value⟩
      · exact inside

theorem HeadersInside.scan (inside : HeadersInside buffer req)
    (headers : ∀ line ∈ lines, Inside buffer line)
    (whole : Whole buffer (valueCalls buffer req lines)) :
    HeadersInside buffer (lines.foldl (Http.scanHeader buffer) req) := by
  induction lines generalizing req with
  | nil => exact inside
  | cons line lines ih =>
      rw [whole_cons] at whole
      have header := headers line List.mem_cons_self
      have rest := fun line member => headers line (List.mem_cons_of_mem _ member)
      exact ih (inside.scanHeader header whole.1) rest whole.2

/-- Without a bare header the views of the result lie in the buffer. -/
theorem headersInside_getHeaders (whole : Whole buffer (headerValueCalls buffer)) :
    HeadersInside buffer (getHeaders buffer) := by
  have lines (line : StringView)
      (member : line ∈ split buffer { data := 0, size := buffer.length } (ascii "\r\n")) :
      Inside buffer line :=
    Inside.ofPart (.inr (Nat.le_of_eq (Nat.zero_add _))) (isPart_split line member)
  unfold headerValueCalls at whole
  unfold getHeaders
  cases items : split buffer { data := 0, size := buffer.length } (ascii "\r\n") with
  | nil => exact headersInside_empty buffer
  | cons first rest =>
      rw [items] at whole lines
      cases rest with
      | nil => exact headersInside_empty buffer
      | cons second rest =>
          cases given : Http.getRequestFields buffer first {} with
          | none =>
              simp only [given]
              exact headersInside_empty buffer
          | some req =>
              simp only [given] at whole ⊢
              have begun := (headersInside_empty buffer).getRequestFields
                (lines first List.mem_cons_self) given
              have scanned := begun.scan
                (fun line member => lines line (List.mem_cons_of_mem _ member)) whole
              rw [getRemainingRequiredFields, List.drop_one, List.tail_cons]
              split
              · next absent =>
                  exact headersInside_empty buffer
              · next req' present =>
                  split at present
                  · cases present
                    exact scanned
                  · cases present

/-- `getHost` and `getService` return when the views lie in the buffer. -/
theorem HeadersInside.getHost (inside : HeadersInside buffer req)
    (small : buffer.length ≤ StringView.maxStringSize) :
    ∃ host, req.getHost buffer = .ok host := by
  unfold RequestHeaders.getHost
  split
  · exact inside.host.toString small
  · split
    · next host service items =>
        have isPart := isPart_split host (items ▸ List.mem_cons_self)
        exact (inside.host.ofPart isPart).toString small
    · exact ⟨[], rfl⟩

theorem HeadersInside.getService (inside : HeadersInside buffer req)
    (small : buffer.length ≤ StringView.maxStringSize) :
    ∃ service, req.getService buffer = .ok service := by
  unfold RequestHeaders.getService
  split
  · split
    · next scheme rest items =>
        have isPart := isPart_split scheme (items ▸ List.mem_cons_self)
        exact (inside.uri.ofPart isPart).toString small
    · exact ⟨[], rfl⟩
  · split
    · next host service items =>
        have isPart := isPart_split service (items ▸ List.mem_cons_of_mem _ List.mem_cons_self)
        exact (inside.host.ofPart isPart).toString small
    · exact ⟨[], rfl⟩

theorem bareHeader_eq_false :
    bareHeader buffer = false ↔ Whole buffer (headerValueCalls buffer) := by
  unfold bareHeader headerValueCalls
  split
  · split
    · simp [Whole]
    · exact whole_iff.symm
  · simp [Whole]

end Http

/-- For every buffer that memory can hold, the views in the result of `get_headers` lie in the
    buffer and its host and service can be taken, exactly when no header is bare. -/
theorem http_views_inside (buffer : Text) (small : buffer.length ≤ StringView.maxStringSize) :
    Http.ViewsInside buffer ↔ Http.bareHeader buffer = false := by
  rw [Http.bareHeader_eq_false]
  constructor
  · intro inside call member
    exact Http.endsWithName_eq_false.mpr (inside.sizes call member)
  · intro whole
    have inside := Http.headersInside_getHeaders whole
    exact
      { uri := inside.uri
        version := inside.version
        host := inside.host
        connection := inside.connection
        sizes := fun call member => Http.endsWithName_eq_false.mp (whole call member)
        parts := fun view member => (List.mem_append.mp member).elim
          (fun part => inside.uri.ofPart (Http.isPart_split view part))
          fun part => inside.host.ofPart (Http.isPart_split view part)
        getHost := inside.getHost small
        getService := inside.getService small }

namespace Http.Sample

/-- A request with a value for each header. -/
def fullRequest : IoBuffer := ascii "GET http://h/ HTTP/1.1\r\nHost: h\r\n\r\n"

/-- A request with no value for the host. -/
def bareRequest : IoBuffer := ascii "GET http://h/ HTTP/1.1\r\nHost:\r\n\r\n"

end Http.Sample

theorem http_views_inside_sample : Http.ViewsInside Http.Sample.fullRequest :=
  (http_views_inside Http.Sample.fullRequest (by decide)).mpr (by decide)

/-- The size of the host of `Http.Sample.bareRequest` has wrapped, and making a string of it
    throws. -/
theorem http_bare_host_throws :
    (Http.getHeaders Http.Sample.bareRequest).host.size = UInt64.size - 1 ∧
      (Http.getHeaders Http.Sample.bareRequest).getHost Http.Sample.bareRequest =
        .error .exception ∧
      ¬ Http.ViewsInside Http.Sample.bareRequest := by
  have throws : (Http.getHeaders Http.Sample.bareRequest).getHost Http.Sample.bareRequest =
      .error .exception := by
    decide
  refine ⟨by decide, throws, fun inside => ?_⟩
  obtain ⟨host, returned⟩ := inside.getHost
  rw [throws] at returned
  cases returned

end AmgiNetTools
