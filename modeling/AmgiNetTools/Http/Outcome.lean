/-
Module: AmgiNetTools.Http.Outcome
Layer: Http
Purpose: What `get_headers` returns for any buffer: no request, or a whole one. There is one more
  outcome. The branch of `get_request_fields` for an unknown method returns `npos`, which is true,
  so a request line with an unknown method passes, and a header line can give it a host.
Main exports: Http.Complete, Http.AllOrNothing, Http.UnknownWithHost, Http.outcome,
  http_all_or_nothing, http_unknown_method_passes
-/
import AmgiNetTools.Http.Headers

namespace AmgiNetTools

namespace Http

/-- No request. -/
structure IsNothing (req : RequestHeaders) : Prop where
  method : req.method = .kNone
  uri : req.uri.empty = true
  version : req.version.empty = true
  host : req.host.empty = true
  connection : req.connection.empty = true

/-- A request with all that is required: a method, URI and version as the first line has them, and a
    host. -/
structure Complete (buffer : Text) (req : RequestHeaders) : Prop where
  method : req.method ≠ .kNone
  line : ∃ line later, lines buffer = line :: later ∧
    fields line = [req.method.name, req.uri.text buffer, req.version.text buffer]
  host : req.host.empty = false

/-- The first line has three parts, of which the first is one of the six methods. -/
def HasRequestLine (buffer : Text) : Prop :=
  ∃ line later name uri version, lines buffer = line :: later ∧
    fields line = [name, uri, version] ∧ IsMethod name

/-- The result is no request or a whole one, and no request without a proper request line. -/
structure AllOrNothing (buffer : Text) : Prop where
  outcome : IsNothing (getHeaders buffer) ∨ Complete buffer (getHeaders buffer)
  refused : ¬ HasRequestLine buffer → IsNothing (getHeaders buffer)

/-- The first line has three parts, of which the first is none of the six methods, and one of the
    lines behind it gives a host. -/
def UnknownWithHost (buffer : Text) : Prop :=
  ∃ line later name uri version, lines buffer = line :: later ∧
    fields line = [name, uri, version] ∧ ¬ IsMethod name ∧ ∃ header ∈ later, gives header

/-! ### The outcomes -/

section

variable {buffer : Text} {line method uri version : StringView} {later : List StringView}

theorem isNothing_empty : IsNothing {} := ⟨rfl, rfl, rfl, rfl, rfl⟩

/-- The texts of the parts of a line. -/
theorem map_text_fields (inside : Inside buffer line) :
    (split buffer line (ascii " ")).map (StringView.text buffer) = fields (line.text buffer) :=
  map_text_split inside.whole

/-- Whether a later line gives a host can be seen from its text. -/
theorem exists_gives_iff (inside : ∀ item ∈ later, Inside buffer item) :
    (∃ item ∈ later, givesHost buffer item = true) ↔
      ∃ header ∈ later.map (StringView.text buffer), gives header = true := by
  constructor
  · rintro ⟨item, member, giver⟩
    rw [givesHost_eq_gives (inside item member).whole] at giver
    exact ⟨_, List.mem_map_of_mem member, giver⟩
  · rintro ⟨header, member, giver⟩
    obtain ⟨item, among, rfl⟩ := List.mem_map.mp member
    rw [← givesHost_eq_gives (inside item among).whole] at giver
    exact ⟨item, among, giver⟩

/-- A line of other than three parts gives nothing. -/
theorem getHeaders_malformed (items : split buffer (whole buffer) crlf = line :: later)
    (malformed : ∀ method uri version,
      split buffer line (ascii " ") ≠ [method, uri, version]) : getHeaders buffer = {} := by
  unfold getHeaders
  rw [show split buffer { data := 0, size := buffer.length } (ascii "\r\n") = _ from items]
  cases later with
  | nil => rfl
  | cons header later =>
      have none_ : getRequestFields buffer line {} = none := by
        unfold getRequestFields
        split
        · next method uri version parts => exact absurd parts (malformed method uri version)
        · rfl
      simp only [none_]

/-- A line alone gives nothing. -/
theorem getHeaders_short (items : (split buffer (whole buffer) crlf).length < 2) :
    getHeaders buffer = {} := by
  unfold getHeaders
  change (split buffer { data := 0, size := buffer.length } (ascii "\r\n")).length < 2 at items
  cases found : split buffer { data := 0, size := buffer.length } (ascii "\r\n") with
  | nil => rfl
  | cons line later =>
      cases later with
      | nil => rfl
      | cons header later =>
          rw [found, List.length_cons, List.length_cons] at items
          omega

/-- What a request line of three parts and the lines behind it give. -/
theorem getHeaders_three (items : split buffer (whole buffer) crlf = line :: later)
    (parts : split buffer line (ascii " ") = [method, uri, version]) (more : later ≠ []) :
    getHeaders buffer =
      let req := later.foldl (scanHeader buffer)
        (requestFields (methodNamed (method.text buffer)) uri version)
      if req.host.empty then {} else req :=
  getHeaders_eq items more
    (getRequestFields_of_split (inside_line items line List.mem_cons_self) parts)

theorem requestFields_known {known : RequestMethod} (some_ : known ≠ .kNone) :
    (requestFields known uri version).method = known ∧
      (requestFields known uri version).uri = uri ∧
      (requestFields known uri version).version = version := by
  cases known with
  | kNone => exact absurd rfl some_
  | _ => exact ⟨rfl, rfl, rfl⟩

/-- The three outcomes. -/
inductive Outcome (buffer : Text) : Prop where
  | nothing (empty : getHeaders buffer = {}) (known : ¬ UnknownWithHost buffer)
  | whole (proper : HasRequestLine buffer) (complete : Complete buffer (getHeaders buffer))
  | unknown (improper : UnknownWithHost buffer) (method : (getHeaders buffer).method = .kNone)
      (host : (getHeaders buffer).host.empty = false)

/-- A request line with an unknown method can only be the first line. -/
theorem unknownWithHost_iff (items : split buffer (whole buffer) crlf = line :: later)
    (parts : split buffer line (ascii " ") = [method, uri, version]) :
    UnknownWithHost buffer ↔
      ¬ IsMethod (method.text buffer) ∧ ∃ item ∈ later, givesHost buffer item = true := by
  have inside := inside_line items
  have texts := lines_eq items
  have parted := map_text_fields (inside line List.mem_cons_self)
  rw [parts] at parted
  rw [exists_gives_iff fun item member => inside item (List.mem_cons_of_mem _ member)]
  constructor
  · rintro ⟨line', later', name, uri', version', shape, shape', unknown, giver⟩
    cases texts.symm.trans shape
    cases parted.trans shape'
    exact ⟨unknown, giver⟩
  · rintro ⟨unknown, giver⟩
    exact ⟨_, _, _, _, _, texts, parted.symm, unknown, giver⟩

/-- Behind one of the six methods, everything depends on the host. -/
theorem outcome_known (items : split buffer (whole buffer) crlf = line :: later)
    (parts : split buffer line (ascii " ") = [method, uri, version]) (more : later ≠ [])
    (known : IsMethod (method.text buffer)) : Outcome buffer := by
  have texts := lines_eq items
  have parted := map_text_fields (inside_line items line List.mem_cons_self)
  rw [parts] at parted
  have result := getHeaders_three items parts more
  dsimp only at result
  obtain ⟨sameMethod, sameUri, sameVersion⟩ := @foldl_scanHeader_keeps buffer later
    (requestFields (methodNamed (method.text buffer)) uri version)
  obtain ⟨isMethod, isUri, isVersion⟩ :=
    @requestFields_known uri version _ (isMethod_iff.mp known)
  split at result
  · apply Outcome.nothing result
    rw [unknownWithHost_iff items parts]
    exact fun improper => improper.1 known
  · next given =>
      apply Outcome.whole ⟨_, _, _, _, _, texts, parted.symm, known⟩
      rw [result]
      constructor
      · rw [sameMethod, isMethod]
        exact isMethod_iff.mp known
      · refine ⟨_, _, texts, ?_⟩
        rw [sameMethod, sameUri, sameVersion, isMethod, isUri, isVersion,
          ← name_methodNamed (isMethod_iff.mp known)]
        exact parted.symm
      · simpa using given

/-- Behind any other word, a line that gives a host is enough to pass. -/
theorem outcome_unknown (items : split buffer (whole buffer) crlf = line :: later)
    (parts : split buffer line (ascii " ") = [method, uri, version]) (more : later ≠ [])
    (unknown : ¬ IsMethod (method.text buffer)) : Outcome buffer := by
  have isNone : methodNamed (method.text buffer) = .kNone := by
    simpa [isMethod_iff] using unknown
  have result := getHeaders_three items parts more
  dsimp only at result
  obtain ⟨sameMethod, -, -⟩ :=
    @foldl_scanHeader_keeps buffer later (requestFields .kNone uri version)
  have scanned := @foldl_scanHeader_empty buffer later {} rfl
  rw [isNone, requestFields, scanned] at result
  rw [requestFields] at sameMethod
  cases giver : later.any (givesHost buffer) with
  | false =>
      rw [giver] at result
      apply Outcome.nothing result
      rw [unknownWithHost_iff items parts]
      simpa using fun _ => List.any_eq_false.mp giver
  | true =>
      rw [giver] at result scanned
      have passed : getHeaders buffer = later.foldl (scanHeader buffer) {} := result
      apply Outcome.unknown
      · exact (unknownWithHost_iff items parts).mpr ⟨unknown, List.any_eq_true.mp giver⟩
      · rw [passed]
        exact sameMethod
      · rw [passed]
        exact scanned

theorem outcome_line (items : split buffer (whole buffer) crlf = line :: later) :
    Outcome buffer := by
  have texts := lines_eq items
  have parted := map_text_fields (inside_line items line List.mem_cons_self)
  by_cases three : (split buffer line (ascii " ")).length = 3
  · obtain ⟨method, uri, version, parts⟩ := List.length_eq_three.mp three
    by_cases more : later = []
    · apply Outcome.nothing (getHeaders_short (by simp [items, more]))
      rw [unknownWithHost_iff items parts, more]
      simp
    · by_cases known : IsMethod (method.text buffer)
      · exact outcome_known items parts more known
      · exact outcome_unknown items parts more known
  · apply Outcome.nothing
    · exact getHeaders_malformed items fun method uri version parts => three (by simp [parts])
    · rintro ⟨line', later', name, uri, version, shape, shape', -⟩
      cases texts.symm.trans shape
      rw [← parted] at shape'
      exact three (by simpa using congrArg List.length shape')

theorem outcome (buffer : Text) : Outcome buffer := by
  cases items : split buffer (whole buffer) crlf with
  | nil =>
      have texts := @map_text_split buffer crlf (whole buffer) (inside_whole buffer).whole
      apply Outcome.nothing (getHeaders_short (by simp [items]))
      rintro ⟨line, later, -, -, -, shape, -⟩
      rw [items, text_whole] at texts
      cases texts.trans shape
  | cons line later => exact outcome_line items

end

end Http

/-- For every buffer, `get_headers` returns no request or a whole one, exactly when there is no
    request line with an unknown method in front of a line that gives a host. -/
theorem http_all_or_nothing (buffer : Text) :
    Http.AllOrNothing buffer ↔ ¬ Http.UnknownWithHost buffer := by
  cases Http.outcome buffer with
  | nothing empty known =>
      have nothing : Http.IsNothing (Http.getHeaders buffer) := empty ▸ Http.isNothing_empty
      exact iff_of_true ⟨.inl nothing, fun _ => nothing⟩ known
  | whole proper complete =>
      apply iff_of_true ⟨.inr complete, fun improper => absurd proper improper⟩
      rintro ⟨line, later, name, uri, version, shape, shape', unknown, -⟩
      obtain ⟨line', later', name', uri', version', same, same', known⟩ := proper
      cases shape.symm.trans same
      cases shape'.symm.trans same'
      exact unknown known
  | unknown improper method host =>
      apply iff_of_false _ (not_not_intro improper)
      intro allOrNothing
      rcases allOrNothing.outcome with nothing | complete
      · rw [nothing.host] at host
        cases host
      · exact complete.method method

namespace Http.Sample

/-- A method that the proxy does not know. -/
def optionsRequest : IoBuffer := ascii "OPTIONS * HTTP/1.1\r\nHost: h\r\n\r\n"

end Http.Sample

/-- The request has no method, no URI and no version, and a host. -/
theorem http_unknown_method_passes :
    (Http.getHeaders Http.Sample.optionsRequest).method = .kNone ∧
      (Http.getHeaders Http.Sample.optionsRequest).uri.empty ∧
      (Http.getHeaders Http.Sample.optionsRequest).getHost Http.Sample.optionsRequest =
        .ok (ascii "h") ∧
      ¬ Http.AllOrNothing Http.Sample.optionsRequest := by
  have host : (Http.getHeaders Http.Sample.optionsRequest).host.empty = false := by decide
  have method : (Http.getHeaders Http.Sample.optionsRequest).method = .kNone := by decide
  refine ⟨method, by decide, by decide, fun allOrNothing => ?_⟩
  rcases allOrNothing.outcome with nothing | complete
  · rw [nothing.host] at host
    cases host
  · exact complete.method method

end AmgiNetTools
