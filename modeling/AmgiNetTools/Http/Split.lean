/-
Module: AmgiNetTools.Http.Split
Layer: Http
Purpose: What `split` computes. Its loop ends on every string that lies in memory, and the items are
  the words of the string: the runs of characters that are no delimiters, each where it stands.
Main exports: Http.SplitRun, Http.part, Http.split_eq_spans, Http.map_text_split,
  Http.SplitsExactly, http_split_exact
-/
import AmgiNetTools.Http.Views
import AmgiNetTools.Library.Tokens

namespace AmgiNetTools

namespace Http

open Tokens

/-- The loop of `split` as the source has it: from `cur_pos` and the items so far to the items that
    are returned. -/
inductive SplitRun (buffer : Text) (str : StringView) (delimeter : Text) :
    Nat → List StringView → List StringView → Prop
  | turn {curPos nextPos : Nat} {items result : List StringView}
      (found : findFirstOf (str.text buffer) delimeter curPos = some nextPos)
      (rest : SplitRun buffer str delimeter (nextPos + 1)
        (if nextPos - curPos > 0 then
          items ++ [{ data := str.data + curPos, size := nextPos - curPos }]
        else
          items) result) :
      SplitRun buffer str delimeter curPos items result
  | leave {curPos : Nat} {items : List StringView}
      (absent : findFirstOf (str.text buffer) delimeter curPos = none) :
      SplitRun buffer str delimeter curPos items
        (if curPos < str.size then
          items ++ [{ data := str.data + curPos, size := str.size - curPos }]
        else
          items)

/-- Whether a character is one of the delimiters. -/
def isDelimeter (delimeter : Text) (c : UInt8) : Bool := delimeter.contains c

/-- The part of a string that a span of its text covers. -/
def part (str : StringView) (span : Span) : StringView where
  data := str.data + span.start
  size := span.size

/-- The items are the runs of characters that are no delimiters, from left to right, each as a part
    of the string, and they are all there is; a string that is written as words with delimiters
    between them gives the words back. -/
structure SplitsExactly (buffer : Text) (str : StringView) (delimeter : Text)
    (items : List StringView) : Prop where
  returns : SplitRun buffer str delimeter 0 [] items
  alone : ∀ result, SplitRun buffer str delimeter 0 [] result → result = items
  runs : ∀ item, item ∈ items ↔
    ∃ before word after, IsRun (isDelimeter delimeter) (str.text buffer) before word after ∧
      item = { data := str.data + before.length, size := word.length }
  ordered : items.Pairwise fun first second => first.data + first.size < second.data
  parts : ∀ item ∈ items, IsPart str item
  plain : ∀ item ∈ items, item.text buffer ≠ [] ∧ ∀ c ∈ item.text buffer, c ∉ delimeter
  rendered : ∀ lead pieces, WellWritten (isDelimeter delimeter) lead pieces →
    str.text buffer = written lead pieces → items.map (StringView.text buffer) = pieces.map Prod.fst

/-! ### The loop -/

section

variable {buffer delimeter word rest text : Text} {str : StringView} {turns curPos : Nat}
  {items result : List StringView} {c : UInt8}

@[simp] theorem isDelimeter_iff : isDelimeter delimeter c = true ↔ c ∈ delimeter := by
  simp [isDelimeter]

@[simp] theorem isDelimeter_eq_false : isDelimeter delimeter c = false ↔ c ∉ delimeter := by
  simp [isDelimeter]

theorem findFirstOf_eq : findFirstOf text delimeter curPos =
    ((text.drop curPos).findIdx? (isDelimeter delimeter)).map (curPos + ·) := rfl

/-- The first delimiter is where the word before it ends. -/
theorem findFirstOf_word (here : text.drop curPos = word ++ c :: rest)
    (free : ∀ x ∈ word, isDelimeter delimeter x = false) (ends : isDelimeter delimeter c) :
    findFirstOf text delimeter curPos = some (curPos + word.length) := by
  have first : (word ++ c :: rest).findIdx? (isDelimeter delimeter) = some word.length := by
    rw [List.findIdx?_append, List.findIdx?_eq_none_iff.mpr free, List.findIdx?_cons, ends]
    simp
  rw [findFirstOf_eq, here, first]
  rfl

theorem findFirstOf_last (here : text.drop curPos = word)
    (free : ∀ x ∈ word, isDelimeter delimeter x = false) :
    findFirstOf text delimeter curPos = none := by
  rw [findFirstOf_eq, here, List.findIdx?_eq_none_iff.mpr free]
  rfl

/-- What follows a word and the delimiter behind it. -/
theorem drop_word (here : text.drop curPos = word ++ c :: rest) :
    text.drop (curPos + word.length + 1) = rest := by
  rw [Nat.add_assoc, ← List.drop_drop, here, List.drop_append]
  simp

/-- With enough turns the loop adds the words of what is left. -/
theorem splitLoop_eq (whole : (str.text buffer).length = str.size)
    (here : (str.text buffer).drop curPos = rest) (enough : rest.length < turns) :
    splitLoop buffer str delimeter turns curPos items =
      items ++ (spans (isDelimeter delimeter) curPos rest).map (part str) := by
  induction rest using chop (isDelimeter delimeter) generalizing turns curPos items with
  | last word free =>
      obtain ⟨turns, rfl⟩ := Nat.exists_eq_add_of_lt enough
      have size : str.size - curPos = word.length := by
        rw [← whole, ← here, List.length_drop]
      rw [splitLoop, findFirstOf_last here free, spans_word free, close, size]
      by_cases nonempty : word.length = 0
      · have outside : ¬ curPos < str.size := by omega
        simp [nonempty, outside]
      · have inside : curPos < str.size := by omega
        simp [nonempty, inside, part]
  | turn word c rest free ends ih =>
      rw [List.length_append, List.length_cons] at enough
      obtain ⟨turns, rfl⟩ := Nat.exists_eq_add_of_lt enough
      have long : curPos + word.length - curPos = word.length := Nat.add_sub_cancel_left ..
      rw [splitLoop, findFirstOf_word here free ends, spans_append ends, spans_word free, close]
      dsimp only
      rw [ih (drop_word here) (by omega), long]
      by_cases nonempty : word.length = 0
      · simp [nonempty]
      · simp [nonempty, Nat.pos_of_ne_zero nonempty, part]

/-- The items are the words of the string. -/
theorem split_eq_spans (whole : (str.text buffer).length = str.size) :
    split buffer str delimeter =
      (spans (isDelimeter delimeter) 0 (str.text buffer)).map (part str) := by
  rw [split, splitLoop_eq whole List.drop_zero (Nat.lt_succ_self _), List.nil_append]

/-- The turns of `splitLoop` are those of the source. -/
theorem splitRun_splitLoop (enough : (str.text buffer).length < curPos + turns)
    (inside : curPos ≤ (str.text buffer).length) :
    SplitRun buffer str delimeter curPos items
      (splitLoop buffer str delimeter turns curPos items) := by
  induction turns generalizing curPos items with
  | zero => omega
  | succ turns ih =>
      rw [splitLoop]
      cases found : findFirstOf (str.text buffer) delimeter curPos with
      | some nextPos =>
          obtain ⟨after, before⟩ := lt_of_findFirstOf found
          apply SplitRun.turn found
          exact ih (by omega) before
      | none => exact .leave found

/-- There is one way through the loop. -/
theorem SplitRun.unique {result' : List StringView}
    (run : SplitRun buffer str delimeter curPos items result)
    (run' : SplitRun buffer str delimeter curPos items result') : result' = result := by
  induction run with
  | turn found rest ih =>
      cases run' with
      | turn found' rest' =>
          cases found.symm.trans found'
          exact ih rest'
      | leave absent => cases found.symm.trans absent
  | leave absent =>
      cases run' with
      | turn found' rest' => cases absent.symm.trans found'
      | leave absent' => rfl

/-! ### The texts of the items -/

/-- A string in memory shows all of its characters. -/
theorem Inside.whole (inside : Inside buffer str) : (str.text buffer).length = str.size := by
  rw [StringView.text, List.length_take, List.length_drop]
  rcases inside with empty | inside
  · omega
  · omega

/-- What a part shows of the text of its string. -/
theorem text_part {size : Nat} (inside : curPos + size ≤ str.size) :
    StringView.text buffer { data := str.data + curPos, size := size } =
      ((str.text buffer).drop curPos).take size := by
  rw [StringView.text, StringView.text, List.drop_take, List.drop_drop, List.take_take,
    Nat.min_eq_left (by omega)]

/-- The texts of the items are the words of the text. -/
theorem map_text_split (whole : (str.text buffer).length = str.size) :
    (split buffer str delimeter).map (StringView.text buffer) =
      words (isDelimeter delimeter) (str.text buffer) := by
  rw [split_eq_spans whole, words, List.map_map]
  apply List.map_congr_left
  intro span member
  have inside := (bounds_of_mem_spans member).2
  exact text_part (by omega)

/-- The item of a run shows the run. -/
theorem text_run {before after : Text}
    (run : IsRun (isDelimeter delimeter) (str.text buffer) before word after) :
    StringView.text buffer { data := str.data + before.length, size := word.length } = word := by
  have long := congrArg List.length run.whole
  have bound := length_text_le buffer str
  rw [List.length_append, List.length_append] at long
  rw [text_part (by omega), run.whole]
  simp

/-- There is no delimiter before the first. -/
theorem not_mem_of_findFirstOf {next : Nat}
    (found : findFirstOf text delimeter curPos = some next) :
    ∀ x ∈ (text.drop curPos).take (next - curPos), x ∉ delimeter := by
  unfold findFirstOf at found
  obtain ⟨i, first, rfl⟩ := Option.map_eq_some_iff.mp found
  obtain ⟨inside, -, before⟩ := List.findIdx?_eq_some_iff_getElem.mp first
  intro x member
  rw [Nat.add_sub_cancel_left] at member
  obtain ⟨j, bound, rfl⟩ := List.mem_iff_getElem.mp member
  rw [List.length_take] at bound
  rw [List.getElem_take]
  simpa using before j (by omega)

/-- No item has a delimiter in it, wherever the string lies. -/
theorem not_mem_splitLoop
    (earlier : ∀ item ∈ items, ∀ x ∈ item.text buffer, x ∉ delimeter) :
    ∀ item ∈ splitLoop buffer str delimeter turns curPos items,
      ∀ x ∈ item.text buffer, x ∉ delimeter := by
  induction turns generalizing curPos items with
  | zero => exact earlier
  | succ turns ih =>
      rw [splitLoop]
      have bound := length_text_le buffer str
      cases found : findFirstOf (str.text buffer) delimeter curPos with
      | some next =>
          obtain ⟨after, before⟩ := lt_of_findFirstOf found
          apply ih
          intro item member
          split at member
          · rcases List.mem_append.mp member with old | new
            · exact earlier item old
            · cases List.mem_singleton.mp new
              rw [text_part (by omega)]
              exact not_mem_of_findFirstOf found
          · exact earlier item member
      | none =>
          have free := List.findIdx?_eq_none_iff.mp (Option.map_eq_none_iff.mp found)
          dsimp only
          split
          · intro item member
            rcases List.mem_append.mp member with old | new
            · exact earlier item old
            · cases List.mem_singleton.mp new
              rw [text_part (by omega)]
              intro x inside
              simpa using free x (List.mem_of_mem_take inside)
          · exact earlier

theorem not_mem_split : ∀ item ∈ split buffer str delimeter,
    ∀ x ∈ item.text buffer, x ∉ delimeter :=
  not_mem_splitLoop (by simp)

end

end Http

/-- For every string that lies in memory and every set of delimiters, `split` returns exactly the
    maximal runs of other characters. -/
theorem http_split_exact (buffer : Text) (str : StringView) (delimeter : Text)
    (inside : Http.Inside buffer str) :
    Http.SplitsExactly buffer str delimeter (Http.split buffer str delimeter) := by
  have whole := inside.whole
  have items := @Http.split_eq_spans buffer delimeter str whole
  have returns : Http.SplitRun buffer str delimeter 0 [] (Http.split buffer str delimeter) :=
    Http.splitRun_splitLoop (by omega) (Nat.zero_le _)
  have runs (item : StringView) : item ∈ Http.split buffer str delimeter ↔
      ∃ before word after,
        Tokens.IsRun (Http.isDelimeter delimeter) (str.text buffer) before word after ∧
          item = { data := str.data + before.length, size := word.length } := by
    rw [items, List.mem_map]
    constructor
    · rintro ⟨span, member, rfl⟩
      obtain ⟨before, word, after, run, rfl⟩ := Tokens.mem_spans.mp member
      exact ⟨before, word, after, run, by simp [Http.part]⟩
    · rintro ⟨before, word, after, run, rfl⟩
      exact ⟨_, Tokens.mem_spans.mpr ⟨before, word, after, run, rfl⟩, by simp [Http.part]⟩
  exact
    { returns := returns
      alone := fun result run => returns.unique run
      runs := runs
      ordered := by
        rw [items, List.pairwise_map]
        refine (Tokens.ordered_spans _ _ _).imp ?_
        intro first second before
        simp only [Http.part]
        omega
      parts := Http.isPart_split
      plain := by
        intro item member
        obtain ⟨before, word, after, run, rfl⟩ := (runs item).mp member
        rw [Http.text_run run]
        exact ⟨run.nonempty, fun c inWord => by simpa using run.free c inWord⟩
      rendered := by
        intro lead pieces well shown
        rw [Http.map_text_split whole, shown]
        exact Tokens.words_written well }

namespace Http.Sample

/-- Two words with blanks on all sides. -/
def spaced : Text := ascii "  GET  / "

end Http.Sample

theorem http_split_exact_sample :
    Http.SplitsExactly Http.Sample.spaced ⟨0, 9⟩ (ascii " ") [⟨2, 3⟩, ⟨7, 1⟩] :=
  http_split_exact Http.Sample.spaced ⟨0, 9⟩ (ascii " ") (.inr (by decide))

end AmgiNetTools
