/-
Module: AmgiNetTools.Library.Tokens
Layer: Library
Purpose: The words of a text: its maximal runs of letters that are no separators, by their position.
  `spans` finds them in one pass. Three rules compute it (a text of separators, a word, two texts
  with a separator between them), and `mem_spans` says which spans it finds.
Main exports: Tokens.Span, Tokens.spans, Tokens.IsRun, Tokens.mem_spans, Tokens.ordered_spans,
  Tokens.words, Tokens.words_append, Tokens.written, Tokens.words_written
-/
import Mathlib.Data.List.Basic

namespace AmgiNetTools.Tokens

variable {α : Type}

/-- A part of a text, by where it starts and how long it is. -/
structure Span where
  start : Nat
  size : Nat
deriving DecidableEq, Repr

namespace Span

/-- The part of a text that a span covers. -/
def of (text : List α) (span : Span) : List α := (text.drop span.start).take span.size

/-- The same span in a text that has `offset` more letters before it. -/
def shift (offset : Nat) (span : Span) : Span := { span with start := offset + span.start }

theorem of_shift (before text : List α) (span : Span) :
    (span.shift before.length).of (before ++ text) = span.of text := by
  have passed : before.drop (before.length + span.start) = [] :=
    List.drop_eq_nil_of_le (Nat.le_add_right ..)
  simp [of, shift, List.drop_append, passed]

/-- A span that ends inside a text covers the same part of a longer text. -/
theorem of_append {text : List α} {span : Span} (inside : span.start + span.size ≤ text.length)
    (after : List α) : span.of (text ++ after) = span.of text := by
  have short : span.size ≤ (text.drop span.start).length := by
    rw [List.length_drop]
    omega
  rw [of, of, List.drop_append_of_le_length (by omega), List.take_append_of_le_length short]

end Span

/-- The span of a word, where there is one. -/
def close (start size : Nat) : List Span := if size = 0 then [] else [⟨start, size⟩]

/-- The words of a text that comes after the `size` letters from `start` on of a word. -/
def spansFrom (sep : α → Bool) : Nat → Nat → List α → List Span
  | start, size, [] => close start size
  | start, size, c :: rest =>
      if sep c then
        close start size ++ spansFrom sep (start + size + 1) 0 rest
      else
        spansFrom sep start (size + 1) rest

/-- The words of a text that starts at `pos`, from left to right. -/
def spans (sep : α → Bool) (pos : Nat) (text : List α) : List Span := spansFrom sep pos 0 text

variable {sep : α → Bool} {pos start size : Nat} {c : α} {text word gap : List α}

/-! ### The rules -/

@[simp] theorem spans_nil : spans sep pos ([] : List α) = [] := rfl

/-- A separator ends the word before it, and what follows starts anew. -/
theorem spansFrom_append (ends : sep c) (first second : List α) :
    spansFrom sep start size (first ++ c :: second) =
      spansFrom sep start size first ++ spans sep (start + size + first.length + 1) second := by
  induction first generalizing start size with
  | nil => simp [spansFrom, spans, ends]
  | cons d first ih =>
      rw [List.cons_append, spansFrom, spansFrom, ih, ih, List.length_cons]
      split
      · rw [List.append_assoc]
        congr 3
        omega
      · congr 2
        omega

theorem spans_append (ends : sep c) (first second : List α) :
    spans sep pos (first ++ c :: second) =
      spans sep pos first ++ spans sep (pos + first.length + 1) second :=
  spansFrom_append ends first second

theorem spans_sep (ends : sep c) : spans sep pos (c :: text) = spans sep (pos + 1) text :=
  spans_append ends [] text

/-- A text that ends with a separator keeps its words apart from those behind it. -/
theorem spans_behind {first : List α} (ends : ∀ c, first.getLast? = some c → sep c)
    (second : List α) :
    spans sep pos (first ++ second) =
      spans sep pos first ++ spans sep (pos + first.length) second := by
  rcases List.eq_nil_or_concat' first with rfl | ⟨front, c, rfl⟩
  · simp
  · have ends : sep c := ends c (by simp)
    have alone := @spans_append _ sep pos c ends front []
    rw [List.append_assoc, List.singleton_append, spans_append ends, alone, List.length_append,
      spans_nil, List.append_nil]
    rfl

/-- Separators alone have no word among them. -/
theorem spans_gap (separates : ∀ c ∈ gap, sep c) : spans sep pos gap = [] := by
  induction gap generalizing pos with
  | nil => rfl
  | cons c gap ih =>
      rw [spans_sep (separates c List.mem_cons_self)]
      exact ih fun d member => separates d (List.mem_cons_of_mem _ member)

theorem spansFrom_word (free : ∀ c ∈ word, sep c = false) :
    spansFrom sep start size word = close start (size + word.length) := by
  induction word generalizing size with
  | nil => rfl
  | cons c word ih =>
      rw [spansFrom, if_neg (by simp [free c List.mem_cons_self]),
        ih fun d member => free d (List.mem_cons_of_mem _ member), List.length_cons]
      congr 1
      omega

/-- Letters without a separator are one word, if they are any. -/
theorem spans_word (free : ∀ c ∈ word, sep c = false) :
    spans sep pos word = close pos word.length := by
  rw [spans, spansFrom_word free, Nat.zero_add]

theorem spans_single (free : ∀ c ∈ word, sep c = false) (nonempty : word ≠ []) :
    spans sep pos word = [⟨pos, word.length⟩] := by
  rw [spans_word free, close, if_neg (by simpa using nonempty)]

/-- What comes before a word does not matter. -/
theorem spans_shift (offset : Nat) :
    spans sep (offset + pos) text = (spans sep pos text).map (Span.shift offset) := by
  have from_ (start size : Nat) : spansFrom sep (offset + start) size text =
      (spansFrom sep start size text).map (Span.shift offset) := by
    induction text generalizing start size with
    | nil =>
        unfold spansFrom close
        split <;> rfl
    | cons c text ih =>
        rw [spansFrom, spansFrom, ih]
        split
        · rw [List.map_append, ← ih, ← Nat.add_assoc, ← Nat.add_assoc]
          congr 1
          unfold close
          split <;> rfl
        · rfl
  exact from_ pos 0

/-- Every text is a word, or a word, a separator and a text; the words may be empty. -/
theorem chop (sep : α → Bool) {P : List α → Prop}
    (last : ∀ word, (∀ c ∈ word, sep c = false) → P word)
    (turn : ∀ word c rest, (∀ c ∈ word, sep c = false) → sep c → P rest → P (word ++ c :: rest))
    (text : List α) : P text := by
  -- The induction is on the text behind the letters of a word that were read.
  have read (letters : List α) (free : ∀ c ∈ letters, sep c = false) : P (letters ++ text) := by
    induction text generalizing letters with
    | nil =>
        rw [List.append_nil]
        exact last letters free
    | cons c text ih =>
        by_cases ends : sep c
        · exact turn letters c text free ends (ih [] (by simp))
        · have more := ih (letters ++ [c]) fun d member => (List.mem_append.mp member).elim (free d)
            fun new => by simpa [List.mem_singleton.mp new] using ends
          simpa using more
  exact read [] (by simp)

/-- There is a word where there is a letter that is no separator. -/
theorem spans_ne_nil (letter : ∃ c ∈ text, sep c = false) : spans sep pos text ≠ [] := by
  obtain ⟨d, member, letter⟩ := letter
  induction text using chop sep generalizing pos with
  | last word free =>
      rw [spans_single free (List.ne_nil_of_mem member)]
      exact List.cons_ne_nil _ _
  | turn word c rest free ends ih =>
      rw [spans_append ends]
      rcases List.mem_append.mp member with inWord | behind
      · apply List.append_ne_nil_of_left_ne_nil
        rw [spans_single free (List.ne_nil_of_mem inWord)]
        exact List.cons_ne_nil _ _
      · apply List.append_ne_nil_of_right_ne_nil
        rcases List.mem_cons.mp behind with rfl | inRest
        · rw [letter] at ends
          cases ends
        · exact ih inRest

/-! ### Which spans are found -/

/-- A word of a text that cannot be made longer, with what stands before and after it. -/
structure IsRun (sep : α → Bool) (text before word after : List α) : Prop where
  whole : text = before ++ word ++ after
  nonempty : word ≠ []
  free : ∀ c ∈ word, sep c = false
  left : ∀ c, before.getLast? = some c → sep c
  right : ∀ c, after.head? = some c → sep c

namespace IsRun

variable {before after : List α}

/-- In a text without separators there is one run at most, and it is all of it. -/
theorem of_word (run : IsRun sep text before word after) (free : ∀ c ∈ text, sep c = false) :
    before = [] ∧ word = text ∧ after = [] := by
  have whole := run.whole
  have noBefore : before = [] := by
    by_contra nonempty
    have ends := run.left _ (List.getLast?_eq_some_getLast nonempty)
    rw [free _ (by simp [whole])] at ends
    cases ends
  have noAfter : after = [] := by
    cases after with
    | nil => rfl
    | cons c after =>
        have ends := run.right c rfl
        rw [free c (by simp [whole])] at ends
        cases ends
  rw [noBefore, noAfter] at whole
  exact ⟨noBefore, by simpa using whole.symm, noAfter⟩

/-- The runs of the text before a separator are runs. -/
theorem before_sep {first rest : List α} (run : IsRun sep first before word rest) (ends : sep c)
    (second : List α) : IsRun sep (first ++ c :: second) before word (rest ++ c :: second) where
  whole := by simp [run.whole]
  nonempty := run.nonempty
  free := run.free
  left := run.left
  right d head := by
    cases rest with
    | nil =>
        cases head
        exact ends
    | cons e rest => exact run.right d head

/-- The runs of the text behind a separator are runs. -/
theorem behind_sep {second rest : List α} (run : IsRun sep second rest word after) (ends : sep c)
    (first : List α) : IsRun sep (first ++ c :: second) (first ++ c :: rest) word after where
  whole := by simp [run.whole]
  nonempty := run.nonempty
  free := run.free
  left d last := by
    rw [List.getLast?_append, List.getLast?_cons] at last
    cases behind : rest.getLast? with
    | none =>
        rw [behind] at last
        cases last
        exact ends
    | some e =>
        rw [behind] at last
        cases last
        exact run.left _ behind
  right := run.right

/-- A run is on one side of every separator. -/
theorem of_append {first second : List α} (ends : sep c)
    (run : IsRun sep (first ++ c :: second) before word after) :
    (∃ rest, after = rest ++ c :: second ∧ IsRun sep first before word rest) ∨
      ∃ rest, before = first ++ c :: rest ∧ IsRun sep second rest word after := by
  have outside : c ∉ word := by
    intro member
    rw [run.free c member] at ends
    cases ends
  have earlier {rest : List α} (front : first = before ++ word ++ rest)
      (tail : after = rest ++ c :: second) : IsRun sep first before word rest :=
    { whole := front
      nonempty := run.nonempty
      free := run.free
      left := run.left
      right := fun d head => run.right d (by simp [tail, head]) }
  rcases List.append_eq_append_iff.mp run.whole with ⟨x, reach, tail⟩ | ⟨x, front, tail⟩
  · cases x with
    | nil => exact .inl ⟨[], tail.symm, earlier (by simpa using reach.symm) tail.symm⟩
    | cons d x =>
        obtain ⟨rfl, rest⟩ := List.cons.inj tail
        -- The text up to the separator ends before the run or in it.
        rcases List.append_eq_append_iff.mp reach with ⟨y, -, inWord⟩ | ⟨y, inBefore, split⟩
        · exact absurd (by simp [inWord]) outside
        · cases y with
          | nil =>
              rw [List.nil_append] at split
              exact absurd (split ▸ List.mem_cons_self) outside
          | cons e y =>
              obtain ⟨rfl, rfl⟩ := List.cons.inj split
              refine .inr ⟨y, inBefore, ?_⟩
              exact
                { whole := rest
                  nonempty := run.nonempty
                  free := run.free
                  left := fun d last => run.left d (by simp [inBefore, List.getLast?_cons, last])
                  right := run.right }
  · exact .inl ⟨x, tail, earlier front tail⟩

end IsRun

/-- A span of a run. -/
def IsSpan (sep : α → Bool) (pos : Nat) (text : List α) (span : Span) : Prop :=
  ∃ before word after, IsRun sep text before word after ∧ span = ⟨pos + before.length, word.length⟩

variable {span : Span}

theorem isSpan_word (free : ∀ c ∈ word, sep c = false) :
    IsSpan sep pos word span ↔ span ∈ close pos word.length := by
  constructor
  · rintro ⟨before, run, after, isRun, rfl⟩
    obtain ⟨rfl, rfl, rfl⟩ := isRun.of_word free
    simp [close, isRun.nonempty]
  · intro member
    unfold close at member
    split at member
    · cases member
    · next nonempty =>
        refine ⟨[], word, [], ?_, List.mem_singleton.mp member⟩
        exact
          { whole := by simp
            nonempty := by simpa using nonempty
            free := free
            left := by simp
            right := by simp }

theorem isSpan_append (ends : sep c) {first second : List α} :
    IsSpan sep pos (first ++ c :: second) span ↔
      IsSpan sep pos first span ∨ IsSpan sep (pos + first.length + 1) second span := by
  constructor
  · rintro ⟨before, word, after, run, rfl⟩
    rcases run.of_append ends with ⟨rest, -, part⟩ | ⟨rest, rfl, part⟩
    · exact .inl ⟨before, word, rest, part, rfl⟩
    · refine .inr ⟨rest, word, after, part, ?_⟩
      rw [List.length_append, List.length_cons]
      congr 1
      omega
  · rintro (⟨before, word, rest, run, rfl⟩ | ⟨rest, word, after, run, rfl⟩)
    · exact ⟨before, word, _, run.before_sep ends second, rfl⟩
    · refine ⟨_, word, after, run.behind_sep ends first, ?_⟩
      rw [List.length_append, List.length_cons]
      congr 1
      omega

/-- The spans of a text are those of its runs. -/
theorem mem_spans : span ∈ spans sep pos text ↔ IsSpan sep pos text span := by
  induction text using chop sep generalizing pos with
  | last word free => rw [isSpan_word free, spans_word free]
  | turn word c rest free ends ih =>
      rw [isSpan_append ends, spans_append ends, List.mem_append, ih, isSpan_word free,
        spans_word free]

theorem bounds_of_mem_spans (member : span ∈ spans sep pos text) :
    pos ≤ span.start ∧ span.start + span.size ≤ pos + text.length := by
  obtain ⟨before, word, after, run, rfl⟩ := mem_spans.mp member
  rw [run.whole, List.length_append, List.length_append]
  dsimp only
  omega

/-- The spans come in order, with something between any two. -/
theorem ordered_spans (sep : α → Bool) (pos : Nat) (text : List α) :
    (spans sep pos text).Pairwise fun first second => first.start + first.size < second.start := by
  induction text using chop sep generalizing pos with
  | last word free =>
      rw [spans_word free, close]
      split
      · exact List.Pairwise.nil
      · exact List.pairwise_singleton ..
  | turn word c rest free ends ih =>
      rw [spans_append ends, List.pairwise_append]
      refine ⟨?_, ih _, ?_⟩
      · rw [spans_word free, close]
        split
        · exact List.Pairwise.nil
        · exact List.pairwise_singleton ..
      · intro first early second late
        have before := (bounds_of_mem_spans early).2
        have behind := (bounds_of_mem_spans late).1
        omega

/-! ### The words -/

/-- The words of a text. -/
def words (sep : α → Bool) (text : List α) : List (List α) :=
  (spans sep 0 text).map (Span.of text)

@[simp] theorem words_nil : words sep ([] : List α) = [] := rfl

theorem words_gap (separates : ∀ c ∈ gap, sep c) : words sep gap = [] := by
  rw [words, spans_gap separates, List.map_nil]

theorem words_word (free : ∀ c ∈ word, sep c = false) (nonempty : word ≠ []) :
    words sep word = [word] := by
  simp [words, spans_single free nonempty, Span.of]

/-- The words of a text, found in a longer one. -/
theorem map_of_spans (before text after : List α) :
    (spans sep before.length text).map (Span.of (before ++ text ++ after)) = words sep text := by
  have shifted := @spans_shift _ sep 0 text before.length
  rw [Nat.add_zero] at shifted
  rw [shifted, List.map_map]
  apply List.map_congr_left
  intro span member
  rw [Function.comp_apply, List.append_assoc, Span.of_shift,
    Span.of_append (by simpa using (bounds_of_mem_spans member).2)]

/-- A separator keeps the words before and behind it apart. -/
theorem words_append (ends : sep c) (first second : List α) :
    words sep (first ++ c :: second) = words sep first ++ words sep second := by
  have early := @map_of_spans _ sep [] first (c :: second)
  have late := @map_of_spans _ sep (first ++ [c]) second []
  rw [List.nil_append, List.length_nil] at early
  rw [List.append_nil, List.append_assoc, List.length_append, List.length_singleton,
    List.singleton_append] at late
  rw [← early, ← late, ← List.map_append, words, spans_append ends, Nat.zero_add]

theorem words_sep (ends : sep c) (text : List α) : words sep (c :: text) = words sep text :=
  words_append ends [] text

/-- A text that is made of words and what is written between them. -/
def written (lead : List α) (pieces : List (List α × List α)) : List α :=
  lead ++ pieces.flatMap fun piece => piece.1 ++ piece.2

/-- Every word is something, and separators stand between any two. -/
structure WellWritten (sep : α → Bool) (lead : List α) (pieces : List (List α × List α)) :
    Prop where
  lead_separates : ∀ c ∈ lead, sep c
  gap_separates : ∀ piece ∈ pieces, ∀ c ∈ piece.2, sep c
  gap_nonempty : ∀ piece ∈ pieces.dropLast, piece.2 ≠ []
  word_free : ∀ piece ∈ pieces, ∀ c ∈ piece.1, sep c = false
  word_nonempty : ∀ piece ∈ pieces, piece.1 ≠ []

/-- Separators before a text do not matter. -/
theorem words_lead (separates : ∀ c ∈ gap, sep c) (text : List α) :
    words sep (gap ++ text) = words sep text := by
  induction gap with
  | nil => rfl
  | cons c gap ih =>
      rw [List.cons_append, words_sep (separates c List.mem_cons_self)]
      exact ih fun d member => separates d (List.mem_cons_of_mem _ member)

/-- A word with separators behind it is the first of a text. -/
theorem words_cons (free : ∀ c ∈ word, sep c = false) (nonempty : word ≠ [])
    (separates : ∀ c ∈ gap, sep c) (ends : gap ≠ [] ∨ text = []) :
    words sep (word ++ gap ++ text) = word :: words sep text := by
  cases gap with
  | nil =>
      obtain rfl := ends.resolve_left (by simp)
      simp [words_word free nonempty]
  | cons c gap =>
      rw [List.append_assoc, List.cons_append, words_append (separates c List.mem_cons_self),
        words_word free nonempty,
        words_lead fun d member => separates d (List.mem_cons_of_mem _ member)]
      rfl

/-- Words that are followed by the same separators each. -/
theorem words_lines {words_ : List (List α)} (free : ∀ word ∈ words_, ∀ c ∈ word, sep c = false)
    (nonempty : ∀ word ∈ words_, word ≠ []) (separates : ∀ c ∈ gap, sep c) (ends : gap ≠ [])
    (text : List α) :
    words sep (words_.flatMap (fun word => word ++ gap) ++ text) = words_ ++ words sep text := by
  induction words_ with
  | nil => rfl
  | cons word words_ ih =>
      rw [List.flatMap_cons, List.append_assoc,
        words_cons (free word List.mem_cons_self) (nonempty word List.mem_cons_self) separates
          (.inl ends),
        ih (fun other member => free other (List.mem_cons_of_mem _ member))
          fun other member => nonempty other (List.mem_cons_of_mem _ member)]
      rfl

theorem words_ne_nil (letter : ∃ c ∈ text, sep c = false) : words sep text ≠ [] := by
  simpa [words] using spans_ne_nil letter

theorem words_eq_nil_iff : words sep text = [] ↔ ∀ c ∈ text, sep c := by
  constructor
  · intro nothing c member
    by_contra letter
    exact words_ne_nil ⟨c, member, by simpa using letter⟩ nothing
  · exact words_gap

/-- A text that starts with a letter starts with the word up to its first separator. -/
theorem words_eq_takeWhile (starts : ∀ c, text.head? = some c → sep c = false)
    (nonempty : text ≠ []) :
    words sep text =
      text.takeWhile (fun c => !sep c) :: words sep (text.dropWhile fun c => !sep c) := by
  have free : ∀ c ∈ text.takeWhile (fun c => !sep c), sep c = false := by
    intro c member
    simpa using List.all_eq_true.mp List.all_takeWhile c member
  have first : text.takeWhile (fun c => !sep c) ≠ [] := by
    obtain ⟨c, text, rfl⟩ := List.exists_cons_of_ne_nil nonempty
    simp [starts c rfl]
  conv_lhs => rw [← List.takeWhile_append_dropWhile (p := fun c => !sep c) (l := text)]
  cases rest : text.dropWhile fun c => !sep c with
  | nil => simp [words_word free first]
  | cons c rest =>
      have ends : sep c := by
        have stops := List.head?_dropWhile_not (fun c => !sep c) text
        rw [rest] at stops
        simpa using stops
      rw [words_append ends, words_word free first, words_sep ends]
      rfl

namespace WellWritten

variable {lead : List α} {piece : List α × List α} {pieces : List (List α × List α)}

theorem tail (well : WellWritten sep lead (piece :: pieces)) : WellWritten sep [] pieces where
  lead_separates := by simp
  gap_separates other member := well.gap_separates other (List.mem_cons_of_mem _ member)
  gap_nonempty other member := well.gap_nonempty other <| by
    cases pieces with
    | nil => cases member
    | cons next pieces => exact List.mem_cons_of_mem _ member
  word_free other member := well.word_free other (List.mem_cons_of_mem _ member)
  word_nonempty other member := well.word_nonempty other (List.mem_cons_of_mem _ member)

end WellWritten

/-- The words of a text are those it was made of. -/
theorem words_written {lead : List α} {pieces : List (List α × List α)}
    (well : WellWritten sep lead pieces) :
    words sep (written lead pieces) = pieces.map Prod.fst := by
  rw [written, words_lead well.lead_separates]
  induction pieces generalizing lead with
  | nil => rfl
  | cons piece pieces ih =>
      have head : piece ∈ piece :: pieces := List.mem_cons_self
      have ends : piece.2 ≠ [] ∨ pieces.flatMap (fun piece => piece.1 ++ piece.2) = [] := by
        cases pieces with
        | nil => exact .inr rfl
        | cons next pieces => exact .inl (well.gap_nonempty piece List.mem_cons_self)
      rw [List.flatMap_cons, words_cons (well.word_free piece head) (well.word_nonempty piece head)
        (well.gap_separates piece head) ends, ih well.tail, List.map_cons]

end AmgiNetTools.Tokens
