import Mathlib.Data.List.TakeWhile
import Mathlib.Tactic.Common
import StringCatalog.Text.Blank
import StringCatalog.Text.Digit
import StringCatalog.Text.Line
import StringCatalog.Text.Search

/-! # Trimming and splitting

* **`Text.IsLine`** — a text without line boundaries.
* **`Text.trim_eq_self`** — a text that neither begins nor ends with a blank is trimmed already.
* **`Text.split_append_cons`, `Text.split_intercalate`** — splitting takes joined pieces apart again.
* **`Text.words_of_noBlank`** — a text without blanks is its own only word. -/

namespace StringCatalog.Text

/-- **A text without line boundaries:** `∀ c ∈ text, isLineBoundary c = false`. -/
def IsLine (text : List Char) : Prop := ∀ c ∈ text, isLineBoundary c = false

/-- A text that is not made of blanks alone: `isBlankText text = false`. -/
def HasInk (text : List Char) : Prop := isBlankText text = false

instance (text : List Char) : Decidable (IsLine text) :=
  inferInstanceAs (Decidable (∀ c ∈ text, isLineBoundary c = false))

instance (text : List Char) : Decidable (HasInk text) :=
  inferInstanceAs (Decidable (isBlankText text = false))

/-! ## Line boundaries and blanks -/

/-- `isBlank c = true`: every line boundary is a blank. -/
theorem isBlank_of_isLineBoundary {c : Char} (h : isLineBoundary c = true) : isBlank c = true := by
  simp only [isLineBoundary, isBlank, Bool.or_eq_true, Bool.and_eq_true, decide_eq_true_eq,
    beq_iff_eq] at h ⊢
  omega

/-- `isLineBoundary c = false`: a character that is no blank ends no line. -/
theorem isLineBoundary_of_not_isBlank {c : Char} (h : isBlank c = false) :
    isLineBoundary c = false := by
  by_contra boundary
  have blank := isBlank_of_isLineBoundary (by simpa using boundary)
  simp [blank] at h

/-- The empty text is a line. -/
@[simp] theorem isLine_nil : IsLine [] := by simp [IsLine]

/-- `IsLine (c :: text) ↔ isLineBoundary c = false ∧ IsLine text`. -/
@[simp] theorem isLine_cons {c : Char} {text : List Char} :
    IsLine (c :: text) ↔ isLineBoundary c = false ∧ IsLine text := by
  simp [IsLine]

/-- `IsLine (first ++ second) ↔ IsLine first ∧ IsLine second`. -/
@[simp] theorem isLine_append {first second : List Char} :
    IsLine (first ++ second) ↔ IsLine first ∧ IsLine second := by
  simp [IsLine, or_imp, forall_and]

/-- A part of a line is a line. -/
theorem IsLine.of_subset {part text : List Char} (h : IsLine text) (sub : part ⊆ text) :
    IsLine part :=
  fun c member => h c (sub member)

/-- `'\n' ∉ text`: a line has no line feed. -/
theorem IsLine.newline_not_mem {text : List Char} (h : IsLine text) : '\n' ∉ text := fun member =>
  absurd (h '\n' member) (by decide)

/-! ## Trimming -/

/-- `trimStart (c :: rest) = c :: rest`: a text that begins with no blank keeps its start. -/
theorem trimStart_cons {c : Char} (h : isBlank c = false) (rest : List Char) :
    trimStart (c :: rest) = c :: rest := by
  simp [trimStart, h]

/-- `trimStart (c :: rest) = trimStart rest`: a blank at the start is dropped. -/
theorem trimStart_cons_blank {c : Char} (h : isBlank c = true) (rest : List Char) :
    trimStart (c :: rest) = trimStart rest := by
  simp [trimStart, h]

/-- `trimEnd (front ++ [c]) = front ++ [c]`: a text that ends with no blank keeps its end. -/
theorem trimEnd_append_singleton {c : Char} (h : isBlank c = false) (front : List Char) :
    trimEnd (front ++ [c]) = front ++ [c] := by
  simp [trimEnd, h]

/-- **A text that neither begins nor ends with a blank is trimmed already:**
`trim (first :: back) = first :: back`. -/
theorem trim_eq_self {first last : Char} {front back : List Char}
    (shape : first :: back = front ++ [last]) (start : isBlank first = false)
    (finish : isBlank last = false) : trim (first :: back) = first :: back := by
  rw [trim, trimStart_cons start, shape, trimEnd_append_singleton finish]

/-- What is left at the end of a trimmed end is no blank. -/
theorem exists_of_trimEnd_ne_nil {text : List Char} (h : trimEnd text ≠ []) :
    ∃ front last, trimEnd text = front ++ [last] ∧ isBlank last = false := by
  unfold trimEnd at h ⊢
  cases kept : text.reverse.dropWhile isBlank with
  | nil => simp [kept] at h
  | cons last front =>
      refine ⟨front.reverse, last, by simp, ?_⟩
      have := List.head_dropWhile_not isBlank (l := text.reverse) (by simp [kept])
      simpa [kept] using this

/-- What is left at the start of a trimmed start is no blank. -/
theorem exists_of_trimStart_ne_nil {text : List Char} (h : trimStart text ≠ []) :
    ∃ first rest, trimStart text = first :: rest ∧ isBlank first = false := by
  unfold trimStart at h ⊢
  cases kept : text.dropWhile isBlank with
  | nil => exact absurd kept h
  | cons first rest =>
      refine ⟨first, rest, rfl, ?_⟩
      have := List.head_dropWhile_not isBlank (l := text) (by simp [kept])
      simpa [kept] using this

/-- `trimEnd (trimEnd text) = trimEnd text`: trimming the end twice is trimming it once. -/
@[simp] theorem trimEnd_trimEnd (text : List Char) : trimEnd (trimEnd text) = trimEnd text := by
  by_cases empty : trimEnd text = []
  · rw [empty]
    rfl
  · obtain ⟨front, last, shape, ink⟩ := exists_of_trimEnd_ne_nil empty
    rw [shape, trimEnd_append_singleton ink]

/-- `trimEnd text <+: text`: the end of a text is dropped, its start stays. -/
theorem trimEnd_begins (text : List Char) : trimEnd text <+: text := by
  rw [← List.reverse_suffix]
  simpa [trimEnd] using List.dropWhile_suffix (l := text.reverse) isBlank

/-- `trimEnd text ⊆ text`: trimming the end adds nothing. -/
theorem trimEnd_subset (text : List Char) : trimEnd text ⊆ text :=
  (trimEnd_begins text).subset

/-- `trimStart text ⊆ text`: trimming the start adds nothing. -/
theorem trimStart_subset (text : List Char) : trimStart text ⊆ text :=
  (List.dropWhile_suffix isBlank).subset

/-- `trim text ⊆ text`: trimming adds nothing. -/
theorem trim_subset (text : List Char) : trim text ⊆ text :=
  List.Subset.trans (trimEnd_subset _) (trimStart_subset text)

/-- `trim [] = []`. -/
@[simp] theorem trim_nil : trim [] = [] := rfl

/-- `trimEnd text = [] ↔ isBlankText text = true`: a text of blanks is trimmed to nothing. -/
theorem trimEnd_eq_nil_iff {text : List Char} : trimEnd text = [] ↔ isBlankText text = true := by
  simp [trimEnd, isBlankText, List.dropWhile_eq_nil_iff]

/-- What is left of a text that has more than blanks has more than blanks. -/
theorem HasInk.trimEnd {text : List Char} (h : HasInk text) : HasInk (trimEnd text) := by
  -- inside this namespace `trimEnd` alone would be the lemma itself
  have some : Text.trimEnd text ≠ [] := fun empty => by
    rw [trimEnd_eq_nil_iff, h] at empty
    exact Bool.noConfusion empty
  rw [HasInk, ← Bool.not_eq_true, ← trimEnd_eq_nil_iff, trimEnd_trimEnd]
  exact some

/-- `text ≠ []`: a text with more than blanks is not empty. -/
theorem HasInk.ne_nil {text : List Char} (h : HasInk text) : text ≠ [] := by
  rintro rfl
  exact absurd h (by decide)

/-- More behind a text that has more than blanks. -/
theorem HasInk.append_left {text : List Char} (h : HasInk text) (more : List Char) :
    HasInk (text ++ more) := by
  rw [HasInk, isBlankText] at h ⊢
  rw [List.all_append, h, Bool.false_and]

/-- A text that begins with no blank begins the same when it is trimmed. -/
theorem exists_trim_cons {c : Char} (h : isBlank c = false) (rest : List Char) :
    ∃ back, trim (c :: rest) = c :: back := by
  have ink : HasInk (c :: rest) := by simp [HasInk, isBlankText, h]
  have start := trimEnd_begins (c :: rest)
  rw [trim, trimStart_cons h]
  obtain ⟨first, back, shape⟩ := List.exists_cons_of_ne_nil ink.trimEnd.ne_nil
  rw [shape, List.cons_prefix_cons] at start
  exact ⟨back, by rw [shape, start.1]⟩

/-- `trimEnd (front ++ back) = front ++ trimEnd back`: the end of a text that has more than blanks
behind it. -/
theorem trimEnd_append {front back : List Char} (h : HasInk back) :
    trimEnd (front ++ back) = front ++ trimEnd back := by
  have kept : back.reverse.dropWhile isBlank ≠ [] := by
    simpa [Text.trimEnd] using h.trimEnd.ne_nil
  rw [Text.trimEnd, List.reverse_append, List.dropWhile_append]
  simp [Text.trimEnd, kept]

/-- A text has more than blanks if one of its characters is none. -/
theorem hasInk_of_mem {text : List Char} {c : Char} (member : c ∈ text) (h : isBlank c = false) :
    HasInk text := by
  rw [HasInk, isBlankText, List.all_eq_false]
  exact ⟨c, member, by simp [h]⟩

/-- A text that is trimmed to something has more than blanks. -/
theorem hasInk_of_trim_ne_nil {text : List Char} (h : trim text ≠ []) : HasInk text := by
  obtain ⟨front, last, shape, ink⟩ := @exists_of_trimEnd_ne_nil (trimStart text) h
  exact hasInk_of_mem (trim_subset text (by simp [trim, shape])) ink

/-- `trimEnd (c :: rest) = c :: trimEnd rest`: what stands behind a character that is no blank is
trimmed alone. -/
theorem trimEnd_cons {c : Char} (h : isBlank c = false) (rest : List Char) :
    trimEnd (c :: rest) = c :: trimEnd rest := by
  rw [trimEnd, List.reverse_cons, List.dropWhile_append]
  split
  · next none =>
    have empty : trimEnd rest = [] := by simpa [trimEnd] using none
    simp [h, empty]
  · simp [trimEnd]

/-- `trim (trimEnd text) = trim text`: blanks at the end make no difference to a trimmed text. -/
@[simp] theorem trim_trimEnd (text : List Char) : trim (trimEnd text) = trim text := by
  induction text with
  | nil => rfl
  | cons c rest ih =>
      cases ink : isBlank c with
      | false =>
          rw [trimEnd_cons ink, trim, trim, trimStart_cons ink, trimStart_cons ink, trimEnd_cons ink,
            trimEnd_trimEnd, trimEnd_cons ink]
      -- a blank in front is dropped by both sides, but only if something else is left behind it
      | true =>
          by_cases none : HasInk rest
          · have kept : trimEnd ([c] ++ rest) = [c] ++ trimEnd rest := trimEnd_append none
            rw [List.singleton_append, List.singleton_append] at kept
            rw [kept, trim, trim, trimStart_cons_blank ink, trimStart_cons_blank ink]
            exact ih
          · have blank : isBlankText (c :: rest) = true := by
              simpa [HasInk, isBlankText, ink] using none
            have noStart : trimStart (c :: rest) = [] := by
              simpa [trimStart, isBlankText, List.dropWhile_eq_nil_iff] using blank
            rw [trimEnd_eq_nil_iff.2 blank, trim, trim, noStart]
            rfl

/-- `trim (trim text) = trim text`: trimming twice is trimming once. -/
theorem trim_trim (text : List Char) : trim (trim text) = trim text := by
  by_cases none : trimStart text = []
  · have empty : trim text = [] := by rw [trim, none]; rfl
    rw [empty, trim_nil]
  · obtain ⟨first, rest, shape, ink⟩ := exists_of_trimStart_ne_nil none
    have kept : trim text = first :: trimEnd rest := by rw [trim, shape, trimEnd_cons ink]
    rw [kept, trim, trimStart_cons ink, trimEnd_cons ink, trimEnd_trimEnd]

/-- A trimmed text begins with no blank. -/
theorem exists_of_trim_eq_self {text : List Char} (trimmed : trim text = text) (some : text ≠ []) :
    ∃ first rest, text = first :: rest ∧ isBlank first = false := by
  have kept : trimStart text ≠ [] := fun none => some (by rw [← trimmed, trim, none]; rfl)
  obtain ⟨first, rest, shape, ink⟩ := exists_of_trimStart_ne_nil kept
  refine ⟨first, trimEnd rest, ?_, ink⟩
  rw [← trimmed, trim, shape, trimEnd_cons ink]

/-! ## Splitting -/

variable {separates : Char → Bool}

/-- `split separates text ≠ []`: also no text is one piece. -/
theorem split_ne_nil (text : List Char) : split separates text ≠ [] := by
  cases text with
  | nil => simp
  | cons c rest =>
      unfold split
      split
      · simp
      · split <;> simp

/-- **A piece is split off** from the separator behind it:
`split separates (piece ++ c :: rest) = piece :: split separates rest`. -/
theorem split_append_cons {piece rest : List Char} {c : Char}
    (inside : ∀ d ∈ piece, separates d = false) (h : separates c = true) :
    split separates (piece ++ c :: rest) = piece :: split separates rest := by
  induction piece with
  | nil => simp [split, h]
  | cons d piece ih =>
      have first : separates d = false := inside d List.mem_cons_self
      have others := ih fun e member => inside e (List.mem_cons_of_mem _ member)
      simp [split, first, others]

/-- **Two texts with a separator between them** are split one after the other. -/
theorem split_append (first rest : List Char) {c : Char} (h : separates c = true) :
    split separates (first ++ c :: rest) = split separates first ++ split separates rest := by
  induction first with
  | nil => exact split_append_cons (fun _ none => absurd none List.not_mem_nil) h
  | cons d first ih =>
      rw [List.cons_append, split, split, ih]
      split
      · rfl
      · cases pieces : split separates first with
        | nil => exact absurd pieces (split_ne_nil first)
        | cons piece pieces => rfl

/-- **A text has one piece more** than it has separators:
`(split separates text).length = text.countP separates + 1`. -/
theorem length_split (text : List Char) :
    (split separates text).length = text.countP separates + 1 := by
  induction text with
  | nil => rfl
  | cons d text ih =>
      rw [split, List.countP_cons]
      by_cases h : separates d = true
      · rw [if_pos h, if_pos h, List.length_cons, ih]
      · rw [if_neg h, if_neg h, Nat.add_zero, ← ih]
        cases pieces : split separates text with
        | nil => exact absurd pieces (split_ne_nil text)
        | cons piece pieces => rfl

/-- `split separates piece = [piece]`: a text without separators is its own only piece. -/
theorem split_of_forall {piece : List Char} (inside : ∀ d ∈ piece, separates d = false) :
    split separates piece = [piece] := by
  induction piece with
  | nil => simp
  | cons d piece ih =>
      have first : separates d = false := inside d List.mem_cons_self
      have others := ih fun e member => inside e (List.mem_cons_of_mem _ member)
      simp [split, first, others]

/-- **Splitting takes joined pieces apart again:**
`split separates ([c].intercalate pieces) = pieces`. -/
theorem split_intercalate {pieces : List (List Char)} {c : Char} (some : pieces ≠ [])
    (inside : ∀ piece ∈ pieces, ∀ d ∈ piece, separates d = false) (h : separates c = true) :
    split separates ([c].intercalate pieces) = pieces := by
  induction pieces with
  | nil => exact absurd rfl some
  | cons piece pieces ih =>
      have first := inside piece List.mem_cons_self
      cases pieces with
      | nil => simp [split_of_forall first]
      | cons second pieces =>
          have others := ih (by simp) fun p member => inside p (List.mem_cons_of_mem _ member)
          rw [List.intercalate_cons_cons, List.append_assoc, List.singleton_append,
            split_append_cons first h, others]

/-- One piece more stands behind what is between two of them. -/
theorem intercalate_concat (between : List Char) {pieces : List (List Char)} (some : pieces ≠ [])
    (last : List Char) :
    between.intercalate (pieces ++ [last]) = between.intercalate pieces ++ between ++ last := by
  induction pieces with
  | nil => exact absurd rfl some
  | cons piece pieces ih =>
      cases pieces with
      | nil => simp [List.intercalate_cons_cons]
      | cons second pieces =>
          rw [List.cons_append, List.cons_append, List.intercalate_cons_cons, ← List.cons_append,
            ih (by simp), List.intercalate_cons_cons]
          simp only [List.append_assoc]

/-- A piece of a text with one more character in front is an empty one, one of those behind it, or the
first of them with the character. -/
theorem cases_of_mem_split {d : Char} {rest piece : List Char}
    (member : piece ∈ split separates (d :: rest)) :
    piece = [] ∨ piece ∈ split separates rest ∨
      (separates d = false ∧ ∃ first ∈ split separates rest, piece = d :: first) := by
  by_cases h : separates d = true
  · simp only [split, h, ↓reduceIte, List.mem_cons] at member
    exact member.imp_right .inl
  · have small : separates d = false := by simpa using h
    cases pieces : split separates rest with
    | nil => exact absurd pieces (split_ne_nil rest)
    | cons first more =>
        simp only [split, small, pieces, Bool.false_eq_true, ↓reduceIte, List.mem_cons] at member
        rcases member with rfl | member
        · exact .inr (.inr ⟨small, first, List.mem_cons_self, rfl⟩)
        · exact .inr (.inl (List.mem_cons_of_mem first member))

/-- The pieces of a text have no separators. -/
theorem separates_of_mem_split {text piece : List Char} (member : piece ∈ split separates text) :
    ∀ c ∈ piece, separates c = false := by
  induction text generalizing piece with
  | nil => simp_all
  | cons d rest ih =>
      rcases cases_of_mem_split member with rfl | inside | ⟨small, first, inside, rfl⟩
      · simp
      · exact ih inside
      · exact List.forall_mem_cons.2 ⟨small, ih inside⟩

/-- `piece ⊆ text`: the pieces of a text are parts of it. -/
theorem subset_of_mem_split {text piece : List Char} (member : piece ∈ split separates text) :
    piece ⊆ text := by
  induction text generalizing piece with
  | nil => simp_all
  | cons d rest ih =>
      rcases cases_of_mem_split member with rfl | inside | ⟨-, first, inside, rfl⟩
      · simp
      · exact List.subset_cons_of_subset d (ih inside)
      · exact List.cons_subset_cons d (ih inside)

/-- **A text without blanks is its own only word:** `words text = [text]`. -/
theorem words_of_noBlank {text : List Char} (some : text ≠ [])
    (inside : ∀ c ∈ text, isBlank c = false) : words text = [text] := by
  simp [words, split_of_forall inside, some]

/-- The words of a text are not empty and have no blanks. -/
theorem of_mem_words {text word : List Char} (member : word ∈ words text) :
    word ≠ [] ∧ ∀ c ∈ word, isBlank c = false := by
  obtain ⟨piece, some⟩ := List.mem_filter.1 member
  exact ⟨by simpa using some, separates_of_mem_split piece⟩

/-! ## Searching -/

/-- `contains (c :: part) text = false`: a text does not occur in one that does not even have its
first character. -/
theorem contains_cons_of_not_mem {c : Char} {part text : List Char} (none : c ∉ text) :
    contains (c :: part) text = false := by
  induction text with
  | nil => rfl
  | cons d text ih =>
      rw [List.mem_cons, not_or] at none
      rw [contains, ih none.2, Bool.or_false]
      simp [List.isPrefixOf, none.1]

/-! ## Cutting -/

/-- `cutAt? c (before ++ c :: after) = some (before, after)`: a text is cut at the first separator
in it. -/
theorem cutAt?_append {c : Char} {before : List Char} (h : c ∉ before) (after : List Char) :
    cutAt? c (before ++ c :: after) = some (before, after) := by
  induction before with
  | nil => simp [cutAt?]
  | cons d before ih =>
      simp only [List.mem_cons, not_or] at h
      rw [List.cons_append, Text.cutAt?, if_neg (by simpa using Ne.symm h.1), ih h.2]
      rfl

/-- **What a text is cut into:** `text = before ++ c :: after ∧ c ∉ before`. -/
theorem cutAt?_eq_some {c : Char} {text before after : List Char}
    (h : cutAt? c text = some (before, after)) : text = before ++ c :: after ∧ c ∉ before := by
  induction text generalizing before with
  | nil => simp [cutAt?] at h
  | cons d rest ih =>
      -- the cut is here, or it is the cut of the rest with this character in front
      rw [cutAt?] at h
      split at h
      · next same =>
        obtain ⟨rfl, rfl⟩ : [] = before ∧ rest = after := by simpa using h
        simpa using same
      · next other =>
        simp only [Option.map_eq_some_iff, Prod.exists, Prod.mk.injEq] at h
        obtain ⟨more, _, cut, rfl, rfl⟩ := h
        obtain ⟨rfl, new⟩ := ih cut
        have : c ≠ d := fun same => other (by simp [same])
        simp [this, new]

/-- `after ⊆ text`: what stands behind a separator is a part of the text. -/
theorem cutAt?_subset {c : Char} {text before after : List Char}
    (h : cutAt? c text = some (before, after)) : after ⊆ text := by
  rw [(cutAt?_eq_some h).1]
  intro d member
  exact List.mem_append_right before (List.mem_cons_of_mem c member)

/-! ## Digits -/

/-- `value < 10`: a decimal digit is below ten. -/
theorem decimalValue?_lt {c : Char} {value : Nat} (h : decimalValue? c = some value) : value < 10 := by
  obtain ⟨start, found, rfl⟩ := Option.map_eq_some_iff.1 h
  have within := List.find?_some found
  simp only [Bool.and_eq_true, decide_eq_true_eq] at within
  omega

end StringCatalog.Text
