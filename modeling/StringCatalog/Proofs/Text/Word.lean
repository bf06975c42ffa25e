import StringCatalog.Proofs.Text.Blank

/-! # Words

* **`Text.split_eq_flatMap`** — a text may be split at some of its separators first.
* **`Text.words_append_cons`** — the words on the two sides of a blank are those of the whole.
* **`Text.words_trimEnd`** — blanks at the end of a text are in none of its words.
* **`Text.flatMap_words_split`** — the words of the lines of a text are its words. -/

namespace StringCatalog.Text

/-- **A text may be split at some of its separators first:** the pieces of its pieces are its own;
`split all text = (split some text).flatMap (split all)`. -/
theorem split_eq_flatMap {some all : Char → Bool} (h : ∀ c, some c = true → all c = true)
    (text : List Char) : split all text = (split some text).flatMap (split all) := by
  induction text with
  | nil => rfl
  | cons c rest ih =>
      by_cases first : some c = true
      · rw [split, split, if_pos (h c first), if_pos first, List.flatMap_cons, ih]
        rfl
      · -- the character goes in front of the first piece, which may be split on
        obtain ⟨piece, pieces, shape⟩ := List.exists_cons_of_ne_nil (@split_ne_nil _ rest)
        obtain ⟨word, words, inner⟩ := List.exists_cons_of_ne_nil (@split_ne_nil _ piece)
        have whole : split some (c :: rest) = (c :: piece) :: pieces := by
          rw [split, if_neg first, shape]
        rw [shape, List.flatMap_cons, inner] at ih
        rw [whole, List.flatMap_cons, split, split, ih, inner]
        by_cases second : all c = true
        · rw [if_pos second, if_pos second]
          rfl
        · rw [if_neg second, if_neg second]
          rfl

/-- **The words on the two sides of a blank** are those of the whole:
`words (first ++ c :: rest) = words first ++ words rest`. -/
theorem words_append_cons (first rest : List Char) {c : Char} (blank : isBlank c = true) :
    words (first ++ c :: rest) = words first ++ words rest := by
  rw [words, split_append first rest blank, List.filter_append]
  rfl

/-- `words text = []`: a text of blanks has no words. -/
theorem words_of_isBlankText {text : List Char} (blank : isBlankText text = true) :
    words text = [] := by
  induction text with
  | nil => rfl
  | cons c text ih =>
      rw [isBlankText, List.all_cons, Bool.and_eq_true] at blank
      have split := words_append_cons [] text blank.1
      rw [List.nil_append] at split
      rw [split, ih blank.2]
      rfl

/-- **Blanks at the end of a text** are in none of its words:
`words (trimEnd text) = words text`. -/
theorem words_trimEnd (text : List Char) : words (trimEnd text) = words text := by
  obtain ⟨blanks, whole⟩ := trimEnd_begins text
  have blank : isBlankText blanks = true := by
    by_contra ink
    have kept := @trimEnd_append (trimEnd text) blanks (by simpa [HasInk] using ink)
    rw [whole] at kept
    have none : trimEnd blanks = [] := by simpa using kept
    exact ink (trimEnd_eq_nil_iff.1 none)
  cases blanks with
  | nil => rw [← whole, List.append_nil, trimEnd_trimEnd]
  | cons c blanks =>
      rw [isBlankText, List.all_cons, Bool.and_eq_true] at blank
      have split := words_append_cons (trimEnd text) blanks blank.1
      rw [whole, words_of_isBlankText blank.2, List.append_nil] at split
      exact split.symm

/-- **The words of the pieces of a text** are its words, if the separators are blanks:
`(split separates text).flatMap words = words text`. -/
theorem flatMap_words_split {separates : Char → Bool} (h : ∀ c, separates c = true → isBlank c = true)
    (text : List Char) : (split separates text).flatMap words = words text := by
  have whole := split_eq_flatMap h text
  rw [words, whole, List.filter_flatMap]
  rfl

end StringCatalog.Text
