import StringCatalog.Proofs.Text.Blank
import StringCatalog.Xml.Piece
import StringCatalog.Xml.Token

/-! # Escaped characters are read back

* **`Xml.IsEscape`** — a text that stands for one character.
* **`Xml.readPieces?_escapeText`, `Xml.readPieces?_escapeValue`** — what is written into an element
  or into an attribute is read back.
* **`Xml.isLegal_of_readPieces?`** — the characters that a legal text comes to are legal. -/

namespace StringCatalog.Xml

/-! ## Reading piece by piece -/

/-- `readPieces? plain [] = some []`. -/
theorem readPieces?_nil (plain : Char → Char) : readPieces? plain [] = some [] := by
  rw [readPieces?]

/-- All characters but `&` are pieces of their own. -/
theorem readPieces?_cons {plain : Char → Char} {c : Char} (h : c ≠ '&') (rest : List Char) :
    readPieces? plain (c :: rest) = (readPieces? plain rest).map (.char (plain c) :: ·) := by
  rw [readPieces?, if_neg (by simpa using h)]

/-- An `&` opens a reference, which ends at the next semicolon. -/
theorem readPieces?_reference {plain : Char → Char} {rest inner after : List Char} {piece : Piece}
    (cut : Text.cutAt? ';' rest = some (inner, after))
    (read : readReference? inner = some piece) :
    readPieces? plain ('&' :: rest) = (readPieces? plain after).map (piece :: ·) := by
  rw [readPieces?, if_pos (by rfl)]
  split
  · next missing => simp [cut] at missing
  · next found =>
    obtain ⟨rfl, rfl⟩ : _ = inner ∧ _ = after := by simpa [found] using cut
    simp only [read]

/-! ## Escaped characters -/

/-- **A text that stands for one character,** where characters that stand for themselves go through
a map. -/
inductive IsEscape (plain : Char → Char) (c : Char) : List Char → Prop
  | itself : c ≠ '&' → plain c = c → IsEscape plain c [c]
  | reference (inner : List Char) : ';' ∉ inner → readReference? inner = some (.char c) →
      IsEscape plain c ('&' :: inner ++ [';'])

/-- A text that stands for a character is read as that character. -/
theorem IsEscape.readPieces? {plain : Char → Char} {c : Char} {written : List Char}
    (h : IsEscape plain c written) (rest : List Char) :
    readPieces? plain (written ++ rest) = (readPieces? plain rest).map (.char c :: ·) := by
  cases h with
  | itself other same => rw [List.singleton_append, readPieces?_cons other, same]
  | reference inner new read =>
      rw [List.cons_append, List.cons_append, List.append_assoc, List.singleton_append]
      exact readPieces?_reference (Text.cutAt?_append new rest) read

/-- Texts that stand for characters are read as these characters. -/
theorem readPieces?_flatMap {plain : Char → Char} {escape : Char → List Char} {text : List Char}
    (h : ∀ c ∈ text, IsEscape plain c (escape c)) (rest : List Char) :
    readPieces? plain (text.flatMap escape ++ rest) =
      (readPieces? plain rest).map (text.map .char ++ ·) := by
  induction text with
  | nil => simp
  | cons c text ih =>
      rw [List.flatMap_cons, List.append_assoc, (h c List.mem_cons_self).readPieces?,
        ih fun d member => h d (List.mem_cons_of_mem c member), Option.map_map]
      rfl

/-- `escapeTextChar c` is read as `c`. -/
theorem isEscape_escapeTextChar (c : Char) : IsEscape lineFeed c (escapeTextChar c) := by
  unfold escapeTextChar
  split
  · exact .reference "amp".toList (by decide) (by decide)
  · exact .reference "lt".toList (by decide) (by decide)
  · exact .reference "gt".toList (by decide) (by decide)
  · exact .reference "#13".toList (by decide) (by decide)
  · next h1 _ _ h2 => exact .itself h1 (if_neg (by simpa using h2))

/-- `escapeValueChar c` is read as `c`. -/
theorem isEscape_escapeValueChar (c : Char) : IsEscape plainValueChar c (escapeValueChar c) := by
  unfold escapeValueChar
  split
  · exact .reference "amp".toList (by decide) (by decide)
  · exact .reference "lt".toList (by decide) (by decide)
  · exact .reference "gt".toList (by decide) (by decide)
  · exact .reference "quot".toList (by decide) (by decide)
  · exact .reference "#10".toList (by decide) (by decide)
  · exact .reference "#13".toList (by decide) (by decide)
  · exact .reference "#9".toList (by decide) (by decide)
  · next h1 _ _ _ h2 h3 h4 =>
    -- other blanks than a space have references, and a space stays what it is
    have other : c ≠ '\n' ∧ c ≠ '\r' ∧ c ≠ '\t' := ⟨h2, h3, h4⟩
    refine .itself h1 ?_
    by_cases space : c = ' ' <;> simp [plainValueChar, isBlank, space, other]

/-- **What is written into an element is read back.** -/
theorem readPieces?_escapeText (text rest : List Char) :
    readPieces? lineFeed (escapeText text ++ rest) =
      (readPieces? lineFeed rest).map (text.map .char ++ ·) :=
  readPieces?_flatMap (fun c _ => isEscape_escapeTextChar c) rest

/-- **What is written into an attribute is read back:**
`readPieces? plainValueChar (escapeValue text) = some (text.map .char)`. -/
theorem readPieces?_escapeValue (text : List Char) :
    readPieces? plainValueChar (escapeValue text) = some (text.map .char) := by
  have read := @readPieces?_flatMap plainValueChar escapeValueChar text
    (fun c _ => isEscape_escapeValueChar c) []
  simpa [readPieces?_nil, escapeValue] using read

/-! ## What escaped characters are made of -/

/-- `escapeText [] = []`. -/
@[simp] theorem escapeText_nil : escapeText [] = [] := rfl

/-- `escapeText (text ++ more) = escapeText text ++ escapeText more`. -/
@[simp] theorem escapeText_append (text more : List Char) :
    escapeText (text ++ more) = escapeText text ++ escapeText more :=
  List.flatMap_append

/-- `escapeText text ≠ []`: something is written for every text that is not empty. -/
theorem escapeText_ne_nil {text : List Char} (h : text ≠ []) : escapeText text ≠ [] := by
  cases text with
  | nil => exact absurd rfl h
  | cons c text =>
      have one : escapeTextChar c ≠ [] := by
        unfold escapeTextChar
        split <;> simp
      simp [escapeText, one]

/-- `d ≠ '<' ∧ d ≠ '>' ∧ d ≠ '\r' ∧ (d ∈ text ∨ isChar d)`: the characters of escaped text are
harmless. -/
theorem of_mem_escapeText {text : List Char} {d : Char} (h : d ∈ escapeText text) :
    d ≠ '<' ∧ d ≠ '>' ∧ d ≠ '\r' ∧ (d ∈ text ∨ isChar d) := by
  obtain ⟨c, member, h⟩ := List.mem_flatMap.1 h
  have here {word : List Char} (belongs : d ∈ word)
      (harmless : ∀ d ∈ word, d ≠ '<' ∧ d ≠ '>' ∧ d ≠ '\r' ∧ isChar d) :
      d ≠ '<' ∧ d ≠ '>' ∧ d ≠ '\r' ∧ (d ∈ text ∨ isChar d) := by
    obtain ⟨h1, h2, h3, h4⟩ := harmless d belongs
    exact ⟨h1, h2, h3, .inr h4⟩
  -- the characters with a reference are checked one by one, any other stands for itself
  unfold escapeTextChar at h
  split at h
  iterate 4 exact here h (by decide)
  obtain rfl : d = c := by simpa using h
  exact ⟨by assumption, by assumption, by assumption, .inl member⟩

/-- The characters of an escaped value are harmless. -/
theorem of_mem_escapeValue {text : List Char} {d : Char} (h : d ∈ escapeValue text) :
    d ≠ '<' ∧ d ≠ '>' ∧ d ≠ '"' ∧ d ≠ '\n' ∧ d ≠ '\r' ∧ (d ∈ text ∨ isChar d) := by
  obtain ⟨c, member, h⟩ := List.mem_flatMap.1 h
  have here {word : List Char} (belongs : d ∈ word)
      (harmless : ∀ d ∈ word, d ≠ '<' ∧ d ≠ '>' ∧ d ≠ '"' ∧ d ≠ '\n' ∧ d ≠ '\r' ∧ isChar d) :
      d ≠ '<' ∧ d ≠ '>' ∧ d ≠ '"' ∧ d ≠ '\n' ∧ d ≠ '\r' ∧ (d ∈ text ∨ isChar d) := by
    obtain ⟨h1, h2, h3, h4, h5, h6⟩ := harmless d belongs
    exact ⟨h1, h2, h3, h4, h5, .inr h6⟩
  unfold escapeValueChar at h
  split at h
  iterate 7 exact here h (by decide)
  obtain rfl : d = c := by simpa using h
  exact ⟨by assumption, by assumption, by assumption, by assumption, by assumption, .inl member⟩

/-- `(escapeText text).count '\n' = text.count '\n'`: escaped text has the line feeds of the
text. -/
theorem count_escapeText (text : List Char) : (escapeText text).count '\n' = text.count '\n' := by
  induction text with
  | nil => rfl
  | cons c text ih =>
      have one : (escapeTextChar c).count '\n' = [c].count '\n' := by
        unfold escapeTextChar
        split
        iterate 4 decide
        rfl
      rw [escapeText, List.flatMap_cons, List.count_append, ← escapeText, ih, one,
        ← List.count_append, List.singleton_append]

/-! ## Legal characters -/

/-- A number stands for a legal character, if for any. -/
theorem isChar_of_charOf? {number : Nat} {c : Char} (h : charOf? number = some c) : isChar c := by
  unfold charOf? at h
  by_cases valid : number.isValidChar
  · rw [dif_pos valid] at h
    obtain ⟨legal, same⟩ := Option.ite_none_right_eq_some.1 h
    exact Option.some.inj same ▸ legal
  · rw [dif_neg valid] at h
    cases h

/-- So does a reference. -/
theorem isChar_of_readReference? {inner : List Char} {c : Char}
    (h : readReference? inner = some (.char c)) : isChar c := by
  -- a decimal number, a hexadecimal one, or one of the names that need no declaration
  unfold readReference? at h
  split at h
  · simp only [Option.map_eq_some_iff, Option.bind_eq_some_iff, Piece.char.injEq] at h
    obtain ⟨_, ⟨_, _, found⟩, rfl⟩ := h
    exact isChar_of_charOf? found
  · simp only [Option.map_eq_some_iff, Option.bind_eq_some_iff, Piece.char.injEq] at h
    obtain ⟨_, ⟨_, _, found⟩, rfl⟩ := h
    exact isChar_of_charOf? found
  · split at h
    · next found =>
      obtain rfl : _ = c := by simpa using h
      unfold predefined? at found
      split at found <;> simp at found <;> subst found <;> decide
    · split at h <;> simp at h

/-- **The characters that a legal text comes to are legal.** -/
theorem isLegal_of_readPieces? {plain : Char → Char} (keeps : ∀ c, isChar c → isChar (plain c))
    {text : List Char} {pieces : List Piece} (legal : text.all isChar)
    (h : readPieces? plain text = some pieces) : ∀ c, Piece.char c ∈ pieces → isChar c := by
  fun_induction readPieces? plain text generalizing pieces with
  | case1 => simp_all
  | case2 => simp at h
  | case3 => simp at h
  -- a reference is read: what is behind its semicolon is a part of the text
  | case4 c rest isReference inner after cut shorter piece read ih =>
      obtain ⟨more, found, rfl⟩ := Option.map_eq_some_iff.1 h
      have legal : after.all isChar := by
        rw [List.all_cons, (Text.cutAt?_eq_some cut).1] at legal
        simp_all
      intro d member
      rcases List.mem_cons.1 member with rfl | member
      · exact isChar_of_readReference? read
      · exact ih legal found d member
  | case5 c rest isPlain ih =>
      obtain ⟨more, found, rfl⟩ := Option.map_eq_some_iff.1 h
      rw [List.all_cons, Bool.and_eq_true] at legal
      intro d member
      rcases List.mem_cons.1 member with same | member
      · cases same
        exact keeps c legal.1
      · exact ih legal.2 found d member

/-- `lineFeed` keeps a character legal. -/
theorem isChar_lineFeed {c : Char} (h : isChar c) : isChar (lineFeed c) := by
  unfold lineFeed
  split
  · decide
  · exact h

/-- So does `plainValueChar`. -/
theorem isChar_plainValueChar {c : Char} (h : isChar c) : isChar (plainValueChar c) := by
  unfold plainValueChar
  split
  · decide
  · exact h

end StringCatalog.Xml
