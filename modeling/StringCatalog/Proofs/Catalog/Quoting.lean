import Mathlib.Data.List.Forall2
import StringCatalog.Proofs.Catalog.Line
import StringCatalog.Proofs.Text.Search

/-! # Texts in the quotes of a catalog

* **`Catalog.escapeChars_eq_replace`** — a text is escaped by replacing characters throughout it.
* **`Catalog.hasBareQuote_iff`** — where a bare quote stands.
* **`Catalog.IsReadAs`** — a text in quotes that is read as a piece of text.
* **`Catalog.unescape_quotedLines`** — the lines of a text are read as its chunks, and so as the text. -/

namespace StringCatalog.Catalog

/-! ## Escapes -/

/-- **A text is escaped by four replacements, one after the other:** of backslashes, double quotes, tabs
and carriage returns. -/
theorem escapeChars_eq_replace (text : List Char) :
    escapeChars text = Text.replace ['\r'] ['\\', 'r'] (Text.replace ['\t'] ['\\', 't']
      (Text.replace ['"'] ['\\', '"'] (Text.replace ['\\'] ['\\', '\\'] text))) := by
  rw [escapeChars]
  simp only [Text.replace_singleton, List.flatMap_assoc]
  refine List.flatMap_congr fun c _ => ?_
  -- what an earlier replacement puts in is none of what the later ones look for
  unfold escapeChar
  split
  · rfl
  · rfl
  · rfl
  · rfl
  · next backslash quote tab carriageReturn =>
    have other : c ≠ '\\' ∧ c ≠ '"' ∧ c ≠ '\t' ∧ c ≠ '\r' :=
      ⟨backslash, quote, tab, carriageReturn⟩
    simp [other]

/-! ## Bare quotes -/

/-- A bare quote behind some text is one with another character than a backslash in front of it. -/
theorem hasBareQuote_getLast? {front text : List Char} :
    hasBareQuote (front.getLast? == some '\\') text = true ↔
      ∃ before after, text = before ++ '"' :: after ∧ (front ++ before).getLast? ≠ some '\\' := by
  induction text generalizing front with
  | nil => simp [hasBareQuote]
  | cons c rest ih =>
      have behind : (c == '\\') = ((front ++ [c]).getLast? == some '\\') := by simp
      rw [hasBareQuote, Bool.or_eq_true, behind, ih]
      constructor
      · rintro (first | ⟨before, after, rfl, other⟩)
        · obtain ⟨rfl, other⟩ : c = '"' ∧ front.getLast? ≠ some '\\' := by simpa using first
          exact ⟨[], rest, rfl, by simpa using other⟩
        · exact ⟨c :: before, after, rfl, by simpa using other⟩
      · rintro ⟨before, after, shape, other⟩
        cases before with
        | nil =>
            obtain ⟨rfl, rfl⟩ := List.cons.inj shape
            exact .inl (by simpa using other)
        | cons d before =>
            obtain ⟨rfl, rfl⟩ := List.cons.inj shape
            exact .inr ⟨before, after, rfl, by simpa using other⟩

/-- **A bare quote** is a double quote at the start of a text or behind another character than a backslash. -/
theorem hasBareQuote_iff {text : List Char} :
    hasBareQuote false text = true ↔
      ∃ before after, text = before ++ '"' :: after ∧ before.getLast? ≠ some '\\' :=
  @hasBareQuote_getLast? [] text

/-! ## Lines -/

/-- **A text in quotes that is read as a piece of text.** -/
structure IsReadAs (line piece : List Char) : Prop where
  /-- It stands between two double quotes. -/
  quoted : line = '"' :: (inner line ++ ['"'])
  /-- No bare one is found between them. -/
  closed : hasBareQuote false (inner line) = false
  /-- Each of those between them stands behind a backslash. -/
  quotes : ∀ before after, inner line = before ++ '"' :: after → before.getLast? = some '\\'
  /-- What is between them stands for the piece. -/
  text : unescape (inner line) = piece

/-- **A written piece is read as the piece.** -/
theorem isReadAs_quotedPiece (piece : List Char) : IsReadAs (quotedPiece piece).toList piece := by
  have inside : inner (quotedPiece piece).toList = pieceText piece := by
    rw [toList_quotedPiece]
    simp [inner]
  have closed : hasBareQuote false (inner (quotedPiece piece).toList) = false := by
    rw [inside, hasBareQuote_pieceText]
  exact {
    quoted := by rw [inside, toList_quotedPiece]
    closed
    quotes before after shape := by
      by_contra other
      rw [hasBareQuote_iff.2 ⟨before, after, shape, other⟩] at closed
      exact absurd closed (by decide)
    text := by rw [inside, unescape_pieceText] }

/-- What texts in quotes are read as, one behind the other. -/
theorem flatMap_unescape {lines pieces : List (List Char)} (h : List.Forall₂ IsReadAs lines pieces) :
    lines.flatMap (fun line => unescape (inner line)) = pieces.flatten := by
  induction h with
  | nil => rfl
  | cons read _ ih => rw [List.flatMap_cons, List.flatten_cons, read.text, ih]

/-- **The lines of a text are read as its chunks.** The line with the keyword may have nothing in its
quotes, and then stands for none of them. -/
theorem exists_isReadAs (keyword text : String) :
    ∃ first more pieces, (quotedLines keyword text).map String.toList =
        (keyword.toList ++ ' ' :: first) :: more ∧
      List.Forall₂ IsReadAs (first :: more) pieces ∧
      pieces.filter (· ≠ []) = Text.chunks text.toList := by
  unfold quotedLines
  split
  -- a text with line feeds opens with an empty piece, and its chunks follow one to a line
  · refine ⟨(quotedPiece []).toList, ((Text.chunks text.toList).map quotedPiece).map String.toList,
      [] :: Text.chunks text.toList, by simp [toList_quotedPiece, pieceText],
      .cons (isReadAs_quotedPiece []) ?_, ?_⟩
    · rw [List.forall₂_map_left_iff, List.forall₂_map_left_iff]
      exact List.forall₂_same.2 fun chunk _ => isReadAs_quotedPiece chunk
    · rw [List.filter_cons_of_neg (by simp), List.filter_eq_self]
      simpa using fun chunk => Text.ne_nil_of_mem_chunks
  · next single =>
    refine ⟨(quotedPiece text.toList).toList, [], [text.toList], by simp,
      .cons (isReadAs_quotedPiece text.toList) .nil, ?_⟩
    by_cases some : text.toList = []
    · rw [some]
      rfl
    · rw [Text.chunks_of_not_mem (by simpa using single) some]
      exact List.filter_cons_of_pos (by simpa using some)

/-- **Texts in quotes are read back exactly.** `escape text` makes four replacements. A text
`AreCut` in one way only, into `chunks` that make it up and have a line feed at most at their end.
`quotedLines keyword text` writes it behind its keyword in quoted texts, no bare quote among them,
that are read as these chunks (`IsReadAs`), beside an empty one; so `unescape` makes up the text of
them again. -/
theorem unescape_quotedLines (keyword text : String) :
    let chunks := Text.chunks text.toList
    (escape text).toList = Text.replace ['\r'] ['\\', 'r'] (Text.replace ['\t'] ['\\', 't']
      (Text.replace ['"'] ['\\', '"'] (Text.replace ['\\'] ['\\', '\\'] text.toList))) ∧
    (∀ pieces, Text.AreCut text.toList pieces ↔ pieces = chunks) ∧ chunks.flatten = text.toList ∧
    (∀ chunk ∈ chunks, chunk.count '\n' ≤ 1 ∧ '\n' ∉ chunk.dropLast) ∧
    ∃ first more pieces, (quotedLines keyword text).map String.toList =
        (keyword.toList ++ ' ' :: first) :: more ∧
      List.Forall₂ IsReadAs (first :: more) pieces ∧ pieces.filter (· ≠ []) = chunks ∧
      (first :: more).flatMap (fun line => unescape (inner line)) = text.toList := by
  intro chunks
  have whole : chunks.flatten = text.toList := Text.flatten_chunks text.toList
  refine ⟨?_, fun pieces => Text.areCut_iff, whole, fun chunk member => ?_, ?_⟩
  · rw [escape, String.toList_ofList, escapeChars_eq_replace]
  · have inside := Text.newline_not_mem_dropLast member
    refine ⟨?_, inside⟩
    obtain rfl | ⟨front, last, rfl⟩ := List.eq_nil_or_concat chunk
    · exact Nat.zero_le 1
    · rw [List.concat_eq_append, List.dropLast_concat] at inside
      rw [List.concat_eq_append, List.count_append, List.count_eq_zero_of_not_mem inside, Nat.zero_add]
      exact List.count_le_length
  · obtain ⟨first, more, pieces, lines, read, same⟩ := exists_isReadAs keyword text
    refine ⟨first, more, pieces, lines, read, same, ?_⟩
    rw [flatMap_unescape read, ← List.flatten_filter_ne_nil, same, whole]

end StringCatalog.Catalog
