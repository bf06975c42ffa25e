import Mathlib.Data.List.Forall2
import Mathlib.Data.List.ReduceOption
import StringCatalog.Catalog.Assembly
import StringCatalog.Proofs.Catalog.Line

/-! # What a stanza says

* **`Catalog.IsLined`** — a string whose stanza has no line boundaries inside its lines.
* **`Catalog.IsReadable`** — a string whose stanza can be read line by line.
* **`Catalog.IsWritable`** — a string whose stanza also tells all of its texts apart.
* **`Catalog.toldStanza`** — what the lines of a stanza say, the empty one at its end aside.
* **`Catalog.exists_tells_stanza`** — they do say so.
* **`Catalog.isLine_of_mem_stanza`** — a stanza has no line boundaries inside its lines. -/

namespace StringCatalog.Catalog

/-! ## Remarks -/

/-- **The lines of a remark that are written:** those that have more than blanks, without the blanks
at their ends. -/
def remarkLines (remark : Option String) : List (List Char) :=
  match remark with
  | none => []
  | some remark =>
      ((Text.split (· == '\n') remark.toList).filter (!Text.isBlankText ·)).map Text.trimEnd

/-- A remark is written line by line. -/
theorem commentLines_eq_map (marker : String) (remark : Option String) :
    commentLines marker remark =
      (remarkLines remark).map fun line => marker ++ " " ++ String.ofList line := by
  cases remark with
  | none => rfl
  | some remark =>
      simp only [commentLines, remarkLines, List.map_map]
      -- line by line: one of blanks alone is passed on both sides
      induction Text.split (· == '\n') remark.toList with
      | nil => rfl
      | cons line lines ih =>
          rw [List.filterMap_cons, List.filter_cons, ih]
          cases blank : Text.isBlankText line <;> simp [commentLine?, blank]

/-- A written line of a remark is a line of the remark without the blanks at its end. -/
theorem exists_of_mem_remarkLines {remark : String} {line : List Char}
    (member : line ∈ remarkLines (some remark)) :
    ∃ whole ∈ Text.split (· == '\n') remark.toList, Text.HasInk whole ∧
      line = Text.trimEnd whole := by
  obtain ⟨whole, inside, rfl⟩ := List.mem_map.1 member
  obtain ⟨inside, ink⟩ := List.mem_filter.1 inside
  exact ⟨whole, inside, by simpa [Text.HasInk] using ink, rfl⟩

/-- `Text.HasInk line ∧ Text.trimEnd line = line`: a written line of a remark has more than blanks,
and none at its end. -/
theorem hasInk_of_mem_remarkLines {remark : Option String} {line : List Char}
    (member : line ∈ remarkLines remark) : Text.HasInk line ∧ Text.trimEnd line = line := by
  cases remark with
  | none => simp [remarkLines] at member
  | some remark =>
      obtain ⟨whole, -, ink, rfl⟩ := exists_of_mem_remarkLines member
      exact ⟨ink.trimEnd, Text.trimEnd_trimEnd whole⟩

/-- A text whose only line boundaries are line feeds:
`∀ c ∈ text.toList, Text.isLineBoundary c = true → c = '\n'`. -/
def HasLines (text : String) : Prop :=
  ∀ c ∈ text.toList, Text.isLineBoundary c = true → c = '\n'

instance (text : String) : Decidable (HasLines text) :=
  inferInstanceAs (Decidable (∀ c ∈ text.toList, Text.isLineBoundary c = true → c = '\n'))

/-- The pieces between line feeds have no line boundaries where those are the only ones. -/
theorem HasLines.isLine_of_mem_split {text : String} (h : HasLines text) {piece : List Char}
    (member : piece ∈ Text.split (· == '\n') text.toList) : Text.IsLine piece := by
  intro c inside
  -- the only boundary that a text may have is the one that it is split at
  by_contra boundary
  have newline := h c (Text.subset_of_mem_split member inside) (by simpa using boundary)
  have other := Text.separates_of_mem_split member c inside
  simp [newline] at other

/-- A written line of a remark has no line boundaries. -/
theorem HasLines.isLine_of_mem_remarkLines {text : String} (h : HasLines text) {line : List Char}
    (member : line ∈ remarkLines (some text)) : Text.IsLine line := by
  obtain ⟨whole, inside, -, rfl⟩ := exists_of_mem_remarkLines member
  exact (h.isLine_of_mem_split inside).of_subset (Text.trimEnd_subset whole)

/-! ## Texts -/

/-- What the lines of a text say, given what a keyword with a piece says. -/
def toldText (say : List Char → Line) (text : String) : List Line :=
  if text.toList.contains '\n' then
    say [] :: (Text.chunks text.toList).map .continuation
  else [say text.toList]

/-- What the lines of a text that may be open say. -/
def toldOpenText (say : List Char → Line) (text : Option String) : List Line :=
  text.elim [] (toldText say)

/-- **The lines of a text say the text.** -/
theorem tells_quotedLines {keyword : String} {say : List Char → Line}
    (tells : ∀ piece, Tells (keyword ++ " " ++ quotedPiece piece).toList (say piece))
    (text : String) :
    List.Forall₂ (fun line => Tells line.toList) (quotedLines keyword text) (toldText say text) := by
  unfold quotedLines toldText
  split
  -- a text with a line feed opens with an empty piece, and its chunks follow one to a line
  · refine .cons ?_ ?_
    · have empty : keyword ++ " \"\"" = keyword ++ " " ++ quotedPiece [] := by
        apply String.toList_injective
        simp [toList_quotedPiece, pieceText]
      exact empty ▸ tells []
    · rw [List.forall₂_map_left_iff, List.forall₂_map_right_iff]
      exact List.forall₂_same.2 fun piece _ => tells_continuation piece
  · exact .cons (tells _) .nil

/-- The lines of a text that may be open say the text. -/
theorem tells_openLines {keyword : String} {say : List Char → Line}
    (tells : ∀ piece, Tells (keyword ++ " " ++ quotedPiece piece).toList (say piece))
    (text : Option String) :
    List.Forall₂ (fun line => Tells line.toList) (openLines keyword text) (toldOpenText say text) := by
  cases text with
  | none => exact .nil
  | some text => exact tells_quotedLines tells text

/-- The lines of a plain text have no line boundaries. -/
theorem isLine_of_mem_quotedLines {keyword text : String} (word : Text.IsLine keyword.toList)
    (plain : Text.IsPlain text.toList) {line : String} (member : line ∈ quotedLines keyword text) :
    Text.IsLine line.toList := by
  have quote : Text.isLineBoundary '"' = false := by decide
  have space : Text.isLineBoundary ' ' = false := by decide
  unfold quotedLines at member
  split at member
  · rcases List.mem_cons.1 member with rfl | member
    · simp [word, quote, space]
    · obtain ⟨chunk, inside, rfl⟩ := List.mem_map.1 member
      have text := isLine_pieceText (plain.of_subset (Text.subset_of_mem_chunks inside))
        (Text.newline_not_mem_dropLast inside)
      simp [toList_quotedPiece, text, quote]
  -- a text on one line has no line feed at all, and so none before its end
  · next single =>
    obtain rfl := List.mem_singleton.1 member
    have text := isLine_pieceText plain fun inside =>
      single (by simpa using List.dropLast_subset _ inside)
    simp [toList_quotedPiece, text, word, quote, space]

/-! ## Stanzas -/

/-- The texts that a stanza has in quotes. -/
def quotedTexts (string : Translatable) : List String :=
  string.singular :: string.plural.toList ++ (writtenForms string).reduceOption

/-- The texts that a stanza has behind markers. -/
def remarkTexts (string : Translatable) : List String :=
  string.translatorComments.toList ++ string.developerComments.toList ++ string.references ++
    string.formatHint.toList

/-- **A string whose stanza has no line boundaries inside its lines.** -/
structure IsLined (string : Translatable) : Prop where
  /-- No quoted text ends a line inside its quotes. -/
  plain : ∀ text ∈ quotedTexts string, Text.IsPlain text.toList
  /-- Remarks have their lines behind line feeds. -/
  lined : ∀ remark ∈ remarkTexts string, HasLines remark

/-- **A string whose stanza can be read line by line.** -/
structure IsReadable (string : Translatable) : Prop where
  /-- There is an untranslated text. -/
  singular : string.singular ≠ ""
  /-- No form is open. -/
  closed : none ∉ writtenForms string
  /-- No quoted text ends a line inside its quotes. -/
  plain : ∀ text ∈ quotedTexts string, Text.IsPlain text.toList
  /-- Remarks have their lines behind line feeds. -/
  lined : ∀ remark ∈ remarkTexts string, HasLines remark

/-- A stanza that can be read line by line has no line boundaries inside its lines. -/
theorem IsReadable.isLined {string : Translatable} (h : IsReadable string) : IsLined string where
  plain := h.plain
  lined := h.lined

/-- **A string whose stanza tells all of its texts apart:** besides, there is no empty plural, and
no two forms have the same digit. -/
structure IsWritable (string : Translatable) : Prop where
  /-- There is an untranslated text. -/
  singular : string.singular ≠ ""
  /-- There is a plural text if there is a plural. -/
  plural : string.plural ≠ some ""
  /-- No form is open. -/
  closed : none ∉ writtenForms string
  /-- The number of a form is one digit. -/
  few : (writtenForms string).length ≤ 10
  /-- No quoted text ends a line inside its quotes. -/
  plain : ∀ text ∈ quotedTexts string, Text.IsPlain text.toList
  /-- Remarks have their lines behind line feeds. -/
  lined : ∀ remark ∈ remarkTexts string, HasLines remark

/-- A string whose stanza tells all of its texts apart can be read line by line. -/
theorem IsWritable.isReadable {string : Translatable} (h : IsWritable string) : IsReadable string where
  singular := h.singular
  closed := h.closed
  plain := h.plain
  lined := h.lined

/-- The lines of the places of a string. -/
def referenceLines (references : List String) : List (List Char) :=
  references.flatMap fun reference => remarkLines (some reference)

/-- What the remarks of a string tell behind those of translators. -/
def toldRemarks (string : Translatable) : List Line :=
  (remarkLines string.developerComments).map .extracted ++
  (referenceLines string.references).map (fun line => .references (Text.words line)) ++
  (remarkLines string.formatHint).map
    (fun line => .flags ((Text.split (· == ',') line).map Text.trim))

/-- What the lines of translations tell. -/
def toldForms (forms : List (Option String)) : List Line :=
  match forms with
  | [form] => toldOpenText (.keyword .message) form
  | forms =>
      (forms.zipIdx).flatMap fun (form, index) =>
        toldOpenText (.form (some (leadingDigit index))) form

/-- **What the lines of a stanza tell,** the empty one at its end aside. -/
def toldStanza (string : Translatable) : List Line :=
  (remarkLines string.translatorComments).map .comment ++ toldRemarks string ++
  toldText (.keyword .id) string.singular ++
  toldOpenText (.keyword .plural) string.plural ++
  toldForms (writtenForms string)

/-- The lines of a remark tell what they are made to tell. -/
theorem tells_commentLines {marker : String} {say : List Char → Line}
    (tells : ∀ line, Text.HasInk line → Text.trimEnd line = line →
      Tells (marker ++ " " ++ String.ofList line).toList (say line)) (remark : Option String) :
    List.Forall₂ (fun line => Tells line.toList) (commentLines marker remark)
      ((remarkLines remark).map say) := by
  rw [commentLines_eq_map, List.forall₂_map_left_iff, List.forall₂_map_right_iff]
  refine List.forall₂_same.2 fun line member => ?_
  obtain ⟨ink, trimmed⟩ := hasInk_of_mem_remarkLines member
  exact tells line ink trimmed

/-- The lines of references tell the places. -/
theorem tells_referenceLines (references : List String) :
    List.Forall₂ (fun line => Tells line.toList)
      (references.flatMap fun reference => commentLines "#:" (some reference))
      ((referenceLines references).map fun line => .references (Text.words line)) := by
  induction references with
  | nil => exact .nil
  | cons reference references ih =>
      rw [referenceLines, List.flatMap_cons, List.flatMap_cons, List.map_append]
      refine List.rel_append (tells_commentLines (fun line ink trimmed => ?_) _) ih
      simpa using tells_references ink trimmed

/-- The lines of numbered translations tell them. -/
theorem tells_numberedLines (forms : List (Option String)) (start : Nat) :
    List.Forall₂ (fun line => Tells line.toList)
      ((forms.zipIdx start).flatMap fun (form, index) =>
        openLines ("msgstr[" ++ toString index ++ "]") form)
      ((forms.zipIdx start).flatMap fun (form, index) =>
        toldOpenText (.form (some (leadingDigit index))) form) := by
  induction forms generalizing start with
  | nil => exact .nil
  | cons form forms ih =>
      rw [List.zipIdx_cons, List.flatMap_cons, List.flatMap_cons]
      exact List.rel_append (tells_openLines (tells_form start) form) (ih (start + 1))

/-- The lines of translations tell them. -/
theorem tells_formLines (string : Translatable) :
    List.Forall₂ (fun line => Tells line.toList) (formLines string)
      (toldForms (writtenForms string)) := by
  rw [formLines]
  generalize writtenForms string = forms
  match forms with
  | [] => exact .nil
  | [form] => exact tells_openLines (tells_keyword .message) form
  | first :: second :: more => exact tells_numberedLines (first :: second :: more) 0

/-- **A stanza is an empty line behind lines that tell what they are made to tell.** -/
theorem exists_tells_stanza (string : Translatable) :
    ∃ lines, stanza string = lines ++ [""] ∧
      List.Forall₂ (fun line => Tells line.toList) lines (toldStanza string) := by
  refine ⟨_, rfl, ?_⟩
  rw [toldStanza, toldRemarks, ← List.append_assoc, ← List.append_assoc]
  refine List.rel_append (List.rel_append (List.rel_append (List.rel_append (List.rel_append
    (List.rel_append ?_ ?_) ?_) ?_) ?_) ?_) ?_
  -- the parts of a stanza in the order in which they are written
  · exact tells_commentLines (fun line ink trimmed => by simpa using tells_comment ink trimmed) _
  · exact tells_commentLines (fun line ink trimmed => by simpa using tells_extracted ink trimmed) _
  · exact tells_referenceLines string.references
  · exact tells_commentLines (fun line ink trimmed => by simpa using tells_flags ink trimmed) _
  · exact tells_quotedLines (tells_keyword .id) string.singular
  · exact tells_openLines (tells_keyword .plural) string.plural
  · exact tells_formLines string

/-! ## No boundaries inside lines -/

/-- The lines of a remark have no line boundaries. -/
theorem isLine_of_mem_commentLines {marker : String} {remark : Option String}
    (word : Text.IsLine marker.toList) (lined : ∀ text ∈ remark, HasLines text) {line : String}
    (member : line ∈ commentLines marker remark) : Text.IsLine line.toList := by
  cases remark with
  | none => simp [commentLines] at member
  | some remark =>
      rw [commentLines_eq_map] at member
      obtain ⟨text, inside, rfl⟩ := List.mem_map.1 member
      have space : Text.isLineBoundary ' ' = false := by decide
      have rest := (lined remark rfl).isLine_of_mem_remarkLines inside
      simp [word, space, rest]

/-- The lines of a text that may be open have no line boundaries. -/
theorem isLine_of_mem_openLines {keyword : String} {text : Option String}
    (word : Text.IsLine keyword.toList) (plain : ∀ found ∈ text, Text.IsPlain found.toList)
    {line : String} (member : line ∈ openLines keyword text) : Text.IsLine line.toList := by
  cases text with
  | none => simp [openLines] at member
  | some text => exact isLine_of_mem_quotedLines word (plain text rfl) member

/-- The keyword of a form has no line boundary. -/
theorem isLine_formKeyword (index : Nat) :
    Text.IsLine ("msgstr[" ++ toString index ++ "]").toList := by
  have digits : Text.IsLine (Nat.toDigits 10 index) := by
    intro c member
    have digit := Nat.isDigit_of_mem_toDigits (by decide) (by decide) member
    simp only [Char.isDigit, Bool.and_eq_true, decide_eq_true_eq, ge_iff_le, UInt32.le_iff_toNat_le]
      at digit
    simp only [Text.isLineBoundary, Char.toNat]
    grind
  simp [digits]
  decide

/-- **The lines of a stanza have no line boundaries.** -/
theorem isLine_of_mem_stanza {string : Translatable} (h : IsLined string) {line : String}
    (member : line ∈ stanza string) : Text.IsLine line.toList := by
  have plain := h.plain
  have lined := h.lined
  simp only [quotedTexts, List.cons_append, List.mem_cons, List.mem_append, Option.mem_toList,
    or_imp, forall_and, forall_eq, List.reduceOption_mem_iff] at plain
  simp only [remarkTexts, List.mem_append, Option.mem_toList, or_imp, forall_and] at lined
  obtain ⟨singular, plural, forms⟩ := plain
  obtain ⟨⟨⟨translators, developers⟩, references⟩, hint⟩ := lined
  -- the same parts once more: each brings in the texts that it is made of
  simp only [stanza, List.mem_append, List.mem_singleton, List.mem_flatMap] at member
  rcases member with ((((((member | member) | ⟨reference, inside, member⟩) | member) | member) |
    member) | member) | rfl
  · exact isLine_of_mem_commentLines (by decide) translators member
  · exact isLine_of_mem_commentLines (by decide) developers member
  · exact isLine_of_mem_commentLines (by decide) (by simpa using references reference inside) member
  · exact isLine_of_mem_commentLines (by decide) hint member
  · exact isLine_of_mem_quotedLines (by decide) singular member
  · exact isLine_of_mem_openLines (by decide) plural member
  · rw [formLines] at member
    generalize writtenForms string = written at forms member
    split at member
    · exact isLine_of_mem_openLines (by decide) (by simpa [eq_comm] using forms) member
    · simp only [List.mem_flatMap, Prod.exists] at member
      obtain ⟨form, index, inside, member⟩ := member
      refine isLine_of_mem_openLines (isLine_formKeyword index) ?_ member
      rintro text rfl
      exact forms text (List.fst_mem_of_mem_zipIdx inside)
  · decide

end StringCatalog.Catalog
