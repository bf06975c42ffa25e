import Mathlib.Data.List.Induction
import StringCatalog.Proofs.Catalog.Assembly

/-! # The frame of a written catalog

What the lines of a catalog look like, whatever stands in the texts of its strings:

* **`Catalog.IsQuoted`** — a text between two double quotes that close exactly at its end.
* **`Catalog.IsText`** — a keyword with a quoted text, and lines that are only quoted texts.
* **`Catalog.Block`** — the lines of one string, part by part.
* **`Catalog.Block.Frames`** — what each part is made of.
* **`Catalog.split_render`** — a catalog cut at its line feeds is one block for each string, with an
  empty line behind it. -/

namespace StringCatalog.Catalog

/-! ## Quoted texts -/

/-- The number of backslashes at the end of a text. -/
def endingBackslashes (text : List Char) : Nat :=
  (text.reverse.takeWhile (· == '\\')).length

/-- **Whether a text escapes the character behind it:** it ends with an odd number of backslashes.
That is, `endingBackslashes text % 2 = 1`. -/
def Escapes (text : List Char) : Prop := endingBackslashes text % 2 = 1

/-- `¬Escapes []`: where there is no backslash, nothing is escaped. -/
theorem not_escapes_nil : ¬Escapes [] := by simp [Escapes, endingBackslashes]

/-- `Escapes (text ++ [c]) ↔ c = '\\' ∧ ¬Escapes text`: a backslash escapes what is behind it,
unless it is escaped itself. -/
theorem escapes_concat {text : List Char} {c : Char} :
    Escapes (text ++ [c]) ↔ c = '\\' ∧ ¬Escapes text := by
  unfold Escapes endingBackslashes
  rw [List.reverse_concat, List.takeWhile_cons]
  by_cases backslash : c = '\\'
  · simp only [backslash, beq_self_eq_true, ↓reduceIte, List.length_cons, true_and]
    omega
  · simp [backslash]

/-- **A text that may stand between double quotes.** -/
structure IsInQuotes (inside : List Char) : Prop where
  /-- It has no tab. -/
  tab : '\t' ∉ inside
  /-- It has no carriage return. -/
  carriageReturn : '\r' ∉ inside
  /-- It has no line feed. -/
  lineFeed : '\n' ∉ inside
  /-- Every double quote in it is escaped. -/
  quotes : ∀ before, before ++ ['"'] <+: inside → Escapes before
  /-- The double quote behind it is not. -/
  closes : ¬Escapes inside

/-- **A text between two double quotes** that close exactly at its end:
`∃ inside, line = '"' :: (inside ++ ['"']) ∧ IsInQuotes inside`. -/
def IsQuoted (line : List Char) : Prop :=
  ∃ inside, line = '"' :: (inside ++ ['"']) ∧ IsInQuotes inside

/-- Nothing at all can stand between quotes. -/
theorem isInQuotes_nil : IsInQuotes [] where
  tab := List.not_mem_nil
  carriageReturn := List.not_mem_nil
  lineFeed := List.not_mem_nil
  quotes before begins := by simp at begins
  closes := not_escapes_nil

/-- A character of its own goes on a text in quotes. -/
theorem IsInQuotes.concat {inside : List Char} (h : IsInQuotes inside) {c : Char}
    (plain : c ∉ ['\t', '\r', '\n', '"', '\\']) : IsInQuotes (inside ++ [c]) := by
  simp only [List.mem_cons, List.not_mem_nil, or_false, not_or] at plain
  obtain ⟨tab, carriageReturn, lineFeed, quote, backslash⟩ := plain
  exact {
    tab := by simp [h.tab, Ne.symm tab]
    carriageReturn := by simp [h.carriageReturn, Ne.symm carriageReturn]
    lineFeed := by simp [h.lineFeed, Ne.symm lineFeed]
    quotes before begins := by
      rcases List.prefix_concat_iff.1 begins with same | earlier
      · exact absurd (List.append_inj_right' same rfl) (by simpa using Ne.symm quote)
      · exact h.quotes before earlier
    closes := fun escapes => backslash (escapes_concat.1 escapes).1 }

/-- A character behind a backslash goes on a text in quotes. -/
theorem IsInQuotes.escaped {inside : List Char} (h : IsInQuotes inside) {c : Char}
    (plain : c ∉ ['\t', '\r', '\n']) : IsInQuotes (inside ++ ['\\', c]) := by
  simp only [List.mem_cons, List.not_mem_nil, or_false, not_or] at plain
  obtain ⟨tab, carriageReturn, lineFeed⟩ := plain
  have two : inside ++ ['\\', c] = (inside ++ ['\\']) ++ [c] := by simp
  have under : Escapes (inside ++ ['\\']) := escapes_concat.2 ⟨rfl, h.closes⟩
  exact {
    tab := by simp [h.tab, Ne.symm tab]
    carriageReturn := by simp [h.carriageReturn, Ne.symm carriageReturn]
    lineFeed := by simp [h.lineFeed, Ne.symm lineFeed]
    quotes before begins := by
      rw [two, List.prefix_concat_iff, List.prefix_concat_iff] at begins
      -- the double quote is the new character, the backslash before it, or an earlier one
      rcases begins with same | same | earlier
      · exact List.append_inj_left' same rfl ▸ under
      · exact absurd (List.append_inj_right' same rfl) (by decide)
      · exact h.quotes before earlier
    closes := fun escapes => (escapes_concat.1 (two ▸ escapes)).2 under }

/-- What is written for a character goes on a text in quotes. -/
theorem IsInQuotes.escapeChar {inside : List Char} (h : IsInQuotes inside) {c : Char}
    (other : c ≠ '\n') : IsInQuotes (inside ++ escapeChar c) := by
  -- four characters are written with a backslash, the last case is every other one
  unfold Catalog.escapeChar
  split
  · exact h.escaped (by decide)
  · exact h.escaped (by decide)
  · exact h.escaped (by decide)
  · exact h.escaped (by decide)
  · next backslash quote tab carriageReturn =>
    exact h.concat (by simp_all)

/-- **A written text without line feeds may stand between double quotes.** -/
theorem isInQuotes_escapeChars {text : List Char} (h : '\n' ∉ text) :
    IsInQuotes (escapeChars text) := by
  induction text using List.reverseRecOn with
  | nil => exact isInQuotes_nil
  | append_singleton text c ih =>
      rw [List.mem_append, not_or, List.mem_singleton] at h
      rw [escapeChars, List.flatMap_append, List.flatMap_singleton]
      exact (ih h.1).escapeChar (Ne.symm h.2)

/-- **A written piece is a quoted text,** if a line feed stands at most at its end. -/
theorem isQuoted_quotedPiece {piece : List Char} (h : '\n' ∉ piece.dropLast) :
    IsQuoted (quotedPiece piece).toList := by
  refine ⟨pieceText piece, toList_quotedPiece piece, ?_⟩
  unfold pieceText
  split
  · exact (isInQuotes_escapeChars h).escaped (by decide)
  · next last =>
    refine isInQuotes_escapeChars fun member => ?_
    rcases List.eq_nil_or_concat piece with rfl | ⟨front, c, rfl⟩
    · exact absurd member List.not_mem_nil
    · rw [List.concat_eq_append, List.dropLast_concat] at h
      rw [List.concat_eq_append, List.mem_append, List.mem_singleton] at member
      obtain rfl := member.resolve_left h
      exact last (by simp)

/-! ## Lines of a text -/

/-- **The lines of a text:** a keyword with a quoted text behind it, and lines that are only quoted
texts. -/
def IsText (keyword : String) (lines : List (List Char)) : Prop :=
  ∃ first more, lines = (keyword.toList ++ ' ' :: first) :: more ∧ IsQuoted first ∧
    ∀ line ∈ more, IsQuoted line

/-- **A text is written in lines of a text,** wherever it has line feeds. -/
theorem isText_quotedLines (keyword text : String) :
    IsText keyword ((quotedLines keyword text).map String.toList) := by
  unfold quotedLines
  split
  -- a text with line feeds opens with an empty piece, and its chunks follow one to a line
  · refine ⟨['"', '"'], ((Text.chunks text.toList).map quotedPiece).map String.toList, by simp,
      ⟨[], rfl, isInQuotes_nil⟩, ?_⟩
    simp only [List.map_map, List.mem_map]
    rintro _ ⟨chunk, member, rfl⟩
    exact isQuoted_quotedPiece (Text.newline_not_mem_dropLast member)
  · next single =>
    have none : '\n' ∉ text.toList := by simpa using single
    refine ⟨(quotedPiece text.toList).toList, [], ?_, isQuoted_quotedPiece fun member =>
      none (List.dropLast_subset _ member), by simp⟩
    simp

/-- **A row:** a line that is not empty and has no line feed in it. That is,
`line ≠ [] ∧ '\n' ∉ line`. -/
def IsRow (line : List Char) : Prop := line ≠ [] ∧ '\n' ∉ line

/-- A line in quotes is a row: it is not empty, and a line feed in it has its letter. -/
theorem IsQuoted.isRow {line : List Char} (h : IsQuoted line) : IsRow line := by
  obtain ⟨inside, rfl, known⟩ := h
  simp [IsRow, known.lineFeed]

/-- The lines of a text are rows, if the keyword has no line feed. -/
theorem IsText.isRow {keyword : String} (word : '\n' ∉ keyword.toList) {lines : List (List Char)}
    (h : IsText keyword lines) : ∀ line ∈ lines, IsRow line := by
  obtain ⟨first, more, rfl, quoted, others⟩ := h
  refine List.forall_mem_cons.2 ⟨?_, fun line member => (others line member).isRow⟩
  simp [IsRow, word, quoted.isRow.2]

/-! ## Lines of a remark -/

/-- **Lines behind a marker,** with a space between:
`∀ line ∈ lines, (marker ++ " ").toList <+: line`. -/
def AreMarked (marker : String) (lines : List (List Char)) : Prop :=
  ∀ line ∈ lines, (marker ++ " ").toList <+: line

/-- **A remark is written in rows behind its marker.** -/
theorem areMarked_commentLines {marker : String} (word : '\n' ∉ marker.toList)
    (remark : Option String) :
    AreMarked marker ((commentLines marker remark).map String.toList) ∧
      ∀ line ∈ (commentLines marker remark).map String.toList, IsRow line := by
  have each : ∀ line ∈ (commentLines marker remark).map String.toList,
      (marker ++ " ").toList <+: line ∧ '\n' ∉ line := by
    refine List.forall_mem_map.2 fun line member => ?_
    cases remark with
    | none => exact absurd member List.not_mem_nil
    | some remark =>
        rw [commentLines_eq_map] at member
        obtain ⟨text, inside, rfl⟩ := List.mem_map.1 member
        obtain ⟨whole, piece, -, rfl⟩ := exists_of_mem_remarkLines inside
        have none : '\n' ∉ Text.trimEnd whole := fun member => by
          simpa using Text.separates_of_mem_split piece '\n' (Text.trimEnd_subset whole member)
        exact ⟨by simp, by simp [word, none]⟩
  refine ⟨fun line member => (each line member).1, fun line member => ⟨fun empty => ?_,
    (each line member).2⟩⟩
  simpa [empty] using (each line member).1.length_le

/-- **References are written in rows behind their marker,** one after another. -/
theorem areMarked_referenceLines (references : List String) :
    AreMarked "#:" ((references.flatMap fun reference =>
        commentLines "#:" (some reference)).map String.toList) ∧
      ∀ line ∈ (references.flatMap fun reference =>
        commentLines "#:" (some reference)).map String.toList, IsRow line := by
  have each (reference : String) := @areMarked_commentLines "#:" (by decide) (some reference)
  rw [List.map_flatMap]
  constructor
  all_goals
    intro line member
    obtain ⟨reference, -, inside⟩ := List.mem_flatMap.1 member
  · exact (each reference).1 line inside
  · exact (each reference).2 line inside

/-! ## Blocks -/

/-- The keyword of a translation: the only one has no number. -/
def formKeyword (count number : Nat) : String :=
  if count = 1 then "msgstr" else "msgstr[" ++ toString number ++ "]"

/-- **The lines of one string, part by part.** -/
structure Block where
  /-- The remarks of translators. -/
  translators : List (List Char)
  /-- The remarks of developers. -/
  developers : List (List Char)
  /-- The references. -/
  references : List (List Char)
  /-- The flags. -/
  flags : List (List Char)
  /-- The untranslated text. -/
  id : List (List Char)
  /-- The untranslated plural. -/
  plural : List (List Char)
  /-- The translations with their numbers. -/
  forms : List (Nat × List (List Char))

namespace Block

/-- **The lines of a block,** in the order in which they stand. -/
def lines (block : Block) : List (List Char) :=
  block.translators ++ block.developers ++ block.references ++ block.flags ++ block.id ++
    block.plural ++ block.forms.flatMap Prod.snd

/-- **What the parts of a block are made of,** given the string that it is for. -/
structure Frames (block : Block) (string : Translatable) : Prop where
  /-- Remarks of translators stand behind their marker. -/
  translators : AreMarked "#" block.translators
  /-- Remarks of developers stand behind theirs. -/
  developers : AreMarked "#." block.developers
  /-- References stand behind theirs. -/
  references : AreMarked "#:" block.references
  /-- Flags stand behind theirs. -/
  flags : AreMarked "#," block.flags
  /-- There is the untranslated text. -/
  id : IsText "msgid" block.id
  /-- There is an untranslated plural exactly if the string has one. -/
  plural : if string.plural.isSome then IsText "msgid_plural" block.plural else block.plural = []
  /-- The numbers of translations ascend. -/
  ascending : (block.forms.map Prod.fst).Pairwise (· < ·)
  /-- They are those of the forms that are not open. -/
  numbers : ∀ number, number ∈ block.forms.map Prod.fst ↔
    ∃ text, (writtenForms string)[number]? = some (some text)
  /-- Each translation is a text under the keyword of its number. -/
  forms : ∀ form ∈ block.forms, IsText (formKeyword (writtenForms string).length form.1) form.2
  /-- No line is empty or has a line feed in it. -/
  rows : ∀ line ∈ block.lines, IsRow line

end Block

/-- Each translation is written under the keyword of its number. -/
theorem formLines_eq (string : Translatable) :
    formLines string = (writtenForms string).zipIdx.flatMap fun (form, number) =>
      openLines (formKeyword (writtenForms string).length number) form := by
  rw [formLines]
  generalize writtenForms string = forms
  rcases forms with _ | ⟨form, _ | ⟨second, more⟩⟩
  · rfl
  · simp [formKeyword]
  · simp [formKeyword]

/-- `'\n' ∉ (formKeyword count number).toList`: the keyword of a translation has no line feed. -/
theorem newline_not_mem_formKeyword (count number : Nat) : '\n' ∉ (formKeyword count number).toList := by
  unfold formKeyword
  split
  · decide
  · exact (isLine_formKeyword number).newline_not_mem

namespace Block

/-- The translations of a string with their numbers and lines, the open ones left out. -/
def formsOf (forms : List (Option String)) : List (Nat × List (List Char)) :=
  forms.zipIdx.filterMap fun (form, number) => form.map fun text =>
    (number, (quotedLines (formKeyword forms.length number) text).map String.toList)

/-- **The block of a string.** -/
def of (string : Translatable) : Block where
  translators := (commentLines "#" string.translatorComments).map String.toList
  developers := (commentLines "#." string.developerComments).map String.toList
  references := (string.references.flatMap fun reference =>
    commentLines "#:" (some reference)).map String.toList
  flags := (commentLines "#," string.formatHint).map String.toList
  id := (quotedLines "msgid" string.singular).map String.toList
  plural := (openLines "msgid_plural" string.plural).map String.toList
  forms := formsOf (writtenForms string)

/-- `(stanza string).map String.toList = (of string).lines ++ [[]]`: a stanza is its block and an
empty line. -/
theorem map_toList_stanza (string : Translatable) :
    (stanza string).map String.toList = (of string).lines ++ [[]] := by
  have forms : (formLines string).map String.toList = (of string).forms.flatMap Prod.snd := by
    rw [formLines_eq, of, formsOf, List.map_flatMap, List.filterMap_eq_flatMap_toList,
      List.flatMap_assoc]
    refine List.flatMap_congr fun entry _ => ?_
    obtain ⟨_ | text, number⟩ := entry <;> simp [openLines]
  rw [lines, ← forms]
  simp [stanza, of]

/-- `((formsOf forms).map Prod.fst).Pairwise (· < ·)`: the numbers of translations ascend. -/
theorem ascending_formsOf (forms : List (Option String)) :
    ((formsOf forms).map Prod.fst).Pairwise (· < ·) := by
  have ordered : forms.zipIdx.Pairwise fun first second => first.2 < second.2 := by
    have numbers := List.pairwise_lt_range' (s := 0) (n := forms.length)
    rwa [← List.zipIdx_map_snd, List.pairwise_map] at numbers
  rw [List.pairwise_map, formsOf, List.pairwise_filterMap]
  refine ordered.imp fun {first second} less found one other two => ?_
  obtain ⟨_, -, rfl⟩ := Option.map_eq_some_iff.1 one
  obtain ⟨_, -, rfl⟩ := Option.map_eq_some_iff.1 two
  exact less

/-- A translation of a block is one that is not open. -/
theorem mem_formsOf {forms : List (Option String)} {form : Nat × List (List Char)} :
    form ∈ formsOf forms ↔ ∃ text, forms[form.1]? = some (some text) ∧
      form.2 = (quotedLines (formKeyword forms.length form.1) text).map String.toList := by
  obtain ⟨number, lines⟩ := form
  simp only [formsOf, List.mem_filterMap, Prod.exists, List.mk_mem_zipIdx_iff_getElem?,
    Option.map_eq_some_iff, Prod.mk.injEq]
  constructor
  · rintro ⟨_, _, there, text, rfl, rfl, rfl⟩
    exact ⟨text, there, rfl⟩
  · rintro ⟨text, there, rfl⟩
    exact ⟨_, _, there, text, rfl, rfl, rfl⟩

/-- The numbers of translations are those of the forms that are not open. -/
theorem mem_map_fst_formsOf {forms : List (Option String)} {number : Nat} :
    number ∈ (formsOf forms).map Prod.fst ↔ ∃ text, forms[number]? = some (some text) := by
  rw [List.mem_map]
  constructor
  · rintro ⟨form, member, rfl⟩
    obtain ⟨text, there, -⟩ := mem_formsOf.1 member
    exact ⟨text, there⟩
  · rintro ⟨text, there⟩
    let form := (number, (quotedLines (formKeyword forms.length number) text).map String.toList)
    have member : form ∈ formsOf forms := mem_formsOf.2 ⟨text, there, rfl⟩
    exact ⟨form, member, rfl⟩

/-- The plural of a block is a text, if there is one. -/
theorem isText_plural_of (string : Translatable) :
    if string.plural.isSome then IsText "msgid_plural" (of string).plural
    else (of string).plural = [] := by
  cases plural : string.plural with
  | none => simp [of, plural, openLines]
  | some text =>
      rw [of, plural]
      exact isText_quotedLines "msgid_plural" text

/-- The translations of a block are texts. -/
theorem isText_of_mem_formsOf {forms : List (Option String)} {form : Nat × List (List Char)}
    (member : form ∈ formsOf forms) : IsText (formKeyword forms.length form.1) form.2 := by
  obtain ⟨text, -, same⟩ := mem_formsOf.1 member
  exact same ▸ isText_quotedLines _ text

/-- **The lines of a block are rows.** -/
theorem isRow_of_mem_lines {string : Translatable} {line : List Char}
    (member : line ∈ (of string).lines) : IsRow line := by
  simp only [lines, List.mem_append, List.mem_flatMap] at member
  rcases member with (((((member | member) | member) | member) | member) | member) |
    ⟨form, there, member⟩
  · exact (areMarked_commentLines (by decide) _).2 line member
  · exact (areMarked_commentLines (by decide) _).2 line member
  · exact (areMarked_referenceLines _).2 line member
  · exact (areMarked_commentLines (by decide) _).2 line member
  · exact (isText_quotedLines _ _).isRow (by decide) line member
  · have plural := isText_plural_of string
    split at plural
    · exact plural.isRow (by decide) line member
    · exact absurd (plural ▸ member) List.not_mem_nil
  · exact (isText_of_mem_formsOf there).isRow (newline_not_mem_formKeyword _ _) line member

/-- **The block of a string is made as it should be.** -/
theorem frames_of (string : Translatable) : (of string).Frames string where
  translators := (areMarked_commentLines (by decide) _).1
  developers := (areMarked_commentLines (by decide) _).1
  references := (areMarked_referenceLines _).1
  flags := (areMarked_commentLines (by decide) _).1
  id := isText_quotedLines "msgid" string.singular
  plural := isText_plural_of string
  ascending := ascending_formsOf _
  numbers _ := mem_map_fst_formsOf
  forms _ member := isText_of_mem_formsOf member
  rows _ member := isRow_of_mem_lines member

end Block

/-- **Lines that are written each with a line feed behind it** are the pieces between the line
feeds, and nothing is left behind the last of them:
`Text.split (· == '\n') (lines.flatMap (· ++ ['\n'])) = lines ++ [[]]`. -/
theorem split_lines {lines : List (List Char)} (h : ∀ line ∈ lines, '\n' ∉ line) :
    Text.split (· == '\n') (lines.flatMap (· ++ ['\n'])) = lines ++ [[]] := by
  induction lines with
  | nil => rfl
  | cons line lines ih =>
      rw [List.forall_mem_cons] at h
      have inside : ∀ c ∈ line, (c == '\n') = false := fun c member => by
        simpa using fun same : c = '\n' => h.1 (same ▸ member)
      rw [List.flatMap_cons, List.append_assoc, List.singleton_append,
        Text.split_append_cons inside rfl, ih h.2, List.cons_append]

/-- **A catalog cut at its line feeds** is one block that `Frames` each string, in the order of the
strings, with an empty line behind each: `Text.split (· == '\n') (render strings).toList` is the
lines of the blocks. Nothing else is there, whatever stands in the texts of the strings. -/
theorem split_render (strings : List Translatable) :
    ∃ blocks : List Block, List.Forall₂ Block.Frames blocks strings ∧
      Text.split (· == '\n') (render strings).toList =
        blocks.flatMap (fun block => block.lines ++ [[]]) ++ [[]] := by
  refine ⟨strings.map Block.of, ?_, ?_⟩
  · rw [List.forall₂_map_left_iff]
    exact List.forall₂_same.2 fun string _ => Block.frames_of string
  · have lines : (strings.flatMap stanza).map String.toList =
        (strings.map Block.of).flatMap fun block => block.lines ++ [[]] := by
      rw [List.map_flatMap, List.flatMap_map]
      exact List.flatMap_congr fun string _ => Block.map_toList_stanza string
    rw [toList_render, lines, split_lines]
    simp only [List.mem_flatMap, List.mem_map, List.mem_append, List.mem_singleton]
    rintro line ⟨_, ⟨string, -, rfl⟩, member | rfl⟩
    · exact ((Block.frames_of string).rows line member).2
    · exact List.not_mem_nil

end StringCatalog.Catalog
