import StringCatalog.Catalog.Line
import StringCatalog.Catalog.Stanza
import StringCatalog.Proofs.Text.Line

/-! # What the lines of a stanza say

* **`Catalog.unescape_pieceText`** — what is between the quotes of a written piece is read back.
* **`Catalog.Tells`** — a written line says something.
* **`Catalog.tells_keyword`, `Catalog.tells_form`, `Catalog.tells_continuation`** — the lines of texts.
* **`Catalog.tells_comment`, `Catalog.tells_extracted`, `Catalog.tells_references`,
  `Catalog.tells_flags`** — the lines of remarks. -/

namespace StringCatalog.Catalog

/-! ## Between the quotes -/

/-- `escapeChars [] = []`. -/
@[simp] theorem escapeChars_nil : escapeChars [] = [] := rfl

/-- `escapeChars (c :: text) = escapeChar c ++ escapeChars text`: each character is escaped
alone. -/
@[simp] theorem escapeChars_cons (c : Char) (text : List Char) :
    escapeChars (c :: text) = escapeChar c ++ escapeChars text := by
  simp [escapeChars]

/-- `unescape [] = []`. -/
@[simp] theorem unescape_nil : unescape [] = [] := by
  simp [unescape]

/-- `unescape ('\\' :: letter :: rest) = c :: unescape rest`: a backslash with a letter that stands
for a character. -/
theorem unescape_backslash {letter c : Char} (h : escaped? letter = some c) (rest : List Char) :
    unescape ('\\' :: letter :: rest) = c :: unescape rest := by
  simp [unescape, h]

/-- `unescape (c :: rest) = c :: unescape rest`: other characters than the backslash stand for
themselves. -/
theorem unescape_cons {c : Char} (h : c ≠ '\\') (rest : List Char) :
    unescape (c :: rest) = c :: unescape rest := by
  rw [unescape]
  rintro _ _ rfl
  exact absurd rfl h

/-- `unescape (escapeChar c ++ rest) = c :: unescape rest`: a written character is read back. -/
theorem unescape_escapeChar (c : Char) (rest : List Char) :
    unescape (escapeChar c ++ rest) = c :: unescape rest := by
  -- four characters are written with a backslash, the last case is every other one
  unfold escapeChar
  split
  · exact unescape_backslash rfl rest
  · exact unescape_backslash rfl rest
  · exact unescape_backslash rfl rest
  · exact unescape_backslash rfl rest
  · next backslash _ _ _ => exact unescape_cons backslash rest

/-- **A written text is read back:**
`unescape (escapeChars text ++ rest) = text ++ unescape rest`. -/
theorem unescape_escapeChars (text rest : List Char) :
    unescape (escapeChars text ++ rest) = text ++ unescape rest := by
  induction text with
  | nil => rfl
  | cons c text ih => rw [escapeChars_cons, List.append_assoc, unescape_escapeChar, ih,
      List.cons_append]

/-- `hasBareQuote behind (escapeChar c ++ rest) = false`: a written character has no bare quote. -/
theorem hasBareQuote_escapeChar {rest : List Char} (h : ∀ behind, hasBareQuote behind rest = false)
    (c : Char) (behind : Bool) : hasBareQuote behind (escapeChar c ++ rest) = false := by
  -- whatever stands behind a character, its escape leaves no quote without a backslash
  unfold escapeChar
  split
  · simp [hasBareQuote, h]
  · simp [hasBareQuote, h]
  · simp [hasBareQuote, h]
  · simp [hasBareQuote, h]
  · next quote _ _ =>
    have other : c ≠ '"' := quote
    simp [hasBareQuote, h, other]

/-- **A written text has no bare quote:**
`hasBareQuote behind (escapeChars text ++ rest) = false`. -/
theorem hasBareQuote_escapeChars {rest : List Char}
    (h : ∀ behind, hasBareQuote behind rest = false) (text : List Char) (behind : Bool) :
    hasBareQuote behind (escapeChars text ++ rest) = false := by
  induction text generalizing behind with
  | nil => exact h behind
  | cons c text ih =>
      rw [escapeChars_cons, List.append_assoc]
      exact hasBareQuote_escapeChar ih c behind

/-- What stands between the quotes of a piece. -/
def pieceText (piece : List Char) : List Char :=
  if piece.getLast? == some '\n' then escapeChars piece.dropLast ++ ['\\', 'n']
  else escapeChars piece

/-- `(quotedPiece piece).toList = '"' :: (pieceText piece ++ ['"'])`: a piece is what stands
between its quotes, in quotes. -/
theorem toList_quotedPiece (piece : List Char) :
    (quotedPiece piece).toList = '"' :: (pieceText piece ++ ['"']) := by
  simp [quotedPiece, pieceText]

/-- **A written piece is read back:** `unescape (pieceText piece) = piece`. -/
theorem unescape_pieceText (piece : List Char) : unescape (pieceText piece) = piece := by
  unfold pieceText
  split
  · next newline =>
    obtain ⟨front, rfl⟩ : ∃ front, piece = front ++ ['\n'] := by
      simpa [List.getLast?_eq_some_iff] using newline
    rw [List.dropLast_concat, unescape_escapeChars, unescape_backslash rfl, unescape_nil]
  · simpa using unescape_escapeChars piece []

/-- `hasBareQuote false (pieceText piece) = false`: a written piece has no bare quote. -/
theorem hasBareQuote_pieceText (piece : List Char) : hasBareQuote false (pieceText piece) = false := by
  unfold pieceText
  split
  · exact hasBareQuote_escapeChars (by simp [hasBareQuote]) _ _
  · simpa using @hasBareQuote_escapeChars [] (by simp [hasBareQuote]) piece false

/-- A written character of a plain text, other than a line feed, has no line boundary. -/
theorem isLine_escapeChar {c : Char} (plain : Text.isLineBoundary c = true → c = '\n' ∨ c = '\r')
    (h : c ≠ '\n') : Text.IsLine (escapeChar c) := by
  unfold escapeChar
  split <;> simp_all [Text.isLineBoundary]

/-- A written text without line feeds, if it is plain, has no line boundary. -/
theorem isLine_escapeChars {text : List Char} (plain : Text.IsPlain text) (h : '\n' ∉ text) :
    Text.IsLine (escapeChars text) := by
  induction text with
  | nil => simp
  | cons c text ih =>
      rw [escapeChars_cons, Text.isLine_append]
      rw [List.mem_cons, not_or] at h
      exact ⟨isLine_escapeChar (plain c List.mem_cons_self) (Ne.symm h.1),
        ih (fun d member => plain d (List.mem_cons_of_mem _ member)) h.2⟩

/-- **A written piece of a plain text has no line boundary.** -/
theorem isLine_pieceText {piece : List Char} (plain : Text.IsPlain piece)
    (h : '\n' ∉ piece.dropLast) : Text.IsLine (pieceText piece) := by
  unfold pieceText
  split
  · rw [Text.isLine_append]
    exact ⟨isLine_escapeChars (plain.of_subset (List.dropLast_subset piece)) h, by decide⟩
  -- only the last character can be a line feed, and here it is none
  · next last =>
    rcases List.eq_nil_or_concat piece with rfl | ⟨front, c, rfl⟩
    · simp
    · have other : c ≠ '\n' := by simpa using last
      refine isLine_escapeChars plain ?_
      simpa [Ne.symm other] using h

/-! ## Words of a line -/

/-- `(firstWord (c :: rest)).1 = c :: rest.takeWhile (!Text.isBlank ·)`: the first word of a text
that begins with no blank is not empty. -/
theorem firstWord_cons {c : Char} (ink : Text.isBlank c = false) (rest : List Char) :
    (firstWord (c :: rest)).1 = c :: rest.takeWhile (!Text.isBlank ·) := by
  simp [firstWord, ink]

/-- `firstWord (word ++ ' ' :: rest) = (word, Text.trimStart rest)`: the word before the first
space of a text, and what follows the blanks behind it. -/
theorem firstWord_append {word : List Char} (noBlank : ∀ c ∈ word, Text.isBlank c = false)
    (rest : List Char) : firstWord (word ++ ' ' :: rest) = (word, Text.trimStart rest) := by
  have pass : ∀ c ∈ word, (!Text.isBlank c) = true := fun c member => by simp [noBlank c member]
  have space : Text.isBlank ' ' = true := by decide
  rw [firstWord, List.takeWhile_append_of_pos pass, List.dropWhile_append_of_pos pass]
  simp [space, Text.trimStart]

/-- **A word with more than blanks behind it is the first of at least two.** -/
theorem pieces_append {word rest : List Char} (some : word ≠ [])
    (noBlank : ∀ c ∈ word, Text.isBlank c = false) (ink : Text.HasInk rest) :
    ∃ second more, pieces (word ++ ' ' :: rest) = word :: second :: more := by
  have kept : Text.trimStart rest ≠ [] := by
    intro empty
    rw [Text.HasInk, ← Bool.not_eq_true] at ink
    apply ink
    simpa [Text.trimStart, Text.isBlankText, List.dropWhile_eq_nil_iff] using empty
  -- the blanks behind the word are passed, so the second word begins with the first ink
  obtain ⟨c, tail, shape, first⟩ := Text.exists_of_trimStart_ne_nil kept
  have second := firstWord_cons first tail
  rw [pieces, firstWord_append noBlank, shape]
  simp [second, some]

/-- The first word of a text that begins with no blank. -/
theorem head?_pieces_cons {c : Char} (ink : Text.isBlank c = false) (rest : List Char) :
    (pieces (c :: rest)).head? = some (c :: rest.takeWhile (!Text.isBlank ·)) := by
  simp [pieces, firstWord_cons ink]

/-! ## Lines of texts -/

/-- Whether a line is a remark. -/
def Line.isRemark : Line → Bool
  | .comment _ | .extracted _ | .references _ | .flags _ => true
  | _ => false

/-- **A text is a line that says something.** -/
def Tells (text : List Char) (line : Line) : Prop :=
  ∃ word, Line.read text = some ⟨false, word, .ok (some line)⟩ ∧
    (word.head? == some '#') = line.isRemark

/-- The words that open the texts of an entry. -/
def Keyword.word : Keyword → String
  | .context => "msgctxt"
  | .id => "msgid"
  | .plural => "msgid_plural"
  | .message => "msgstr"

/-- `Keyword.ofWord? keyword.word.toList = some keyword`: a keyword is known by its word. -/
@[simp] theorem Keyword.ofWord?_word (keyword : Keyword) :
    Keyword.ofWord? keyword.word.toList = some keyword := by
  cases keyword <;> rfl

/-- `Keyword.ofWord? (c :: rest) = none`: every keyword begins with the same letter. -/
theorem Keyword.ofWord?_cons {c : Char} (h : c ≠ 'm') (rest : List Char) :
    Keyword.ofWord? (c :: rest) = none := by
  have other {more : List Char} {text : String} (shape : text.toList = 'm' :: more) :
      String.ofList (c :: rest) ≠ text := by
    rintro rfl
    rw [String.toList_ofList] at shape
    exact h (List.cons.inj shape).1
  unfold Keyword.ofWord?
  split
  · next equal => exact absurd equal (other rfl)
  · next equal => exact absurd equal (other rfl)
  · next equal => exact absurd equal (other rfl)
  · next equal => exact absurd equal (other rfl)
  · rfl

/-- `Text.trim (first :: (text ++ ['"'])) = first :: (text ++ ['"'])`: a line in quotes is
trimmed. -/
theorem trim_quoted {first : Char} (ink : Text.isBlank first = false) (text : List Char) :
    Text.trim (first :: (text ++ ['"'])) = first :: (text ++ ['"']) :=
  Text.trim_eq_self (List.cons_append).symm ink (by decide)

/-- A quoted text has more than blanks. -/
theorem hasInk_quoted (text : List Char) : Text.HasInk ('"' :: text) := by
  have quote : Text.isBlank '"' = false := by decide
  simp [Text.HasInk, Text.isBlankText, quote]

/-- `Line.read text = .some ⟨false, word, Line.readWords text (pieces text)⟩`: a trimmed line whose
first word is no mark for obsolete lines is read as it stands. -/
theorem read_of_trimmed {text word : List Char} (some : text ≠ []) (trimmed : Text.trim text = text)
    (first : (pieces text).head? = .some word) (noMark : word ≠ ['#', '~'])
    (noBar : word ≠ ['#', '~', '|']) :
    Line.read text = .some ⟨false, word, Line.readWords text (pieces text)⟩ := by
  simp [Line.read, trimmed, first, some, noMark, noBar]

/-- **A keyword with a piece in quotes.** -/
theorem tells_keyword (keyword : Keyword) (piece : List Char) :
    Tells (keyword.word ++ " " ++ quotedPiece piece).toList (.keyword keyword piece) := by
  have shape : (keyword.word ++ " " ++ quotedPiece piece).toList =
      keyword.word.toList ++ ' ' :: '"' :: (pieceText piece ++ ['"']) := by
    simp [toList_quotedPiece]
  have noBlank : ∀ c ∈ keyword.word.toList, Text.isBlank c = false := by
    cases keyword <;> decide
  have some : keyword.word.toList ≠ [] := by cases keyword <;> decide
  have noMark : keyword.word.toList ≠ ['#', '~'] := by cases keyword <;> decide
  have noBar : keyword.word.toList ≠ ['#', '~', '|'] := by cases keyword <;> decide
  have noSign : (keyword.word.toList.head? == .some '#') = false := by cases keyword <;> decide
  -- the line begins with a letter and ends with a quote: reading it trims nothing
  have trimmed : Text.trim (keyword.word.toList ++ ' ' :: '"' :: (pieceText piece ++ ['"'])) =
      keyword.word.toList ++ ' ' :: '"' :: (pieceText piece ++ ['"']) := by
    obtain ⟨c, rest, first⟩ := List.exists_cons_of_ne_nil some
    rw [first]
    simpa using trim_quoted (noBlank c (by simp [first])) (rest ++ ' ' :: '"' :: pieceText piece)
  obtain ⟨second, more, words⟩ := pieces_append some noBlank
    (hasInk_quoted (pieceText piece ++ ['"']))
  -- the quotes are cut off without a look at what they hold
  have inside : inner ('"' :: (pieceText piece ++ ['"'])) = pieceText piece := by simp [inner]
  refine ⟨keyword.word.toList, ?_, noSign⟩
  rw [shape, read_of_trimmed (by simp) trimmed (by rw [words, List.head?_cons]) noMark noBar, words]
  have space : Text.trimStart (' ' :: '"' :: (pieceText piece ++ ['"'])) =
      '"' :: (pieceText piece ++ ['"']) := by
    rw [Text.trimStart_cons_blank (by decide), Text.trimStart_cons (by decide)]
  simp [Line.readWords, Line.readKeyword, space, inside, hasBareQuote_pieceText, unescape_pieceText]

/-- **A piece in quotes alone.** -/
theorem tells_continuation (piece : List Char) :
    Tells (quotedPiece piece).toList (.continuation piece) := by
  have quote : Text.isBlank '"' = false := by decide
  have inside : inner ('"' :: (pieceText piece ++ ['"'])) = pieceText piece := by simp [inner]
  have first := head?_pieces_cons quote (pieceText piece ++ ['"'])
  refine ⟨'"' :: (pieceText piece ++ ['"']).takeWhile (!Text.isBlank ·), ?_, ?_⟩
  · rw [toList_quotedPiece, read_of_trimmed (by simp) (trim_quoted quote _) first (by simp) (by simp)]
    simp [Line.readWords, first, Keyword.ofWord?_cons (show '"' ≠ 'm' by decide), inside,
      hasBareQuote_pieceText, unescape_pieceText]
  · simp [Line.isRemark]

/-- No keyword has a bracket in it. -/
theorem Keyword.ofWord?_bracket {word : List Char} (bracket : '[' ∈ word) :
    Keyword.ofWord? word = none := by
  have other {text : String} (plain : '[' ∉ text.toList) : String.ofList word ≠ text := by
    rintro rfl
    rw [String.toList_ofList] at plain
    exact plain bracket
  unfold Keyword.ofWord?
  split
  · next equal => exact absurd equal (other (by decide))
  · next equal => exact absurd equal (other (by decide))
  · next equal => exact absurd equal (other (by decide))
  · next equal => exact absurd equal (other (by decide))
  · rfl

/-- **The digit by which the number of a translation is read:** the first one that is written. -/
def leadingDigit (index : Nat) : Nat :=
  ((Nat.toDigits 10 index).head?.bind Text.decimalValue?).getD 0

/-- `leadingDigit index = index`: a number below ten is its own digit. -/
theorem leadingDigit_of_lt {index : Nat} (h : index < 10) : leadingDigit index = index := by
  -- ten cases, each of them evaluated
  revert index
  decide

/-- What is known of a decimal digit. -/
theorem of_isDigit {c : Char} (h : c.isDigit) :
    Text.isBlank c = false ∧ c ≠ '"' ∧ ∃ value, Text.decimalValue? c = some value := by
  have code : 48 ≤ c.toNat ∧ c.toNat ≤ 57 := by
    simp only [Char.isDigit, Bool.and_eq_true, decide_eq_true_eq, UInt32.le_iff_toNat_le,
      ge_iff_le] at h
    change 48 ≤ c.val.toNat ∧ c.val.toNat ≤ 57
    simpa using h
  refine ⟨?_, ?_, c.toNat - 48, ?_⟩
  · simp only [Text.isBlank]
    grind
  · rintro rfl
    exact absurd code.1 (by decide)
  · simp [Text.decimalValue?, Text.decimalZeros, code]

/-- The digits of a number begin with the one by which it is read. -/
theorem exists_toDigits (index : Nat) : ∃ c rest, Nat.toDigits 10 index = c :: rest ∧
    Text.decimalValue? c = some (leadingDigit index) := by
  obtain ⟨c, rest, shape⟩ := List.exists_cons_of_ne_nil (@Nat.toDigits_ne_nil index 10)
  have digit : c.isDigit :=
    Nat.isDigit_of_mem_toDigits (by decide) (by decide) (shape ▸ List.mem_cons_self)
  obtain ⟨-, -, value, read⟩ := of_isDigit digit
  refine ⟨c, rest, shape, ?_⟩
  rw [leadingDigit, shape, List.head?_cons, Option.bind_some, read, Option.getD_some]

/-- **A number with a piece in quotes.** Of the number only the first digit is read. -/
theorem tells_form (index : Nat) (piece : List Char) :
    Tells ("msgstr[" ++ toString index ++ "]" ++ " " ++ quotedPiece piece).toList
      (.form (some (leadingDigit index)) piece) := by
  obtain ⟨c, digits, number, value⟩ := exists_toDigits index
  have known : ∀ d ∈ c :: digits, Text.isBlank d = false ∧ d ≠ '"' := fun d member =>
    have digit := of_isDigit (Nat.isDigit_of_mem_toDigits (by decide) (by decide) (number ▸ member))
    ⟨digit.1, digit.2.1⟩
  -- the keyword stays a variable, so that the lemmas on words apply to it as it stands
  obtain ⟨keyword, word⟩ : ∃ keyword, "msgstr[".toList ++ (c :: digits) ++ [']'] = keyword := ⟨_, rfl⟩
  have shape : ("msgstr[" ++ toString index ++ "]" ++ " " ++ quotedPiece piece).toList =
      keyword ++ ' ' :: '"' :: (pieceText piece ++ ['"']) := by
    simp [toList_quotedPiece, number, ← word]
  have noKeyword : Keyword.ofWord? keyword = none := Keyword.ofWord?_bracket (by simp [← word])
  have noBlank : ∀ d ∈ keyword, Text.isBlank d = false := by
    simp only [← word, List.mem_append, or_imp, forall_and]
    exact ⟨⟨by decide, fun d member => (known d member).1⟩, by decide⟩
  have noQuote : '"' ∉ keyword ++ [' '] := by
    simp only [← word, List.mem_append, not_or]
    exact ⟨⟨⟨by decide, fun member => (known _ member).2 rfl⟩, by decide⟩, by decide⟩
  obtain ⟨second, more, words⟩ := pieces_append (by simp [← word]) noBlank
    (hasInk_quoted (pieceText piece ++ ['"']))
  have trimmed : Text.trim (keyword ++ ' ' :: '"' :: (pieceText piece ++ ['"'])) =
      keyword ++ ' ' :: '"' :: (pieceText piece ++ ['"']) := by
    simpa [← word] using trim_quoted (show Text.isBlank 'm' = false by decide)
      ("sgstr[".toList ++ (c :: digits) ++ "] \"".toList ++ pieceText piece)
  have behind : Text.cutAt? '"' (keyword ++ ' ' :: '"' :: (pieceText piece ++ ['"'])) =
      some (keyword ++ [' '], pieceText piece ++ ['"']) := by
    simpa using Text.cutAt?_append noQuote (pieceText piece ++ ['"'])
  have form : Line.readForm (keyword ++ ' ' :: '"' :: (pieceText piece ++ ['"'])) =
      .form (some (leadingDigit index)) piece := by
    rw [Line.readForm, behind]
    simp [← word, value, unescape_pieceText]
  have start : "msgstr[".toList.isPrefixOf
      (keyword ++ ' ' :: '"' :: (pieceText piece ++ ['"'])) = true := by
    simp [← word]
  refine ⟨keyword, ?_, by simp [← word, Line.isRemark]⟩
  rw [shape, read_of_trimmed (by simp) trimmed (by rw [words, List.head?_cons])
    (by simp [← word]) (by simp [← word]), words, Line.readWords]
  simp only [List.headD_cons, noKeyword, form, start, ↓reduceIte]
  simp [← word]

/-! ## Lines of remarks -/

/-- The line of a remark, given what stands behind the number sign. -/
theorem read_remark (sign : List Char) {line : List Char} (noBlank : ∀ c ∈ sign, Text.isBlank c = false)
    (noMark : sign ≠ ['~']) (noBar : sign ≠ ['~', '|']) (ink : Text.HasInk line)
    (trimmed : Text.trimEnd line = line) :
    ∃ second more, Line.read (('#' :: sign) ++ ' ' :: line) = some ⟨false, '#' :: sign,
      Line.readWords (('#' :: sign) ++ ' ' :: line) (('#' :: sign) :: second :: more)⟩ := by
  have all : ∀ c ∈ '#' :: sign, Text.isBlank c = false :=
    List.forall_mem_cons.2 ⟨by decide, noBlank⟩
  obtain ⟨second, more, words⟩ := pieces_append (by simp) all ink
  -- a remark is not trimmed at its start: the blank behind the sign is followed by all of it
  obtain ⟨front, last, shape, final⟩ := Text.exists_of_trimEnd_ne_nil (trimmed ▸ ink.ne_nil)
  rw [trimmed] at shape
  have whole : Text.trim (('#' :: sign) ++ ' ' :: line) = ('#' :: sign) ++ ' ' :: line :=
    Text.trim_eq_self (show '#' :: (sign ++ ' ' :: line) = ('#' :: sign ++ ' ' :: front) ++ [last]
      by simp [shape]) (by decide) final
  refine ⟨second, more, ?_⟩
  rw [read_of_trimmed (by simp) whole (by rw [words, List.head?_cons]) (by simpa using noMark)
    (by simpa using noBar), words]

variable {line : List Char}

/-- **A remark of translators.** -/
theorem tells_comment (ink : Text.HasInk line) (trimmed : Text.trimEnd line = line) :
    Tells ('#' :: ' ' :: line) (.comment line) := by
  obtain ⟨second, more, read⟩ := read_remark [] (by simp) (by simp) (by simp) ink trimmed
  have noKeyword : Keyword.ofWord? ['#'] = none := rfl
  refine ⟨['#'], ?_, rfl⟩
  rw [show '#' :: ' ' :: line = ['#'] ++ ' ' :: line from rfl, read]
  simp [Line.readWords, noKeyword, Line.isCommentWord, Line.commentText]

/-- **A remark of developers.** -/
theorem tells_extracted (ink : Text.HasInk line) (trimmed : Text.trimEnd line = line) :
    Tells ('#' :: '.' :: ' ' :: line) (.extracted line) := by
  obtain ⟨second, more, read⟩ :=
    read_remark ['.'] (by decide) (by simp) (by simp) ink trimmed
  have noKeyword : Keyword.ofWord? ['#', '.'] = none := rfl
  refine ⟨['#', '.'], ?_, rfl⟩
  rw [show '#' :: '.' :: ' ' :: line = ['#', '.'] ++ ' ' :: line from rfl, read]
  simp [Line.readWords, noKeyword, Line.isCommentWord]

/-- **Places in the program.** -/
theorem tells_references (ink : Text.HasInk line) (trimmed : Text.trimEnd line = line) :
    Tells ('#' :: ':' :: ' ' :: line) (.references (Text.words line)) := by
  obtain ⟨second, more, read⟩ :=
    read_remark [':'] (by decide) (by simp) (by simp) ink trimmed
  have noKeyword : Keyword.ofWord? ['#', ':'] = none := rfl
  refine ⟨['#', ':'], ?_, rfl⟩
  rw [show '#' :: ':' :: ' ' :: line = ['#', ':'] ++ ' ' :: line from rfl, read]
  simp [Line.readWords, noKeyword]

/-- **Flags.** -/
theorem tells_flags (ink : Text.HasInk line) (trimmed : Text.trimEnd line = line) :
    Tells ('#' :: ',' :: ' ' :: line) (.flags ((Text.split (· == ',') line).map Text.trim)) := by
  obtain ⟨second, more, read⟩ :=
    read_remark [','] (by decide) (by simp) (by simp) ink trimmed
  have noKeyword : Keyword.ofWord? ['#', ','] = none := rfl
  refine ⟨['#', ','], ?_, rfl⟩
  rw [show '#' :: ',' :: ' ' :: line = ['#', ','] ++ ' ' :: line from rfl, read]
  simp [Line.readWords, noKeyword]

end StringCatalog.Catalog
