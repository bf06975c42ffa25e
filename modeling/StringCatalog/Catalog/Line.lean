import StringCatalog.Catalog.Fault
import StringCatalog.Text.Blank
import StringCatalog.Text.Digit
import StringCatalog.Text.Search

/-! # Lines of a catalog

* **`Catalog.Line`** — what one line of a catalog says.
* **`Catalog.Line.read`** — reads a line; blank lines and empty remarks say nothing.
* **`Catalog.unescape`** — the text inside the quotes of a catalog. -/

namespace StringCatalog.Catalog

/-! ## Texts -/

/-- The character that a letter after a backslash stands for. -/
def escaped? : Char → Option Char
  | '\\' => some '\\'
  | '"' => some '"'
  | 'n' => some '\n'
  | 't' => some '\t'
  | 'r' => some '\r'
  | 'v' => some '\x0b'
  | 'b' => some '\x08'
  | 'f' => some '\x0c'
  | _ => none

/-- **The text inside the quotes of a catalog.** A backslash before another letter stays. -/
def unescape : List Char → List Char
  | [] => []
  | '\\' :: c :: rest =>
      match escaped? c with
      | some d => d :: unescape rest
      | none => '\\' :: unescape (c :: rest)
  | c :: rest => c :: unescape rest
termination_by text => text.length

/-- A text without its first and its last character. -/
def inner (text : List Char) : List Char :=
  (text.drop 1).dropLast

/-- Whether a double quote stands at the start of a text or behind another character than a
backslash. -/
def hasBareQuote : (behindBackslash : Bool) → List Char → Bool
  | _, [] => false
  | behindBackslash, c :: rest =>
      (c == '"' && !behindBackslash) || hasBareQuote (c == '\\') rest

/-! ## Words -/

/-- The first word of a text and what follows the blanks behind it; the text begins with no
blank. -/
def firstWord (text : List Char) : List Char × List Char :=
  (text.takeWhile (!Text.isBlank ·), Text.trimStart (text.dropWhile (!Text.isBlank ·)))

/-- A text cut into its first two words and the rest; fewer pieces where the text ends sooner. -/
def pieces (text : List Char) : List (List Char) :=
  let (first, afterFirst) := firstWord text
  let (second, rest) := firstWord afterFirst
  [first, second, rest].filter (!·.isEmpty)

/-! ## Lines -/

/-- The texts that an entry gives under a keyword. -/
inductive Keyword where
  /-- What tells strings of one text apart. -/
  | context
  /-- The untranslated text. -/
  | id
  /-- The untranslated plural. -/
  | plural
  /-- The only translation. -/
  | message
  deriving DecidableEq, Repr

/-- The keyword that a word is. -/
def Keyword.ofWord? (word : List Char) : Option Keyword :=
  match String.ofList word with
  | "msgctxt" => some .context
  | "msgid" => some .id
  | "msgid_plural" => some .plural
  | "msgstr" => some .message
  | _ => none

/-- **What one line of a catalog says.** -/
inductive Line where
  /-- A text under a keyword. -/
  | keyword (keyword : Keyword) (text : List Char)
  /-- A translation by its number; the number may be unreadable. -/
  | form (index : Option Nat) (text : List Char)
  /-- More of the text before. -/
  | continuation (text : List Char)
  /-- What translators remarked. -/
  | comment (text : List Char)
  /-- What developers remarked. -/
  | extracted (text : List Char)
  /-- Places in the program. -/
  | references (places : List (List Char))
  /-- Flags. -/
  | flags (flags : List (List Char))
  /-- A former text, of which only the keyword matters. -/
  | former (keyword : Keyword)
  deriving DecidableEq, Repr

namespace Line

/-- What a remark of translators says behind its number signs. -/
def commentText (line : List Char) : List Char :=
  match line.dropWhile (· == '#') with
  | ' ' :: rest => rest
  | rest => rest

/-- A numbered translation: one digit behind the opening bracket, and the text between the first
double quote and the last character of the line. -/
def readForm (line : List Char) : Line :=
  let index := (line.drop 7).head?.bind Text.decimalValue?
  let text := (Text.cutAt? '"' line).elim line Prod.snd
  .form index (unescape text.dropLast)

/-- A text under a keyword, checked for bare quotes. -/
def readKeyword (keyword : Keyword) (text : List Char) : Except Cause (Option Line) :=
  if hasBareQuote false (inner text) then .error .unescapedQuote
  else .ok (some (.keyword keyword (unescape (inner text))))

/-- A former text: a keyword with a text behind it, or a text alone that goes on with the one
before. -/
def readFormer (line : List Char) (words : List (List Char)) : Except Cause (Option Line) :=
  match words with
  | [] | [_] => .error .misplaced
  | _ :: word :: more =>
      if word.head? == some '"' then
        .ok (some (.continuation (unescape (inner (Text.trimStart (line.drop 2))))))
      else if more.isEmpty then .error .invalidContinuation
      else
        match Keyword.ofWord? word with
        | some .message => .error (.unknownKeyword (String.ofList word))
        | some known => .ok (some (.former known))
        | none => .error (.unknownKeyword (String.ofList word))

/-- Whether a word opens a remark of translators: a number sign alone, or several of them. -/
def isCommentWord (word : List Char) : Bool :=
  word == ['#'] || ['#', '#'].isPrefixOf word

/-- A line that is neither blank nor marked as obsolete, with the words that it is cut into. -/
def readWords (line : List Char) (words : List (List Char)) : Except Cause (Option Line) :=
  let word := words.headD []
  let alone : Bool := words.length ≤ 1
  match Keyword.ofWord? word, alone with
  | some known, false => readKeyword known (Text.trimStart (line.drop word.length))
  | _, _ =>
      if word == ['#', ':'] then
        .ok (if alone then none else some (.references (Text.words (line.drop 3))))
      else if line.head? == some '"' then
        if hasBareQuote false (inner line) then .error .unescapedQuote
        else .ok (some (.continuation (unescape (inner line))))
      else if "msgstr[".toList.isPrefixOf line then .ok (some (readForm line))
      else if word == ['#', ','] then
        .ok (if alone then none
          else some (.flags ((Text.split (· == ',') (line.drop 3)).map Text.trim)))
      else if isCommentWord word then .ok (some (.comment (commentText line)))
      else if word == ['#', '.'] then
        .ok (if alone then none else some (.extracted (line.drop 3)))
      else if word == ['#', '|'] then readFormer line words
      else .error .misplaced

/-- **A line that has been cut from its file.** -/
structure Cut where
  /-- Whether the line is marked as obsolete. -/
  obsolete : Bool
  /-- The first word, which tells whether the line is a remark. -/
  word : List Char
  /-- What the line says. -/
  content : Except Cause (Option Line)

/-- Whether a line is a remark or marked as obsolete without more. -/
def Cut.isRemark (cut : Cut) : Bool :=
  cut.word.head? == some '#'

/-- **Read a line.** Blank lines say nothing; a mark for obsolete lines is taken off first. -/
def read (text : List Char) : Option Cut :=
  let line := Text.trim text
  if line.isEmpty then none
  else
    let words := pieces line
    let word := words.headD []
    if word == ['#', '~', '|'] then some ⟨false, word, .ok none⟩
    else if word == ['#', '~'] && 1 < words.length then
      let rest := words.drop 1
      some ⟨true, rest.headD [], readWords (Text.trim (line.drop 3)) rest⟩
    else some ⟨false, word, readWords line words⟩

end Line

end StringCatalog.Catalog
