import StringCatalog.Text.Search

/-! # Characters of a document

* **`Xml.isChar`** — the characters that a document may hold.
* **`Xml.isBlank`** — the white space of markup.
* **`Xml.isNameStart`, `Xml.isNameChar`** — the characters of names.
* **`Xml.Name`** — a name of one or two parts, and **`Xml.Name.read?`**. -/

namespace StringCatalog.Xml

/-- **A character that a document may hold.** -/
def isChar (c : Char) : Bool :=
  let n := c.toNat
  n == 9 || n == 10 || n == 13 || (0x20 ≤ n && n != 0xFFFE && n != 0xFFFF)

/-- **White space in markup.** -/
def isBlank (c : Char) : Bool :=
  c == ' ' || c == '\t' || c == '\n' || c == '\r'

/-- The ranges beyond ASCII of characters that begin a name. -/
def nameStartRanges : List (Nat × Nat) :=
  [(0xC0, 0xD6), (0xD8, 0xF6), (0xF8, 0x2FF), (0x370, 0x37D), (0x37F, 0x1FFF), (0x200C, 0x200D),
   (0x2070, 0x218F), (0x2C00, 0x2FEF), (0x3001, 0xD7FF), (0xF900, 0xFDCF), (0xFDF0, 0xFFFD),
   (0x10000, 0xEFFFF)]

/-- **A character that begins a name.** -/
def isNameStart (c : Char) : Bool :=
  c.isAlpha || c == '_' || c == ':' ||
    nameStartRanges.any fun (first, last) => first ≤ c.toNat && c.toNat ≤ last

/-- **A character inside a name.** -/
def isNameChar (c : Char) : Bool :=
  isNameStart c || c.isDigit || c == '-' || c == '.' || c.toNat == 0xB7 ||
    (0x300 ≤ c.toNat && c.toNat ≤ 0x36F) || c.toNat == 0x203F || c.toNat == 0x2040

/-- Whether a text is a name. -/
def isName : List Char → Bool
  | [] => false
  | c :: rest => isNameStart c && rest.all isNameChar

/-- Whether a text is a name without a colon. -/
def isPlainName (text : List Char) : Bool :=
  isName text && !text.contains ':'

/-- **A name of one or two parts.** -/
structure Name where
  /-- What stands before the colon. -/
  lead : Option (List Char)
  /-- What stands behind the colon, or the whole name. -/
  base : List Char
  deriving DecidableEq, Repr

namespace Name

/-- The text of a name. -/
def text (name : Name) : List Char :=
  match name.lead with
  | none => name.base
  | some lead => lead ++ ':' :: name.base

/-- **The parts of a text that may be a name.** A colon that does not stand between two names divides
nothing. -/
def ofText (text : List Char) : Name :=
  match Text.cutAt? ':' text with
  | none => ⟨none, text⟩
  | some (lead, base) =>
      if isPlainName lead && isPlainName base then ⟨some lead, base⟩ else ⟨none, text⟩

/-- Whether a colon in a name divides nothing. -/
def isOdd (name : Name) : Bool :=
  name.base.contains ':'

/-- **The name that a text begins with,** and the rest of the text. -/
def read? (text : List Char) : Option (Name × List Char) :=
  match text with
  | [] => none
  | c :: _ =>
      if isNameStart c then some (ofText (text.takeWhile isNameChar), text.dropWhile isNameChar)
      else none

end Name

/-- The text behind the blanks that it begins with. -/
def skipBlanks (text : List Char) : List Char :=
  text.dropWhile isBlank

/-! ## Line ends -/

/-- A carriage return before a line feed is dropped. -/
def joinLineEnds : List Char → List Char
  | [] => []
  | '\r' :: '\n' :: rest => '\n' :: joinLineEnds rest
  | c :: rest => c :: joinLineEnds rest

/-- A carriage return alone stands for a line feed. -/
def lineFeed (c : Char) : Char :=
  if c == '\r' then '\n' else c

end StringCatalog.Xml
