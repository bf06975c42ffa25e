import StringCatalog.Text.Utf8
import StringCatalog.Text.Wording

/-! # Tokens of a program

The smallest parts that a program's text is read in:

* **`Place`** — a line and a column.
* **`Lexeme`** — what a token is, and **`Token`**, a lexeme at its place.
* **`Lexeme.isName`** — the words that are names, and not reserved. -/

namespace StringCatalog.Program

/-- **A place in a text.** Lines count from one, columns from zero, in bytes. -/
structure Place where
  /-- The line. -/
  line : Nat
  /-- The number of bytes before the place in its line. -/
  column : Nat
  deriving DecidableEq, Repr

namespace Place

/-- Where a text starts. -/
def start : Place := ⟨1, 0⟩

/-- The place behind a character. -/
def advance (place : Place) (c : Char) : Place :=
  if c == '\n' then ⟨place.line + 1, 0⟩ else ⟨place.line, place.column + c.utf8Size⟩

/-- **The place behind a text.** -/
def after (place : Place) (text : List Char) : Place :=
  text.foldl advance place

/-- **Whether a place comes before another one, or is the same.** -/
def isUpTo (first second : Place) : Bool :=
  first.line < second.line || (first.line == second.line && first.column ≤ second.column)

/-- `place.after [] = place`: no text leads nowhere. -/
@[simp] theorem after_nil (place : Place) : place.after [] = place := rfl

/-- `place.after (c :: text) = (place.advance c).after text`: the characters are passed one by
one. -/
@[simp] theorem after_cons (place : Place) (c : Char) (text : List Char) :
    place.after (c :: text) = (place.advance c).after text := rfl

/-- `place.after (first ++ second) = (place.after first).after second`: the place behind two texts
is the one behind the second, started behind the first. -/
theorem after_append (place : Place) (first second : List Char) :
    place.after (first ++ second) = (place.after first).after second := by
  simp [after]

end Place

/-- **What a token is.** -/
inductive Lexeme where
  /-- A name or a reserved word. -/
  | word (text : String)
  /-- A number, which may be imaginary. -/
  | number (isImaginary : Bool)
  /-- A string of characters. -/
  | text (value : List Text.CodePoint)
  /-- A string of bytes. -/
  | bytes
  /-- Where a string with fields starts. -/
  | openFields
  /-- Where a string with fields ends. -/
  | closeFields
  /-- An operator, a bracket or another mark. -/
  | symbol (text : String)
  /-- The end of a line that is not blank. -/
  | lineEnd
  /-- Where lines are set in. -/
  | indent
  /-- Where lines are set in no longer. -/
  | dedent
  deriving DecidableEq, Repr

/-- The words that are no names. -/
def reservedWords : List String :=
  ["False", "None", "True", "and", "as", "assert", "async", "await", "break", "class", "continue",
   "def", "del", "elif", "else", "except", "finally", "for", "from", "global", "if", "import", "in",
   "is", "lambda", "nonlocal", "not", "or", "pass", "raise", "return", "try", "while", "with",
   "yield"]

/-- **A word that is a name.** -/
def Lexeme.isName : Lexeme → Bool
  | .word spelling => !reservedWords.contains spelling
  | _ => false

/-- **A lexeme at its place.** -/
structure Token where
  /-- Where it starts. -/
  place : Place
  /-- What it is. -/
  lexeme : Lexeme
  deriving DecidableEq, Repr

end StringCatalog.Program
