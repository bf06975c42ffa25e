import StringCatalog.Extraction.Reading
import StringCatalog.FileTree.Path
import StringCatalog.Placeholder.Basic
import StringCatalog.Program.Call
import StringCatalog.Program.Grammar.Statement
import StringCatalog.Text.Line

/-! # Reading programs

The strings of a program are those that it hands to certain functions:

* **`Keyword`** — a function whose argument is a string to be translated.
* **`remark?`** — the comment that translators are to see with a call.
* **`callReading`** — what a single call comes to.
* **`readBytes`** — the strings of a program. -/

namespace StringCatalog.Program

/-! ## Keywords -/

/-- **A function whose argument is a string to be translated.** -/
structure Keyword where
  /-- The name of the function. -/
  name : String
  /-- Whether its second argument is the plural. -/
  takesPlural : Bool
  deriving DecidableEq, Repr

/-- The functions that are looked for unless others are named. -/
def Keyword.usual : List Keyword :=
  [⟨"_", false⟩, ⟨"gettext", false⟩, ⟨"N_", false⟩, ⟨"ngettext", true⟩]

/-- The keyword with a name. -/
def Keyword.find? (keywords : List Keyword) (name : String) : Option Keyword :=
  List.find? (fun keyword => keyword.name == name) keywords

/-! ## Remarks -/

/-- The text of a line that is a comment. -/
def comment? (line : List Char) : Option (List Char) :=
  match Text.trim line with
  | '#' :: rest => some (Text.trim (rest.dropWhile (· == '#')))
  | _ => none

/-- The texts of the comments that the lines of a list start with. -/
def leadingComments : List (List Char) → List (List Char)
  | [] => []
  | line :: rest =>
      match comment? line with
      | some text => text :: leadingComments rest
      | none => []

/-- The texts of the comments on the lines that end before a line, given by its number. -/
def commentsAbove (lines : List (List Char)) (line : Nat) : List (List Char) :=
  (leadingComments (lines.take (line - 1)).reverse).reverse

/-- How the first comment for translators starts. -/
def remarkTag : List Char := "Translators:".toList

/-- **The comment that translators are to see** with a call on some line: the comments directly
above it, if the first of them says so. -/
def remark? (lines : List (List Char)) (line : Nat) : Option String :=
  match commentsAbove lines line with
  | [] => none
  | first :: rest =>
      if remarkTag.isPrefixOf first then
        let texts := Text.trim (first.drop remarkTag.length) :: rest
        match texts.filter (! ·.isEmpty) with
        | [] => none
        | present => some (String.intercalate "\n" (present.map String.ofList))
      else none

/-! ## Calls -/

/-- What the reader of a program needs besides its calls. -/
structure Setting where
  /-- The path as notes show it. -/
  path : String
  /-- The path from the root of the file system on. -/
  place : String
  /-- The functions that are looked for. -/
  keywords : List Keyword
  /-- The lines of the program. -/
  lines : List (List Char)

/-- The forms of the string that a call hands over, if they are written out. -/
def forms? (keyword : Keyword) (call : Tree) : Option (Text.Wording × Option Text.Wording) :=
  let arguments := call.positional
  match (arguments[0]?).bind Tree.literal? with
  | none => none
  | some singular =>
      if keyword.takesPlural then
        ((arguments[1]?).bind Tree.literal?).map fun plural => (singular, some plural)
      else some (singular, none)

/-- The string with some forms in a call on some line. -/
def Setting.string (setting : Setting) (line : Nat) (singular : Text.Wording)
    (plural : Option Text.Wording) : Translatable :=
  { Translatable.ofText singular.text with
    plural := plural.map (·.text)
    developerComments := remark? setting.lines line
    references := [setting.place ++ ":" ++ toString line]
    formatHint := formatHint? singular.text
    halves := ⟨singular.halves, (plural.map (·.halves)).getD []⟩ }

/-- **What a single call comes to:** nothing, if it calls none of the functions; a string, if it is
written out and not empty; and a note in any other case. -/
def callReading (setting : Setting) (call : Tree) : Reading :=
  match call.callee?.bind (Keyword.find? setting.keywords) with
  | none => .empty
  | some keyword =>
      let line := call.place.line
      let place := setting.path ++ ":" ++ toString line
      match forms? keyword call with
      | none => .ofNote (.step ("Skipping non-literal " ++ keyword.name ++ "() call at " ++ place))
      | some (singular, plural) =>
          if singular.text == "" then
            .ofNote (.step ("Skipping empty " ++ keyword.name ++ "() string at " ++ place))
          else
            .ofString (.item ("Found string: " ++ singular.text)) (setting.string line singular plural)

/-! ## Programs -/

/-- **The strings of a program,** given the functions that are looked for, the path and the bytes. -/
def readBytes (keywords : List Keyword) (path : Path) (bytes : List UInt8) : Reading :=
  let shown := path.toString
  match Text.decode bytes with
  | .error fault => .failed (.input shown (.encoding fault))
  | .ok characters =>
      let text := Text.unifyNewlines characters
      match if text.contains '\x00' then none else parse? text with
      | none => .failed (.input shown .program)
      | some tree =>
          .sequence (tree.calls.map (callReading
            ⟨shown, path.absolute.toString, keywords, Text.splitLines text⟩))

end StringCatalog.Program
