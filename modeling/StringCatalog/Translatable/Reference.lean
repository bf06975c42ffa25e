import StringCatalog.FileTree.Path
import StringCatalog.Text.Digit
import StringCatalog.Translatable.Basic

/-! # References

A reference is a path, mostly with a line number: `src/app.py:3`.

* **`Reference.parse`** — the path of a reference, and its line with the colon before it.
* **`Reference.relativize`** — a reference below a source root, made relative to it. -/

namespace StringCatalog.Reference

/-- The digits that end a reversed text, and the rest of it. -/
def takeDigits (reversed : List Char) : List Char × List Char :=
  (reversed.takeWhile Text.isDecimal, reversed.dropWhile Text.isDecimal)

/-- A line of text cut before the line number that ends it, if one does. -/
def cutLine (text : List Char) : List Char × List Char :=
  match takeDigits text.reverse with
  | ([], _) => (text, [])
  | (digits, ':' :: before) => (before.reverse, ':' :: digits.reverse)
  | _ => (text, [])

/-- The text without the line feed that ends it, if one does. -/
def dropFinalNewline (text : List Char) : List Char :=
  if text.getLast? == some '\n' then text.dropLast else text

/-- **The path of a reference, and its line number with the colon.** A line feed may end a
reference; one inside of it makes it unreadable. -/
def parse? (reference : String) : Option (String × String) :=
  let text := dropFinalNewline reference.toList
  if text.contains '\n' then none
  else
    let (path, line) := cutLine text
    some (String.ofList path, String.ofList line)

/-- The names left of a path below a root, if it is the root or below it. -/
def below? (root path : Path) : Option (List String) :=
  if root.anchor != .doubleRoot && root.parts.isPrefixOf path.parts then
    some (path.parts.drop root.parts.length)
  else none

/-- Why a reference cannot be made relative. -/
inductive Fault where
  /-- A line feed stands inside the reference. -/
  | brokenLine
  deriving DecidableEq, Repr

/-- **A reference made relative to the source root.** Relative references, those outside the root,
and all without a root stay as they are. -/
def relativize (root : Option String) (reference : String) : Except Fault String :=
  match root with
  | none => .ok reference
  | some root =>
      if root == "" then .ok reference
      else
        match parse? reference with
        | none => .error .brokenLine
        | some (path, line) =>
            if !Path.isAbsoluteText path then .ok reference
            else
              match below? (Path.ofString root).absolute (Path.ofString path).absolute with
              | none => .ok reference
              | some parts => .ok ((Path.mk .working parts).toString ++ line)

/-- **A string with its references made relative.** -/
def relativizeAll (root : Option String) (string : Translatable) : Except Fault Translatable :=
  match string.references.mapM (relativize root) with
  | .error fault => .error fault
  | .ok references => .ok { string with references }

end StringCatalog.Reference
