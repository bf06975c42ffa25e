import StringCatalog.Text.Blank
import StringCatalog.Text.Search

/-! # Paths

A path is where it starts and the names it goes through:

* **`Path.ofString`, `Path.toString`** — the text of a path; empty names and names that stay where
  they are (`.`) fall away in reading.
* **`Path.parent`, `Path.name`, `Path.suffix`** — the parts of a path.
* **`Path.absolute`** — the path from the root on, with every step back taken.
* **`Path.workingFolder`** — where relative paths start: the folder `/w`. -/

namespace StringCatalog

/-- Where a path starts. -/
inductive Path.Anchor where
  /-- At the working folder. -/
  | working
  /-- At the root. -/
  | root
  /-- At the root, written with exactly two slashes: systems may read this in a way of their own,
  so it is kept. -/
  | doubleRoot
  deriving DecidableEq, Repr

/-- **A path:** where it starts and the names it goes through. -/
structure Path where
  /-- Where the path starts. -/
  anchor : Path.Anchor
  /-- The names on the way, `..` among them. -/
  parts : List String
  deriving DecidableEq, Repr

namespace Path

/-- The names between the slashes of a text. -/
def names (text : String) : List String :=
  (Text.split (· == '/') text.toList).map String.ofList

/-- The anchor that a text begins with. -/
def anchorOf : List Char → Anchor
  | '/' :: '/' :: '/' :: _ => .root
  | '/' :: '/' :: _ => .doubleRoot
  | '/' :: _ => .root
  | _ => .working

/-- **Read a path.** -/
def ofString (text : String) : Path :=
  ⟨anchorOf text.toList, (names text).filter fun name => name != "" && name != "."⟩

/-- The text of an anchor. -/
def Anchor.toString : Anchor → String
  | .working => ""
  | .root => "/"
  | .doubleRoot => "//"

/-- **The text of a path.** The working folder itself is written as a single full stop. -/
def toString (path : Path) : String :=
  match path.anchor, path.parts with
  | .working, [] => "."
  | anchor, parts => anchor.toString ++ Text.joined "/" parts

/-- The path one step up; the working folder and the root are their own parents. -/
def parent (path : Path) : Path :=
  ⟨path.anchor, path.parts.dropLast⟩

/-- The last name of a path, empty for the working folder and the root. -/
def name (path : Path) : String :=
  path.parts.getLastD ""

/-- The path to an entry of a folder. -/
def child (path : Path) (name : String) : Path :=
  ⟨path.anchor, path.parts ++ [name]⟩

/-- The reversed name cut at its last full stop: what stands after it, and what before. -/
def suffixOfName (name : List Char) : List Char :=
  match Text.cutAt? '.' name.reverse with
  | none => []
  | some (after, before) => if after.isEmpty || before.isEmpty then [] else '.' :: after.reverse

/-- **The suffix of a path:** its last name from the last full stop on. A full stop that opens or
closes the name makes no suffix. -/
def suffix (path : Path) : String :=
  String.ofList (suffixOfName path.name.toList)

/-! ## Absolute form -/

/-- The names after every step back has been taken; at the root a step back leads nowhere. -/
def takeBack (parts : List String) : List String :=
  (parts.foldl (fun taken name => if name == ".." then taken.drop 1 else name :: taken) []).reverse

/-- The names that lead from the root to the working folder. -/
def workingFolder : List String := ["w"]

/-- **The path from the root on, with every step back taken.** -/
def absolute (path : Path) : Path :=
  match path.anchor with
  | .working => ⟨.root, takeBack (workingFolder ++ path.parts)⟩
  | anchor => ⟨anchor, takeBack path.parts⟩

/-- Whether a text is an absolute path. -/
def isAbsoluteText (text : String) : Bool :=
  text.toList.head? == some '/'

end Path

end StringCatalog
