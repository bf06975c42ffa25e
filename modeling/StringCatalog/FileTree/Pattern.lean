import StringCatalog.FileTree.Basic

/-! # Name patterns

A pattern stands for the names of a folder that it matches:

* **`Glyph`** — one element of a pattern: a character, any character, any run of characters, or a
  set of characters with ranges.
* **`glyphs`** — the elements of a pattern's text.
* **`matchesName`** — whether a name has the form of a pattern.
* **`NamePattern`** — what the last name of a path stands for: one name, a pattern, or every folder
  below. -/

namespace StringCatalog

/-- **One element of a pattern.** -/
inductive Glyph where
  /-- This very character. -/
  | one (c : Char)
  /-- Any one character. -/
  | any
  /-- Any run of characters, the empty one included. -/
  | run
  /-- One character of these ranges, or one of no range if the set is negated. -/
  | set (negated : Bool) (ranges : List (Char × Char))
  deriving DecidableEq, Repr

namespace Glyph

/-- The text of a set up to its closing bracket, and what follows. A bracket that comes first, after
the `!` if there is one, does not close the set. -/
def setText? (text : List Char) : Option (List Char × List Char) :=
  match text with
  | '!' :: ']' :: rest =>
      (Text.cutAt? ']' rest).map fun (inner, after) => ('!' :: ']' :: inner, after)
  | '!' :: rest => (Text.cutAt? ']' rest).map fun (inner, after) => ('!' :: inner, after)
  | ']' :: rest => (Text.cutAt? ']' rest).map fun (inner, after) => (']' :: inner, after)
  | rest => Text.cutAt? ']' rest

/-- The text of a set cut at the hyphens that make ranges: the number counts the characters before
which no hyphen does. -/
def cutRanges : Nat → List Char → List (List Char)
  | _, [] => [[]]
  | skip + 1, c :: rest =>
      match cutRanges skip rest with
      | [] => [[c]]
      | chunk :: chunks => (c :: chunk) :: chunks
  | 0, c :: rest =>
      if c == '-' then [] :: cutRanges 2 rest
      else
        match cutRanges 0 rest with
        | [] => [[c]]
        | chunk :: chunks => (c :: chunk) :: chunks

/-- A hyphen that closes the set stands for itself. -/
def keepLastHyphen (chunks : List (List Char)) : List (List Char) :=
  match chunks.reverse with
  | [] :: before :: rest => ((before ++ ['-']) :: rest).reverse
  | _ => chunks

/-- Ranges that run backwards hold nothing: their two ends fall away, from the last on. -/
def dropBackward : List (List Char) → List (List Char)
  | [] => []
  | chunk :: rest =>
      match dropBackward rest with
      | [] => [chunk]
      | next :: more =>
          match chunk.getLast?, next with
          | some last, first :: others =>
              if first < last then (chunk.dropLast ++ others) :: more else chunk :: next :: more
          | _, _ => chunk :: next :: more

/-- The ranges of a set: neighbouring chunks share one, every other character is one of its own. -/
def rangesOf : List (List Char) → List (Char × Char)
  | [] => []
  | [chunk] => chunk.map fun c => (c, c)
  | chunk :: next :: more =>
      let singles := chunk.dropLast.map fun c => (c, c)
      match chunk.getLast?, next with
      | some last, first :: others => singles ++ (last, first) :: rangesOf (others :: more)
      | _, _ => singles ++ rangesOf (next :: more)
termination_by chunks => chunks.length

/-- **The set that a bracketed text stands for.** -/
def ofSetText (text : List Char) : Glyph :=
  let chunks :=
    if text.contains '-' then
      let skip := match text with
        | '!' :: _ => 2
        | _ => 1
      dropBackward (keepLastHyphen (cutRanges skip text))
    else [text]
  match chunks with
  | ('!' :: chunk) :: more => .set true (rangesOf (chunk :: more))
  | chunks => .set false (rangesOf chunks)

/-- The element at the head of a pattern, and the rest of the pattern. -/
def next : Char → List Char → Glyph × List Char
  | '*', rest => (.run, rest)
  | '?', rest => (.any, rest)
  | '[', rest =>
      match setText? rest with
      | some (inner, after) => (ofSetText inner, after)
      | none => (.one '[', rest)
  | c, rest => (.one c, rest)

end Glyph

/-- The elements of a pattern; every element takes at least one character, so the number of
characters bounds them. -/
def glyphsWithin : Nat → List Char → List Glyph
  | 0, _ => []
  | _ + 1, [] => []
  | bound + 1, c :: rest =>
      let (glyph, after) := Glyph.next c rest
      glyph :: glyphsWithin bound after

/-- **The elements of a pattern's text.** -/
def glyphs (pattern : List Char) : List Glyph :=
  glyphsWithin pattern.length pattern

/-- **Whether a name has the form of a pattern.** -/
def matchesName : List Glyph → List Char → Bool
  | [], name => name.isEmpty
  | .run :: rest, [] => matchesName rest []
  | .run :: rest, c :: name => matchesName rest (c :: name) || matchesName (.run :: rest) name
  | .one _ :: _, [] => false
  | .any :: _, [] => false
  | .set _ _ :: _, [] => false
  | .one d :: rest, c :: name => c == d && matchesName rest name
  | .any :: rest, _ :: name => matchesName rest name
  | .set negated ranges :: rest, c :: name =>
      (ranges.any (fun (first, last) => first ≤ c && c ≤ last) != negated) && matchesName rest name
termination_by pattern name => (name.length, pattern.length)

/-- **What the last name of a path stands for.** -/
inductive NamePattern where
  /-- The entry of this name. -/
  | exactly (name : String)
  /-- The entries of this form. -/
  | form (glyphs : List Glyph)
  /-- All folders below, and no file. -/
  | foldersBelow
  deriving DecidableEq, Repr

namespace NamePattern

/-- **Read a pattern.** Two stars stand for all folders below, but only alone: elsewhere in a name
they are refused. -/
def ofName? (name : String) : Option NamePattern :=
  let text := name.toList
  if name == "**" then some .foldersBelow
  else if Text.contains ['*', '*'] text then none
  else if text.any fun c => c == '*' || c == '?' || c == '[' then some (.form (glyphs text))
  else some (.exactly name)

/-- **The names in a folder that a pattern stands for,** in order. A name without any stars, question
marks or brackets stands for itself, whether there is such an entry or not; folders below are no
files, and are left out. -/
def select (pattern : NamePattern) (tree : FileTree) (place : FileTree.Place) : List String :=
  match pattern with
  | .exactly name => [name]
  | .form glyphs => (tree.list place).filter fun name => matchesName glyphs name.toList
  | .foldersBelow => []

end NamePattern

end StringCatalog
