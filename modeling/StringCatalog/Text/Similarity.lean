/-! # Similar texts

* **`longestBlock`** — the longest text that two texts have in common.
* **`commonLength`** — how many characters two texts have in common, block by block.
* **`closest`** — the words of a list that are most like some word. -/

namespace StringCatalog.Text

/-! ## Common blocks -/

/-- The length of what two texts have in common at their starts. -/
def commonStart : List Char → List Char → Nat
  | a :: first, b :: second => if a == b then commonStart first second + 1 else 0
  | _, _ => 0

/-- A block that two texts have in common: where it starts in either, and its length. -/
structure Block where
  /-- Where it starts in the first text. -/
  first : Nat
  /-- Where it starts in the second text. -/
  second : Nat
  /-- How long it is. -/
  length : Nat
  deriving DecidableEq, Repr

/-- All blocks that start somewhere in the first text and somewhere in the second one. -/
def blocks (first second : List Char) : List Block :=
  (List.range first.length).flatMap fun i =>
    (List.range second.length).map fun j =>
      ⟨i, j, commonStart (first.drop i) (second.drop j)⟩

/-- **The longest block that two texts have in common,** of several the first one. -/
def longestBlock (first second : List Char) : Block :=
  (blocks first second).foldl (fun best block => if best.length < block.length then block else best)
    ⟨0, 0, 0⟩

/-- How many characters two texts have in common, given a bound on the number of blocks within each
other. -/
def commonWithin : Nat → List Char → List Char → Nat
  | 0, _, _ => 0
  | bound + 1, first, second =>
      let block := longestBlock first second
      if block.length == 0 then 0
      else
        block.length + commonWithin bound (first.take block.first) (second.take block.second) +
          commonWithin bound (first.drop (block.first + block.length))
            (second.drop (block.second + block.length))

/-- **How many characters two texts have in common:** those of the longest block, and of the texts
before it and behind it. Every block takes a character, so there are no more than characters. -/
def commonLength (first second : List Char) : Nat :=
  commonWithin (first.length + 1) first second

/-! ## Closest words -/

/-- A word with how much it is like another one: twice the common characters, out of all. -/
structure Likeness where
  /-- The word. -/
  word : String
  /-- Twice the number of common characters. -/
  common : Nat
  /-- The number of characters of both words. -/
  total : Nat

/-- How much a word is like another one. -/
def Likeness.of (wanted word : String) : Likeness :=
  ⟨word, 2 * commonLength word.toList wanted.toList, word.length + wanted.length⟩

/-- Whether a word is like another one at all: in three fifths of the characters. -/
def Likeness.isClose (likeness : Likeness) : Bool :=
  3 * likeness.total ≤ 5 * likeness.common

/-- Whether one word is closer than another; of two that are as close, the one that comes later in
the order of words. -/
def Likeness.isCloser (first second : Likeness) : Bool :=
  let one := first.common * second.total
  let other := second.common * first.total
  other < one || (one == other && second.word ≤ first.word)

/-- **The words that are most like some word,** at most so many, the closest first. -/
def closest (limit : Nat) (wanted : String) (words : List String) : List String :=
  ((((words.map (Likeness.of wanted)).filter Likeness.isClose).mergeSort
    Likeness.isCloser).take limit).map (·.word)

end StringCatalog.Text
