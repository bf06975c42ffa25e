/-! # Blank characters

The blanks of running text, and what is cut at them:

* **`isBlank`** — the white-space characters of Unicode together with the four information
  separators, so a no-break space or an ideographic space is a blank too.
* **`trimStart`, `trimEnd`, `trim`** — a text without the blanks at its ends.
* **`split`** — the pieces between separators, empty ones included.
* **`words`** — the blank-free words of a text. -/

namespace StringCatalog.Text

/-- **A blank character.** The tab, the line and page controls, the information separators, the
space, and the spaces and separators of Unicode. -/
def isBlank (c : Char) : Bool :=
  let n := c.toNat
  (9 ≤ n && n ≤ 13) || (28 ≤ n && n ≤ 32) || n == 0x85 || n == 0xA0 || n == 0x1680 ||
    (0x2000 ≤ n && n ≤ 0x200A) || n == 0x2028 || n == 0x2029 || n == 0x202F || n == 0x205F ||
    n == 0x3000

/-! ## Trimming -/

/-- The text without its leading blanks. -/
def trimStart (text : List Char) : List Char :=
  text.dropWhile isBlank

/-- The text without its trailing blanks. -/
def trimEnd (text : List Char) : List Char :=
  (text.reverse.dropWhile isBlank).reverse

/-- **The text without the blanks at either end.** -/
def trim (text : List Char) : List Char :=
  trimEnd (trimStart text)

/-- A text that holds nothing but blanks. -/
def isBlankText (text : List Char) : Bool :=
  text.all isBlank

/-! ## Splitting -/

/-- **The pieces of a text between its separators.** There is one piece more than there are
separators, so a text without separators is its own single piece. -/
def split (separates : Char → Bool) : List Char → List (List Char)
  | [] => [[]]
  | c :: rest =>
      if separates c then [] :: split separates rest
      else
        match split separates rest with
        | [] => [[c]]
        | piece :: pieces => (c :: piece) :: pieces

/-- `split separates [] = [[]]`: the empty text is one empty piece. -/
@[simp] theorem split_nil (separates : Char → Bool) : split separates [] = [[]] := rfl

/-- **The words of a text.** The non-empty pieces between blanks. -/
def words (text : List Char) : List (List Char) :=
  (split isBlank text).filter (! ·.isEmpty)

/-- A text in lower case, as far as the letters `A` to `Z` go: no other letter has a lower case
spelled with the ASCII letters that suffixes, option names and flags are made of. -/
def lower (text : String) : String :=
  String.ofList (text.toList.map Char.toLower)

/-- **A text trimmed to something or nothing.** A text of blanks counts as absent. -/
def trimmed? (text : List Char) : Option String :=
  match trim text with
  | [] => none
  | c :: rest => some (String.ofList (c :: rest))

end StringCatalog.Text
