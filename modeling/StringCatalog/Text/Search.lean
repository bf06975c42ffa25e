/-! # Searching a text

* **`contains`** — whether one text occurs inside another.
* **`replace`** — every occurrence of a text replaced, from the left, none overlapping.
* **`cutAt?`** — the text before and after the first occurrence of a character. -/

namespace StringCatalog.Text

/-- What holds of all characters of a text is decided along the text. -/
instance decidableForallMem (p : Char → Prop) [DecidablePred p] (text : List Char) :
    Decidable (∀ c ∈ text, p c) :=
  List.decidableBAll p text

/-- **Whether one text occurs inside another.** -/
def contains (part : List Char) : List Char → Bool
  | [] => part.isEmpty
  | c :: rest => part.isPrefixOf (c :: rest) || contains part rest

/-- The replacement loop: the number counts the characters of an occurrence still to be passed. -/
def replaceFrom (old new : List Char) : Nat → List Char → List Char
  | _, [] => []
  | skip + 1, _ :: rest => replaceFrom old new skip rest
  | 0, c :: rest =>
      if old.isPrefixOf (c :: rest) then new ++ replaceFrom old new (old.length - 1) rest
      else c :: replaceFrom old new 0 rest

/-- **Every occurrence of a non-empty text replaced,** from the left. -/
def replace (old new text : List Char) : List Char :=
  replaceFrom old new 0 text

/-- **The text before and after the first occurrence of a character.** -/
def cutAt? (separator : Char) : List Char → Option (List Char × List Char)
  | [] => none
  | c :: rest =>
      if c == separator then some ([], rest)
      else (cutAt? separator rest).map fun (before, after) => (c :: before, after)

/-- The number of occurrences of a character. -/
def countChar (c : Char) (text : String) : Nat :=
  text.toList.count c

/-- Texts with a separator between them. -/
def joined (separator : String) (texts : List String) : String :=
  String.intercalate separator texts

end StringCatalog.Text
