import StringCatalog.Text.RangeTable

/-! # Wordings

Some encodings write a character as a pair of halves. A program can name such a half by its code. It
is no character, so there are no bytes for it:

* **`CodePoint`** — a character, or half of a pair.
* **`Half`** — half of a pair at its place in a text.
* **`Wording`** — a text, and the halves that are in it.
* **`EncodeFault`** — the halves for which a text has no bytes. -/

namespace StringCatalog.Text

/-! ## Code points -/

/-- **A code point:** a character, or half of a pair. -/
inductive CodePoint where
  /-- A character. -/
  | char (c : Char)
  /-- Half of a pair, by its code. -/
  | half (code : Nat)
  deriving DecidableEq, Repr

/-- The code point with a code. -/
def CodePoint.ofNat (code : Nat) : CodePoint :=
  if h : code.isValidChar then .char (Char.ofNatAux code h) else .half code

/-- The character that stands in a text for half of a pair. It is one that no document may hold. -/
def standIn : Char := '\uFFFF'

/-- The character that a text has for a code point. -/
def CodePoint.shown : CodePoint → Char
  | .char c => c
  | .half _ => standIn

/-! ## Wordings -/

/-- **Half of a pair at its place in a text.** -/
structure Half where
  /-- The number of characters before it. -/
  place : Nat
  /-- Its code. -/
  code : Nat
  deriving DecidableEq, Repr

/-- **A text, and the halves that are in it.** In their places the text has stand-ins. -/
structure Wording where
  /-- The text. -/
  text : String
  /-- The halves, in the order of their places. -/
  halves : List Half
  deriving DecidableEq, Repr

/-- The half that some code point is. -/
def CodePoint.half? (place : Nat) : CodePoint → Option Half
  | .char _ => none
  | .half code => some ⟨place, code⟩

/-- **The wording that some code points make up.** -/
def Wording.ofCodePoints (points : List CodePoint) : Wording :=
  ⟨String.ofList (points.map CodePoint.shown),
    points.zipIdx.filterMap fun (point, place) => point.half? place⟩

/-- A wording as a text that has another character in the places of the halves. -/
def Wording.shownAs (other : Char) (wording : Wording) : String :=
  String.ofList (wording.text.toList.zipIdx.map fun (own, place) =>
    if wording.halves.any (·.place == place) then other else own)

/-! ## Encoding -/

/-- **The halves for which a text has no bytes:** the first ones that stand together. -/
structure EncodeFault where
  /-- The code of the first. -/
  code : Nat
  /-- The place of the first. -/
  first : Nat
  /-- The place of the last. -/
  last : Nat
  deriving DecidableEq, Repr

/-- The last of the places that follow one after the other on some place. -/
def lastOfRun (place : Nat) : List Nat → Nat
  | [] => place
  | next :: rest => if next == place + 1 then lastOfRun next rest else place

/-- The fault of halves that begin with some code and stand at some places. -/
def EncodeFault.ofPlaces (code : Nat) (places : List Nat) : EncodeFault :=
  let first := places.headD 0
  ⟨code, first, lastOfRun first places.tail⟩

/-- The fault of some halves, if there are any. -/
def EncodeFault.ofHalves? : List Half → Option EncodeFault
  | [] => none
  | half :: rest => some (.ofPlaces half.code ((half :: rest).map (·.place)))

/-- **The wording of a fault:** a single half is shown, several are counted off. -/
def EncodeFault.message (fault : EncodeFault) : String :=
  let place :=
    if fault.first == fault.last then
      "character '\\u" ++ String.ofList (hexDigits 4 fault.code) ++ "' in position " ++
        toString fault.first
    else "characters in position " ++ toString fault.first ++ "-" ++ toString fault.last
  "'utf-8' codec can't encode " ++ place ++ ": surrogates not allowed"

end StringCatalog.Text
