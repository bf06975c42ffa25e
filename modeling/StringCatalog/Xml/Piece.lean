import StringCatalog.Text.RangeTable
import StringCatalog.Xml.Char

/-! # Text with references

The text of elements and attributes is made of characters and of references to entities:

* **`Xml.Piece`** — a character or a reference that is kept.
* **`Xml.readPieces?`** — the pieces of a text; references to characters and to the five entities
  that every document has are characters already.
* **`Xml.escapeText`, `Xml.escapeValue`** — characters written into an element or an attribute. -/

namespace StringCatalog.Xml

/-- **A character, or a reference to an entity by its name.** -/
inductive Piece where
  | char (c : Char)
  | reference (name : List Char)
  deriving DecidableEq, Repr

/-! ## Reading -/

/-- The character of an entity that every document has. -/
def predefined? (name : List Char) : Option Char :=
  match String.ofList name with
  | "lt" => some '<'
  | "gt" => some '>'
  | "amp" => some '&'
  | "quot" => some '"'
  | "apos" => some '\''
  | _ => none

/-- The number that some digits write in a base. -/
def readNumber? (base : Nat) (digits : List Char) : Option Nat :=
  digits.foldl
    (fun value? c =>
      match value?, Text.hexValue? c with
      | some value, some digit => if digit < base then some (value * base + digit) else none
      | _, _ => none)
    (some 0)

/-- The character of a number, if a document may hold it. -/
def charOf? (number : Nat) : Option Char :=
  if h : number.isValidChar then
    let c := Char.ofNatAux number h
    if isChar c then some c else none
  else none

/-- What a reference stands for, given what is written between `&` and `;`. -/
def readReference? (inner : List Char) : Option Piece :=
  match inner with
  | '#' :: 'x' :: digits => ((readNumber? 16 digits).bind charOf?).map .char
  | '#' :: digits => ((readNumber? 10 digits).bind charOf?).map .char
  | name =>
      match predefined? name with
      | some c => some (.char c)
      | none => if isName name then some (.reference name) else none

/-- `after.length < text.length`: what is behind a cut is shorter. -/
theorem length_cutAt? {c : Char} {text before after : List Char}
    (h : Text.cutAt? c text = some (before, after)) : after.length < text.length := by
  induction text generalizing before with
  | nil => simp [Text.cutAt?] at h
  | cons d rest ih =>
      unfold Text.cutAt? at h
      split at h
      · simp only [Option.some.injEq, Prod.mk.injEq] at h
        simp [← h.2]
      · cases hr : Text.cutAt? c rest with
        | none => simp [hr] at h
        | some parts =>
            simp only [hr, Option.map_some, Option.some.injEq, Prod.mk.injEq] at h
            have := @ih parts.1 (by rw [hr, ← h.2])
            simp only [List.length_cons]
            omega

/-- **The pieces of a text.** Characters that stand for themselves go through the given map. -/
def readPieces? (plain : Char → Char) : List Char → Option (List Piece)
  | [] => some []
  | c :: rest =>
      if c == '&' then
        match h : Text.cutAt? ';' rest with
        | none => none
        | some (inner, after) =>
            have : after.length < rest.length := length_cutAt? h
            match readReference? inner with
            | none => none
            | some piece => (readPieces? plain after).map (piece :: ·)
      else (readPieces? plain rest).map (.char (plain c) :: ·)
termination_by text => text.length

/-! ## Writing -/

/-- One character inside an element. -/
def escapeTextChar : Char → List Char
  | '&' => "&amp;".toList
  | '<' => "&lt;".toList
  | '>' => "&gt;".toList
  | '\r' => "&#13;".toList
  | c => [c]

/-- **Characters written into an element.** -/
def escapeText (text : List Char) : List Char :=
  text.flatMap escapeTextChar

/-- One character inside an attribute. -/
def escapeValueChar : Char → List Char
  | '&' => "&amp;".toList
  | '<' => "&lt;".toList
  | '>' => "&gt;".toList
  | '"' => "&quot;".toList
  | '\n' => "&#10;".toList
  | '\r' => "&#13;".toList
  | '\t' => "&#9;".toList
  | c => [c]

/-- **Characters written into an attribute.** -/
def escapeValue (text : List Char) : List Char :=
  text.flatMap escapeValueChar

/-- A reference as it is written. -/
def referenceText (name : List Char) : List Char :=
  '&' :: name ++ [';']

/-- One piece of an attribute as it is written. -/
def Piece.writeValue : Piece → List Char
  | .char c => escapeValueChar c
  | .reference name => referenceText name

end StringCatalog.Xml
