import StringCatalog.Text.Digit
import StringCatalog.Text.Search

/-! # Placeholders

The gaps of a text that a program fills in:

* **`Placeholder`** — a conversion after a percent sign (`%s`, `%1$d`, `%(name)s`, `%.2f`), or a field in
  braces.
* **`placeholders`** — the placeholders of a text: first all conversions, then all fields, each in
  the order in which they stand. A doubled percent sign or brace is a plain character.
* **`formatHint?`** — what kind of placeholders a text has. -/

namespace StringCatalog

/-- **A placeholder** in its spelling. -/
inductive Placeholder where
  /-- A conversion, percent sign included. -/
  | conversion (text : String)
  /-- A field, braces included. -/
  | field (text : String)
  deriving DecidableEq, Repr

namespace Placeholder

/-- The spelling of a placeholder. -/
def text : Placeholder → String
  | .conversion text => text
  | .field text => text

/-- Whether a placeholder is filled by the next value in turn, so that its place among the others
matters: a conversion that has neither a number nor a name. -/
def isSequential : Placeholder → Bool
  | .conversion text => !text.toList.contains '$' && !text.toList.contains '('
  | .field _ => false

/-! ## One placeholder

Each step gives the length of the part of a placeholder that a text begins with. -/

/-- A letter of ASCII or an underscore. -/
def isNameStart (c : Char) : Bool :=
  c.isAlpha || c == '_'

/-- A letter or digit of ASCII or an underscore. -/
def isNameChar (c : Char) : Bool :=
  c.isAlphanum || c == '_'

/-- The number of characters at the start of a text that belong to a class. -/
def run (belongs : Char → Bool) (text : List Char) : Nat :=
  (text.takeWhile belongs).length

/-- The number of the value to fill in (`1$`), or its name in parentheses. -/
def argument (text : List Char) : Nat :=
  match text with
  | '(' :: c :: rest =>
      let length := run isNameChar rest
      if isNameStart c && (rest.drop length).head? == some ')' then length + 3 else 0
  | _ =>
      let length := run Text.isDecimal text
      if 0 < length && (text.drop length).head? == some '$' then length + 1 else 0

/-- A number, or a star in its place. -/
def amount (text : List Char) : Nat :=
  match text with
  | '*' :: _ => 1
  | _ => run Text.isDecimal text

/-- A full stop and an amount. -/
def precision (text : List Char) : Nat :=
  match text with
  | '.' :: rest => if amount rest == 0 then 0 else amount rest + 1
  | _ => 0

/-- How wide the value is. -/
def width (text : List Char) : Nat :=
  match text with
  | 'h' :: 'h' :: _ => 2
  | 'l' :: 'l' :: _ => 2
  | c :: _ => if "hlLzjt".toList.contains c then 1 else 0
  | [] => 0

/-- The flags of a conversion. -/
def isFlag (c : Char) : Bool :=
  "-+0 #".toList.contains c

/-- The letters that end a conversion. -/
def isConversion (c : Char) : Bool :=
  "diouxXeEfFgGaAcspn@".toList.contains c

/-- The length of what stands between a percent sign and the letter that ends the conversion. -/
def settings (text : List Char) : Nat :=
  let parts : List (List Char → Nat) := [argument, run isFlag, amount, precision, width]
  parts.foldl (fun length part => length + part (text.drop length)) 0

/-- **The length of the conversion after a percent sign,** the sign not counted. -/
def conversionLength? (text : List Char) : Option Nat :=
  let length := settings text
  match text.drop length with
  | c :: _ => if isConversion c then some (length + 1) else none
  | [] => none

/-- **The length of the field after a brace,** the brace not counted: a name or number, then a
colon or a comma and the format, if there is one. -/
def fieldLength? (text : List Char) : Option Nat :=
  let length := run isNameChar text
  match text.drop length with
  | '}' :: _ => some (length + 1)
  | c :: rest =>
      if c == ':' || c == ',' then
        let format := run (fun d => d != '\x7b' && d != '}') rest
        if (rest.drop format).head? == some '}' then some (length + format + 2) else none
      else none
  | [] => none

end Placeholder

/-! ## The placeholders of a text -/

/-- The conversions of a text: the number counts the characters of one that are still to be
passed. -/
def conversionsFrom : Nat → List Char → List Placeholder
  | _, [] => []
  | skip + 1, _ :: rest => conversionsFrom skip rest
  | 0, c :: rest =>
      if c == '%' then
        match Placeholder.conversionLength? rest with
        | some length =>
            .conversion (String.ofList ('%' :: rest.take length)) :: conversionsFrom length rest
        | none => conversionsFrom (if rest.head? == some '%' then 1 else 0) rest
      else conversionsFrom 0 rest

/-- The fields of a text: the number counts the characters of one that are still to be passed. -/
def fieldsFrom : Nat → List Char → List Placeholder
  | _, [] => []
  | skip + 1, _ :: rest => fieldsFrom skip rest
  | 0, c :: rest =>
      if (c == '\x7b' || c == '}') && rest.head? == some c then fieldsFrom 1 rest
      else if c == '\x7b' then
        match Placeholder.fieldLength? rest with
        | some length =>
            .field (String.ofList ('\x7b' :: rest.take length)) :: fieldsFrom length rest
        | none => fieldsFrom 0 rest
      else fieldsFrom 0 rest

/-- **The placeholders of a text.** -/
def placeholders (text : String) : List Placeholder :=
  conversionsFrom 0 text.toList ++ fieldsFrom 0 text.toList

/-- Whether a text has placeholders. -/
def hasPlaceholders (text : String) : Bool :=
  !(placeholders text).isEmpty

/-- **What kind of placeholders a text has.** Conversions count before fields. -/
def formatHint? (text : String) : Option String :=
  if (conversionsFrom 0 text.toList).isEmpty then
    if (fieldsFrom 0 text.toList).isEmpty then none else some "python-brace-format"
  else some "python-format"

end StringCatalog
