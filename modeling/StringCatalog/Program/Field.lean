import StringCatalog.Program.Literal

/-! # Fields of strings

Some strings have fields in braces: an expression, perhaps a conversion, and perhaps a format, which
has fields of its own:

* **`literalPart?`** — the text before the next field.
* **`fieldText?`** — the text of an expression in a field.
* **`fields?`** — the expressions of all fields, at their places. -/

namespace StringCatalog.Program

/-- **The expression of a field:** the place of its opening brace and its text. -/
structure Field where
  /-- Where the opening brace stands. -/
  place : Place
  /-- The text of the expression. -/
  text : List Char
  deriving DecidableEq, Repr

/-! ## Text between fields -/

/-- What ends the text before a field. -/
inductive LiteralEnd where
  /-- A field, or the end of what is read. -/
  | stop
  /-- A brace that is doubled and stands for itself. -/
  | doubled
  deriving DecidableEq, Repr

/-- What comes of the text before the next field: the text, how it ended, and what follows. -/
structure LiteralPart where
  /-- The text. -/
  text : List Char
  /-- How it ended. -/
  ending : LiteralEnd
  /-- What follows. -/
  rest : List Char

/-- The part with a character more in front. -/
def LiteralPart.push (c : Char) (part : LiteralPart) : LiteralPart :=
  { part with text := c :: part.text }

/-- **The text before the next field.** Outside formats a brace may be doubled, and a closing one
may not stand alone. A name of a character in braces is no field. -/
def literalPart? (isRaw isFormat : Bool) : Bool → List Char → Option LiteralPart
  | _, [] => some ⟨[], .stop, []⟩
  | true, c :: rest =>
      (literalPart? isRaw isFormat (c != '\x7d') rest).map (·.push c)
  | false, '\\' :: 'N' :: '\x7b' :: rest =>
      if isRaw then
        (literalPart? isRaw isFormat false ('\x7b' :: rest)).map fun part =>
          (part.push 'N').push '\\'
      else
        (literalPart? isRaw isFormat true rest).map fun part =>
          ((part.push '\x7b').push 'N').push '\\'
  | false, '\\' :: c :: rest =>
      if isRaw || c == '\x7b' || c == '\x7d' then
        (literalPart? isRaw isFormat false (c :: rest)).map (·.push '\\')
      else (literalPart? isRaw isFormat false rest).map fun part => (part.push c).push '\\'
  | false, c :: rest =>
      if c == '\x7b' || c == '\x7d' then
        if isFormat then some ⟨[], .stop, c :: rest⟩
        else if rest.head? == some c then some ⟨[c], .doubled, rest.drop 1⟩
        else if c == '\x7d' then none
        else some ⟨[], .stop, c :: rest⟩
      else (literalPart? isRaw isFormat false rest).map (·.push c)
termination_by _ text => text.length

/-! ## Expressions -/

/-- The bracket that closes an opening one. -/
def closing (bracket : Char) : Char :=
  if bracket == '(' then ')' else if bracket == '[' then ']' else '\x7d'

/-- How the quotes of a string inside an expression look. -/
structure Quotes where
  /-- The quote. -/
  mark : Char
  /-- Whether there are three of them. -/
  isLong : Bool

/-- **The text of an expression in a field,** and what follows from the mark on that ends it: a
closing brace, a colon, an exclamation mark or an equals sign outside brackets and strings. There
may be neither backslashes nor comments in it. -/
def fieldText? : Option Quotes → List Char → List Char → Option (List Char × List Char)
  | _, _, [] => none
  | some quotes, brackets, c :: rest =>
      let next := rest.take 2
      if c == '\\' then none
      else if c != quotes.mark then
        (fieldText? (some quotes) brackets rest).map fun (text, after) => (c :: text, after)
      else if !quotes.isLong then
        (fieldText? none brackets rest).map fun (text, after) => (c :: text, after)
      else if next == [c, c] then
        (fieldText? none brackets (rest.drop 2)).map fun (text, after) =>
          (c :: c :: c :: text, after)
      else (fieldText? (some quotes) brackets rest).map fun (text, after) => (c :: text, after)
  | none, brackets, c :: rest =>
      if c == '\\' || c == '#' then none
      else if c == '\'' || c == '"' then
        if rest.take 2 == [c, c] then
          (fieldText? (some ⟨c, true⟩) brackets (rest.drop 2)).map fun (text, after) =>
            (c :: c :: c :: text, after)
        else
          (fieldText? (some ⟨c, false⟩) brackets rest).map fun (text, after) => (c :: text, after)
      else if c == '(' || c == '[' || c == '\x7b' then
        if 200 ≤ brackets.length then none
        else
          (fieldText? none (c :: brackets) rest).map fun (text, after) => (c :: text, after)
      else if brackets.isEmpty && ['!', ':', '\x7d', '='].contains c &&
          !((c == '!' || c == '=') && rest.head? == some '=') then
        some ([], c :: rest)
      else if brackets.isEmpty && ['!', '=', '<', '>'].contains c && rest.head? == some '=' then
        (fieldText? none brackets (rest.drop 1)).map fun (text, after) =>
          (c :: '=' :: text, after)
      else if c == ')' || c == ']' || c == '\x7d' then
        match brackets with
        | [] => none
        | opening :: outer =>
            if closing opening == c then
              (fieldText? none outer rest).map fun (text, after) => (c :: text, after)
            else none
      else (fieldText? none brackets rest).map fun (text, after) => (c :: text, after)
termination_by _ _ text => text.length
decreasing_by all_goals simp only [List.length_cons, List.length_drop]; omega

/-! ## Fields -/

/-- The blanks in which an expression is empty. -/
def isFieldBlank (c : Char) : Bool :=
  c == ' ' || c == '\t' || c == '\n' || c == '\x0C'

/-- What stands between an expression and the format or the end of its field: an equals sign with
blanks behind it, and a conversion. -/
def afterExpression? (rest : List Char) : Option (List Char) :=
  let rest :=
    match rest with
    | '=' :: more => more.dropWhile fun c => isFieldBlank c || c == '\r' || c == '\x0B'
    | _ => rest
  match rest with
  | '!' :: c :: more => if c == 's' || c == 'r' || c == 'a' then some more else none
  | '!' :: [] => none
  | _ => some rest

/-- The place of what is left of a text. -/
def placeOfRest (place : Place) (text rest : List Char) : Place :=
  place.after (text.take (text.length - rest.length))

/-- The fields of a text, and what is left of it: nothing, or what follows from the closing brace
on of the field whose format the text is. The first number bounds the steps; the depth says in how
many formats the text stands. -/
def fieldsIn? (isRaw : Bool) :
    Nat → Nat → Place → List Char → Option (List Field × List Char)
  | 0, _, _, _ => none
  | steps + 1, depth, place, text =>
      match literalPart? isRaw (depth != 0) false text with
      | none => none
      | some part =>
          if !isRaw && (unescape? part.text).isNone then none
          else
            let after := placeOfRest place text part.rest
            match part.ending, part.rest with
            | .doubled, rest => fieldsIn? isRaw steps depth after rest
            | .stop, '\x7b' :: inner =>
                if 2 ≤ depth then none
                else
                  match fieldText? none [] inner with
                  | none => none
                  | some (expression, tail) =>
                      if expression.all isFieldBlank then none
                      else
                        match afterExpression? tail with
                        | some (':' :: format) =>
                            match fieldsIn? isRaw steps (depth + 1)
                                (placeOfRest after part.rest format) format with
                            | some (nested, '\x7d' :: rest) =>
                                (fieldsIn? isRaw steps depth
                                  (placeOfRest after part.rest rest) rest).map
                                  fun (fields, rest) => (⟨after, expression⟩ :: nested ++ fields, rest)
                            | _ => none
                        | some ('\x7d' :: rest) =>
                            (fieldsIn? isRaw steps depth
                              (placeOfRest after part.rest rest) rest).map
                              fun (fields, rest) => (⟨after, expression⟩ :: fields, rest)
                        | _ => none
            | .stop, rest => some ([], rest)

/-- **The fields of a string** whose text starts at a place. Each step reads a brace or comes to the
end, so there are no more steps than characters and one. -/
def fields? (isRaw : Bool) (place : Place) (text : List Char) :
    Option (List Field) :=
  match fieldsIn? isRaw (text.length + 1) 0 place text with
  | some (fields, []) => some fields
  | _ => none

end StringCatalog.Program
