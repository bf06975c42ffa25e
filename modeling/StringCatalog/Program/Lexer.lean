import StringCatalog.Program.Field
import StringCatalog.Program.Number
import StringCatalog.Text.Identifier

/-! # From text to tokens

* **`Margin`, `settle?`** — how far lines are set in, and what a line's margin says.
* **`Lexer`** — what is known at some point of a text, and **`Lexer.step?`**, the next tokens.
* **`tokens?`** — the tokens of a text. -/

namespace StringCatalog.Program

/-! ## Margins -/

/-- **How far a line is set in.** Tabs reach to the next multiple of eight; that lines agree must not
hang on it, so they are also counted as one. -/
structure Margin where
  /-- The width with wide tabs. -/
  wide : Nat
  /-- The width with narrow tabs. -/
  narrow : Nat
  deriving DecidableEq, Repr

/-- No margin. -/
def Margin.zero : Margin := ⟨0, 0⟩

/-- What has been read of a line's margin. -/
structure MarginReading where
  /-- The place behind what has been read. -/
  place : Place
  /-- The margin. -/
  margin : Margin
  /-- The width at the first backslash behind some blanks, if there is one. -/
  continued : Nat

/-- **The margin that a line counts with.** If the line goes over several, the first one counts. -/
def MarginReading.counted (reading : MarginReading) : Margin :=
  if reading.continued == 0 then reading.margin else ⟨reading.continued, reading.continued⟩

/-- The reading with a character more read, and the margin then. -/
def MarginReading.extend (reading : MarginReading) (c : Char) (margin : Margin) : MarginReading :=
  { reading with place := reading.place.advance c, margin }

/-- The reading continued in the next line. -/
def MarginReading.join (reading : MarginReading) : MarginReading :=
  { reading with
    place := reading.place.after ['\\', '\n']
    continued := if reading.continued == 0 then reading.margin.wide else reading.continued }

/-- Read the margin of a line, up to what follows it. A form feed starts the margin anew; a backslash
joins the line with the next one, which must be there. -/
def readMargin? (reading : MarginReading) : List Char → Option (MarginReading × List Char)
  | ' ' :: rest =>
      readMargin? (reading.extend ' ' ⟨reading.margin.wide + 1, reading.margin.narrow + 1⟩) rest
  | '\t' :: rest =>
      readMargin?
        (reading.extend '\t' ⟨(reading.margin.wide / 8 + 1) * 8, reading.margin.narrow + 1⟩) rest
  | '\x0C' :: rest => readMargin? (reading.extend '\x0C' .zero) rest
  | '\\' :: '\n' :: c :: rest => readMargin? reading.join (c :: rest)
  | '\\' :: _ => none
  | rest => some (reading, rest)

/-- The margins left behind by a line that is set in less, with how many were given up. -/
def giveUp (wide : Nat) : List Margin → Nat × List Margin
  | [] => (0, [])
  | margin :: outer =>
      if wide < margin.wide then
        let (count, rest) := giveUp wide outer
        (count + 1, rest)
      else (0, margin :: outer)

/-- **What a line's margin says,** given the margins around it, the innermost first: the lexemes
for lines set in more or less, and the margins from now on. -/
def settle? (margin : Margin) (margins : List Margin) : Option (List Lexeme × List Margin) :=
  let current := margins.headD .zero
  if margin.wide == current.wide then
    if margin.narrow == current.narrow then some ([], margins) else none
  else if current.wide < margin.wide then
    if 99 ≤ margins.length || margin.narrow ≤ current.narrow then none
    else some ([.indent], margin :: margins)
  else
    let (count, outer) := giveUp margin.wide margins
    if outer.headD .zero == margin then some (List.replicate count .dedent, outer) else none

/-! ## Words, strings and marks -/

/-- A character that goes on with a word; whether words beyond ASCII are names is seen later. -/
def isWordChar (c : Char) : Bool :=
  c.isAlphanum || c == '_' || 0x80 ≤ c.toNat

/-- What the letters before a string say about it. -/
structure StringKind where
  /-- Backslashes stand for themselves. -/
  isRaw : Bool
  /-- It stands for bytes. -/
  isBytes : Bool
  /-- It has fields. -/
  hasFields : Bool

/-- What letters before a string say about it. -/
def stringKind? (letters : List Char) : Option StringKind :=
  match letters.map Char.toLower with
  | [] | ['u'] => some ⟨false, false, false⟩
  | ['r'] => some ⟨true, false, false⟩
  | ['b'] => some ⟨false, true, false⟩
  | ['b', 'r'] | ['r', 'b'] => some ⟨true, true, false⟩
  | ['f'] => some ⟨false, false, true⟩
  | ['f', 'r'] | ['r', 'f'] => some ⟨true, false, true⟩
  | _ => none

/-- The marks of three and of two characters. -/
def longMarks : List String :=
  ["...", "**=", "//=", "<<=", ">>=", "!=", "%=", "&=", "**", "*=", "+=", "-=", "->", "//", "/=",
   ":=", "<<", "<=", "<>", "==", ">=", ">>", "@=", "^=", "|="]

/-- The longest mark that a text starts with. -/
def markOf (c : Char) (rest : List Char) : List Char :=
  ((longMarks.map String.toList).find? fun mark => mark.isPrefixOf (c :: rest)).getD [c]

/-! ## Steps -/

/-- **What is known at some point of a text.** -/
structure Lexer where
  /-- The place. -/
  place : Place
  /-- The brackets that are open, the innermost first. -/
  brackets : List Char
  /-- The margins around the line, the innermost first. -/
  margins : List Margin
  /-- Whether a line starts here. -/
  isAtStart : Bool

/-- What comes of a step: tokens, what is known then, and the rest of the text. -/
structure Step where
  /-- The tokens. -/
  tokens : List Token
  /-- What is known behind them. -/
  lexer : Lexer
  /-- What follows. -/
  rest : List Char

namespace Lexer

/-- A step past some characters, with at most one token. -/
def past (lexer : Lexer) (characters : List Char) (lexemes : List Lexeme) (rest : List Char) :
    Step :=
  ⟨lexemes.map fun lexeme => ⟨lexer.place, lexeme⟩,
    { lexer with place := lexer.place.after characters, isAtStart := false }, rest⟩

/-- The step at the start of a line outside brackets. -/
def startLine? (lexer : Lexer) (text : List Char) : Option Step :=
  match readMargin? ⟨lexer.place, .zero, 0⟩ text with
  | none => none
  | some (reading, rest) =>
      let place := reading.place
      match rest with
      | '\n' :: rest => some ⟨[], { lexer with place := place.advance '\n' }, rest⟩
      | '#' :: rest =>
          let comment := rest.takeWhile (· != '\n')
          some ⟨[], { lexer with place := (place.advance '#').after (comment ++ ['\n']) },
            rest.drop (comment.length + 1)⟩
      | rest =>
          (settle? reading.counted lexer.margins).map fun (lexemes, margins) =>
            ⟨lexemes.map fun lexeme => ⟨place, lexeme⟩,
              ⟨place, lexer.brackets, margins, false⟩, rest⟩

/-- The step over a string, given the letters before it. -/
def string? (inner : Place → List Char → Option (List Token)) (lexer : Lexer)
    (letters text : List Char) : Option Step :=
  match stringKind? letters, body? text with
  | some kind, some (quotes, body, rest) =>
      let characters := letters ++ text.take quotes ++ body ++ text.take quotes
      let bodyPlace := lexer.place.after (letters ++ text.take quotes)
      if kind.isBytes then
        if holdsBytes kind.isRaw body then some (lexer.past characters [.bytes] rest) else none
      else if kind.hasFields then
        match fields? kind.isRaw bodyPlace body with
        | none => none
        | some fields =>
            (fields.mapM fun field => inner field.place field.text).map fun tokens =>
              let after := lexer.past characters [] rest
              { after with
                tokens := ⟨lexer.place, .openFields⟩ :: tokens.flatten ++
                  [⟨after.lexer.place, .closeFields⟩] }
      else
        (if kind.isRaw then some (body.map .char) else unescape? body).map fun value =>
          lexer.past characters [.text value] rest
  | _, _ => none

/-- The step over a mark. Brackets must match. -/
def mark? (lexer : Lexer) (c : Char) (rest : List Char) : Option Step :=
  let mark := markOf c rest
  let after := rest.drop (mark.length - 1)
  let step := lexer.past mark [.symbol (String.ofList mark)] after
  if mark == ['('] || mark == ['['] || mark == ['\x7b'] then
    if 200 ≤ lexer.brackets.length then none
    else some { step with lexer := { step.lexer with brackets := c :: lexer.brackets } }
  else if mark == [')'] || mark == [']'] || mark == ['\x7d'] then
    match lexer.brackets with
    | [] => none
    | opening :: outer =>
        if closing opening == c then
          some { step with lexer := { step.lexer with brackets := outer } }
        else none
  else some step

/-- The step within a line, given how the fields of strings are read. -/
def withinLine? (inner : Place → List Char → Option (List Token)) (lexer : Lexer) :
    List Char → Option Step
  | [] => some (lexer.past [] [] [])
  | '\n' :: rest =>
      let step := lexer.past ['\n'] (if lexer.brackets.isEmpty then [.lineEnd] else []) rest
      some { step with lexer := { step.lexer with isAtStart := true } }
  | '\\' :: '\n' :: c :: rest => some (lexer.past ['\\', '\n'] [] (c :: rest))
  | '\\' :: _ => none
  | c :: rest =>
      if c == ' ' || c == '\t' || c == '\x0C' then some (lexer.past [c] [] rest)
      else if c == '#' then
        let comment := c :: rest.takeWhile (· != '\n')
        some (lexer.past comment [] (rest.drop (comment.length - 1)))
      else if c == '\'' || c == '"' then lexer.string? inner [] (c :: rest)
      else if c.isDigit || (c == '.' && (rest.head?.map Char.isDigit).getD false) then
        (number? (c :: rest)).map fun number =>
          lexer.past ((c :: rest).take number.length) [.number number.isImaginary]
            ((c :: rest).drop number.length)
      else if isWordChar c then
        let word := (c :: rest).takeWhile isWordChar
        let after := rest.drop (word.length - 1)
        let isQuoted := after.head? == some '\'' || after.head? == some '"'
        if isQuoted && (stringKind? word).isSome then lexer.string? inner word after
        else if Text.isIdentifier word then
          some (lexer.past word [.word (String.ofList word)] after)
        else none
      else lexer.mark? c rest

/-- **The next tokens.** -/
def step? (inner : Place → List Char → Option (List Token)) (lexer : Lexer) (text : List Char) :
    Option Step :=
  if lexer.isAtStart && lexer.brackets.isEmpty then lexer.startLine? text
  else lexer.withinLine? inner text

/-- What is known where the text of a field starts, behind its opening brace. -/
def ofField (place : Place) : Lexer :=
  ⟨place.advance '\x7b', ['('], [], false⟩

/-- The tokens at the end of a text: all lines end there. -/
def finish? (lexer : Lexer) : Option (List Token) :=
  if lexer.brackets.isEmpty then some (lexer.margins.map fun _ => ⟨lexer.place, .dedent⟩) else none

/-- The tokens of the rest of a text, in at most so many steps. A field counts as if in
parentheses. -/
def run? : Nat → Lexer → List Char → Option (List Token)
  | 0, _, _ => none
  | _ + 1, lexer, [] => lexer.finish?
  | steps + 1, lexer, c :: rest =>
      let inner (place : Place) (text : List Char) : Option (List Token) :=
        (run? steps (.ofField place) (text ++ [')'])).map (⟨place, .symbol "("⟩ :: ·)
      match lexer.step? inner (c :: rest) with
      | none => none
      | some step => (run? steps step.lexer step.rest).map (step.tokens ++ ·)

end Lexer

/-- **The tokens of a text,** whose last line is made to end if it does not. Each step but those at
the starts of lines reads a character, so the steps are no more than twice the characters. -/
def tokens? (text : List Char) : Option (List Token) :=
  let lines := if text.getLast? == some '\n' then text else text ++ ['\n']
  Lexer.run? (2 * lines.length + 2) ⟨.start, [], [], true⟩ lines

end StringCatalog.Program
