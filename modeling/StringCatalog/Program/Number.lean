import StringCatalog.Program.Token
import StringCatalog.Text.RangeTable

/-! # Numbers

* **`digits?`** — how long a run of digits is, with single underscores between them.
* **`mayFollow`** — whether a number may end before some text.
* **`Number`, `number?`** — the number that a text starts with. -/

namespace StringCatalog.Program

/-- **A number in a text.** -/
structure Number where
  /-- Whether it is imaginary. -/
  isImaginary : Bool
  /-- How many characters it has. -/
  length : Nat
  deriving DecidableEq, Repr

/-- A number with so many characters more in front. -/
def Number.behind (count : Nat) (number : Number) : Number :=
  { number with length := count + number.length }

/-- **The length of a run of digits** that has begun. An underscore must have a digit behind it. -/
def digits? (isDigit : Char → Bool) : List Char → Option Nat
  | '_' :: d :: rest => if isDigit d then (digits? isDigit rest).map (· + 2) else none
  | c :: rest =>
      if isDigit c then (digits? isDigit rest).map (· + 1) else if c == '_' then none else some 0
  | [] => some 0

/-- Whether some text starts with a digit, an underscore before it left out. -/
def startsDigits (isDigit : Char → Bool) : List Char → Bool
  | '_' :: d :: _ => isDigit d
  | d :: _ => isDigit d
  | [] => false

/-- The words that may follow a number without a blank. -/
def followers : List String :=
  ["and", "else", "for", "if", "in", "is", "or", "not"]

/-- **Whether a number may end before some text:** no letter and no digit follows, except in some
words. -/
def mayFollow (rest : List Char) : Bool :=
  match rest with
  | [] => true
  | c :: _ =>
      !(c.isAlphanum || c == '_' || 0x80 ≤ c.toNat) ||
        followers.any fun word => word.toList.isPrefixOf rest

/-- A number from the digits behind its base on. -/
def based? (isDigit : Char → Bool) (text : List Char) : Option Number :=
  if startsDigits isDigit text then
    match digits? isDigit text with
    | some count => if mayFollow (text.drop count) then some ⟨false, count⟩ else none
    | none => none
  else none

/-- The end of a number that may be imaginary. -/
def suffix? : List Char → Option Number
  | [] => some ⟨false, 0⟩
  | c :: rest =>
      if c == 'j' || c == 'J' then if mayFollow rest then some ⟨true, 1⟩ else none
      else if mayFollow (c :: rest) then some ⟨false, 0⟩
      else none

/-- The end of a number behind its last digits. -/
def afterDigits? (next? : List Char → Option Number) (text : List Char) : Option Number :=
  match digits? Char.isDigit text with
  | some count => (next? (text.drop count)).map (·.behind count)
  | none => none

/-- A number from its exponent on, if it has one. -/
def exponent? (text : List Char) : Option Number :=
  match text with
  | e :: sign :: d :: rest =>
      if e != 'e' && e != 'E' then suffix? text
      else if sign == '+' || sign == '-' then
        if d.isDigit then (afterDigits? suffix? (d :: rest)).map (·.behind 2) else none
      else if sign.isDigit then (afterDigits? suffix? (sign :: d :: rest)).map (·.behind 1)
      else suffix? text
  | _ => suffix? text

/-- A number from the digits behind its point on. -/
def fraction? (text : List Char) : Option Number :=
  if (text.head?.map Char.isDigit).getD false then afterDigits? exponent? text else exponent? text

/-- The most digits that a whole number may have. -/
def maxDigits : Nat := 4300

/-- Whether digits make up a whole number: none but zero starts with zero, and there are not too
many. -/
def isWhole (digits : List Char) : Bool :=
  !(digits.head? == some '0' && digits.any (· != '0')) && digits.length ≤ maxDigits

/-- A number in base ten. -/
def decimal? (text : List Char) : Option Number :=
  match digits? Char.isDigit text with
  | none => none
  | some count =>
      match text.drop count with
      | '.' :: rest => (fraction? rest).map (·.behind (count + 1))
      | [] => if isWhole ((text.take count).filter (· != '_')) then some ⟨false, count⟩ else none
      | c :: rest =>
          if ['e', 'E', 'j', 'J'].contains c then (exponent? (c :: rest)).map (·.behind count)
          else if isWhole ((text.take count).filter (· != '_')) && mayFollow (c :: rest) then
            some ⟨false, count⟩
          else none

/-- **The number that a text starts with.** -/
def number? : List Char → Option Number
  | '.' :: rest => (fraction? rest).map (·.behind 1)
  | '0' :: c :: rest =>
      if c == 'x' || c == 'X' then
        (based? (fun d => (Text.hexValue? d).isSome) rest).map (·.behind 2)
      else if c == 'o' || c == 'O' then
        (based? (fun d => '0' ≤ d && d ≤ '7') rest).map (·.behind 2)
      else if c == 'b' || c == 'B' then
        (based? (fun d => d == '0' || d == '1') rest).map (·.behind 2)
      else decimal? ('0' :: c :: rest)
  | text => decimal? text

end StringCatalog.Program
