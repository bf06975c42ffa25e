import StringCatalog.Text.Blank

/-! # Digits and whole numbers

* **`decimalValue?`** — the value of a decimal digit of any script.
* **`isDigit`** — the digits in a wider sense, with superscripts and circled digits.
* **`readInteger?`** — a whole number as people write it: blanks around it, a sign, digits of any
  script, and single underscores between digits. -/

namespace StringCatalog.Text

/-- The zeros of the scripts that write decimal numbers; the other nine digits follow each. -/
def decimalZeros : List Nat :=
  [0x30, 0x660, 0x6F0, 0x7C0, 0x966, 0x9E6, 0xA66, 0xAE6, 0xB66, 0xBE6, 0xC66, 0xCE6, 0xD66,
   0xDE6, 0xE50, 0xED0, 0xF20, 0x1040, 0x1090, 0x17E0, 0x1810, 0x1946, 0x19D0, 0x1A80, 0x1A90,
   0x1B50, 0x1BB0, 0x1C40, 0x1C50, 0xA620, 0xA8D0, 0xA900, 0xA9D0, 0xA9F0, 0xAA50, 0xABF0, 0xFF10,
   0x104A0, 0x10D30, 0x11066, 0x110F0, 0x11136, 0x111D0, 0x112F0, 0x11450, 0x114D0, 0x11650,
   0x116C0, 0x11730, 0x118E0, 0x11950, 0x11C50, 0x11D50, 0x11DA0, 0x16A60, 0x16AC0, 0x16B50,
   0x1D7CE, 0x1D7D8, 0x1D7E2, 0x1D7EC, 0x1D7F6, 0x1E140, 0x1E2F0, 0x1E950, 0x1FBF0]

/-- **The value of a decimal digit.** -/
def decimalValue? (c : Char) : Option Nat :=
  (decimalZeros.find? fun start => start ≤ c.toNat && c.toNat ≤ start + 9).map (c.toNat - ·)

/-- A decimal digit of any script. -/
def isDecimal (c : Char) : Bool :=
  (decimalValue? c).isSome

/-- The first and last of the runs of digits that take no place value: superscripts, subscripts,
circled and parenthesised digits, and the digits of scripts without a zero. -/
def placelessDigits : List (Nat × Nat) :=
  [(0xB2, 0xB3), (0xB9, 0xB9), (0x1369, 0x1371), (0x19DA, 0x19DA), (0x2070, 0x2070),
   (0x2074, 0x2079), (0x2080, 0x2089), (0x2460, 0x2468), (0x2474, 0x247C), (0x2488, 0x2490),
   (0x24EA, 0x24EA), (0x24F5, 0x24FD), (0x24FF, 0x24FF), (0x2776, 0x277E), (0x2780, 0x2788),
   (0x278A, 0x2792), (0x10A40, 0x10A43), (0x10E60, 0x10E68), (0x11052, 0x1105A),
   (0x1F100, 0x1F10A)]

/-- **A digit in the wide sense.** -/
def isDigit (c : Char) : Bool :=
  isDecimal c || placelessDigits.any fun (first, last) => first ≤ c.toNat && c.toNat ≤ last

/-! ## Reading a whole number -/

/-- The longest run of decimal digits that a number may have. -/
def longestNumber : Nat := 4300

/-- Why a text is no whole number. -/
inductive IntegerFault where
  /-- The text has another form. -/
  | malformed
  /-- The text has more digits than a number may have. -/
  | tooLong (digits : Nat)
  deriving DecidableEq, Repr

/-- A blank around a number: the information separators of ASCII do not count here. -/
def isNumberBlank (c : Char) : Bool :=
  isBlank c && !(28 ≤ c.toNat && c.toNat ≤ 31)

/-- **The digits of a number with single underscores between them.** The flag says whether the
character before was a digit, so that an underscore neither opens nor closes nor repeats. -/
def readDigits? : Bool → List Char → Option (List Nat)
  | afterDigit, [] => if afterDigit then some [] else none
  | afterDigit, c :: rest =>
      if c == '_' then if afterDigit then readDigits? false rest else none
      else
        match decimalValue? c with
        | none => none
        | some digit => (readDigits? true rest).map (digit :: ·)

/-- **Read a whole number.** -/
def readInteger (text : String) : Except IntegerFault Int :=
  let inner := ((text.toList.dropWhile isNumberBlank).reverse.dropWhile isNumberBlank).reverse
  let (negative, unsigned) :=
    match inner with
    | '-' :: rest => (true, rest)
    | '+' :: rest => (false, rest)
    | other => (false, other)
  match readDigits? false unsigned with
  | none => .error .malformed
  | some digits =>
      if digits.length > longestNumber then .error (.tooLong digits.length)
      else
        let magnitude : Nat := digits.foldl (fun value digit => value * 10 + digit) 0
        .ok (if negative then -(magnitude : Int) else magnitude)

end StringCatalog.Text
