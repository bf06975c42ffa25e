import StringCatalog.Text.Blank

/-! # Tables of character ranges

A property of Unicode characters is kept as lines of its ranges, `"41-5A 5F 61-7A"`, in hexadecimal,
and read once:

* **`RangeTable`** — the ranges in order.
* **`RangeTable.ofText`** — reads the text of a table.
* **`RangeTable.contains`** — whether a character lies in one of the ranges. -/

namespace StringCatalog.Text

/-- The value of a hexadecimal digit. -/
def hexValue? (c : Char) : Option Nat :=
  if '0' ≤ c && c ≤ '9' then some (c.toNat - '0'.toNat)
  else if 'a' ≤ c && c ≤ 'f' then some (c.toNat - 'a'.toNat + 10)
  else if 'A' ≤ c && c ≤ 'F' then some (c.toNat - 'A'.toNat + 10)
  else none

/-- The value of a run of hexadecimal digits; other characters are passed over. -/
def hexNumber (digits : List Char) : Nat :=
  digits.foldl (fun value c => (hexValue? c).elim value (value * 16 + ·)) 0

/-- The lower-case hexadecimal digits of a number, at least as many as asked for. -/
def hexDigits (width value : Nat) : List Char :=
  let digits := Nat.toDigits 16 value
  List.replicate (width - digits.length) '0' ++ digits

/-- **The ranges of a property of characters,** each by its first and last code point. -/
structure RangeTable where
  /-- The ranges in ascending order. -/
  ranges : Array (Nat × Nat)

namespace RangeTable

/-- One range: two numbers with a hyphen between them, or a single number. -/
def readRange (word : List Char) : Nat × Nat :=
  match split (· == '-') word with
  | [first, last] => (hexNumber first, hexNumber last)
  | _ => (hexNumber word, hexNumber word)

/-- **Read a table from the lines of its ranges.** -/
def ofLines (lines : List String) : RangeTable :=
  ⟨(lines.flatMap fun line => (words line.toList).map readRange).toArray⟩

/-- **Whether a character lies in one of the ranges.** -/
def contains (table : RangeTable) (c : Char) : Bool :=
  table.ranges.any fun (first, last) => first ≤ c.toNat && c.toNat ≤ last

end RangeTable

end StringCatalog.Text
