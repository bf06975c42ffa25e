import StringCatalog.Program.Token
import StringCatalog.Text.CharacterName
import StringCatalog.Text.Wording

/-! # String literals

What stands between the quotes of a string:

* **`body?`** — the text up to the closing quotes, and what follows them.
* **`escape?`** — what a backslash and the characters behind it stand for.
* **`unescape?`** — the code points that a string with backslashes stands for.
* **`holdsBytes`** — whether a string can stand for bytes. -/

namespace StringCatalog.Program

/-! ## Quotes -/

/-- The text up to a single closing quote, which stands on the same line. -/
def plainBody? (quote : Char) : List Char → Option (List Char × List Char)
  | [] => none
  | '\\' :: c :: rest => (plainBody? quote rest).map fun (body, after) => ('\\' :: c :: body, after)
  | c :: rest =>
      if c == quote then some ([], rest)
      else if c == '\n' then none
      else (plainBody? quote rest).map fun (body, after) => (c :: body, after)

/-- The text up to three closing quotes. -/
def longBody? (quote : Char) : List Char → Option (List Char × List Char)
  | [] => none
  | '\\' :: c :: rest => (longBody? quote rest).map fun (body, after) => ('\\' :: c :: body, after)
  | c :: rest =>
      if [quote, quote, quote].isPrefixOf (c :: rest) then some ([], rest.drop 2)
      else (longBody? quote rest).map fun (body, after) => (c :: body, after)

/-- **The text up to the closing quotes,** given the text from the opening ones on, with the number
of quotes on either side and what follows. -/
def body? : List Char → Option (Nat × List Char × List Char)
  | [] => none
  | quote :: rest =>
      if [quote, quote].isPrefixOf rest then
        (longBody? quote (rest.drop 2)).map fun (body, after) => (3, body, after)
      else (plainBody? quote rest).map fun (body, after) => (1, body, after)

/-! ## Backslashes -/

/-- The characters that stand for a control character behind a backslash, and those that stand for
themselves. -/
def letterEscapes : List (Char × Char) :=
  [('\\', '\\'), ('\'', '\''), ('"', '"'), ('a', '\x07'), ('b', '\x08'), ('f', '\x0C'),
   ('n', '\n'), ('r', '\r'), ('t', '\t'), ('v', '\x0B')]

/-- A digit from zero to seven. -/
def isOctal (c : Char) : Bool :=
  '0' ≤ c && c ≤ '7'

/-- The code point with so many hexadecimal digits in front of a text. -/
def hexEscape? (digits : Nat) (text : List Char) : Option (List Text.CodePoint × Nat) :=
  let number := text.take digits
  let code := Text.hexNumber number
  if number.length == digits && number.all (fun c => (Text.hexValue? c).isSome) && code ≤ 0x10FFFF
  then some ([.ofNat code], digits + 1)
  else none

/-- The character whose name stands in braces in front of a text. -/
def nameEscape? : List Char → Option (List Text.CodePoint × Nat)
  | '\x7b' :: rest =>
      let name := rest.takeWhile (· != '\x7d')
      if name.length < rest.length then
        (Text.characterNamed? (String.ofList name)).map fun c => ([.char c], name.length + 3)
      else none
  | _ => none

/-- **What the characters behind a backslash stand for,** and how many they are. A backslash before
any other character stands for itself. -/
def escape? : List Char → Option (List Text.CodePoint × Nat)
  | [] => some ([.char '\\'], 0)
  | '\n' :: _ => some ([], 1)
  | 'x' :: rest => hexEscape? 2 rest
  | 'u' :: rest => hexEscape? 4 rest
  | 'U' :: rest => hexEscape? 8 rest
  | 'N' :: rest => nameEscape? rest
  | c :: rest =>
      match letterEscapes.lookup c with
      | some control => some ([.char control], 1)
      | none =>
          if isOctal c then
            let digits := c :: (rest.take 2).takeWhile isOctal
            some ([.ofNat (digits.foldl (fun n d => n * 8 + (d.toNat - '0'.toNat)) 0)],
              digits.length)
          else some ([.char '\\'], 0)

/-- The code points that a string stands for, of whose first characters so many have been read. -/
def unescapeFrom? : Nat → List Char → Option (List Text.CodePoint)
  | _, [] => some []
  | read + 1, _ :: rest => unescapeFrom? read rest
  | 0, '\\' :: rest =>
      match escape? rest with
      | none => none
      | some (replacement, read) => (unescapeFrom? read rest).map (replacement ++ ·)
  | 0, c :: rest => (unescapeFrom? 0 rest).map (.char c :: ·)

/-- **The code points that a string with backslashes stands for.** -/
def unescape? (text : List Char) : Option (List Text.CodePoint) :=
  unescapeFrom? 0 text

/-! ## Bytes -/

/-- Whether each backslash of a string of bytes is right, given how many characters to pass over. -/
def bytesFrom : Nat → List Char → Bool
  | _, [] => true
  | passed + 1, _ :: rest => bytesFrom passed rest
  | 0, '\\' :: 'x' :: rest => (hexEscape? 2 rest).isSome && bytesFrom 0 rest
  | 0, '\\' :: rest => bytesFrom 1 rest
  | 0, _ :: rest => bytesFrom 0 rest

/-- **Whether a string can stand for bytes:** it is ASCII, and if backslashes count, each `\x` has
its two digits. -/
def holdsBytes (isRaw : Bool) (text : List Char) : Bool :=
  text.all (·.toNat < 0x80) && (isRaw || bytesFrom 0 text)

end StringCatalog.Program
