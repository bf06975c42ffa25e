import StringCatalog.Text.Utf8

/-! # Message digests

The 128-bit digest that names a text in few characters:

* **`pad`** — the message with its length behind it, filled up to whole blocks.
* **`compress`** — one block mixed into the four words of the state.
* **`digest`** — the digest of some bytes in hexadecimal. -/

namespace StringCatalog.Digest

/-- The four words that a message is mixed into. -/
structure Words where
  a : UInt32
  b : UInt32
  c : UInt32
  d : UInt32
  deriving DecidableEq, Repr

/-- The words before the first block. -/
def Words.start : Words :=
  ⟨0x67452301, 0xefcdab89, 0x98badcfe, 0x10325476⟩

/-- Wordwise sum. -/
def Words.add (left right : Words) : Words :=
  ⟨left.a + right.a, left.b + right.b, left.c + right.c, left.d + right.d⟩

/-- The constants of the 64 steps: the fractional parts of the sines of 1 to 64. -/
def sines : Array UInt32 :=
  #[0xd76aa478, 0xe8c7b756, 0x242070db, 0xc1bdceee, 0xf57c0faf, 0x4787c62a, 0xa8304613, 0xfd469501,
    0x698098d8, 0x8b44f7af, 0xffff5bb1, 0x895cd7be, 0x6b901122, 0xfd987193, 0xa679438e, 0x49b40821,
    0xf61e2562, 0xc040b340, 0x265e5a51, 0xe9b6c7aa, 0xd62f105d, 0x02441453, 0xd8a1e681, 0xe7d3fbc8,
    0x21e1cde6, 0xc33707d6, 0xf4d50d87, 0x455a14ed, 0xa9e3e905, 0xfcefa3f8, 0x676f02d9, 0x8d2a4c8a,
    0xfffa3942, 0x8771f681, 0x6d9d6122, 0xfde5380c, 0xa4beea44, 0x4bdecfa9, 0xf6bb4b60, 0xbebfbc70,
    0x289b7ec6, 0xeaa127fa, 0xd4ef3085, 0x04881d05, 0xd9d4d039, 0xe6db99e5, 0x1fa27cf8, 0xc4ac5665,
    0xf4292244, 0x432aff97, 0xab9423a7, 0xfc93a039, 0x655b59c3, 0x8f0ccc92, 0xffeff47d, 0x85845dd1,
    0x6fa87e4f, 0xfe2ce6e0, 0xa3014314, 0x4e0811a1, 0xf7537e82, 0xbd3af235, 0x2ad7d2bb, 0xeb86d391]

/-- How far each step turns the sum: four amounts for each round of sixteen steps. -/
def turns : Array UInt32 :=
  #[7, 12, 17, 22, 5, 9, 14, 20, 4, 11, 16, 23, 6, 10, 15, 21]

/-- A word turned to the left. -/
def turn (word amount : UInt32) : UInt32 :=
  (word <<< amount) ||| (word >>> (32 - amount))

/-- One of the 64 steps. -/
def step (block : Array UInt32) (words : Words) (i : Nat) : Words :=
  let ⟨a, b, c, d⟩ := words
  let (mixed, source) :=
    if i < 16 then ((b &&& c) ||| (~~~b &&& d), i)
    else if i < 32 then ((d &&& b) ||| (~~~d &&& c), (5 * i + 1) % 16)
    else if i < 48 then (b ^^^ c ^^^ d, (3 * i + 5) % 16)
    else (c ^^^ (b ||| ~~~d), 7 * i % 16)
  let sum := a + mixed + sines.getD i 0 + block.getD source 0
  ⟨d, b + turn sum (turns.getD (i / 16 * 4 + i % 4) 0), b, c⟩

/-- **One block mixed into the words.** -/
def compress (words : Words) (block : Array UInt32) : Words :=
  words.add ((List.range 64).foldl (step block) words)

/-- The lowest bytes of a number, the lowest first. -/
def littleBytes (count value : Nat) : List UInt8 :=
  (List.range count).map fun i => (value >>> (8 * i)).toUInt8

/-- **The message filled up to whole blocks of 64 bytes:** a one bit, zeros, and the length in
bits. -/
def pad (message : List UInt8) : List UInt8 :=
  let used := (message.length + 9) % 64
  let zeros := if used == 0 then 0 else 64 - used
  message ++ 0x80 :: List.replicate zeros 0 ++ littleBytes 8 (message.length * 8)

/-- The words of a message, four bytes each, the lowest first. -/
def readWords : List UInt8 → List UInt32
  | a :: b :: c :: d :: rest =>
      (a.toUInt32 ||| b.toUInt32 <<< 8 ||| c.toUInt32 <<< 16 ||| d.toUInt32 <<< 24) ::
        readWords rest
  | _ => []

/-- The blocks of sixteen words; the number bounds how many there are. -/
def readBlocks : Nat → List UInt32 → List (Array UInt32)
  | 0, _ => []
  | _ + 1, [] => []
  | count + 1, words => (words.take 16).toArray :: readBlocks count (words.drop 16)

/-- **The digest of some bytes,** 32 hexadecimal digits. -/
def digest (message : List UInt8) : String :=
  let words := readWords (pad message)
  let final := (readBlocks words.length words).foldl compress Words.start
  String.ofList <| [final.a, final.b, final.c, final.d].flatMap fun word =>
    (littleBytes 4 word.toNat).flatMap fun byte => Text.hexDigits 2 byte.toNat

end StringCatalog.Digest
