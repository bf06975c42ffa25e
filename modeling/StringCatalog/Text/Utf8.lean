import StringCatalog.Text.RangeTable

/-! # Bytes of a text

The UTF-8 form of texts:

* **`encode`** — the bytes of a text.
* **`decode`** — the text of some bytes, or where and why they are none.
* **`decodeAscii`, `decodeLatin`** — the text of bytes that stand for one character each.
* **`DecodeFault`** — the first bytes that are no character: no sequence starts so, a sequence goes
  on with a wrong byte, or the bytes end inside a sequence. -/

namespace StringCatalog.Text

/-! ## Encoding -/

/-- The bytes of one character. -/
def encodeChar (c : Char) : List UInt8 :=
  let n := c.toNat
  let tail (shift : Nat) : UInt8 := (0x80 + (n >>> shift) % 64).toUInt8
  if n < 0x80 then [n.toUInt8]
  else if n < 0x800 then [(0xC0 + n / 64).toUInt8, tail 0]
  else if n < 0x10000 then [(0xE0 + n / 4096).toUInt8, tail 6, tail 0]
  else [(0xF0 + n / 262144).toUInt8, tail 12, tail 6, tail 0]

/-- **The bytes of a text.** -/
def encode (text : String) : List UInt8 :=
  text.toList.flatMap encodeChar

/-! ## Decoding -/

/-- Why some bytes are no character. -/
inductive DecodeCause where
  /-- No sequence starts with this byte. -/
  | invalidStart
  /-- The byte after these does not go on with the sequence. -/
  | invalidContinuation
  /-- The bytes end inside the sequence. -/
  | unexpectedEnd
  /-- The byte is none of the 128 of ASCII, and no others may occur. -/
  | beyondAscii
  /-- The byte stands for nothing in its character set. -/
  | beyondTable
  deriving DecidableEq, Repr

/-- **The first bytes that are no character.** -/
structure DecodeFault where
  /-- The number of bytes before them. -/
  offset : Nat
  /-- How many bytes are at fault. -/
  length : Nat
  /-- The first of them. -/
  byte : UInt8
  /-- What is wrong with them. -/
  cause : DecodeCause
  deriving DecidableEq, Repr

/-- The wording of a cause. -/
def DecodeCause.message : DecodeCause → String
  | .invalidStart => "invalid start byte"
  | .invalidContinuation => "invalid continuation byte"
  | .unexpectedEnd => "unexpected end of data"
  | .beyondAscii => "ordinal not in range(128)"
  | .beyondTable => "character maps to <undefined>"

/-- The name of the form in which the bytes were to be read. -/
def DecodeCause.form : DecodeCause → String
  | .beyondAscii => "ascii"
  | .beyondTable => "charmap"
  | _ => "utf-8"

/-- **The wording of a fault:** one byte is shown, several are counted off. -/
def DecodeFault.message (fault : DecodeFault) : String :=
  let place :=
    if fault.length ≤ 1 then
      "byte 0x" ++ String.ofList (hexDigits 2 fault.byte.toNat) ++ " in position " ++
        toString fault.offset
    else
      "bytes in position " ++ toString fault.offset ++ "-" ++
        toString (fault.offset + fault.length - 1)
  "'" ++ fault.cause.form ++ "' codec can't decode " ++ place ++ ": " ++ fault.cause.message

/-- A byte that goes on with a sequence. -/
def isContinuation (byte : UInt8) : Bool :=
  0x80 ≤ byte && byte ≤ 0xBF

/-- Whether a byte may come second after the first byte of a sequence: sequences that are longer
than need be, surrogates and numbers beyond Unicode are cut off here. -/
def isSecond (first second : UInt8) : Bool :=
  isContinuation second &&
    (if first == 0xE0 then 0xA0 ≤ second
    else if first == 0xED then second < 0xA0
    else if first == 0xF0 then 0x90 ≤ second
    else if first == 0xF4 then second < 0x90
    else true)

/-- The number that the low bits of the bytes of a sequence make up. -/
def joinBits (lead : Nat) (tail : List UInt8) : Char :=
  Char.ofNat (tail.foldl (fun value byte => value * 64 + byte.toNat % 64) lead)

/-- **The text of the bytes from an offset on.** -/
def decodeFrom (offset : Nat) : List UInt8 → Except DecodeFault (List Char)
  | [] => .ok []
  | a :: rest =>
      let fault (length : Nat) (cause : DecodeCause) : Except DecodeFault (List Char) :=
        .error ⟨offset, length, a, cause⟩
      if a < 0x80 then
        (decodeFrom (offset + 1) rest).map (Char.ofNat a.toNat :: ·)
      else if a < 0xC2 || 0xF4 < a then fault 1 .invalidStart
      else
        match rest with
        | [] => fault 1 .unexpectedEnd
        | b :: rest =>
            if !isSecond a b then fault 1 .invalidContinuation
            else if a < 0xE0 then
              (decodeFrom (offset + 2) rest).map (joinBits (a.toNat % 32) [b] :: ·)
            else
              match rest with
              | [] => fault 2 .unexpectedEnd
              | c :: rest =>
                  if !isContinuation c then fault 2 .invalidContinuation
                  else if a < 0xF0 then
                    (decodeFrom (offset + 3) rest).map (joinBits (a.toNat % 16) [b, c] :: ·)
                  else
                    match rest with
                    | [] => fault 3 .unexpectedEnd
                    | d :: rest =>
                        if !isContinuation d then fault 3 .invalidContinuation
                        else
                          (decodeFrom (offset + 4) rest).map
                            (joinBits (a.toNat % 8) [b, c, d] :: ·)

/-- **The text of some bytes,** or the first bytes that are no character. -/
def decode (bytes : List UInt8) : Except DecodeFault (List Char) :=
  decodeFrom 0 bytes

/-! ## One byte for one character -/

/-- The text of bytes that are the numbers of their characters. -/
def decodeLatin (bytes : List UInt8) : List Char :=
  bytes.map fun byte => Char.ofNat byte.toNat

/-- **The text of ASCII bytes,** or the first byte that is none. -/
def decodeAscii (bytes : List UInt8) : Except DecodeFault (List Char) :=
  match (bytes.zipIdx).find? fun (byte, _) => 0x80 ≤ byte with
  | some (byte, offset) => .error ⟨offset, 1, byte, .beyondAscii⟩
  | none => .ok (decodeLatin bytes)

end StringCatalog.Text
