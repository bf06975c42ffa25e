import StringCatalog.Text.Utf8

/-! # Character sets

The forms in which the bytes of a text may be:

* **`Charset`** — a form of text, and **`Charset.ofName?`**, the one with a name.
* **`Charset.decode`** — the text of some bytes in a form.
* **`upperHalves`** — what the upper half of the bytes stands for in the character sets with one byte
  for each character. -/

namespace StringCatalog.Text

/-! ## One byte for each character -/

/-- **The characters of the bytes from 128 on,** by the name of the character set: single characters,
runs of characters, and, behind an underscore, how many bytes stand for nothing. -/
def upperHalves : List (String × List String) :=
  [("iso88592",
     ["80-A0 104 2D8 141 A4 13D 15A A7-A8 160 15E 164 179 AD 17D 17B B0 105 2DB 142 B4 13E 15B",
      "2C7 B8 161 15F 165 17A 2DD 17E 17C 154 C1-C2 102 C4 139 106 C7 10C C9 118 CB 11A CD-CE",
      "10E 110 143 147 D3-D4 150 D6-D7 158 16E DA 170 DC-DD 162 DF 155 E1-E2 103 E4 13A 107 E7",
      "10D E9 119 EB 11B ED-EE 10F 111 144 148 F3-F4 151 F6-F7 159 16F FA 171 FC-FD 163 2D9"]),
   ("iso88593",
     ["80-A0 126 2D8 A3-A4 _ 124 A7-A8 130 15E 11E 134 AD _ 17B B0 127 B2-B5 125 B7-B8 131 15F",
      "11F 135 BD _ 17C C0-C2 _ C4 10A 108 C7-CF _ D1-D4 120 D6-D7 11C D9-DC 16C 15C DF-E2 _ E4",
      "10B 109 E7-EF _ F1-F4 121 F6-F7 11D F9-FC 16D 15D 2D9"]),
   ("iso88594",
     ["80-A0 104 138 156 A4 128 13B A7-A8 160 112 122 166 AD 17D AF-B0 105 2DB 157 B4 129 13C",
      "2C7 B8 161 113 123 167 14A 17E 14B 100 C1-C6 12E 10C C9 118 CB 116 CD-CE 12A 110 145 14C",
      "136 D4-D8 172 DA-DC 168 16A DF 101 E1-E6 12F 10D E9 119 EB 117 ED-EE 12B 111 146 14D 137",
      "F4-F8 173 FA-FC 169 16B 2D9"]),
   ("iso88595",
     ["80-A0 401-40C AD 40E-44F 2116 451-45C A7 45E-45F"]),
   ("iso88596",
     ["80-A0 _3 A4 _7 60C AD _D 61B _3 61F _ 621-63A _5 640-652 _D"]),
   ("iso88597",
     ["80-A0 2018-2019 A3 20AC 20AF A6-A9 37A AB-AD _ 2015 B0-B3 384-386 B7 388-38A BB 38C BD",
      "38E-3A1 _ 3A3-3CE _"]),
   ("iso88598",
     ["80-A0 _ A2-A9 D7 AB-B9 F7 BB-BE _20 2017 5D0-5EA _2 200E-200F _"]),
   ("iso88599",
     ["80-CF 11E D1-DC 130 15E DF-EF 11F F1-FC 131 15F FF"]),
   ("iso885910",
     ["80-A0 104 112 122 12A 128 136 A7 13B 110 160 166 17D AD 16A 14A B0 105 113 123 12B 129",
      "137 B7 13C 111 161 167 17E 2015 16B 14B 100 C1-C6 12E 10C C9 118 CB 116 CD-D0 145 14C",
      "D3-D6 168 D8 172 DA-DF 101 E1-E6 12F 10D E9 119 EB 117 ED-F0 146 14D F3-F6 169 F8 173",
      "FA-FE 138"]),
   ("iso885911",
     ["80-A0 E01-E3A _4 E3F-E5B _4"]),
   ("iso885913",
     ["80-A0 201D A2-A4 201E A6-A7 D8 A9 156 AB-AE C6 B0-B3 201C B5-B7 F8 B9 157 BB-BE E6 104",
      "12E 100 106 C4-C5 118 112 10C C9 179 116 122 136 12A 13B 160 143 145 D3 14C D5-D7 172",
      "141 15A 16A DC 17B 17D DF 105 12F 101 107 E4-E5 119 113 10D E9 17A 117 123 137 12B 13C",
      "161 144 146 F3 14D F5-F7 173 142 15B 16B FC 17C 17E 2019"]),
   ("iso885914",
     ["80-A0 1E02-1E03 A3 10A-10B 1E0A A7 1E80 A9 1E82 1E0B 1EF2 AD-AE 178 1E1E-1E1F 120-121",
      "1E40-1E41 B6 1E56 1E81 1E57 1E83 1E60 1EF3 1E84-1E85 1E61 C0-CF 174 D1-D6 1E6A D8-DD 176",
      "DF-EF 175 F1-F6 1E6B F8-FD 177 FF"]),
   ("iso885915",
     ["80-A3 20AC A5 160 A7 161 A9-B3 17D B5-B7 17E B9-BB 152-153 178 BF-FF"]),
   ("iso885916",
     ["80-A0 104-105 141 20AC 201E 160 A7 161 A9 218 AB 179 AD 17A-17B B0-B1 10C 142 17D 201D",
      "B6-B7 17E 10D 219 BB 152-153 178 17C C0-C2 102 C4 106 C6-CF 110 143 D2-D4 150 D6 15A 170",
      "D9-DC 118 21A DF-E2 103 E4 107 E6-EF 111 144 F2-F4 151 F6 15B 171 F9-FC 119 21B FF"]),
   ("windows1250",
     ["20AC _ 201A _ 201E 2026 2020-2021 _ 2030 160 2039 15A 164 17D 179 _ 2018-2019 201C-201D",
      "2022 2013-2014 _ 2122 161 203A 15B 165 17E 17A A0 2C7 2D8 141 A4 104 A6-A9 15E AB-AE 17B",
      "B0-B1 2DB 142 B4-B8 105 15F BB 13D 2DD 13E 17C 154 C1-C2 102 C4 139 106 C7 10C C9 118 CB",
      "11A CD-CE 10E 110 143 147 D3-D4 150 D6-D7 158 16E DA 170 DC-DD 162 DF 155 E1-E2 103 E4",
      "13A 107 E7 10D E9 119 EB 11B ED-EE 10F 111 144 148 F3-F4 151 F6-F7 159 16F FA 171 FC-FD",
      "163 2D9"]),
   ("windows1251",
     ["402-403 201A 453 201E 2026 2020-2021 20AC 2030 409 2039 40A 40C 40B 40F 452 2018-2019",
      "201C-201D 2022 2013-2014 _ 2122 459 203A 45A 45C 45B 45F A0 40E 45E 408 A4 490 A6-A7 401",
      "A9 404 AB-AE 407 B0-B1 406 456 491 B5-B7 451 2116 454 BB 458 405 455 457 410-44F"]),
   ("windows1252",
     ["20AC _ 201A 192 201E 2026 2020-2021 2C6 2030 160 2039 152 _ 17D _2 2018-2019 201C-201D",
      "2022 2013-2014 2DC 2122 161 203A 153 _ 17E 178 A0-FF"]),
   ("windows1253",
     ["20AC _ 201A 192 201E 2026 2020-2021 _ 2030 _ 2039 _5 2018-2019 201C-201D 2022 2013-2014",
      "_ 2122 _ 203A _4 A0 385-386 A3-A9 _ AB-AE 2015 B0-B3 384 B5-B7 388-38A BB 38C BD 38E-3A1",
      "_ 3A3-3CE _"]),
   ("windows1254",
     ["20AC _ 201A 192 201E 2026 2020-2021 2C6 2030 160 2039 152 _4 2018-2019 201C-201D 2022",
      "2013-2014 2DC 2122 161 203A 153 _2 178 A0-CF 11E D1-DC 130 15E DF-EF 11F F1-FC 131 15F",
      "FF"]),
   ("windows1255",
     ["20AC _ 201A 192 201E 2026 2020-2021 2C6 2030 _ 2039 _5 2018-2019 201C-201D 2022",
      "2013-2014 2DC 2122 _ 203A _4 A0-A3 20AA A5-A9 D7 AB-B9 F7 BB-BF 5B0-5B9 _ 5BB-5C3",
      "5F0-5F4 _7 5D0-5EA _2 200E-200F _"]),
   ("windows1256",
     ["20AC 67E 201A 192 201E 2026 2020-2021 2C6 2030 679 2039 152 686 698 688 6AF 2018-2019",
      "201C-201D 2022 2013-2014 6A9 2122 691 203A 153 200C-200D 6BA A0 60C A2-A9 6BE AB-B9 61B",
      "BB-BE 61F 6C1 621-636 D7 637-63A 640-643 E0 644 E2 645-648 E7-EB 649-64A EE-EF 64B-64E",
      "F4 64F-650 F7 651 F9 652 FB-FC 200E-200F 6D2"]),
   ("windows1257",
     ["20AC _ 201A _ 201E 2026 2020-2021 _ 2030 _ 2039 _ A8 2C7 B8 _ 2018-2019 201C-201D 2022",
      "2013-2014 _ 2122 _ 203A _ AF 2DB _ A0 _ A2-A4 _ A6-A7 D8 A9 156 AB-AE C6 B0-B7 F8 B9 157",
      "BB-BE E6 104 12E 100 106 C4-C5 118 112 10C C9 179 116 122 136 12A 13B 160 143 145 D3 14C",
      "D5-D7 172 141 15A 16A DC 17B 17D DF 105 12F 101 107 E4-E5 119 113 10D E9 17A 117 123 137",
      "12B 13C 161 144 146 F3 14D F5-F7 173 142 15B 16B FC 17C 17E 2D9"]),
   ("windows1258",
     ["20AC _ 201A 192 201E 2026 2020-2021 2C6 2030 _ 2039 152 _4 2018-2019 201C-201D 2022",
      "2013-2014 2DC 2122 _ 203A 153 _2 178 A0-C2 102 C4-CB 300 CD-CF 110 D1 309 D3-D4 1A0",
      "D6-DC 1AF 303 DF-E2 103 E4-EB 301 ED-EF 111 F1 323 F3-F4 1A1 F6-FC 1B0 20AB FF"]),
   ("koi8r",
     ["2500 2502 250C 2510 2514 2518 251C 2524 252C 2534 253C 2580 2584 2588 258C 2590-2593",
      "2320 25A0 2219-221A 2248 2264-2265 A0 2321 B0 B2 B7 F7 2550-2552 451 2553-2561 401",
      "2562-256C A9 44E 430-431 446 434-435 444 433 445 438-43F 44F 440-443 436 432 44C 44B 437",
      "448 44D 449 447 44A 42E 410-411 426 414-415 424 413 425 418-41F 42F 420-423 416 412 42C",
      "42B 417 428 42D 429 427 42A"]),
   ("koi8u",
     ["2500 2502 250C 2510 2514 2518 251C 2524 252C 2534 253C 2580 2584 2588 258C 2590-2593",
      "2320 25A0 2219-221A 2248 2264-2265 A0 2321 B0 B2 B7 F7 2550-2552 451 454 2554 456-457",
      "2557-255B 491 255D-2561 401 404 2563 406-407 2566-256A 490 256C A9 44E 430-431 446",
      "434-435 444 433 445 438-43F 44F 440-443 436 432 44C 44B 437 448 44D 449 447 44A 42E",
      "410-411 426 414-415 424 413 425 418-41F 42F 420-423 416 412 42C 42B 417 428 42D 429 427",
      "42A"])]

/-- The characters that one word of a table gives. -/
def readUpper (word : List Char) : List (Option Char) :=
  match word with
  | '_' :: count => List.replicate (if count.isEmpty then 1 else hexNumber count) none
  | _ =>
      let (first, last) := RangeTable.readRange word
      (List.range (last + 1 - first)).map fun i => some (Char.ofNat (first + i))

/-- The characters of the upper half of a character set. -/
def upperHalf (lines : List String) : Array (Option Char) :=
  (lines.flatMap fun line => (words line.toList).flatMap readUpper).toArray

/-- The texts of the bytes of a character set with the given upper half. -/
def decodeTable (upper : Array (Option Char)) (bytes : List UInt8) :
    Except DecodeFault (List Char) :=
  let char? (byte : UInt8) : Option Char :=
    if byte < 0x80 then some (Char.ofNat byte.toNat) else (upper.getD (byte.toNat - 0x80) none)
  match (bytes.zipIdx).find? fun (byte, _) => (char? byte).isNone with
  | some (byte, offset) => .error ⟨offset, 1, byte, .beyondTable⟩
  | none => .ok (bytes.filterMap char?)

/-! ## Two bytes for each unit -/

/-- The units of two bytes; there is no result where a byte is left over. -/
def units? (isLittle : Bool) : List UInt8 → Option (List Nat)
  | [] => some []
  | [_] => none
  | a :: b :: rest =>
      let unit := if isLittle then a.toNat + b.toNat * 256 else a.toNat * 256 + b.toNat
      (units? isLittle rest).map (unit :: ·)

/-- The characters of units, two of which may stand for one; there is no result where one of such
two stands alone. -/
def pairUnits? : List Nat → Option (List Char)
  | [] => some []
  | unit :: rest =>
      if 0xD800 ≤ unit && unit < 0xDC00 then
        match rest with
        | low :: more =>
            if 0xDC00 ≤ low && low < 0xE000 then
              (pairUnits? more).map
                (Char.ofNat (0x10000 + (unit - 0xD800) * 0x400 + (low - 0xDC00)) :: ·)
            else none
        | [] => none
      else if 0xDC00 ≤ unit && unit < 0xE000 then none
      else (pairUnits? rest).map (Char.ofNat unit :: ·)

/-- **The text of bytes that come in twos,** the lower one first or last. -/
def decodeUnits? (isLittle : Bool) (bytes : List UInt8) : Option (List Char) :=
  (units? isLittle bytes).bind pairUnits?

/-! ## Names -/

/-- **A form of text.** -/
inductive Charset where
  /-- One to four bytes for each character. -/
  | utf8
  /-- The lower half alone. -/
  | ascii
  /-- Each byte is the number of its character. -/
  | latin
  /-- The upper half has a table. -/
  | table (name : String)
  deriving DecidableEq, Repr

/-- A name in lower case without its hyphens and underscores. -/
def plainCharsetName (name : List Char) : String :=
  String.ofList ((name.map Char.toLower).filter fun c => c != '-' && c != '_')

/-- **The form of text with a name.** -/
def Charset.ofName? (name : List Char) : Option Charset :=
  let plain := plainCharsetName name
  let windows := "windows" ++ String.ofList (plain.toList.drop 2)
  if plain == "utf8" then some .utf8
  else if ["ascii", "usascii", "iso646us", "ansix3.41968"].contains plain then some .ascii
  else if ["latin1", "iso88591", "l1", "cp819"].contains plain then some .latin
  else if (upperHalves.lookup plain).isSome then some (.table plain)
  else if plain.startsWith "cp" && (upperHalves.lookup windows).isSome then some (.table windows)
  else if plain == "latin2" then some (.table "iso88592")
  else if plain == "latin9" then some (.table "iso885915")
  else none

/-- **The text of some bytes in a form.** -/
def Charset.decode (charset : Charset) (bytes : List UInt8) : Except DecodeFault (List Char) :=
  match charset with
  | .utf8 => Text.decode bytes
  | .ascii => decodeAscii bytes
  | .latin => .ok (decodeLatin bytes)
  | .table name => decodeTable (upperHalf ((upperHalves.lookup name).getD [])) bytes

end StringCatalog.Text
