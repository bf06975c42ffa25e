import StringCatalog.Text.Utf8

/-! # Texts come back from their bytes

* **`Text.decode_encode`** — a text comes back from its bytes.
* **`Text.decodeLatin_flatMap`** — characters of ASCII are bytes of their own. -/

namespace StringCatalog.Text

/-! ## Sequences of bytes -/

section

variable (offset : Nat) {a b c d : UInt8} (rest : List UInt8)

/-- A byte of ASCII is a character. -/
theorem decodeFrom_one (first : a.toNat < 0x80) :
    decodeFrom offset (a :: rest) =
      (decodeFrom (offset + 1) rest).map (Char.ofNat a.toNat :: ·) := by
  have small : a < 0x80 := UInt8.lt_iff_toNat_lt.2 first
  rw [decodeFrom.eq_def]
  simp only [small, if_true]

/-- Two bytes that go together are a character. -/
theorem decodeFrom_two (low : 0xC2 ≤ a.toNat) (high : a.toNat < 0xE0) (second : isSecond a b) :
    decodeFrom offset (a :: b :: rest) =
      (decodeFrom (offset + 2) rest).map (joinBits (a.toNat % 32) [b] :: ·) := by
  have start : ¬ a < 0x80 ∧ ¬ a < 0xC2 ∧ ¬ 0xF4 < a ∧ a < 0xE0 := by
    simp only [UInt8.lt_iff_toNat_lt, UInt8.reduceToNat]
    omega
  rw [decodeFrom.eq_def]
  simp [start, second]

/-- Three bytes that go together are a character. -/
theorem decodeFrom_three (low : 0xE0 ≤ a.toNat) (high : a.toNat < 0xF0) (second : isSecond a b)
    (third : isContinuation c) :
    decodeFrom offset (a :: b :: c :: rest) =
      (decodeFrom (offset + 3) rest).map (joinBits (a.toNat % 16) [b, c] :: ·) := by
  have start : ¬ a < 0x80 ∧ ¬ a < 0xC2 ∧ ¬ 0xF4 < a ∧ ¬ a < 0xE0 ∧ a < 0xF0 := by
    simp only [UInt8.lt_iff_toNat_lt, UInt8.reduceToNat]
    omega
  rw [decodeFrom.eq_def]
  simp [start, second, third]

/-- Four bytes that go together are a character. -/
theorem decodeFrom_four (low : 0xF0 ≤ a.toNat) (high : a.toNat ≤ 0xF4) (second : isSecond a b)
    (third : isContinuation c) (fourth : isContinuation d) :
    decodeFrom offset (a :: b :: c :: d :: rest) =
      (decodeFrom (offset + 4) rest).map (joinBits (a.toNat % 8) [b, c, d] :: ·) := by
  have start : ¬ a < 0x80 ∧ ¬ a < 0xC2 ∧ ¬ 0xF4 < a ∧ ¬ a < 0xE0 ∧ ¬ a < 0xF0 := by
    simp only [UInt8.lt_iff_toNat_lt, UInt8.reduceToNat]
    omega
  rw [decodeFrom.eq_def]
  simp [start, second, third, fourth]

end

/-! ## Characters -/

/-- `n.toUInt8.toNat = n` for numbers of one byte. -/
theorem toNat_toUInt8 {n : Nat} (h : n < 256) : n.toUInt8.toNat = n := by
  simp only [Nat.toUInt8, UInt8.toNat_ofNat']
  omega

/-- A byte behind the first one goes on with the sequence. -/
theorem isContinuation_toUInt8 (n : Nat) : isContinuation (0x80 + n % 64).toUInt8 := by
  have value : (0x80 + n % 64).toUInt8.toNat = 0x80 + n % 64 := toNat_toUInt8 (by omega)
  simp only [isContinuation, Bool.and_eq_true, decide_eq_true_eq, UInt8.le_iff_toNat_le, value,
    UInt8.reduceToNat]
  omega

/-- `c.toNat < 0xD800 ∨ 0xDFFF < c.toNat ∧ c.toNat < 0x110000`: the number of a character is no
surrogate. -/
theorem of_toNat (c : Char) : c.toNat < 0xD800 ∨ 0xDFFF < c.toNat ∧ c.toNat < 0x110000 :=
  c.valid

/-- A byte may come second where the first one does not rule it out. -/
theorem isSecond_of {a b : UInt8} (goesOn : isContinuation b)
    (e0 : a.toNat = 0xE0 → 0xA0 ≤ b.toNat) (ed : a.toNat = 0xED → b.toNat < 0xA0)
    (f0 : a.toNat = 0xF0 → 0x90 ≤ b.toNat) (f4 : a.toNat = 0xF4 → b.toNat < 0x90) :
    isSecond a b := by
  simp only [isSecond, goesOn, Bool.true_and, beq_iff_eq, ← UInt8.toNat_inj, UInt8.reduceToNat]
  split
  · next same => simpa [UInt8.le_iff_toNat_le] using e0 same
  · split
    · next same => simpa [UInt8.lt_iff_toNat_lt] using ed same
    · split
      · next same => simpa [UInt8.le_iff_toNat_le] using f0 same
      · split
        · next same => simpa [UInt8.lt_iff_toNat_lt] using f4 same
        · rfl

/-- `joinBits lead tail = c`: the bits of a character that make up its number again. -/
theorem joinBits_eq {c : Char} {lead : Nat} {tail : List UInt8}
    (h : tail.foldl (fun value byte => value * 64 + byte.toNat % 64) lead = c.toNat) :
    joinBits lead tail = c := by
  rw [joinBits, h, Char.ofNat_toNat]

/-- **A character comes back from its bytes.** -/
theorem decodeFrom_encodeChar (offset : Nat) (c : Char) (rest : List UInt8) :
    decodeFrom offset (encodeChar c ++ rest) =
      (decodeFrom (offset + (encodeChar c).length) rest).map (c :: ·) := by
  have valid := of_toNat c
  have tail (n : Nat) : (0x80 + n % 64).toUInt8.toNat = 0x80 + n % 64 := toNat_toUInt8 (by omega)
  unfold encodeChar
  simp only [Nat.shiftRight_eq_div_pow]
  -- one case for each number of bytes
  split
  · have first : c.toNat.toUInt8.toNat = c.toNat := toNat_toUInt8 (by omega)
    rw [List.singleton_append, decodeFrom_one _ _ (by omega), first, Char.ofNat_toNat]
    rfl
  · split
    · have first : (0xC0 + c.toNat / 64).toUInt8.toNat = 0xC0 + c.toNat / 64 :=
        toNat_toUInt8 (by omega)
      have second := isSecond_of (isContinuation_toUInt8 (c.toNat / 2 ^ 0))
        (a := (0xC0 + c.toNat / 64).toUInt8) (by omega) (by omega) (by omega) (by omega)
      have value : joinBits ((0xC0 + c.toNat / 64).toUInt8.toNat % 32)
          [(0x80 + c.toNat / 2 ^ 0 % 64).toUInt8] = c := by
        apply joinBits_eq
        simp only [List.foldl_cons, List.foldl_nil, first, tail]
        omega
      rw [List.cons_append, List.cons_append, List.nil_append,
        decodeFrom_two _ _ (by omega) (by omega) second, value]
      rfl
    · split
      · have first : (0xE0 + c.toNat / 4096).toUInt8.toNat = 0xE0 + c.toNat / 4096 :=
          toNat_toUInt8 (by omega)
        have second := isSecond_of (isContinuation_toUInt8 (c.toNat / 2 ^ 6))
          (a := (0xE0 + c.toNat / 4096).toUInt8)
          (by rw [tail, first]; omega) (by rw [tail, first]; omega) (by omega) (by omega)
        have value : joinBits ((0xE0 + c.toNat / 4096).toUInt8.toNat % 16)
            [(0x80 + c.toNat / 2 ^ 6 % 64).toUInt8, (0x80 + c.toNat / 2 ^ 0 % 64).toUInt8] = c := by
          apply joinBits_eq
          simp only [List.foldl_cons, List.foldl_nil, first, tail]
          omega
        rw [List.cons_append, List.cons_append, List.cons_append, List.nil_append,
          decodeFrom_three _ _ (by omega) (by omega) second (isContinuation_toUInt8 _), value]
        rfl
      · have first : (0xF0 + c.toNat / 262144).toUInt8.toNat = 0xF0 + c.toNat / 262144 :=
          toNat_toUInt8 (by omega)
        have second := isSecond_of (isContinuation_toUInt8 (c.toNat / 2 ^ 12))
          (a := (0xF0 + c.toNat / 262144).toUInt8) (by omega) (by omega)
          (by rw [tail, first]; omega) (by rw [tail, first]; omega)
        have value : joinBits ((0xF0 + c.toNat / 262144).toUInt8.toNat % 8)
            [(0x80 + c.toNat / 2 ^ 12 % 64).toUInt8, (0x80 + c.toNat / 2 ^ 6 % 64).toUInt8,
              (0x80 + c.toNat / 2 ^ 0 % 64).toUInt8] = c := by
          apply joinBits_eq
          simp only [List.foldl_cons, List.foldl_nil, first, tail]
          omega
        rw [List.cons_append, List.cons_append, List.cons_append, List.cons_append, List.nil_append,
          decodeFrom_four _ _ (by omega) (by omega) second (isContinuation_toUInt8 _)
            (isContinuation_toUInt8 _), value]
        rfl

/-! ## Texts -/

/-- `decodeFrom offset (text.flatMap encodeChar) = .ok text`: from any offset on, the bytes of the
characters of a text are read as the text. -/
theorem decodeFrom_flatMap (offset : Nat) (text : List Char) :
    decodeFrom offset (text.flatMap encodeChar) = .ok text := by
  induction text generalizing offset with
  | nil => exact decodeFrom.eq_1 offset
  | cons c text ih =>
      rw [List.flatMap_cons, decodeFrom_encodeChar, ih]
      rfl

/-- **A text comes back from its bytes:** `decode (encode text) = .ok text.toList`. -/
theorem decode_encode (text : String) : decode (encode text) = .ok text.toList :=
  decodeFrom_flatMap 0 text.toList

/-- `decodeLatin (text.flatMap encodeChar) = text`: characters of ASCII in front are bytes of their
own. -/
theorem decodeLatin_flatMap {text : List Char} (ascii : ∀ c ∈ text, c.toNat < 0x80) :
    decodeLatin (text.flatMap encodeChar) = text := by
  induction text with
  | nil => rfl
  | cons c text ih =>
      rw [List.forall_mem_cons] at ascii
      have first : c.toNat.toUInt8.toNat = c.toNat := toNat_toUInt8 (by omega)
      have byte : encodeChar c = [c.toNat.toUInt8] := if_pos ascii.1
      rw [decodeLatin] at ih ⊢
      rw [List.flatMap_cons, List.map_append, byte, ih ascii.2, List.map_singleton, first,
        Char.ofNat_toNat, List.singleton_append]

/-- `text.length ≤ (String.ofList text).utf8ByteSize`: a character takes a byte at least. -/
theorem length_le_utf8ByteSize (text : List Char) :
    text.length ≤ (String.ofList text).utf8ByteSize := by
  induction text with
  | nil => exact Nat.zero_le _
  | cons c text ih =>
      have some : 0 < [c].utf8Encode.size := by
        rw [List.utf8Encode_singleton]
        simpa using Char.utf8Size_pos c
      have whole : (String.ofList (c :: text)).utf8ByteSize =
          [c].utf8Encode.size + (String.ofList text).utf8ByteSize := by
        rw [← String.size_toByteArray, ← String.size_toByteArray, String.toByteArray_ofList,
          String.toByteArray_ofList, List.utf8Encode_cons, ByteArray.size_append]
      rw [List.length_cons, whole]
      omega

end StringCatalog.Text
