import Mathlib.Data.List.TakeWhile
import StringCatalog.Proofs.Xml.Piece

/-! # Names are read back

* **`Xml.isChar_of_isNameChar`** — names are legal.
* **`Xml.takeWhile_name`, `Xml.dropWhile_name`** — where a name ends.
* **`Xml.Name.text_ofText`, `Xml.Name.ofText_parts`** — a text and the parts of it. -/

namespace StringCatalog.Xml

/-! ## Characters of names -/

/-- What begins a name can stand in it. -/
theorem isNameChar_of_isNameStart {c : Char} (h : isNameStart c) : isNameChar c := by
  simp [isNameChar, h]

/-- **The characters of names are legal.** -/
theorem isChar_of_isNameChar {c : Char} (h : isNameChar c) : isChar c := by
  have letter : c.isAlpha → 65 ≤ c.toNat ∧ c.toNat ≤ 122 := by
    intro h
    change (decide ('A'.val ≤ c.val ∧ c.val ≤ 'Z'.val) ||
      (decide ('a'.val ≤ c.val) && decide (c.val ≤ 'z'.val))) = true at h
    simp only [Bool.or_eq_true, Bool.and_eq_true, decide_eq_true_eq, UInt32.le_iff_toNat_le] at h
    change (65 ≤ c.val.toNat ∧ c.val.toNat ≤ 90) ∨ (97 ≤ c.val.toNat ∧ c.val.toNat ≤ 122) at h
    change 65 ≤ c.val.toNat ∧ c.val.toNat ≤ 122
    omega
  have digit : c.isDigit → 48 ≤ c.toNat ∧ c.toNat ≤ 57 := by
    intro h
    simp only [Char.isDigit, Bool.and_eq_true, decide_eq_true_eq, UInt32.le_iff_toNat_le,
      ge_iff_le] at h
    change 48 ≤ c.val.toNat ∧ c.val.toNat ≤ 57
    simpa using h
  have code {d : Char} (same : c = d) : c.toNat = d.toNat := by rw [same]
  -- both sides come to ranges of code points, of which the first lie inside the second
  simp only [isNameChar, isNameStart, nameStartRanges, List.any_cons, List.any_nil, Bool.or_eq_true,
    Bool.and_eq_true, decide_eq_true_eq, beq_iff_eq, Bool.or_false] at h
  simp only [isChar, Bool.or_eq_true, Bool.and_eq_true, decide_eq_true_eq, beq_iff_eq, bne_iff_ne]
  have colon := @code ':'
  have line := @code '_'
  have hyphen := @code '-'
  have stop := @code '.'
  simp only [show ':'.toNat = 58 from rfl, show '_'.toNat = 95 from rfl,
    show '-'.toNat = 45 from rfl, show '.'.toNat = 46 from rfl] at colon line hyphen stop
  grind

/-- `c ≠ d`: a character of a name is none that has a meaning in markup. -/
theorem ne_of_isNameChar {c d : Char} (h : isNameChar c) (other : isNameChar d = false) : c ≠ d := by
  rintro rfl
  simp [h] at other

/-! ## Names -/

/-- `isName text` spelled out: one character that begins a name, and others that can stand in it. -/
theorem isName_iff {text : List Char} :
    isName text ↔ ∃ c rest, text = c :: rest ∧ isNameStart c ∧ ∀ d ∈ rest, isNameChar d := by
  cases text with
  | nil => simp [isName]
  | cons c rest =>
      rw [isName, Bool.and_eq_true, List.all_eq_true]
      exact ⟨fun h => ⟨c, rest, rfl, h⟩, by rintro ⟨_, _, ⟨⟩, h⟩; exact h⟩

/-- All characters of a name can stand in one. -/
theorem isNameChar_of_mem {text : List Char} (h : isName text) {c : Char} (member : c ∈ text) :
    isNameChar c := by
  obtain ⟨first, rest, rfl, start, others⟩ := isName_iff.1 h
  rcases List.mem_cons.1 member with rfl | member
  · exact isNameChar_of_isNameStart start
  · exact others c member

/-- `isPlainName text ↔ isName text ∧ ':' ∉ text`. -/
theorem isPlainName_iff {text : List Char} : isPlainName text ↔ isName text ∧ ':' ∉ text := by
  simp [isPlainName]

/-- Some characters of names behind a name make a name. -/
theorem isName_append {text more : List Char} (h : isName text) (others : ∀ c ∈ more, isNameChar c) :
    isName (text ++ more) := by
  obtain ⟨first, rest, rfl, start, inner⟩ := isName_iff.1 h
  refine isName_iff.2 ⟨first, rest ++ more, rfl, start, fun c member => ?_⟩
  rcases List.mem_append.1 member with member | member
  · exact inner c member
  · exact others c member

/-- What comes behind a name ends it: `∀ c ∈ rest.head?, isNameChar c = false`. -/
def EndsName (rest : List Char) : Prop := ∀ c ∈ rest.head?, isNameChar c = false

/-- The end of the text ends a name. -/
theorem endsName_nil : EndsName [] := by simp [EndsName]

/-- So does a character that cannot stand in one. -/
theorem endsName_cons {c : Char} (h : isNameChar c = false) (rest : List Char) :
    EndsName (c :: rest) := by
  simpa [EndsName] using h

section

variable {text rest : List Char} (name : isName text) (ends : EndsName rest)
include name ends

/-- **A name ends where its characters do:** `(text ++ rest).takeWhile isNameChar = text`. -/
theorem takeWhile_name : (text ++ rest).takeWhile isNameChar = text := by
  rw [List.takeWhile_append_of_pos fun c => isNameChar_of_mem name]
  cases rest with
  | nil => simp
  | cons c rest => simp [ends c rfl]

/-- **Behind a name there is the rest:** `(text ++ rest).dropWhile isNameChar = rest`. -/
theorem dropWhile_name : (text ++ rest).dropWhile isNameChar = rest := by
  rw [List.dropWhile_append_of_pos fun c => isNameChar_of_mem name]
  cases rest with
  | nil => simp
  | cons c rest => simp [ends c rfl]

end

/-- The longest run of characters of names is a name if a character that begins one comes first. -/
theorem isName_takeWhile {c : Char} (h : isNameStart c) (rest : List Char) :
    isName ((c :: rest).takeWhile isNameChar) := by
  rw [List.takeWhile_cons, if_pos (isNameChar_of_isNameStart h)]
  exact isName_iff.2 ⟨c, _, rfl, h, fun d member => List.mem_takeWhile_imp member⟩

/-! ## Parts of names -/

namespace Name

/-- `(Name.mk none base).text = base`. -/
@[simp] theorem text_none (base : List Char) : (Name.mk none base).text = base := rfl

/-- `(Name.mk (some lead) base).text = lead ++ ':' :: base`. -/
@[simp] theorem text_some (lead base : List Char) :
    (Name.mk (some lead) base).text = lead ++ ':' :: base := rfl

/-- **A name has the text that it was made of:** `(ofText text).text = text`. -/
@[simp] theorem text_ofText (text : List Char) : (ofText text).text = text := by
  unfold ofText
  split
  · rfl
  · next lead base cut =>
    split
    · exact (Text.cutAt?_eq_some cut).1.symm
    · rfl

/-- **A name of two plain parts** is divided between them:
`ofText (lead ++ ':' :: base) = ⟨some lead, base⟩`. -/
theorem ofText_parts {lead base : List Char} (first : isPlainName lead) (second : isPlainName base) :
    ofText (lead ++ ':' :: base) = ⟨some lead, base⟩ := by
  rw [ofText, Text.cutAt?_append (isPlainName_iff.1 first).2]
  simp [first, second]

/-- The parts of a text that is divided are plain. -/
theorem isPlainName_of_ofText {text lead base : List Char} (h : ofText text = ⟨some lead, base⟩) :
    isPlainName lead ∧ isPlainName base := by
  unfold ofText at h
  -- a text is divided only where both parts have been found to be plain
  split at h
  · simp at h
  · split at h
    · next plain =>
      obtain ⟨rfl, rfl⟩ : _ = lead ∧ _ = base := by simpa using h
      simpa using plain
    · simp at h

/-- Different texts make different names. -/
theorem ofText_injective : Function.Injective ofText := by
  intro text other same
  rw [← text_ofText text, same, text_ofText]

/-- **The name that a text begins with is read:**
`read? (text ++ rest) = some (ofText text, rest)`. -/
theorem read?_name {text rest : List Char} (name : isName text) (ends : EndsName rest) :
    read? (text ++ rest) = some (ofText text, rest) := by
  obtain ⟨c, more, rfl, start, _⟩ := isName_iff.1 name
  have taken := takeWhile_name name ends
  have dropped := dropWhile_name name ends
  rw [List.cons_append] at taken dropped ⊢
  simp only [read?, start, if_pos, taken, dropped]

end Name

end StringCatalog.Xml
