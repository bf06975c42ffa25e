import StringCatalog.Proofs.Xml.Piece
import StringCatalog.Resource.Document

/-! # Slots of a resource document

* **`Translatable.IsLegal`** — a string whose name and translations a document may hold.
* **`Resource.isLegal_of_mem_slots`** — its slots are legal too.
* **`Resource.map_fst_distinctNames`, `Resource.find?_of_mem_distinctNames`,
  `Resource.nodup_distinctNames`** — pairs without those whose name has come before. -/

namespace StringCatalog

/-- **A string whose name and translations a document may hold.** -/
structure Translatable.IsLegal (string : Translatable) : Prop where
  /-- The characters of the name are legal. -/
  name : ∀ name ∈ string.name, name.toList.all Xml.isChar
  /-- So are those of the translations, or of the untranslated text in their place. -/
  forms : ∀ form ∈ string.effective, ∀ text ∈ form, text.toList.all Xml.isChar

namespace Resource

/-! ## Legal characters -/

/-- Digits are legal. -/
theorem isChar_digitChar (digit : Nat) : Xml.isChar digit.digitChar := by
  have small : ∀ few < 16, Xml.isChar (Nat.digitChar few) := by decide
  rcases Nat.lt_or_ge digit 16 with few | many
  · exact small digit few
  · rw [Nat.digitChar_eq_star.2 many]
    decide

/-- So are numbers: each step puts one digit in front of legal ones. -/
theorem isChar_toDigitsCore {base fuel value : Nat} {digits : List Char}
    (h : digits.all Xml.isChar) : (Nat.toDigitsCore base fuel value digits).all Xml.isChar := by
  induction fuel generalizing value digits with
  | zero => exact h
  | succ fuel ih =>
      have more : ((value % base).digitChar :: digits).all Xml.isChar := by
        rw [List.all_cons, isChar_digitChar, h]
        rfl
      rw [Nat.toDigitsCore]
      split
      · exact more
      · exact ih more

/-- Digits are legal. -/
theorem isChar_toDigits (base value : Nat) : (Nat.toDigits base value).all Xml.isChar :=
  isChar_toDigitsCore rfl

/-- **A digest is legal.** -/
theorem isChar_digest (message : List UInt8) : (Digest.digest message).toList.all Xml.isChar := by
  rw [Digest.digest, String.toList_ofList]
  simp only [List.all_flatMap, List.all_eq_true]
  intro word _ byte _ c member
  rcases List.mem_append.1 member with member | member
  · rw [List.eq_of_mem_replicate member]
    decide
  · exact List.all_eq_true.1 (isChar_toDigits 16 byte.toNat) c member

/-- **An identifier is legal** if its parts are. -/
theorem isChar_identifier {stem : String} (legal : stem.toList.all Xml.isChar)
    (untranslated : String) (order : Nat) {name : Option String}
    (h : ∀ text ∈ name, text.toList.all Xml.isChar) :
    (identifier stem untranslated order name).toList.all Xml.isChar := by
  have number : (toString (order : Int)).toList.all Xml.isChar := by
    rw [show toString (order : Int) = order.repr from rfl, Nat.toList_repr]
    exact isChar_toDigits 10 order
  have mark : "_P".toList.all Xml.isChar := by decide
  have line : "_".toList.all Xml.isChar := by decide
  have derived : (stem ++ "_P" ++ toString (order : Int) ++ "_" ++
      Digest.digest (Text.encode untranslated)).toList.all Xml.isChar := by
    simp only [String.toList_append, List.all_append, legal, mark, number, line, isChar_digest,
      Bool.and_true]
  unfold identifier
  split
  · exact derived
  · next name =>
    have known := h name rfl
    dsimp only
    split
    · exact derived
    · split
      · exact known
      · simp only [String.toList_append, List.all_append, known, mark, number, Bool.and_true]

/-- What the slot of a form is: an open form has none, nor has the singular of a blank text. -/
theorem slot?_eq_some_iff {stem : String} {string : Translatable} {order : Nat}
    {form : Option String} {slot : Slot} : slot? stem string order form = some slot ↔
      ∃ text, form = some text ∧ ¬(order = 0 ∧ Text.isBlankText string.singular.toList) ∧
        slot = ⟨identifier stem string.singular order string.name, string.singular, text⟩ := by
  unfold slot?
  cases form with
  | none => simp
  | some text =>
      dsimp only
      split
      · next hidden => simp_all
      · next shown =>
        rw [Option.some_inj, eq_comm]
        simpa using fun _ => shown

/-- A slot is that of a form of its string, with the identifier of the form. -/
theorem exists_of_mem_slots {stem : String} {string : Translatable} {slot : Slot}
    (member : slot ∈ slots stem string) :
    ∃ form ∈ string.effective, form = some slot.translated ∧
      ∃ order : Nat, slot.id = identifier stem string.singular order string.name := by
  obtain ⟨⟨form, order⟩, there, made⟩ := List.mem_filterMap.1 member
  have form_mem : form ∈ string.effective := (List.mem_zipIdx there).2.2 ▸ List.getElem_mem _
  obtain ⟨text, rfl, -, rfl⟩ := slot?_eq_some_iff.1 made
  exact ⟨_, form_mem, rfl, order, rfl⟩

/-- **The identifiers of a string's slots are legal** if its name is. -/
theorem isChar_id_of_mem_slots {stem : String} (legal : stem.toList.all Xml.isChar)
    {string : Translatable} (h : ∀ name ∈ string.name, name.toList.all Xml.isChar) {slot : Slot}
    (member : slot ∈ slots stem string) : slot.id.toList.all Xml.isChar := by
  obtain ⟨-, -, -, order, id⟩ := exists_of_mem_slots member
  rw [id]
  exact isChar_identifier legal _ _ h

/-- **The slots of a legal string are legal.** -/
theorem isLegal_of_mem_slots {stem : String} (legal : stem.toList.all Xml.isChar)
    {string : Translatable} (h : string.IsLegal) {slot : Slot} (member : slot ∈ slots stem string) :
    slot.id.toList.all Xml.isChar ∧ slot.translated.toList.all Xml.isChar := by
  obtain ⟨form, there, text, -⟩ := exists_of_mem_slots member
  exact ⟨isChar_id_of_mem_slots legal h.name member, h.forms form there _ text⟩

/-! ## Distinct names -/

/-- The names are those of the pairs, each once, in the order in which they first occur. -/
theorem map_fst_distinctNames (seen : List String) (pairs : List (String × String)) :
    (distinctNames seen pairs).map Prod.fst =
      ((pairs.map Prod.fst).filter (· ∉ seen)).eraseDups := by
  induction pairs generalizing seen with
  | nil => rfl
  | cons pair pairs ih =>
      obtain ⟨name, value⟩ := pair
      rw [distinctNames]
      split
      · next there =>
        rw [ih, List.map_cons, List.filter_cons_of_neg (by simpa using there)]
      · next new =>
        -- a name that is new is seen from here on, so it is taken out of the rest
        have others : ((pairs.map Prod.fst).filter (· ∉ seen)).filter (!· == name) =
            (pairs.map Prod.fst).filter (· ∉ name :: seen) := by
          rw [List.filter_filter]
          refine List.filter_congr fun other _ => ?_
          by_cases same : other = name <;> simp [same]
        rw [List.map_cons, List.map_cons, ih, List.filter_cons_of_pos (by simpa using new),
          List.eraseDups_cons, others]

/-- `pair.1 ∉ seen ∧ pairs.find? (·.1 == pair.1) = some pair`: a pair that is kept is the first of
its name. -/
theorem find?_of_mem_distinctNames {seen : List String} {pairs : List (String × String)}
    {pair : String × String} (h : pair ∈ distinctNames seen pairs) :
    pair.1 ∉ seen ∧ pairs.find? (·.1 == pair.1) = some pair := by
  induction pairs generalizing seen with
  | nil => cases h
  | cons first pairs ih =>
      obtain ⟨name, value⟩ := first
      rw [distinctNames] at h
      split at h
      · next there =>
        obtain ⟨new, found⟩ := ih h
        have other : name ≠ pair.1 := fun same => new (same ▸ by simpa using there)
        exact ⟨new, by rw [List.find?_cons_of_neg (by simpa using other), found]⟩
      · next new =>
        rcases List.mem_cons.1 h with rfl | h
        · exact ⟨by simpa using new, by simp⟩
        · obtain ⟨behind, found⟩ := ih h
          simp only [List.mem_cons, not_or] at behind
          exact ⟨behind.2, by rw [List.find?_cons_of_neg (by simpa using Ne.symm behind.1), found]⟩

/-- **No name comes twice** among the pairs that are kept. -/
theorem nodup_distinctNames (seen : List String) (pairs : List (String × String)) :
    ((distinctNames seen pairs).map Prod.fst).Nodup := by
  induction pairs generalizing seen with
  | nil => exact List.nodup_nil
  | cons pair pairs ih =>
      obtain ⟨name, value⟩ := pair
      rw [distinctNames]
      split
      · exact ih seen
      · rw [List.map_cons, List.nodup_cons]
        refine ⟨fun member => ?_, ih (name :: seen)⟩
        obtain ⟨other, there, same⟩ := List.mem_map.1 member
        exact (find?_of_mem_distinctNames there).1 (same ▸ List.mem_cons_self)

end Resource

end StringCatalog
