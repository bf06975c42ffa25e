import StringCatalog.Proofs.Resource.Kept
import StringCatalog.Proofs.Text.Blank

/-! # Strings without a name

The identifier of a form of a string without a name is made of the number of the form and the digest of
the untranslated text, so that no form displaces another:

* **`Resource.identifier_inj`** — the identifier tells the number and the digest.
* **`Resource.placedSlots`** — the slots of some strings, with the numbers of string and form.
* **`Resource.nodup_id_of_isUnnamed`** — no identifier comes twice.
* **`Resource.ShowsEach`** — items for the forms of some strings, one for each.
* **`Resource.render_unnamed`** — the document of strings without names. -/

namespace StringCatalog.Resource

/-- **A string without a name.** An empty name counts for none:
`∀ name ∈ string.name, name = ""`. -/
def IsUnnamed (string : Translatable) : Prop := ∀ name ∈ string.name, name = ""

/-! ## Identifiers -/

/-- `(order : Int).repr.toList = Nat.toDigits 10 order`: the place of a string has no sign. -/
theorem toList_repr (order : Nat) : (order : Int).repr.toList = Nat.toDigits 10 order :=
  order.toList_repr

/-- `'_' ∉ Nat.toDigits 10 order`: no line stands in a number. -/
theorem line_notMem_toDigits (order : Nat) : '_' ∉ Nat.toDigits 10 order := fun member =>
  absurd (Nat.isDigit_of_mem_toDigits (by decide) (by decide) member) (by decide)

/-- `order = number`: a number is told by its digits. -/
theorem toDigits_inj {order number : Nat} (same : Nat.toDigits 10 order = Nat.toDigits 10 number) :
    order = number := by
  rw [← @Nat.ofDigitChars_ten_toDigits order, same, Nat.ofDigitChars_ten_toDigits]

/-- The identifiers of a string without a name, written out. -/
theorem IsUnnamed.identifier_eq {string : Translatable} (h : IsUnnamed string) (stem : String)
    (order : Int) : identifier stem string.singular order string.name =
      stem ++ "_P" ++ toString order ++ "_" ++ Digest.digest (Text.encode string.singular) := by
  unfold identifier
  split
  · rfl
  · next name same =>
    rw [h name same]
    rfl

/-- **The identifier tells the number of the form and the digest of the text.** -/
theorem identifier_inj {stem : String} {string other : Translatable} (unnamed : IsUnnamed string)
    (nameless : IsUnnamed other) {order number : Nat}
    (same : identifier stem string.singular order string.name =
      identifier stem other.singular number other.name) :
    order = number ∧ Digest.digest (Text.encode string.singular) =
      Digest.digest (Text.encode other.singular) := by
  rw [unnamed.identifier_eq, nameless.identifier_eq] at same
  have chars : Nat.toDigits 10 order ++ '_' ::
        (Digest.digest (Text.encode string.singular)).toList =
      Nat.toDigits 10 number ++ '_' :: (Digest.digest (Text.encode other.singular)).toList := by
    simpa [toList_repr] using congrArg String.toList same
  -- the first line behind the stem ends the number
  have cut := congrArg (Text.cutAt? '_') chars
  rw [Text.cutAt?_append (line_notMem_toDigits order),
    Text.cutAt?_append (line_notMem_toDigits number)] at cut
  obtain ⟨numbers, digests⟩ := Prod.mk.inj (Option.some.inj cut)
  exact ⟨toDigits_inj numbers, String.toList_inj.1 digests⟩

/-! ## Places -/

/-- **Whether a text is shown for a form:** for the form with some number, of the string with some
number. An open form has no text, and the singular of a blank text is not shown. -/
structure IsShown (strings : List Translatable) (place : Nat × Nat) (string : Translatable)
    (text : String) : Prop where
  /-- The string has the first number. -/
  there : strings[place.1]? = some string
  /-- The form has the second number. -/
  form : string.effective[place.2]? = some (some text)
  /-- It is not the singular of a blank text. -/
  visible : ¬(place.2 = 0 ∧ Text.isBlankText string.singular.toList)

/-- **The slots of some strings, with the numbers of string and form.** -/
def placedSlots (stem : String) (strings : List Translatable) : List ((Nat × Nat) × Slot) :=
  strings.zipIdx.flatMap fun (string, index) =>
    string.effective.zipIdx.filterMap fun (form, order) =>
      (slot? stem string order form).map ((index, order), ·)

/-- `(placedSlots stem strings).map Prod.snd = strings.flatMap (slots stem)`: without the places
they are the slots of all strings. -/
theorem map_snd_placedSlots (stem : String) (strings : List Translatable) :
    (placedSlots stem strings).map Prod.snd = strings.flatMap (slots stem) := by
  have forms (string : Translatable) (index : Nat) :
      (string.effective.zipIdx.filterMap fun (form, order) =>
        (slot? stem string order form).map ((index, order), ·)).map Prod.snd =
          slots stem string := by
    rw [List.map_filterMap, slots]
    simp [Function.comp_def]
  rw [placedSlots, List.map_flatMap]
  simp only [forms]
  rw [← List.flatMap_map, List.zipIdx_map_fst]

/-- **The slots are those of the forms that are shown.** -/
theorem mem_placedSlots {stem : String} {strings : List Translatable}
    {placed : (Nat × Nat) × Slot} : placed ∈ placedSlots stem strings ↔
      ∃ string text, IsShown strings placed.1 string text ∧
        placed.2 = ⟨identifier stem string.singular placed.1.2 string.name, string.singular, text⟩ := by
  obtain ⟨⟨index, order⟩, slot⟩ := placed
  simp only [placedSlots, List.mem_flatMap, List.mem_filterMap, Prod.exists,
    List.mem_zipIdx_iff_getElem?, Option.map_eq_some_iff, Prod.mk.injEq, slot?_eq_some_iff]
  constructor
  · rintro ⟨string, _, there, _, _, stands, _, ⟨text, rfl, visible, rfl⟩, ⟨rfl, rfl⟩, rfl⟩
    exact ⟨string, text, ⟨there, stands, visible⟩, rfl⟩
  · rintro ⟨string, text, ⟨there, stands, visible⟩, rfl⟩
    exact ⟨string, index, there, some text, order, stands, _, ⟨text, rfl, visible, rfl⟩,
      ⟨rfl, rfl⟩, rfl⟩

/-- The numbers of the members of a list ascend. -/
theorem pairwise_zipIdx {α : Type} (values : List α) :
    values.zipIdx.Pairwise fun first second => first.2 < second.2 := by
  have numbers : (values.zipIdx.map Prod.snd).Pairwise (· < ·) := by
    rw [List.zipIdx_map_snd]
    exact List.pairwise_lt_range'
  exact List.pairwise_map.1 numbers

/-- **The places ascend,** by string and then by form. -/
theorem pairwise_placedSlots (stem : String) (strings : List Translatable) :
    ((placedSlots stem strings).map Prod.fst).Pairwise (Prod.Lex (· < ·) (· < ·)) := by
  rw [List.pairwise_map, placedSlots, List.pairwise_flatMap]
  constructor
  · rintro ⟨string, index⟩ -
    refine (pairwise_zipIdx _).filterMap _ fun first second later placed one next two => ?_
    obtain ⟨_, _, rfl⟩ := Option.map_eq_some_iff.1 one
    obtain ⟨_, _, rfl⟩ := Option.map_eq_some_iff.1 two
    exact .right _ later
  · refine (pairwise_zipIdx strings).imp fun {first second} later placed one next two => ?_
    obtain ⟨_, _, one⟩ := List.mem_filterMap.1 one
    obtain ⟨_, _, two⟩ := List.mem_filterMap.1 two
    obtain ⟨_, _, rfl⟩ := Option.map_eq_some_iff.1 one
    obtain ⟨_, _, rfl⟩ := Option.map_eq_some_iff.1 two
    exact .left _ _ later

/-- **No identifier comes twice** among those of strings without names, if their texts are distinct
and no two of these have one digest. -/
theorem nodup_id_of_isUnnamed {stem : String} {strings : List Translatable}
    (unnamed : ∀ string ∈ strings, IsUnnamed string)
    (distinct : (strings.map (·.singular)).Nodup)
    (apart : ∀ string ∈ strings, ∀ other ∈ strings,
      Digest.digest (Text.encode string.singular) = Digest.digest (Text.encode other.singular) →
        string.singular = other.singular) :
    ((strings.flatMap (slots stem)).map Slot.id).Nodup := by
  have places := (pairwise_placedSlots stem strings).nodup
  rw [← map_snd_placedSlots, List.map_map]
  refine (places.of_map _).map_on fun placed one other two same => ?_
  refine List.inj_on_of_nodup_map places one two ?_
  obtain ⟨string, text, shown, made⟩ := mem_placedSlots.1 one
  obtain ⟨second, form, seen, built⟩ := mem_placedSlots.1 two
  have there := List.mem_of_getElem? shown.there
  have stands := List.mem_of_getElem? seen.there
  simp only [Function.comp_apply, made, built] at same
  obtain ⟨orders, digests⟩ := identifier_inj (unnamed string there) (unnamed second stands) same
  -- the digest tells the text, and this tells the string
  have texts := apart string there second stands digests
  have singulars : (strings.map (·.singular))[placed.1.1]? =
      (strings.map (·.singular))[other.1.1]? := by
    rw [List.getElem?_map, List.getElem?_map, shown.there, seen.there, Option.map_some, texts]
    rfl
  have inside : placed.1.1 < (strings.map (·.singular)).length := by
    rw [List.length_map]
    exact (List.getElem?_eq_some_iff.1 shown.there).1
  exact Prod.ext ((List.getElem?_inj inside distinct).1 singulars) orders

/-! ## The document -/

/-- **Whether an item holds the form at a place:** under the identifier of the form, with the content
that its text comes to. -/
def IsItemAt (stem : String) (strings : List Translatable) (place : Nat × Nat) (item : Item) : Prop :=
  ∃ string text, IsShown strings place string text ∧
    IsItemOf (identifier stem string.singular place.2 string.name, text) item

/-- **Items for the forms of some strings,** one for each form that is shown. -/
structure ShowsEach (stem : String) (strings : List Translatable) (places : List (Nat × Nat))
    (items : List Item) : Prop where
  /-- The places are those of the forms that are shown. -/
  complete : ∀ place, place ∈ places ↔ ∃ string text, IsShown strings place string text
  /-- They ascend by string and then by form. -/
  sorted : places.Pairwise (Prod.Lex (· < ·) (· < ·))
  /-- There is one item for each of them. -/
  each : List.Forall₂ (IsItemAt stem strings) places items

/-- The items of the slots show each form. -/
theorem showsEach_of_isItemOf {stem : String} {strings : List Translatable} {items : List Item}
    (related : List.Forall₂ (fun slot => IsItemOf (slot.id, slot.translated))
      (strings.flatMap (slots stem)) items) :
    ShowsEach stem strings ((placedSlots stem strings).map Prod.fst) items where
  complete place := by
    rw [List.mem_map]
    constructor
    · rintro ⟨placed, member, rfl⟩
      obtain ⟨string, text, shown, -⟩ := mem_placedSlots.1 member
      exact ⟨string, text, shown⟩
    · rintro ⟨string, text, shown⟩
      refine ⟨(place, ⟨identifier stem string.singular place.2 string.name, string.singular, text⟩),
        ?_, rfl⟩
      exact mem_placedSlots.2 ⟨string, text, shown, rfl⟩
  sorted := pairwise_placedSlots stem strings
  each := by
    rw [← map_snd_placedSlots, List.forall₂_map_left_iff] at related
    rw [List.forall₂_map_left_iff]
    refine ((List.forall₂_and_left _ _).2 ⟨fun _ => id, related⟩).imp ?_
    rintro placed item ⟨member, made⟩
    obtain ⟨string, text, shown, same⟩ := mem_placedSlots.1 member
    rw [same] at made
    exact ⟨string, text, shown, made⟩

/-- **The document of strings without names** has an element for each form that is shown
(`ShowsEach`), if the texts are distinct and no two of them have one `Digest.digest`: no identifier
comes twice, so none is left out. It is well formed unless two attributes of an element in these
texts are written alike in their new place, so that its content is not `IsSpelledApart`. -/
theorem render_unnamed {stem : String} (legal : stem.toList.all Xml.isChar)
    {strings : List Translatable} (h : ∀ string ∈ strings, string.IsLegal)
    (unnamed : ∀ string ∈ strings, IsUnnamed string)
    (distinct : (strings.map (·.singular)).Nodup)
    (apart : ∀ string ∈ strings, ∀ other ∈ strings,
      Digest.digest (Text.encode string.singular) = Digest.digest (Text.encode other.singular) →
        string.singular = other.singular) :
    ((strings.flatMap (slots stem)).map Slot.id).Nodup ∧
    ∃ places items, render stem strings = .ok (write items) ∧ ShowsEach stem strings places items ∧
      (((∀ item ∈ items, ∀ node ∈ item.content, node.IsSpelledApart) ∧
        ∃ document remark, Xml.Document.wellFormed? (write items).toList = some (document, remark) ∧
          IsDocumentOf items document) ∨
      (¬(∀ item ∈ items, ∀ node ∈ item.content, node.IsSpelledApart) ∧
        Xml.Document.wellFormed? (write items).toList = none)) := by
  have ids := @nodup_id_of_isUnnamed stem strings unnamed distinct apart
  have legal_slots : ∀ slot ∈ strings.flatMap (slots stem),
      slot.id.toList.all Xml.isChar ∧ slot.translated.toList.all Xml.isChar := by
    intro slot member
    obtain ⟨string, there, member⟩ := List.mem_flatMap.1 member
    exact isLegal_of_mem_slots legal (h string there) member
  obtain ⟨items, made, related, proper⟩ := exists_items_of_nodup legal_slots ids
  exact ⟨ids, _, items, made, showsEach_of_isItemOf related, wellFormed?_write_cases proper⟩

/-- A string with an open form, a blank one with its plural, and one that is not translated. -/
theorem render_unnamed_three :
    let strings : List Translatable :=
      [⟨"a", none, some "b", some [some "<b>x</b>", none, some "</string>"], none, none, [], none, {}⟩,
        ⟨" ", some "", some "c", some [some "y", some "z"], none, none, [], none, {}⟩,
        Translatable.ofText "c"]
    let filled : List Slot :=
      [⟨"Str_P0_0cc175b9c0f1b6a831c399e269772661", "a", "<b>x</b>"⟩,
        ⟨"Str_P2_0cc175b9c0f1b6a831c399e269772661", "a", "</string>"⟩,
        ⟨"Str_P1_7215ee9c7d9dc229d2921a40e899ec5f", " ", "z"⟩,
        ⟨"Str_P0_4a8a08f09d37b73795649038408b5f33", "c", "c"⟩]
    strings.flatMap (slots "Str") = filled ∧ ((strings.flatMap (slots "Str")).map Slot.id).Nodup ∧
    ∃ places items document remark, render "Str" strings = .ok (write items) ∧
      ShowsEach "Str" strings places items ∧
      Xml.Document.wellFormed? (write items).toList = some (document, remark) ∧
      IsDocumentOf items document := by
  intro strings filled
  have legal : ∀ string ∈ strings, string.IsLegal := by
    simp only [strings, List.forall_mem_cons]
    exact ⟨⟨by decide, by decide⟩, ⟨by decide, by decide⟩, ⟨by decide, by decide⟩, by simp⟩
  have unnamed : ∀ string ∈ strings, IsUnnamed string := by
    simp only [strings, List.forall_mem_cons]
    exact ⟨by simp [IsUnnamed], by simp [IsUnnamed], by simp [IsUnnamed, Translatable.ofText],
      by simp⟩
  have first : Digest.digest (Text.encode "a") = "0cc175b9c0f1b6a831c399e269772661" := by
    decide +kernel
  have second : Digest.digest (Text.encode " ") = "7215ee9c7d9dc229d2921a40e899ec5f" := by
    decide +kernel
  have third : Digest.digest (Text.encode "c") = "4a8a08f09d37b73795649038408b5f33" := by
    decide +kernel
  have digests : (strings.map fun string => Digest.digest (Text.encode string.singular)).Nodup := by
    simp only [strings, List.map_cons, List.map_nil, Translatable.ofText, first, second, third]
    decide
  have same : strings.flatMap (slots "Str") = filled := by
    simp only [strings, List.flatMap_cons, slots, slot?, identifier, Translatable.ofText, first,
      second, third]
    rfl
  have reads : ∀ items ∈ (makeItems (distinctNames [] ((strings.flatMap (slots "Str")).map
      fun slot => (slot.id, slot.translated)))).toOption,
        (Xml.Document.wellFormed? (write items).toList).isSome := by
    rw [same]
    simp only [toList_write]
    decide +kernel
  obtain ⟨ids, places, items, made, each, fate⟩ :=
    @render_unnamed "Str" (by decide) strings legal unnamed (by decide)
      fun _ there _ stands same =>
        congrArg _ (List.inj_on_of_nodup_map digests there stands same)
  refine ⟨same, ids, places, items, ?_⟩
  rcases fate with ⟨-, document, remark, read, held⟩ | ⟨-, missing⟩
  · exact ⟨document, remark, made, each, read, held⟩
  · rw [render] at made
    split at made
    · cases made
    · next others known =>
      rw [known] at reads
      have found := reads others rfl
      rw [Except.ok.inj made, missing] at found
      cases found

end StringCatalog.Resource
