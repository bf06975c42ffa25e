import StringCatalog.Proofs.Extraction.Found
import StringCatalog.Proofs.Resource.Document
import StringCatalog.Resource.CarryOver

/-! # Items of a translated document

* **`Resource.IsCarriable`** — a string whose first translation can be put in a document.
* **`Resource.IsFirstWith`** — the earliest of some strings that has an untranslated text.
* **`Resource.IsCarriedOver`** — the item that a string kept by hand comes to.
* **`Resource.exists_carryOver`** — one item for each string with a translation, in order. -/

namespace StringCatalog.Resource

variable {strings : List Translatable}

/-! ## First translations -/

/-- **A string whose first translation can be put in a document.** -/
structure IsCarriable (string : Translatable) : Prop where
  /-- A document may hold its translations. -/
  legal : string.IsLegal
  /-- None of its translations is open. -/
  closed : string.IsClosed
  /-- If it is translated, it has some translation. -/
  begun : string.translations ≠ some []

/-- **The first translation** of such a string, or else its untranslated text, is legal. -/
theorem IsCarriable.exists_firstForm {string : Translatable} (h : IsCarriable string) :
    ∃ form, firstForm string = .ok form ∧ string.effective.head? = some (some form) ∧
      form.toList.all Xml.isChar := by
  obtain ⟨form, rest, forms⟩ : ∃ form rest, string.effective = some form :: rest := by
    rw [Translatable.effective]
    cases translations : string.translations with
    | none => exact ⟨_, _, rfl⟩
    | some forms =>
        have closed := h.closed
        rw [Translatable.IsClosed, translations, Option.getD_some] at closed
        cases forms with
        | nil => exact absurd translations h.begun
        | cons first rest =>
            cases first with
            | none => exact absurd List.mem_cons_self closed
            | some form => exact ⟨form, rest, rfl⟩
  refine ⟨form, ?_, by rw [forms]; rfl, h.legal.forms (some form) ?_ form rfl⟩
  · rw [firstForm, forms]
  · rw [forms]
    exact List.mem_cons_self

/-! ## First strings -/

/-- **The earliest of some strings that has an untranslated text.** -/
def IsFirstWith (strings : List Translatable) (singular : String) (string : Translatable) : Prop :=
  string.singular = singular ∧ ∃ before after, strings = before ++ string :: after ∧
    ∀ earlier ∈ before, earlier.singular ≠ singular

/-- `firstWith? singular strings = some string ↔ IsFirstWith strings singular string`. -/
theorem firstWith?_eq_some_iff {singular : String} {string : Translatable} :
    firstWith? singular strings = some string ↔ IsFirstWith strings singular string := by
  simp [firstWith?, IsFirstWith, List.find?_eq_some_iff_append]

/-- `firstWith?` finds nothing just where no string has the text. -/
theorem firstWith?_eq_none_iff {singular : String} :
    firstWith? singular strings = none ↔ singular ∉ strings.map (·.singular) := by
  simp [firstWith?]

/-- The first string with a text is one of the strings. -/
theorem IsFirstWith.mem {singular : String} {string : Translatable}
    (h : IsFirstWith strings singular string) : string ∈ strings := by
  obtain ⟨-, before, after, rfl, -⟩ := h
  simp

/-! ## Items -/

/-- **The item that a string kept by hand comes to:** it has the name of the string, and the first
translation of the earliest string with the same untranslated text. -/
def IsCarriedOver (strings : List Translatable) (manual : Translatable) (item : Item) : Prop :=
  ∃ name string form, manual.name = some name ∧ IsFirstWith strings manual.singular string ∧
    string.effective.head? = some (some form) ∧ IsItemOf (name, form) item

/-- **What a string kept by hand comes to:** an item if some string has its text, and else a note. -/
theorem carriedEvent_cases (carriable : ∀ string ∈ strings, IsCarriable string)
    {manual : Translatable} (legal : manual.IsLegal) {name : String}
    (named : manual.name = some name) :
    (manual.singular ∈ strings.map (·.singular) ∧ ∃ item,
        carriedEvent strings (.found manual) = .ok (.inr item) ∧ IsCarriedOver strings manual item ∧
        item.IsProper) ∨
      (manual.singular ∉ strings.map (·.singular) ∧ carriedEvent strings (.found manual) =
        .ok (.inl (.item ("No translation for manual string: " ++ name)))) := by
  cases found : firstWith? manual.singular strings with
  | none =>
      refine .inr ⟨firstWith?_eq_none_iff.1 found, ?_⟩
      rw [carriedEvent, found, named, Option.getD_some]
  | some string =>
      have first := firstWith?_eq_some_iff.1 found
      obtain ⟨form, here, leads, written⟩ := (carriable string first.mem).exists_firstForm
      obtain ⟨item, made, known, proper⟩ := @exists_item (name, form) (legal.name name named) written
      have carried : carriedItem manual string = .ok item := by
        rw [carriedItem, here, named]
        exact made
      refine .inl ⟨first.1 ▸ List.mem_map_of_mem first.mem, item, ?_,
        ⟨name, string, form, named, first, leads, known⟩, proper⟩
      simp only [carriedEvent, found, carried, Except.map]

/-- **The items of a translated document:** one for each string that has a translation, in order and
also where a name or a text comes again. -/
theorem exists_carryOver (carriable : ∀ string ∈ strings, IsCarriable string)
    {events : List Reading.Event} (known : ∀ manual ∈ events.filterMap Reading.Event.string?,
      manual.IsLegal ∧ ∃ name, manual.name = some name) :
    ∃ items, (carryOver strings events).2 = .ok items ∧
      List.Forall₂ (IsCarriedOver strings)
        ((events.filterMap Reading.Event.string?).filter
          fun manual => manual.singular ∈ strings.map (·.singular)) items ∧
      ∀ item ∈ items, item.IsProper := by
  induction events with
  | nil => exact ⟨[], rfl, .nil, by simp⟩
  | cons event events ih =>
      cases event with
      | note remark => exact ih known
      | found manual =>
          have strings_eq : (Reading.Event.found manual :: events).filterMap Reading.Event.string? =
            manual :: events.filterMap Reading.Event.string? := rfl
          rw [strings_eq] at known ⊢
          obtain ⟨⟨legal, name, named⟩, later⟩ := List.forall_mem_cons.1 known
          obtain ⟨items, rest, all, proper⟩ := ih later
          rw [List.filter_cons]
          rcases carriedEvent_cases carriable legal named with
            ⟨inside, item, made, one, good⟩ | ⟨outside, made⟩
          · refine ⟨item :: items, ?_, ?_, List.forall_mem_cons.2 ⟨good, proper⟩⟩
            · simp only [carryOver, made, rest, Except.map]
            · rw [if_pos (decide_eq_true inside)]
              exact .cons one all
          · refine ⟨items, ?_, ?_, proper⟩
            · simp only [carryOver, made, rest]
            · rwa [if_neg (by simpa using outside)]

end StringCatalog.Resource
