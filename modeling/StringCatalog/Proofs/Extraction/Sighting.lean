import Mathlib.Data.List.Induction
import StringCatalog.Extraction.Sighting

/-! # What merging sightings comes to

* **`Translatable.newReferences`** — the references that a sighting adds.
* **`IsMerged`** — the strings behind some sightings, said without a loop.
* **`IsMerged.addSighting`** — one more sighting keeps it.
* **`isMerged_mergeSightings`** — it holds of any sightings. -/

namespace StringCatalog

/-! ## References -/

namespace Translatable

/-- **The references that are new,** given those that are known, in the order in which they first
occur. -/
def newReferences (known more : List String) : List String :=
  (more.filter (· ∉ known)).eraseDups

/-- `newReferences known [] = []`: no more references, none new. -/
@[simp] theorem newReferences_nil (known : List String) : newReferences known [] = [] := rfl

/-- A reference is new if it is not known. -/
theorem mem_newReferences {known more : List String} {reference : String} :
    reference ∈ newReferences known more ↔ reference ∈ more ∧ reference ∉ known := by
  simp [newReferences]

/-- **Adding references one by one** adds the new ones behind the known ones:
`more.foldl insertNew known = known ++ newReferences known more`. -/
theorem foldl_insertNew (known more : List String) :
    more.foldl insertNew known = known ++ newReferences known more := by
  induction more generalizing known with
  | nil => simp
  | cons reference more ih =>
      rw [List.foldl_cons, insertNew]
      split
      · next there => rw [ih, newReferences, newReferences, List.filter_cons_of_neg (by simpa)]
      · next new =>
        -- one more reference is known to those that follow
        have others : (more.filter (· ∉ known)).filter (!· == reference) =
            more.filter (· ∉ known ++ [reference]) := by
          rw [List.filter_filter]
          refine List.filter_congr fun other _ => ?_
          by_cases same : other = reference <;> simp [same]
        rw [ih, newReferences, newReferences, List.filter_cons_of_pos (by simpa), List.eraseDups_cons,
          others, List.append_assoc, List.singleton_append]

end Translatable

/-! ## Strings -/

/-- Without duplicates the values of a list stand there once each, and in their order. -/
theorem nodup_sublist_eraseDups {α : Type} [BEq α] [LawfulBEq α] (values : List α) :
    values.eraseDups.Nodup ∧ values.eraseDups.Sublist values := by
  induction length : values.length using Nat.strongRecOn generalizing values with
  | ind count ih =>
      cases values with
      | nil => simp
      | cons first rest =>
          -- the filter may leave less than the tail, so the induction is on the length
          have shorter := List.length_filter_le (!· == first) rest
          rw [List.length_cons] at length
          obtain ⟨nodup, sublist⟩ := ih _ (by omega) (rest.filter (!· == first)) rfl
          rw [List.eraseDups_cons, List.nodup_cons]
          exact ⟨⟨by simp, nodup⟩, (sublist.trans List.filter_sublist).cons_cons first⟩

/-- Without duplicates a list has none. -/
theorem nodup_eraseDups {α : Type} [BEq α] [LawfulBEq α] (values : List α) :
    values.eraseDups.Nodup :=
  (nodup_sublist_eraseDups values).1

/-- **The string behind the sightings with its key:** it says what the first of them says, and has the
references of that one and then those that the later ones add. -/
def IsGathered (sightings : List Translatable) (string : Translatable) : Prop :=
  ∃ first later, sightings.filter (·.key == string.key) = first :: later ∧
    string = { first with references := first.references ++
      Translatable.newReferences first.references (later.flatMap Translatable.references) }

/-- **The strings behind some sightings.** -/
structure IsMerged (sightings strings : List Translatable) : Prop where
  /-- The keys are those of the sightings, each once, in the order in which they first occur. -/
  keys : strings.map Translatable.key = (sightings.map Translatable.key).eraseDups
  /-- Each string is behind the sightings with its key. -/
  gathered : ∀ string ∈ strings, IsGathered sightings string

/-- `IsMerged [] []`: no sightings are merged to no strings. -/
theorem isMerged_nil : IsMerged [] [] := ⟨rfl, by simp⟩

/-- No key occurs twice. -/
theorem IsMerged.nodup {sightings strings : List Translatable} (h : IsMerged sightings strings) :
    (strings.map Translatable.key).Nodup := by
  rw [h.keys]
  exact nodup_eraseDups _

/-- A string behind some sightings has the references of all of them, and no others. -/
theorem IsGathered.mem_references {sightings : List Translatable} {string : Translatable}
    (h : IsGathered sightings string) {reference : String} :
    reference ∈ string.references ↔
      ∃ sighting ∈ sightings, sighting.key = string.key ∧ reference ∈ sighting.references := by
  obtain ⟨first, later, same, equal⟩ := h
  have among : (∃ sighting ∈ sightings, sighting.key = string.key ∧
      reference ∈ sighting.references) ↔ ∃ sighting ∈ first :: later,
        reference ∈ sighting.references := by
    simp only [← same, List.mem_filter, beq_iff_eq, and_assoc]
  have references : string.references = first.references ++
      Translatable.newReferences first.references (later.flatMap Translatable.references) := by
    rw [equal]
  rw [references, List.mem_append, Translatable.mem_newReferences, List.mem_flatMap, among]
  -- a reference of the first sighting is not new, any other one is new if a later one has it
  by_cases there : reference ∈ first.references <;> simp [there]

/-- What one more sighting makes of some strings. -/
theorem of_mem_addSighting {strings : List Translatable} {sighting string : Translatable}
    (nodup : (strings.map Translatable.key).Nodup) (member : string ∈ addSighting strings sighting) :
    (string ∈ strings ∧ string.key ≠ sighting.key) ∨
      (∃ old ∈ strings, old.key = sighting.key ∧ string = old.mergeReferences sighting) ∨
      (sighting.key ∉ strings.map Translatable.key ∧ string = sighting) := by
  induction strings with
  | nil =>
      rw [addSighting, List.mem_singleton] at member
      exact .inr (.inr ⟨by simp, member⟩)
  | cons first rest ih =>
      rw [List.map_cons, List.nodup_cons] at nodup
      unfold addSighting at member
      split at member
      · next same =>
        have same : first.key = sighting.key := by simpa using same
        rcases List.mem_cons.1 member with rfl | member
        · exact .inr (.inl ⟨first, List.mem_cons_self, same, rfl⟩)
        -- the keys are different, so no string behind the merged one has its key
        · refine .inl ⟨List.mem_cons_of_mem _ member, fun equal => nodup.1 ?_⟩
          rw [same, ← equal]
          exact List.mem_map_of_mem member
      · next other =>
        have other : first.key ≠ sighting.key := by simpa using other
        rcases List.mem_cons.1 member with rfl | member
        · exact .inl ⟨List.mem_cons_self, other⟩
        · rcases ih nodup.2 member with ⟨there, apart⟩ | ⟨old, there, same, equal⟩ | ⟨new, equal⟩
          · exact .inl ⟨List.mem_cons_of_mem _ there, apart⟩
          · exact .inr (.inl ⟨old, List.mem_cons_of_mem _ there, same, equal⟩)
          · refine .inr (.inr ⟨?_, equal⟩)
            rw [List.map_cons, List.mem_cons, not_or]
            exact ⟨other.symm, new⟩

/-- **One more sighting** is merged into the string behind it, or opens one. -/
theorem IsMerged.addSighting {sightings strings : List Translatable} (h : IsMerged sightings strings)
    (sighting : Translatable) :
    IsMerged (sightings ++ [sighting]) (addSighting strings sighting) := by
  have known : sighting.key ∈ strings.map Translatable.key ↔
      sighting.key ∈ sightings.map Translatable.key := by
    rw [h.keys, List.mem_eraseDups]
  refine ⟨?_, fun string member => ?_⟩
  · rw [map_key_addSighting, List.map_append, List.map_singleton, List.eraseDups_append, ← h.keys]
    split
    · next there =>
      have none : [sighting.key].removeAll (sightings.map Translatable.key) = [] := by
        rw [List.removeAll, List.filter_cons_of_neg (by simpa using known.1 there), List.filter_nil]
      rw [none, List.eraseDups_nil, List.append_nil]
    · next new =>
      have one : [sighting.key].removeAll (sightings.map Translatable.key) = [sighting.key] := by
        rw [List.removeAll, List.filter_cons_of_pos (by simpa using mt known.2 new), List.filter_nil]
      rw [one]
      rfl
  -- a string of another key, the one that the sighting is merged into, or the sighting itself
  · rcases of_mem_addSighting h.nodup member with ⟨there, apart⟩ | ⟨old, there, same, rfl⟩ | ⟨new, rfl⟩
    · obtain ⟨first, later, filtered, equal⟩ := h.gathered string there
      exact ⟨first, later, by simp [filtered, apart.symm], equal⟩
    · obtain ⟨first, later, filtered, equal⟩ := h.gathered old there
      rw [same] at filtered
      refine ⟨first, later ++ [sighting], ?_, ?_⟩
      · simp [filtered, same]
      · rw [equal, Translatable.mergeReferences, List.flatMap_append, List.flatMap_singleton,
          ← Translatable.foldl_insertNew, ← Translatable.foldl_insertNew, List.foldl_append]
    · have none : sightings.filter (·.key == string.key) = [] := by
        rw [List.filter_eq_nil_iff]
        intro other inside same
        exact mt known.2 new (List.mem_map.2 ⟨other, inside, by simpa using same⟩)
      exact ⟨string, [], by simp [none], by simp⟩

/-- **The strings behind any sightings** are what they are said to be. -/
theorem isMerged_mergeSightings (sightings : List Translatable) :
    IsMerged sightings (mergeSightings sightings) := by
  induction sightings using List.reverseRecOn with
  | nil => exact isMerged_nil
  | append_singleton sightings sighting ih =>
      rw [mergeSightings, List.foldl_append]
      exact ih.addSighting sighting

end StringCatalog
