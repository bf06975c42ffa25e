import Mathlib.Data.List.Perm.Basic
import StringCatalog.Proofs.Extraction.Gathered

/-! # Merging what has been merged

Files that are read together give what is merged of them when they are read apart:

* **`Translatable.mergeReferences_assoc`** — references are added in one go or one after the other.
* **`mergeSightings_append`** — merged sightings are folded into other ones as they are.
* **`Reader.all?_read_any_iff`** — what a reader of several formats has, file by file.
* **`Reader.all?_read_combined`** — readers with the files of two others, with a file once more, and
  with their files in another order. -/

namespace StringCatalog

/-! ## References -/

namespace Translatable

/-- The references that are there behind some more are these and those that were. -/
theorem mem_foldl_insertNew {known more : List String} {reference : String} :
    reference ∈ more.foldl insertNew known ↔ reference ∈ known ∨ reference ∈ more := by
  rw [foldl_insertNew, List.mem_append, mem_newReferences]
  by_cases there : reference ∈ known <;> simp [there]

/-- A reference that is inserted first, or behind all that it was inserted into. -/
theorem foldl_insertNew_insertNew (known more : List String) (reference : String) :
    (insertNew more reference).foldl insertNew known =
      insertNew (more.foldl insertNew known) reference := by
  rw [insertNew]
  split
  · next there => rw [insertNew, if_pos (mem_foldl_insertNew.2 (.inr there))]
  · rw [List.foldl_append, List.foldl_cons, List.foldl_nil]

/-- **References are added in one go or one after the other.** -/
theorem mergeReferences_assoc (first second third : Translatable) :
    first.mergeReferences (second.mergeReferences third) =
      (first.mergeReferences second).mergeReferences third := by
  have lists (known more others : List String) :
      (others.foldl insertNew more).foldl insertNew known =
        others.foldl insertNew (more.foldl insertNew known) := by
    induction others generalizing more with
    | nil => rfl
    | cons reference others ih =>
        rw [List.foldl_cons, List.foldl_cons, ih, foldl_insertNew_insertNew]
  rw [mergeReferences, mergeReferences, mergeReferences, mergeReferences, lists]

/-- `string.mergeReferences other = string`: references that are known already add nothing. -/
theorem mergeReferences_eq_self {string other : Translatable}
    (known : other.references ⊆ string.references) : string.mergeReferences other = string := by
  have none : newReferences string.references other.references = [] := by
    rw [List.eq_nil_iff_forall_not_mem]
    exact fun reference new => (mem_newReferences.1 new).2 (known (mem_newReferences.1 new).1)
  rw [mergeReferences, foldl_insertNew, none, List.append_nil]

end Translatable

/-! ## Sightings -/

/-- A sighting leaves the keys that are there, and has its own. -/
theorem mem_map_key_addSighting {strings : List Translatable} {sighting : Translatable}
    {key : Translatable.Key} :
    key ∈ (addSighting strings sighting).map Translatable.key ↔
      key ∈ strings.map Translatable.key ∨ key = sighting.key := by
  rw [map_key_addSighting]
  split
  · next there => exact ⟨.inl, fun either => either.elim id fun same => same ▸ there⟩
  · rw [List.mem_append, List.mem_singleton]

/-- Two sightings of one string come to one sighting with the references of both. -/
theorem addSighting_mergeReferences {first second : Translatable} (same : first.key = second.key)
    (strings : List Translatable) :
    addSighting strings (first.mergeReferences second) =
      addSighting (addSighting strings first) second := by
  induction strings with
  | nil => simp [addSighting, same]
  | cons string rest ih =>
      rw [addSighting, addSighting, Translatable.key_mergeReferences]
      split
      · next known =>
        have known : (string.mergeReferences first).key = second.key :=
          (beq_iff_eq.1 known).trans same
        rw [addSighting, if_pos (beq_iff_eq.2 known), Translatable.mergeReferences_assoc]
      · next other =>
        rw [addSighting, if_neg (same ▸ other), ih]

/-- Sightings of two strings may change places if the first one has been met before: then it is no
new string, and the order of the strings does not hang on it. -/
theorem addSighting_comm {strings : List Translatable} {first second : Translatable}
    (known : first.key ∈ strings.map Translatable.key) (apart : first.key ≠ second.key) :
    addSighting (addSighting strings first) second =
      addSighting (addSighting strings second) first := by
  induction strings with
  | nil => simp at known
  | cons string rest ih =>
      by_cases one : string.key = first.key
      · simp [addSighting, one, apart]
      · have later : first.key ∈ rest.map Translatable.key := by
          rw [List.map_cons, List.mem_cons] at known
          exact known.resolve_left (Ne.symm one)
        by_cases two : string.key = second.key
        · simp [addSighting, two, apart.symm]
        · simp [addSighting, one, two, ih later]

/-- A sighting of a string that has been met may come before other strings or behind them. -/
theorem foldl_addSighting_comm {known strings : List Translatable} {sighting : Translatable}
    (there : sighting.key ∈ known.map Translatable.key)
    (apart : sighting.key ∉ strings.map Translatable.key) :
    strings.foldl addSighting (addSighting known sighting) =
      addSighting (strings.foldl addSighting known) sighting := by
  induction strings generalizing known with
  | nil => rfl
  | cons string rest ih =>
      rw [List.map_cons, List.mem_cons, not_or] at apart
      rw [List.foldl_cons, List.foldl_cons, addSighting_comm there apart.1]
      exact ih (mem_map_key_addSighting.2 (.inl there)) apart.2

/-- **A sighting that is merged into some strings before these are folded into others** is one that
comes behind them. -/
theorem foldl_addSighting_addSighting {strings : List Translatable}
    (nodup : (strings.map Translatable.key).Nodup) (known : List Translatable)
    (sighting : Translatable) :
    (addSighting strings sighting).foldl addSighting known =
      addSighting (strings.foldl addSighting known) sighting := by
  induction strings generalizing known with
  | nil => rfl
  | cons string rest ih =>
      rw [List.map_cons, List.nodup_cons] at nodup
      rw [addSighting]
      split
      -- the string that it is merged into is folded in first, and the others have other keys
      · next same =>
        have same : string.key = sighting.key := beq_iff_eq.1 same
        have there : sighting.key ∈ (addSighting known string).map Translatable.key :=
          mem_map_key_addSighting.2 (.inr same.symm)
        rw [List.foldl_cons, List.foldl_cons, addSighting_mergeReferences same,
          foldl_addSighting_comm there (same ▸ nodup.1)]
      · rw [List.foldl_cons, List.foldl_cons, ih nodup.2]

/-- **Sightings behind others** are folded into the strings of these once they are merged. -/
theorem mergeSightings_append (first second : List Translatable) :
    mergeSightings (first ++ second) =
      (mergeSightings second).foldl addSighting (mergeSightings first) := by
  induction second using List.reverseRecOn with
  | nil => rw [List.append_nil, mergeSightings_nil, List.foldl_nil]
  | append_singleton second sighting ih =>
      have step (sightings : List Translatable) : mergeSightings (sightings ++ [sighting]) =
          addSighting (mergeSightings sightings) sighting := by
        rw [mergeSightings, List.foldl_append]
        rfl
      rw [← List.append_assoc, step, step, ih,
        foldl_addSighting_addSighting (isMerged_mergeSightings second).nodup]

/-- `addSighting strings sighting = strings`: a sighting adds nothing to a string that has all its
references. -/
theorem addSighting_eq_self {strings : List Translatable}
    (nodup : (strings.map Translatable.key).Nodup) {string sighting : Translatable}
    (member : string ∈ strings) (same : string.key = sighting.key)
    (known : sighting.references ⊆ string.references) : addSighting strings sighting = strings := by
  induction strings with
  | nil => simp at member
  | cons first rest ih =>
      rw [List.map_cons, List.nodup_cons] at nodup
      rw [addSighting]
      rcases List.mem_cons.1 member with rfl | later
      · rw [if_pos (beq_iff_eq.2 same), Translatable.mergeReferences_eq_self known]
      · have other : first.key ≠ sighting.key := fun equal =>
          nodup.1 (equal.trans same.symm ▸ List.mem_map_of_mem later)
        rw [if_neg (by simpa using other), ih nodup.2 later]

/-- **Sightings that have been merged** add nothing when they are met again:
`again.foldl StringCatalog.addSighting strings = strings`. -/
theorem IsMerged.foldl_addSighting {sightings strings again : List Translatable}
    (h : IsMerged sightings strings) (known : again ⊆ sightings) :
    again.foldl StringCatalog.addSighting strings = strings := by
  induction again with
  | nil => rfl
  | cons sighting again ih =>
      have member : sighting ∈ sightings := known List.mem_cons_self
      obtain ⟨string, there, same⟩ : ∃ string ∈ strings, string.key = sighting.key := by
        rw [← List.mem_map, h.keys, List.mem_eraseDups]
        exact List.mem_map_of_mem member
      have references : sighting.references ⊆ string.references := fun reference inside =>
        (h.gathered string there).mem_references.2 ⟨sighting, member, same.symm, inside⟩
      rw [List.foldl_cons, addSighting_eq_self h.nodup there same references]
      exact ih fun other inside => known (List.mem_cons_of_mem _ inside)

/-- **The order of sightings** changes neither which strings there are nor what references they have. -/
theorem IsMerged.of_perm {sightings strings others again : List Translatable}
    (h : IsMerged sightings strings) (k : IsMerged others again) (perm : others.Perm sightings) :
    (∀ key, key ∈ again.map Translatable.key ↔ key ∈ strings.map Translatable.key) ∧
      ∀ other ∈ again, ∀ string ∈ strings, other.key = string.key →
        ∀ reference, reference ∈ other.references ↔ reference ∈ string.references := by
  constructor
  · intro key
    rw [k.keys, h.keys, List.mem_eraseDups, List.mem_eraseDups, (perm.map _).mem_iff]
  · intro other inside string member same reference
    rw [(k.gathered other inside).mem_references, (h.gathered string member).mem_references, same]
    simp only [perm.mem_iff]

/-! ## Readings -/

namespace Reading

/-- `(first.append second).append third = first.append (second.append third)`: of three readings
the first fault ends all. -/
theorem append_assoc (first second third : Reading) :
    (first.append second).append third = first.append (second.append third) := by
  cases one : first.fault with
  | some fault => simp only [append, one]
  | none => cases two : second.fault <;> simp [append, one, two]

/-- **References are made relative in one reading after another.** -/
theorem relative_append (root : Option String) (first second : Reading) :
    (first.append second).relative root = (first.relative root).append (second.relative root) := by
  obtain ⟨events, fault⟩ := first
  cases fault with
  | some fault =>
      -- behind the fault of the first reading nothing is read, with relative references or without
      have kept : (relative root ⟨events, some fault⟩).fault ≠ none := fun none => by
        simpa using fault_eq_none (all?_eq_ok.2 ⟨none, rfl⟩)
      obtain ⟨other, kept⟩ := Option.ne_none_iff_exists'.1 kept
      simp only [append, kept]
  | none =>
      rw [append_of_fault_eq_none rfl, relative, relative]
      dsimp only
      induction events with
      | nil => rfl
      | cons event events ih =>
          cases event with
          | note remark =>
              rw [List.cons_append, relativeEvents, relativeEvents, append_assoc, ih]
          | found string =>
              rw [List.cons_append, relativeEvents, relativeEvents]
              split
              · rfl
              · rw [append_assoc, ih]

/-- References are made relative reading by reading. -/
theorem relative_sequence (root : Option String) (readings : List Reading) :
    (sequence readings).relative root = sequence (readings.map (relative root)) := by
  induction readings with
  | nil => rfl
  | cons reading readings ih => rw [sequence, relative_append, ih, List.map_cons, sequence]

end Reading

/-! ## Readers -/

namespace Reader

variable {reader : Reader} {formats : List Format} {tree : FileTree}

/-- **The sightings in a file:** its strings with their references made relative. That is,
`((reader.readFile tree path).relative reader.root).all? = .ok sightings`. -/
def Sights (reader : Reader) (tree : FileTree) (path : Path) (sightings : List Translatable) : Prop :=
  ((reader.readFile tree path).relative reader.root).all? = .ok sightings

/-- **A reader of several formats has the strings behind the sightings in its files,** if all files
and references can be read. -/
theorem all?_read_any_iff (kind : reader.kind = .any formats) {strings : List Translatable} :
    (reader.read tree).all? = .ok strings ↔
      ∃ parts, List.Forall₂ (reader.Sights tree) reader.paths parts ∧
        strings = mergeSightings parts.flatten := by
  have whole : (reader.read tree).all? =
      (Reading.sequence ((reader.paths.map (reader.readFile tree)).map
        (Reading.relative reader.root))).all?.map mergeSightings := by
    rw [read, kind]
    rw [Reading.all?_merged, Reading.relative_sequence]
  rw [whole]
  constructor
  · intro read
    obtain ⟨sightings, found, rfl⟩ := exists_of_map_eq_ok read
    obtain ⟨parts, each, rfl⟩ := Reading.exists_of_all?_sequence found
    rw [List.forall₂_map_left_iff, List.forall₂_map_left_iff] at each
    exact ⟨parts, each, rfl⟩
  · rintro ⟨parts, each, rfl⟩
    rw [Reading.all?_sequence (by
      rw [List.forall₂_map_left_iff, List.forall₂_map_left_iff]
      exact each)]
    rfl

/-- A file with sightings has one of the formats that are read. -/
theorem Sights.isSome_ofPath? (kind : reader.kind = .any formats) {path : Path}
    {sightings : List Translatable} (h : reader.Sights tree path sightings) :
    (Format.ofPath? formats path).isSome := by
  cases found : Format.ofPath? formats path with
  | some format => rfl
  | none =>
      have failed : reader.readFile tree path = .failed (.unsupported path.toString) := by
        rw [readFile, kind]
        simp only [found]
      rw [Sights, failed] at h
      cases h

/-- The reader with other files in place of its own. -/
def withPaths (reader : Reader) (paths : List Path) : Reader :=
  { reader with paths }

/-- **Reading files together and apart.** Where a reader of several formats can read the files
`first`, and also the files `second`, it has for `first ++ second` the strings
`others.foldl addSighting strings`: those of the second ones folded in as if they were sightings.
With a file once more it has the same strings, and with a permutation of the files it has strings
with the same keys, of which each has the same references. -/
theorem all?_read_combined (kind : reader.kind = .any formats) {first second : List Path}
    {strings others : List Translatable} (one : ((reader.withPaths first).read tree).all? = .ok strings)
    (two : ((reader.withPaths second).read tree).all? = .ok others) :
    ((reader.withPaths (first ++ second)).read tree).all? = .ok (others.foldl addSighting strings) ∧
    (∀ path, .ofString path ∈ first → ∃ larger, (reader.withPaths first).add path = .ok larger ∧
      (larger.read tree).all? = .ok strings) ∧
    ∀ paths, paths.Perm first → ∃ again, ((reader.withPaths paths).read tree).all? = .ok again ∧
      (∀ key, key ∈ again.map Translatable.key ↔ key ∈ strings.map Translatable.key) ∧
      ∀ other ∈ again, ∀ string ∈ strings, other.key = string.key →
        ∀ reference, reference ∈ other.references ↔ reference ∈ string.references := by
  have like (paths : List Path) : (reader.withPaths paths).kind = .any formats := kind
  obtain ⟨parts, each, rfl⟩ := (all?_read_any_iff (like first)).1 one
  obtain ⟨more, every, rfl⟩ := (all?_read_any_iff (like second)).1 two
  have merged := isMerged_mergeSightings parts.flatten
  refine ⟨?_, fun path member => ?_, fun paths perm => ?_⟩
  · refine (all?_read_any_iff (like (first ++ second))).2
      ⟨parts ++ more, List.rel_append each every, ?_⟩
    rw [List.flatten_append, mergeSightings_append]
  · obtain ⟨part, there, sights⟩ := exists_of_forall₂ each.flip member
    have sights : (reader.withPaths first).Sights tree (.ofString path) part := sights
    have added : (reader.withPaths first).add path = .ok (reader.withPaths (first ++ [.ofString path])) := by
      rw [add, like first]
      simp only [sights.isSome_ofPath? (like first), if_true]
      rfl
    refine ⟨_, added, (all?_read_any_iff (like _)).2
      ⟨parts ++ [part], List.rel_append each (.cons sights .nil), ?_⟩⟩
    -- what is seen in the file has been seen in it before
    have known : part.foldl addSighting (mergeSightings parts.flatten) =
        mergeSightings parts.flatten :=
      merged.foldl_addSighting fun sighting inside => List.mem_flatten.2 ⟨part, there, inside⟩
    rw [List.flatten_append, List.flatten_singleton, ← known, mergeSightings, mergeSightings,
      List.foldl_append]
  · obtain ⟨others, same, order⟩ := List.perm_comp_forall₂ perm each
    exact ⟨_, (all?_read_any_iff (like paths)).2 ⟨others, same, rfl⟩,
      merged.of_perm (isMerged_mergeSightings _) order.flatten⟩

/-- Two catalogs, of which the second one names a place twice and has a text of the first one too. -/
theorem all?_read_combined_two :
    let tree : FileTree :=
      ⟨[(["w", "a.po"], .file (Text.encode "#: x\nmsgid \"a\"\nmsgstr \"\"\n")),
        (["w", "b.po"], .file (Text.encode
          "#: y y\nmsgid \"b\"\nmsgstr \"\"\n\n#: x z\nmsgid \"a\"\nmsgstr \"c\"\n"))]⟩
    let reader : Reader := ⟨.any Format.all, none, 0, [], []⟩
    let strings : List Translatable := [⟨"a", none, none, none, none, none, ["x"], none, {}⟩]
    let others : List Translatable := [⟨"b", none, none, none, none, none, ["y", "y"], none, {}⟩,
      ⟨"a", none, none, some [some "c"], none, none, ["x", "z"], none, {}⟩]
    ((reader.withPaths [.ofString "a.po"]).read tree).all? = .ok strings ∧
    ((reader.withPaths [.ofString "b.po"]).read tree).all? = .ok others ∧
    ((reader.withPaths [.ofString "a.po", .ofString "b.po"]).read tree).all? =
      .ok [⟨"a", none, none, none, none, none, ["x", "z"], none, {}⟩,
        ⟨"b", none, none, none, none, none, ["y", "y"], none, {}⟩] ∧
    ∃ larger, (reader.withPaths [.ofString "b.po"]).add "./b.po" = .ok larger ∧
      (larger.read tree).all? = .ok others := by
  intro tree reader strings others
  have one : ((reader.withPaths [.ofString "a.po"]).read tree).all? = .ok strings := by decide +kernel
  have two : ((reader.withPaths [.ofString "b.po"]).read tree).all? = .ok others := by decide +kernel
  exact ⟨one, two, (all?_read_combined rfl one two).1,
    (all?_read_combined rfl two one).2.1 "./b.po" (by decide)⟩

end Reader

end StringCatalog
