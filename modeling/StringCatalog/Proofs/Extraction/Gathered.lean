import StringCatalog.Proofs.Extraction.Found
import StringCatalog.Proofs.Extraction.Reader

/-! # Where the strings of a reader come from

* **`Reader.exists_sightings`** — a reader of several formats that gives its strings has found strings in
  all of its files, and merged these with relative references.
* **`Reader.references_nodup_iff`** — no string has a reference twice but for what the first catalog
  that has the string says. -/

namespace StringCatalog

/-! ## Results -/

/-- What is made of a value comes of a value. -/
theorem exists_of_map_eq_ok {α β ε : Type} {made : Except ε α} {step : α → β} {result : β}
    (h : made.map step = .ok result) : ∃ value, made = .ok value ∧ step value = result := by
  cases made with
  | error fault => cases h
  | ok value =>
      cases h
      exact ⟨value, rfl, rfl⟩

/-- `made = .ok value`: a value is the same whatever faults are called. -/
theorem eq_ok_of_mapError {α ε ω : Type} {made : Except ε α} {step : ε → ω} {value : α}
    (h : made.mapError step = .ok value) : made = .ok value := by
  cases made <;> cases h
  rfl

/-! ## Readings -/

namespace Reading

/-- `reading.fault = none`: a reading behind a fault gives nothing. -/
theorem fault_eq_none {root : Option String} {reading : Reading} {sightings : List Translatable}
    (read : (reading.relative root).all? = .ok sightings) : reading.fault = none := by
  obtain ⟨events, fault⟩ := reading
  -- a fault stays behind the events, or a reference comes before it
  have kept (found : Fault) : (relativeEvents root (some found) events).fault ≠ none := by
    clear read
    induction events with
    | nil => simp [relativeEvents]
    | cons event events ih =>
        cases event with
        | note remark => simpa [relativeEvents, append, ofNote] using ih
        | found string =>
            rw [relativeEvents]
            split
            · simp [failed]
            · simpa [append] using ih
  cases fault with
  | none => rfl
  | some found => exact absurd (all?_eq_ok.1 read).1 (kept found)

/-- Many readings that give all their strings give each their own. -/
theorem exists_of_all?_sequence {readings : List Reading} {strings : List Translatable}
    (read : (sequence readings).all? = .ok strings) :
    ∃ parts, List.Forall₂ (fun reading part => reading.all? = .ok part) readings parts ∧
      strings = parts.flatten := by
  induction readings generalizing strings with
  | nil =>
      cases read
      exact ⟨[], .nil, rfl⟩
  | cons reading readings ih =>
      have clean : reading.fault = none := by
        have whole := (all?_eq_ok.1 read).1
        rw [sequence, append] at whole
        split at whole
        · exact whole
        · assumption
      have first : reading.all? = .ok reading.strings := all?_eq_ok.2 ⟨clean, rfl⟩
      rw [sequence, all?_append first] at read
      obtain ⟨others, rest, rfl⟩ := exists_of_map_eq_ok read
      obtain ⟨parts, each, rfl⟩ := ih rest
      exact ⟨reading.strings :: parts, .cons first each, rfl⟩

end Reading

/-! ## Lists that are related -/

/-- What comes of all members of a list comes of them one by one. -/
theorem forall₂_of_mapM {α β ε : Type} {make : α → Except ε β} {sources : List α} {made : List β}
    (all : sources.mapM make = .ok made) :
    List.Forall₂ (fun source result => make source = .ok result) sources made := by
  induction sources generalizing made with
  | nil =>
      cases all
      exact .nil
  | cons source sources ih =>
      rw [List.mapM_cons] at all
      cases one : make source with
      | error fault =>
          rw [one] at all
          cases all
      | ok result =>
          cases rest : sources.mapM make with
          | error fault =>
              rw [one, rest] at all
              cases all
          | ok results =>
              rw [one, rest] at all
              cases all
              exact .cons one (ih rest)

/-- A member of one list is related to a member of the other. -/
theorem exists_of_forall₂ {α β : Type} {related : α → β → Prop} {values : List α} {others : List β}
    (h : List.Forall₂ related values others) {other : β} (member : other ∈ others) :
    ∃ value ∈ values, related value other := by
  induction h with
  | nil => simp at member
  | cons one _ ih =>
      rcases List.mem_cons.1 member with rfl | member
      · exact ⟨_, List.mem_cons_self, one⟩
      · obtain ⟨value, inside, found⟩ := ih member
        exact ⟨value, List.mem_cons_of_mem _ inside, found⟩

/-! ## References -/

/-- `(known ++ newReferences known more).Nodup ↔ known.Nodup`: adding references leaves no more
duplicates than there are. -/
theorem Translatable.nodup_append_newReferences {known more : List String} :
    (known ++ newReferences known more).Nodup ↔ known.Nodup := by
  rw [List.nodup_append]
  refine ⟨fun all => all.1, fun distinct => ⟨distinct, nodup_eraseDups _, ?_⟩⟩
  rintro reference inside _ new rfl
  exact (mem_newReferences.1 new).2 inside

/-- **A string behind some sightings** has a reference twice just where the first of them has. -/
theorem IsGathered.nodup_references_iff {sightings : List Translatable} {string : Translatable}
    (h : IsGathered sightings string) :
    ∃ first, sightings.find? (·.key == string.key) = some first ∧
      (string.references.Nodup ↔ first.references.Nodup) := by
  obtain ⟨first, later, same, equal⟩ := h
  refine ⟨first, by rw [← List.head?_filter, same, List.head?_cons], ?_⟩
  rw [equal]
  exact Translatable.nodup_append_newReferences

/-- A string with one reference has one when it is made relative. -/
theorem Reference.relativizeAll_single {root : Option String} {found sighting : Translatable}
    (made : Reference.relativizeAll root found = .ok sighting) {reference : String}
    (single : found.references = [reference]) : ∃ other, sighting.references = [other] := by
  unfold Reference.relativizeAll at made
  split at made
  · cases made
  · next references all =>
    cases made
    have one := (forall₂_of_mapM all).length_eq
    rw [single] at one
    exact List.length_eq_one_iff.1 one.symm

namespace Reader

variable {reader : Reader} {formats : List Format} {tree : FileTree}

/-- What the reader of a file's format reads is what the format has. -/
theorem read_forFile (format : Format) (path : Path) :
    (reader.forFile format path).read tree = format.read Program.Keyword.usual tree path := by
  have alone : (reader.forFile format path).read tree =
      (format.read Program.Keyword.usual tree path).append .empty := rfl
  rw [alone, Reading.append_empty]

/-- What a reader of several formats makes of a file is found by the reader of its format. -/
theorem finds_of_all?_readFile (kind : reader.kind = .any formats) {path : Path}
    {part : List Translatable} (read : (reader.readFile tree path).all? = .ok part) :
    reader.Finds formats tree path part := by
  unfold readFile at read
  rw [kind] at read
  dsimp only at read
  split at read
  · next format found => exact ⟨format, found, by rw [read_forFile, read]⟩
  · cases read

/-- **A reader of several formats that gives its strings** has found strings in each of its files, and
these, with relative references, are what the strings are merged from. -/
theorem exists_sightings (kind : reader.kind = .any formats) {strings : List Translatable}
    (read : (reader.read tree).all? = .ok strings) :
    ∃ parts sightings, List.Forall₂ (reader.Finds formats tree) reader.paths parts ∧
      parts.flatten.mapM (Reference.relativizeAll reader.root) = .ok sightings ∧
      IsMerged sightings strings := by
  have whole : reader.read tree =
      ((Reading.sequence (reader.paths.map (reader.readFile tree))).relative reader.root).merged := by
    rw [Reader.read, kind]
  rw [whole, Reading.all?_merged] at read
  generalize sequence : Reading.sequence (reader.paths.map (reader.readFile tree)) = reading at read
  obtain ⟨sightings, relative, rfl⟩ := exists_of_map_eq_ok read
  have clean : reading.all? = .ok reading.strings :=
    Reading.all?_eq_ok.2 ⟨Reading.fault_eq_none relative, rfl⟩
  have gathered : (Reading.sequence (reader.paths.map (reader.readFile tree))).all? =
      .ok reading.strings := sequence.symm ▸ clean
  obtain ⟨parts, each, same⟩ := Reading.exists_of_all?_sequence gathered
  rw [Reading.all?_relative reader.root clean, same] at relative
  refine ⟨parts, sightings, ?_, eq_ok_of_mapError relative, isMerged_mergeSightings sightings⟩
  rw [List.forall₂_map_left_iff] at each
  exact each.imp fun path part => finds_of_all?_readFile kind

/-- A file of another format than a catalog names only the place where a string is met. -/
theorem Finds.exists_reference {path : Path} {part : List Translatable}
    (h : reader.Finds formats tree path part) {found : Translatable} (member : found ∈ part) :
    Format.ofPath? formats path = some .catalog ∨ ∃ reference, found.references = [reference] := by
  obtain ⟨format, known, read⟩ := h
  by_cases catalog : format = .catalog
  · exact .inl (catalog ▸ known)
  · rw [read_forFile] at read
    obtain ⟨-, rfl⟩ := Reading.all?_eq_ok.1 read
    exact .inr ((Format.isFound_of_mem_read member).single catalog)

/-- **No string has a reference twice but for its first sighting:**
`string.references.Nodup ↔ first.references.Nodup`, where `first` is the first sighting of its key,
made relative. So they are pairwise distinct, unless this is the entry of a catalog that names two
places which are the same or become the same. -/
theorem references_nodup_iff (kind : reader.kind = .any formats) {strings : List Translatable}
    (read : (reader.read tree).all? = .ok strings) :
    ∃ parts sightings, List.Forall₂ (reader.Finds formats tree) reader.paths parts ∧
      parts.flatten.mapM (Reference.relativizeAll reader.root) = .ok sightings ∧
      ∀ string ∈ strings, ∃ first, sightings.find? (·.key == string.key) = some first ∧
        (string.references.Nodup ↔ first.references.Nodup) ∧
        (first.references.Nodup ∨ ∃ path ∈ reader.paths,
          Format.ofPath? formats path = some .catalog ∧ ∃ part, reader.Finds formats tree path part ∧
            ∃ found ∈ part, Reference.relativizeAll reader.root found = .ok first) := by
  obtain ⟨parts, sightings, each, relative, merged⟩ := exists_sightings kind read
  refine ⟨parts, sightings, each, relative, fun string member => ?_⟩
  obtain ⟨first, earliest, alike⟩ := (merged.gathered string member).nodup_references_iff
  refine ⟨first, earliest, alike, ?_⟩
  obtain ⟨found, inside, made⟩ :=
    exists_of_forall₂ (forall₂_of_mapM relative) (List.mem_of_find?_eq_some earliest)
  obtain ⟨part, among, here⟩ := List.mem_flatten.1 inside
  obtain ⟨path, there, finds⟩ := exists_of_forall₂ each among
  rcases finds.exists_reference here with catalog | ⟨reference, single⟩
  · exact .inr ⟨path, there, catalog, part, finds, found, here, made⟩
  · obtain ⟨other, one⟩ := Reference.relativizeAll_single made single
    exact .inl (by simp [one])

/-- A text in a program and in a catalog that names the same place twice: the program comes first. -/
theorem references_nodup_iff_program :
    let tree : FileTree :=
      ⟨[(["w", "a.po"], .file (Text.encode "#: a.py:1 a.py:1\nmsgid \"a\"\nmsgstr \"\"\n")),
        (["w", "a.py"], .file (Text.encode "_(\"a\")\n"))]⟩
    let reader : Reader := ⟨.any Format.all, none, 0, [], [.ofString "a.py", .ofString "a.po"]⟩
    ∃ strings, (reader.read tree).all? = .ok strings ∧ ∀ string ∈ strings,
      ∃ first : Translatable, first.key = string.key ∧ first.references.Nodup ∧
        string.references.Nodup := by
  intro tree reader
  have read : (reader.read tree).all? =
      .ok [⟨"a", none, none, none, none, none, ["/w/a.py:1", "a.py:1"], none, {}⟩] := by
    decide +kernel
  obtain ⟨parts, sightings, -, -, all⟩ := references_nodup_iff rfl read
  refine ⟨_, read, fun string member => ?_⟩
  obtain ⟨first, earliest, alike, -⟩ := all string member
  have distinct : string.references.Nodup := by
    rw [List.mem_singleton.1 member]
    decide
  exact ⟨first, by simpa using List.find?_some earliest, alike.1 distinct, distinct⟩

/-- A place that a catalog names twice is named twice by the string. -/
theorem references_nodup_iff_twice :
    let tree : FileTree :=
      ⟨[(["w", "a.po"], .file (Text.encode "#: a.py:1 a.py:1\nmsgid \"a\"\nmsgstr \"\"\n"))]⟩
    let reader : Reader := ⟨.any Format.all, none, 0, [], [.ofString "a.po"]⟩
    ∃ strings, (reader.read tree).all? = .ok strings ∧
      ∃ string ∈ strings, ¬string.references.Nodup := by
  intro tree reader
  have read : (reader.read tree).all? =
      .ok [⟨"a", none, none, none, none, none, ["a.py:1", "a.py:1"], none, {}⟩] := by
    decide +kernel
  exact ⟨_, read, _, List.mem_singleton_self _, by decide⟩

end Reader

end StringCatalog
