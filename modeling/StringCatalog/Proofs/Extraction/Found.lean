import StringCatalog.Extraction.Reader
import StringCatalog.Proofs.Extraction.Sighting
import StringCatalog.Proofs.Program.Scan

/-! # What readers find

* **`Translatable.IsClosed`** — a string none of whose translations is open.
* **`Format.IsFound`** — what is known of a string that a file of some format has.
* **`Format.Origin`** — the entry, the element or the call that a string comes from.
* **`Format.origin_of_mem_read`** — all strings of a file have an origin.
* **`Reader.isClosed_of_mem_read`** — all strings of a reader are closed, so they can be checked. -/

namespace StringCatalog

/-! ## Strings of readings -/

namespace Reading

/-- `empty.strings = []`. -/
@[simp] theorem strings_empty : empty.strings = [] := rfl

/-- `(ofNote note).strings = []`: a note is no string. -/
@[simp] theorem strings_ofNote (note : Note) : (ofNote note).strings = [] := rfl

/-- `(ofString note string).strings = [string]`. -/
@[simp] theorem strings_ofString (note : Note) (string : Translatable) :
    (ofString note string).strings = [string] := rfl

/-- The strings of one reading after another come from one of them. -/
theorem mem_strings_append {first second : Reading} {string : Translatable}
    (member : string ∈ (first.append second).strings) :
    string ∈ first.strings ∨ string ∈ second.strings := by
  unfold append at member
  split at member
  · exact .inl member
  · rwa [strings, List.filterMap_append, List.mem_append] at member

/-- **The strings of many readings** come from these. -/
theorem mem_strings_sequence {readings : List Reading} {string : Translatable}
    (member : string ∈ (sequence readings).strings) :
    ∃ reading ∈ readings, string ∈ reading.strings := by
  induction readings with
  | nil => simp at member
  | cons reading readings ih =>
      rcases mem_strings_append member with here | later
      · exact ⟨reading, List.mem_cons_self, here⟩
      · obtain ⟨other, among, there⟩ := ih later
        exact ⟨other, List.mem_cons_of_mem _ among, there⟩

/-- The strings of a reading with relative references are those of the reading with theirs. -/
theorem mem_strings_relative {root : Option String} {reading : Reading} {string : Translatable}
    (member : string ∈ (reading.relative root).strings) :
    ∃ found ∈ reading.strings, Reference.relativizeAll root found = .ok string := by
  obtain ⟨events, fault⟩ := reading
  rw [relative] at member
  -- event by event, as the references are made relative
  induction events with
  | nil => simp [relativeEvents, strings] at member
  | cons event events ih =>
      cases event with
      | note remark =>
          rw [relativeEvents] at member
          rcases mem_strings_append member with none | later
          · simp at none
          · exact ih later
      | found first =>
          rw [relativeEvents] at member
          split at member
          · next fault _ =>
            rw [strings_failed (.reference fault)] at member
            simp at member
          · next relative made =>
            rcases mem_strings_append member with here | later
            · have here : string = relative := by simpa [strings, Event.string?] using here
              exact ⟨first, by simp [strings, Event.string?], here ▸ made⟩
            · obtain ⟨found, among, equal⟩ := ih later
              exact ⟨found, List.mem_cons_of_mem _ among, equal⟩

/-- The strings of a merged reading are gathered from those of the reading. -/
theorem isGathered_of_mem_merged {reading : Reading} {string : Translatable}
    (member : string ∈ reading.merged.strings) : IsGathered reading.strings string := by
  refine (isMerged_mergeSightings reading.strings).gathered string ?_
  unfold merged at member
  split at member
  · simp [strings, List.filterMap_map, Function.comp_def, Event.string?] at member
  · rw [strings, List.filterMap_append] at member
    simpa [List.filterMap_map, Function.comp_def, Event.string?] using member

end Reading

/-! ## Closed strings -/

namespace Translatable

/-- **A string none of whose translations is open:** `none ∉ string.translations.getD []`. -/
def IsClosed (string : Translatable) : Prop := none ∉ string.translations.getD []

end Translatable

/-- The translations of closed strings can be compared. -/
theorem isSome_allTranslationFindings? (string : Translatable) (index : Nat)
    {forms : List (Option String)} (closed : none ∉ forms) :
    (allTranslationFindings? string index forms).isSome := by
  induction forms generalizing index with
  | nil => rfl
  | cons form forms ih =>
      cases form with
      | none => simp at closed
      | some form =>
          rw [allTranslationFindings?, Option.isSome_map]
          exact ih _ fun member => closed (List.mem_cons_of_mem _ member)

/-- **Closed strings can be checked.** -/
theorem isSome_analyze? {strings : List Translatable}
    (closed : ∀ string ∈ strings, string.IsClosed) : (analyze? strings).isSome := by
  induction strings with
  | nil => rfl
  | cons string strings ih =>
      have here : (findings? string).isSome := by
        rw [findings?, Option.isSome_map]
        exact isSome_allTranslationFindings? string 0 (closed string List.mem_cons_self)
      have later := ih fun other member => closed other (List.mem_cons_of_mem _ member)
      obtain ⟨found, one⟩ := Option.isSome_iff_exists.1 here
      obtain ⟨more, others⟩ := Option.isSome_iff_exists.1 later
      simp [analyze?, one, others]

/-! ## What a file has -/

/-- **A string that a file of some format has.** -/
structure Format.IsFound (format : Format) (string : Translatable) : Prop where
  /-- None of its translations is open. -/
  closed : string.IsClosed
  /-- Only documents have strings without a text. -/
  textless : string.singular = "" → format = .resources
  /-- Only catalogs name other places than the one where the string is met. -/
  single : format ≠ .catalog → ∃ reference, string.references = [reference]

/-- **Where a string of a file comes from,** by the format of the file. -/
inductive Format.Origin : Format → Translatable → Prop where
  /-- An entry of a catalog that is not obsolete and has a text. -/
  | entry (entry : Catalog.Entry) (current : entry.obsolete = false) (texted : entry.id ≠ "") :
      Origin .catalog entry.toTranslatable
  /-- An element of a document, with the comment before it and the place where it stands. -/
  | element (text name : String) (comment : Option String) (reference : String) :
      Origin .resources
        { Translatable.ofText text with
          name := some name, developerComments := comment, references := [reference] }
  /-- A call in a program that hands over a text. -/
  | call (setting : Program.Setting) (line : Nat) (singular : Text.Wording)
      (plural : Option Text.Wording) (texted : singular.text ≠ "") :
      Origin .program (setting.string line singular plural)

/-- A string with an origin is such as files of its format have. -/
theorem Format.Origin.isFound {format : Format} {string : Translatable}
    (h : format.Origin string) : format.IsFound string := by
  cases h with
  | entry entry current texted =>
      refine ⟨?_, fun none => absurd none texted, fun other => absurd rfl other⟩
      cases forms : entry.translations <;>
        simp [Translatable.IsClosed, Catalog.Entry.toTranslatable, forms]
  | element text name comment reference =>
      exact ⟨by simp [Translatable.IsClosed, Translatable.ofText], fun _ => rfl, fun _ => ⟨_, rfl⟩⟩
  | call setting line singular plural texted =>
      exact ⟨by simp [Translatable.IsClosed, Program.Setting.string, Translatable.ofText],
        fun none => absurd none texted, fun _ => ⟨_, rfl⟩⟩

/-- What is read of a catalog comes from one of its entries. -/
theorem Catalog.origin_of_mem_readContent {tree : FileTree} {path : String} {content : List Char}
    {string : Translatable} (member : string ∈ (Catalog.readContent tree path content).strings) :
    Format.catalog.Origin string := by
  unfold readContent at member
  split at member
  · simp at member
  · next entries _ =>
    obtain ⟨reading, among, there⟩ := Reading.mem_strings_sequence member
    obtain ⟨entry, -, rfl⟩ := List.mem_map.1 among
    unfold entryReading at there
    split at there
    · simp at there
    · next current =>
      split at there
      · simp at there
      · next texted =>
        rw [Reading.strings_ofString, List.mem_singleton] at there
        subst there
        exact .entry entry (by simpa using current) (by simpa using texted)

/-- What is read of an element comes from its text and name. -/
theorem Resource.origin_stringReading {setting : Setting} {comment : Option String} {head : Xml.Head}
    {children : List Xml.Node} {string : Translatable}
    (member : string ∈ (stringReading setting comment head children).strings) :
    Format.resources.Origin string := by
  unfold stringReading at member
  dsimp only at member
  split at member
  · simp at member
  split at member
  · simp at member
  · rw [Reading.strings_ofString, List.mem_singleton] at member
    subst member
    exact .element _ _ _ _

/-- What is read of the children of the root comes from one of them. -/
theorem Resource.origin_childReadings {setting : Setting} {comment : Option String}
    {nodes : List Xml.Node} {reading : Reading} (among : reading ∈ childReadings setting comment nodes)
    {string : Translatable} (member : string ∈ reading.strings) : Format.resources.Origin string := by
  induction nodes generalizing comment with
  | nil => simp [childReadings] at among
  | cons node nodes ih =>
      cases node with
      | comment content => exact ih among
      | text content => exact ih among
      | element head children =>
          rcases List.mem_cons.1 among with rfl | later
          · split at member
            · exact origin_stringReading member
            · simp at member
          · exact ih later
      | instruction target content | reference name =>
          rcases List.mem_cons.1 among with rfl | later
          · simp at member
          · exact ih later

/-- What is read of a resource document comes from one of its elements. -/
theorem Resource.origin_of_mem_readBytes {path : Path} {bytes : List UInt8} {string : Translatable}
    (member : string ∈ (Resource.readBytes path bytes).strings) : Format.resources.Origin string := by
  unfold readBytes at member
  dsimp only at member
  split at member
  · simp at member
  split at member
  · obtain ⟨reading, among, there⟩ := Reading.mem_strings_sequence member
    exact origin_childReadings among there
  · simp at member

/-- What is read of a program comes from one of its calls. -/
theorem Program.origin_of_mem_readBytes {keywords : List Keyword} {path : Path} {bytes : List UInt8}
    {string : Translatable} (member : string ∈ (Program.readBytes keywords path bytes).strings) :
    Format.program.Origin string := by
  unfold readBytes at member
  dsimp only at member
  split at member
  · simp at member
  split at member
  · simp at member
  · obtain ⟨reading, among, there⟩ := Reading.mem_strings_sequence member
    obtain ⟨call, -, rfl⟩ := List.mem_map.1 among
    obtain ⟨keyword, singular, plural, written, rfl⟩ := exists_of_mem_callReading there
    exact .call _ _ _ _ written.texted

/-- **All strings of a file** come from where those of its format do. -/
theorem Format.origin_of_mem_read {format : Format} {keywords : List Program.Keyword} {tree : FileTree}
    {path : Path} {string : Translatable}
    (member : string ∈ (format.read keywords tree path).strings) : format.Origin string := by
  rcases Reading.mem_strings_append member with none | member
  · simp at none
  split at member
  · simp at member
  cases format with
  | catalog =>
      unfold readBytes at member
      dsimp only at member
      split at member
      · simp at member
      · exact Catalog.origin_of_mem_readContent member
  | resources => exact Resource.origin_of_mem_readBytes member
  | program => exact Program.origin_of_mem_readBytes member

/-- **All strings of a file** are such as files of its format have. -/
theorem Format.isFound_of_mem_read {format : Format} {keywords : List Program.Keyword} {tree : FileTree}
    {path : Path} {string : Translatable}
    (member : string ∈ (format.read keywords tree path).strings) : format.IsFound string :=
  (Format.origin_of_mem_read member).isFound

/-! ## What a reader has -/

namespace Reader

variable {reader : Reader} {tree : FileTree} {string : Translatable}

/-- What a reader makes of a file are the strings of some format. -/
theorem exists_origin_of_mem_readFile {path : Path}
    (member : string ∈ (reader.readFile tree path).strings) : ∃ format, Format.Origin format string := by
  unfold readFile at member
  split at member
  · exact ⟨_, Format.origin_of_mem_read member⟩
  · split at member
    · exact ⟨_, Format.origin_of_mem_read member⟩
    · simp at member
  · simp at member

/-- **All strings of a reader are closed.** -/
theorem isClosed_of_mem_read (member : string ∈ (reader.read tree).strings) : string.IsClosed := by
  have each (found : Translatable)
      (among : found ∈ (Reading.sequence (reader.paths.map (reader.readFile tree))).strings) :
      found.IsClosed := by
    obtain ⟨reading, one, there⟩ := Reading.mem_strings_sequence among
    obtain ⟨path, -, rfl⟩ := List.mem_map.1 one
    obtain ⟨format, origin⟩ := exists_origin_of_mem_readFile there
    exact origin.isFound.closed
  unfold read at member
  dsimp only at member
  split at member
  -- neither relative references nor merging touch the translations
  · obtain ⟨first, later, same, equal⟩ := Reading.isGathered_of_mem_merged member
    have among : first ∈ (Reading.relative reader.root _).strings :=
      (List.mem_filter.1 (same ▸ List.mem_cons_self)).1
    obtain ⟨found, there, made⟩ := Reading.mem_strings_relative among
    unfold Reference.relativizeAll at made
    split at made
    · cases made
    · cases made
      rw [equal]
      exact each found there
  · exact each string member

end Reader

end StringCatalog
