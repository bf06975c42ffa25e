import StringCatalog.Proofs.Extraction.Textless
import StringCatalog.Proofs.Resource.Refused
import StringCatalog.Proofs.Resource.Regenerated

/-! # Strings of a reader as a resource document

* **`Reader.exists_found`** — a string of a reader comes from a file, as it was found there but for its
  references.
* **`Reader.Finds.isLegal`** — what is found in a resource document can be written in one.
* **`Reader.render_read_cases`** — the strings of a reader are rendered unless a text that is written comes
  from a program or a catalog and has a character that no document may hold. -/

namespace StringCatalog.Reader

variable {reader : Reader} {formats : List Format} {tree : FileTree}

/-- **A string of a reader comes from a file,** as it was found there but for its references. -/
theorem exists_found (kind : reader.kind = .any formats) {strings : List Translatable}
    (read : (reader.read tree).all? = .ok strings) {string : Translatable} (member : string ∈ strings) :
    ∃ path ∈ reader.paths, ∃ part, reader.Finds formats tree path part ∧
      ∃ found ∈ part, string = { found with references := string.references } := by
  obtain ⟨parts, sightings, each, relative, merged⟩ := exists_sightings kind read
  obtain ⟨first, later, same, gathered⟩ := merged.gathered string member
  have inside : first ∈ sightings := (List.mem_filter.1 (same ▸ List.mem_cons_self)).1
  obtain ⟨found, among, made⟩ := exists_of_forall₂ (forall₂_of_mapM relative) inside
  obtain ⟨part, there, here⟩ := List.mem_flatten.1 among
  obtain ⟨path, input, finds⟩ := exists_of_forall₂ each there
  refine ⟨path, input, part, finds, found, here, ?_⟩
  -- neither making references relative nor merging touches anything else
  unfold Reference.relativizeAll at made
  split at made
  · cases made
  · cases made
    rw [gathered]

/-- **What is found in a resource document is legal.** -/
theorem Finds.isLegal {path : Path} {part : List Translatable}
    (h : reader.Finds formats tree path part) (known : Format.ofPath? formats path = some .resources)
    {found : Translatable} (member : found ∈ part) : found.IsLegal := by
  obtain ⟨format, also, read⟩ := h
  cases known.symm.trans also
  rw [read_forFile] at read
  obtain ⟨bytes, -, whole⟩ := exists_bytes_of_read read
  exact (Resource.isLegal_of_readBytes whole member).1

/-- `found.name = none`: only resource documents name their strings. -/
theorem Finds.name_eq_none {path : Path} {part : List Translatable}
    (h : reader.Finds formats tree path part) (other : Format.ofPath? formats path ≠ some .resources)
    {found : Translatable} (member : found ∈ part) : found.name = none := by
  obtain ⟨format, known, read⟩ := h
  rw [read_forFile] at read
  obtain ⟨-, rfl⟩ := Reading.all?_eq_ok.1 read
  cases Format.origin_of_mem_read member with
  | entry entry current texted => rfl
  | element text name comment reference => exact absurd known other
  | call setting line singular plural texted => rfl

/-- **The names of a reader's strings are legal.** -/
theorem isLegal_name (kind : reader.kind = .any formats) {strings : List Translatable}
    (read : (reader.read tree).all? = .ok strings) {string : Translatable} (member : string ∈ strings) :
    ∀ name ∈ string.name, name.toList.all Xml.isChar := by
  obtain ⟨path, -, part, finds, found, inside, same⟩ := exists_found kind read member
  have name : string.name = found.name := by rw [same]
  rw [name]
  by_cases known : Format.ofPath? formats path = some .resources
  · exact (finds.isLegal known inside).name
  · rw [finds.name_eq_none known inside]
    simp

/-- **The strings of a reader are rendered** as a resource document just where the slots that are
written, those that are `IsFirst` with their identifiers, are `IsLegal`; otherwise `render` gives
`.error .notInDocument`. With a legal stem all identifiers are legal. A string that is not legal
has been found in a catalog or in a program, for what a document has can be written in one. -/
theorem render_read_cases (kind : reader.kind = .any formats) {strings : List Translatable}
    (read : (reader.read tree).all? = .ok strings) (stem : String) :
    (((∀ slot, Resource.IsFirst (strings.flatMap (Resource.slots stem)) slot → slot.IsLegal) ∧
        ∃ written, Resource.render stem strings = .ok written) ∨
      (¬(∀ slot, Resource.IsFirst (strings.flatMap (Resource.slots stem)) slot → slot.IsLegal) ∧
        Resource.render stem strings = .error .notInDocument)) ∧
    (stem.toList.all Xml.isChar → ∀ slot ∈ strings.flatMap (Resource.slots stem),
      slot.id.toList.all Xml.isChar) ∧
    ∀ string ∈ strings, ¬string.IsLegal → ∃ path ∈ reader.paths,
      (Format.ofPath? formats path = some .catalog ∨ Format.ofPath? formats path = some .program) ∧
      ∃ part, reader.Finds formats tree path part ∧
        ∃ found ∈ part, string = { found with references := string.references } := by
  refine ⟨Resource.render_legal_cases stem strings, fun legal slot member => ?_,
    fun string member illegal => ?_⟩
  · obtain ⟨string, there, inside⟩ := List.mem_flatMap.1 member
    exact Resource.isChar_id_of_mem_slots legal (isLegal_name kind read there) inside
  · obtain ⟨path, input, part, ⟨format, known, alone⟩, found, inside, same⟩ :=
      exists_found kind read member
    refine ⟨path, input, ?_, part, ⟨format, known, alone⟩, found, inside, same⟩
    cases format with
    | catalog => exact .inl known
    | program => exact .inr known
    | resources =>
        have legal : found.IsLegal := Finds.isLegal ⟨_, known, alone⟩ known inside
        refine absurd ?_ illegal
        rw [same]
        exact ⟨legal.name, legal.forms⟩

/-- A catalog with a stray tag and a document, whose texts are legal. -/
theorem render_read_cases_texts :
    let tree : FileTree :=
      ⟨[(["w", "a.po"], .file (Text.encode "msgid \"a\"\nmsgstr \"<b>\"\n")),
        (["w", "b.xml"], .file (Text.encode "<resources><string name=\"n\">b</string></resources>"))]⟩
    let reader : Reader := ⟨.any Format.all, none, 0, [], [.ofString "a.po", .ofString "b.xml"]⟩
    ∃ strings written, (reader.read tree).all? = .ok strings ∧
      Resource.render "Str" strings = .ok written := by
  intro tree reader
  let strings : List Translatable :=
    [⟨"a", none, none, some [some "<b>"], none, none, [], none, {}⟩,
      ⟨"b", some "n", none, none, none, none, ["/w/b.xml:1"], none, {}⟩]
  have read : (reader.read tree).all? = .ok strings := by decide +kernel
  have legal : ∀ string ∈ strings, string.IsLegal := by
    simp only [strings, List.forall_mem_cons]
    exact ⟨⟨by decide, by decide⟩, ⟨by decide, by decide⟩, by simp⟩
  rcases (render_read_cases rfl read "Str").1 with ⟨-, written, rendered⟩ | ⟨illegal, -⟩
  · exact ⟨strings, written, read, rendered⟩
  · refine absurd (fun slot first => ?_) illegal
    obtain ⟨string, there, inside⟩ := List.mem_flatMap.1 (List.mem_of_find?_eq_some first)
    obtain ⟨id, text⟩ := Resource.isLegal_of_mem_slots (by decide) (legal string there) inside
    exact ⟨id, text⟩

/-- A text in a program that changes the colour of a terminal: it is found, and no document is made. -/
theorem render_read_cases_escape :
    let tree : FileTree := ⟨[(["w", "app.py"], .file (Text.encode "_(\"\\033[1mBold\\033[0m\")\n"))]⟩
    let reader : Reader := ⟨.any Format.all, none, 0, [], [.ofString "app.py"]⟩
    ∃ string, (reader.read tree).all? = .ok [string] ∧ string.singular = "\x1b[1mBold\x1b[0m" ∧
      Resource.render "Str" [string] = .error .notInDocument := by
  intro tree reader
  have read : (reader.read tree).all? = .ok
      [⟨"\x1b[1mBold\x1b[0m", none, none, none, none, none, ["/w/app.py:1"], none, {}⟩] := by
    decide +kernel
  exact ⟨_, read, rfl, by decide +kernel⟩

end StringCatalog.Reader
