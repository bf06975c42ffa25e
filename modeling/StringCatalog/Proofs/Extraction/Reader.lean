import StringCatalog.Extraction.Reader
import StringCatalog.Proofs.Extraction.Reading
import StringCatalog.Proofs.Extraction.Sighting

/-! # Reading files of several formats

* **`Reader.forFile`** — the reader of one format that a file is read by.
* **`Reader.Finds`** — the strings that this reader finds in the file.
* **`Reader.all?_read_any`** — a reader of several formats finds the strings behind those of all
  files, with relative references. -/

namespace StringCatalog.Reader

/-- **The reader of one format that a file is read by.** -/
def forFile (reader : Reader) (format : Format) (path : Path) : Reader :=
  { reader with kind := .only format, keywords := Program.Keyword.usual, paths := [path] }

/-- **The strings that are found in a file** by a reader of the first format that is for it. -/
def Finds (reader : Reader) (formats : List Format) (tree : FileTree) (path : Path)
    (strings : List Translatable) : Prop :=
  ∃ format, Format.ofPath? formats path = some format ∧
    ((reader.forFile format path).read tree).all? = .ok strings

variable {reader : Reader} {formats : List Format} {tree : FileTree}

/-- `(reader.readFile tree path).all? = .ok strings`: what a reader of several formats makes of a
file is what the reader of its format finds. -/
theorem Finds.all?_readFile (kind : reader.kind = .any formats) {path : Path}
    {strings : List Translatable} (h : reader.Finds formats tree path strings) :
    (reader.readFile tree path).all? = .ok strings := by
  obtain ⟨format, found, read⟩ := h
  have alone : (reader.forFile format path).read tree =
      (format.read Program.Keyword.usual tree path).append .empty := rfl
  rw [alone, Reading.append_empty] at read
  rw [readFile, kind]
  simp only [found]
  exact read

/-- **A reader of several formats** (`kind = .any formats`) finds, where the readers of single
formats find `parts` in its files, the strings behind these with their references made relative,
`sightings`. Its strings have different keys, `(sightings.map key).eraseDups`, in the order in
which the keys first occur; each is `IsGathered`: it says what the first string with its key says,
and has the references of that one and behind them those that later strings with its key add. It
finds nothing if a reference cannot be made relative. -/
theorem all?_read_any (kind : reader.kind = .any formats) {parts : List (List Translatable)}
    (found : List.Forall₂ (reader.Finds formats tree) reader.paths parts) :
    (∀ sightings, parts.flatten.mapM (Reference.relativizeAll reader.root) = .ok sightings →
      ∃ strings, (reader.read tree).all? = .ok strings ∧
        (strings.map Translatable.key).Nodup ∧
        strings.map Translatable.key = (sightings.map Translatable.key).eraseDups ∧
        (∀ string ∈ strings, IsGathered sightings string) ∧
        ∀ string ∈ strings, ∀ reference, reference ∈ string.references ↔
          ∃ sighting ∈ sightings, sighting.key = string.key ∧ reference ∈ sighting.references) ∧
    ∀ fault, parts.flatten.mapM (Reference.relativizeAll reader.root) = .error fault →
      (reader.read tree).all? = .error (.reference fault) := by
  have readings : List.Forall₂ (fun reading part => reading.all? = .ok part)
      (reader.paths.map (reader.readFile tree)) parts := by
    rw [List.forall₂_map_left_iff]
    exact found.imp fun _ _ finds => finds.all?_readFile kind
  -- with one reader for each file, the reading is the merged and relative sequence of theirs
  have whole : (reader.read tree).all? =
      ((parts.flatten.mapM (Reference.relativizeAll reader.root)).mapError Fault.reference).map
        mergeSightings := by
    rw [read, kind]
    rw [Reading.all?_merged, Reading.all?_relative reader.root (Reading.all?_sequence readings)]
  refine ⟨fun sightings relative => ?_, fun fault failed => by rw [whole, failed]; rfl⟩
  have merged := isMerged_mergeSightings sightings
  refine ⟨mergeSightings sightings, by rw [whole, relative]; rfl, merged.nodup, merged.keys,
    merged.gathered, fun string member reference => (merged.gathered string member).mem_references⟩

/-- Two catalogs with the same text, of which the second one names a place more. -/
theorem all?_read_any_two :
    let tree : FileTree :=
      ⟨[(["w", "a.po"], .file (Text.encode "#: /w/x.py:1 y\nmsgid \"a\"\nmsgstr \"\"\n")),
        (["w", "b.po"], .file (Text.encode "#: y /w/z.py\nmsgid \"a\"\nmsgstr \"b\"\n"))]⟩
    let reader : Reader := ⟨.any Format.all, some "/w", 0, [], [.ofString "a.po", .ofString "b.po"]⟩
    let sightings : List Translatable := [⟨"a", none, none, none, none, none, ["x.py:1", "y"], none, {}⟩,
      ⟨"a", none, none, some [some "b"], none, none, ["y", "z.py"], none, {}⟩]
    ∃ strings, (reader.read tree).all? = .ok strings ∧
      (strings.map Translatable.key).Nodup ∧
      strings.map Translatable.key = (sightings.map Translatable.key).eraseDups ∧
      (∀ string ∈ strings, IsGathered sightings string) ∧
      ∀ string ∈ strings, ∀ reference, reference ∈ string.references ↔
        ∃ sighting ∈ sightings, sighting.key = string.key ∧ reference ∈ sighting.references := by
  intro tree reader sightings
  have found : List.Forall₂ (reader.Finds Format.all tree) reader.paths
      [[⟨"a", none, none, none, none, none, ["/w/x.py:1", "y"], none, {}⟩],
        [⟨"a", none, none, some [some "b"], none, none, ["y", "/w/z.py"], none, {}⟩]] :=
    .cons ⟨.catalog, by decide, by decide +kernel⟩
      (.cons ⟨.catalog, by decide, by decide +kernel⟩ .nil)
  exact (all?_read_any rfl found).1 sightings (by decide +kernel)

end StringCatalog.Reader
