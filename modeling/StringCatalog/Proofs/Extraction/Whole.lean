import StringCatalog.Proofs.Catalog.Read
import StringCatalog.Proofs.Extraction.Gathered
import StringCatalog.Proofs.Program.Tree
import StringCatalog.Proofs.Resource.Source

/-! # Files are read as a whole

* **`Reading.IsWhole`** — a reading that gives all its strings or none.
* **`Format.isWhole_read`** — a file is read so in every format: once its first string has been met,
  nothing in the file fails.
* **`Reader.read_upTo_fault`** — a reader gives the strings of the files before the first one that fails, and a
  reader of several formats gives none then. -/

namespace StringCatalog

/-! ## All or nothing -/

namespace Reading

/-- **A reading that gives all its strings or none:** there are none before a fault. That is,
`reading.fault ≠ none → reading.strings = []`. -/
def IsWhole (reading : Reading) : Prop :=
  reading.fault ≠ none → reading.strings = []

/-- A reading that does not fail gives all its strings. -/
theorem isWhole_of_all? {reading : Reading} {strings : List Translatable}
    (read : reading.all? = .ok strings) : reading.IsWhole :=
  fun failed => absurd (all?_eq_ok.1 read).1 failed

/-- A reading that fails at once gives none. -/
theorem isWhole_failed (fault : Fault) : (failed fault).IsWhole :=
  fun _ => rfl

/-- A note before it does not count. -/
theorem IsWhole.ofNote {reading : Reading} (h : reading.IsWhole) (note : Note) :
    ((Reading.ofNote note).append reading).IsWhole := by
  intro failed
  rw [append_of_fault_eq_none rfl] at failed
  rw [strings_append rfl, h failed]
  rfl

/-- **Readings none of which fails** give the strings of each:
`(sequence readings).all? = .ok (readings.flatMap strings)`. -/
theorem all?_sequence_of_clean {readings : List Reading}
    (clean : ∀ reading ∈ readings, reading.fault = none) :
    (sequence readings).all? = .ok (readings.flatMap strings) := by
  rw [sequence_of_clean clean]
  exact all?_eq_ok.2 ⟨rfl, List.filterMap_flatMap⟩

/-- **Readings up to the first that fails** give the strings of those before it and those that it gives
itself, and its fault. -/
theorem sequence_append_cons {before : List Reading}
    (clean : ∀ reading ∈ before, reading.fault = none) {reading : Reading} {fault : Fault}
    (failed : reading.fault = some fault) (after : List Reading) :
    (sequence (before ++ reading :: after)).strings = before.flatMap strings ++ reading.strings ∧
      (sequence (before ++ reading :: after)).fault = some fault := by
  induction before with
  | nil =>
      have last : sequence (reading :: after) = reading := by rw [sequence, append, failed]
      rw [List.nil_append, last]
      exact ⟨rfl, failed⟩
  | cons first before ih =>
      rw [List.forall_mem_cons] at clean
      obtain ⟨strings, fault⟩ := ih clean.2
      rw [List.cons_append, sequence, strings_append clean.1, strings, List.flatMap_cons,
        List.append_assoc, append_of_fault_eq_none clean.1]
      exact ⟨rfl, fault⟩

end Reading

/-! ## Files -/

/-- The text of a catalog is read as a whole: its entries do not fail once there are any. -/
theorem Catalog.isWhole_readContent (tree : FileTree) (path : String) (content : List Char) :
    (readContent tree path content).IsWhole := by
  unfold readContent
  split
  · exact Reading.isWhole_failed _
  · exact Reading.isWhole_of_all? (all?_reading path _)

/-- A document is read as a whole: the nodes of its root do not fail. -/
theorem Resource.isWhole_readBytes (path : Path) (bytes : List UInt8) :
    (readBytes path bytes).IsWhole := by
  unfold readBytes
  dsimp only
  split
  · exact Reading.isWhole_failed _
  · next document _ =>
    split
    · obtain ⟨strings, read, -⟩ := all?_childReadings path document none document.children
      exact Reading.isWhole_of_all? read
    · exact Reading.isWhole_failed _

/-- A program is read as a whole: none of its calls fails. -/
theorem Program.isWhole_readBytes (keywords : List Keyword) (path : Path) (bytes : List UInt8) :
    (readBytes keywords path bytes).IsWhole := by
  unfold readBytes
  dsimp only
  split
  · exact Reading.isWhole_failed _
  split
  · exact Reading.isWhole_failed _
  · exact Reading.isWhole_of_all? (Reading.all?_sequence_of_clean
      (List.forall_mem_map.2 fun call _ => (callReading_cases _ call).1))

/-- **A file is read as a whole** in every format. -/
theorem Format.isWhole_read (format : Format) (keywords : List Program.Keyword) (tree : FileTree)
    (path : Path) : (format.read keywords tree path).IsWhole := by
  unfold read
  apply Reading.IsWhole.ofNote
  split
  · exact Reading.isWhole_failed _
  cases format with
  | catalog =>
      unfold readBytes
      dsimp only
      split
      · exact Reading.isWhole_failed _
      · exact Catalog.isWhole_readContent tree _ _
  | resources => exact Resource.isWhole_readBytes path _
  | program => exact Program.isWhole_readBytes keywords path _

/-! ## Strings that pass the check -/

/-- **The parts of a string of a file pass the check:** `string.draft.build = .ok string`. -/
theorem Format.Origin.build_draft {format : Format} {string : Translatable}
    (h : format.Origin string) : string.draft.build = .ok string := by
  rw [Translatable.build_draft_iff]
  intro plural forms translated
  cases h with
  | entry entry current texted =>
      obtain ⟨values, found, rfl⟩ := Option.map_eq_some_iff.1 translated
      rw [List.length_map]
      exact Catalog.Entry.two_le_length_translations found plural
  | element text name comment reference => cases translated
  | call setting line singular plural texted => cases translated

/-! ## Readers -/

namespace Reader

/-- **Every reader reads a file as a whole.** -/
theorem isWhole_readFile (reader : Reader) (tree : FileTree) (path : Path) :
    (reader.readFile tree path).IsWhole := by
  unfold readFile
  split
  · exact Format.isWhole_read _ _ tree path
  · split
    · exact Format.isWhole_read _ _ tree path
    · exact Reading.isWhole_failed _
  · exact Reading.isWhole_failed _

/-- A reader of one format reads its files one after another. -/
theorem read_eq_sequence {reader : Reader} (single : ∀ formats, reader.kind ≠ .any formats)
    (tree : FileTree) :
    reader.read tree = Reading.sequence (reader.paths.map (reader.readFile tree)) := by
  unfold read
  dsimp only
  split
  · next formats kind => exact absurd kind (single formats)
  · rfl

/-- `(reader.readFile tree path).fault = none`: a reader of several formats that gives its strings
has read all of its files. -/
theorem fault_readFile_eq_none {reader : Reader} {formats : List Format} (kind : reader.kind = .any formats)
    {tree : FileTree} {strings : List Translatable} (read : (reader.read tree).all? = .ok strings)
    {path : Path} (member : path ∈ reader.paths) : (reader.readFile tree path).fault = none := by
  obtain ⟨parts, -, found, -, -⟩ := exists_sightings kind read
  have each := found.imp fun _ _ finds => finds.all?_readFile kind
  obtain ⟨part, -, one⟩ := exists_of_forall₂ each.flip member
  exact (Reading.all?_eq_ok.1 one).1

/-- Strings are merged only where there is no fault. -/
theorem isWhole_read_any {reader : Reader} {formats : List Format} (kind : reader.kind = .any formats)
    (tree : FileTree) : (reader.read tree).IsWhole := by
  unfold read
  rw [kind]
  dsimp only
  generalize Reading.relative reader.root _ = reading
  intro failed
  unfold Reading.merged at failed ⊢
  split
  · simp [Reading.strings, List.filterMap_map, Function.comp_def, Reading.Event.string?]
  · next clean => simp [clean] at failed

/-- **Where reading fails.** A reader of one format gives
`reader.paths.flatMap (readFile · |>.strings)`, the strings of all its files, one file after
another; if there is a first file that cannot be read, it gives those of the files before it, none
of that file's, and ends with its fault. A reader of several formats gives no string if one of its
files cannot be read. What is done for each string cannot fail: the parts of every string that is
found in a file pass the check, and the lines above a call that are looked through for a remark are
lines of the program. -/
theorem read_upTo_fault (reader : Reader) (tree : FileTree) :
    ((∀ formats, reader.kind ≠ .any formats) →
      ((∀ path ∈ reader.paths, (reader.readFile tree path).fault = none) →
        (reader.read tree).all? =
          .ok (reader.paths.flatMap fun path => (reader.readFile tree path).strings)) ∧
      ∀ before path after fault, reader.paths = before ++ path :: after →
        (∀ earlier ∈ before, (reader.readFile tree earlier).fault = none) →
        (reader.readFile tree path).fault = some fault →
          (reader.readFile tree path).strings = [] ∧
          (reader.read tree).strings = (before.flatMap fun path => (reader.readFile tree path).strings) ∧
          (reader.read tree).fault = some fault) ∧
    (∀ formats, reader.kind = .any formats → ∀ path ∈ reader.paths,
      (reader.readFile tree path).fault ≠ none →
        (reader.read tree).strings = [] ∧ (reader.read tree).fault ≠ none) ∧
    (∀ path, ∀ string ∈ (reader.readFile tree path).strings, string.draft.build = .ok string) ∧
    ∀ text program, Program.parse? text = some program → ∀ call ∈ program.calls,
      call.place.line ≤ (Text.splitLines text).length + 1 := by
  refine ⟨fun single => ⟨fun clean => ?_, fun before path after fault paths clean failed => ?_⟩,
    fun formats kind path member failed => ?_, fun path string member => ?_,
    fun text program parsed call member => ?_⟩
  · rw [read_eq_sequence single, Reading.all?_sequence_of_clean (List.forall_mem_map.2 clean),
      List.flatMap_map]
  · have none : (reader.readFile tree path).strings = [] :=
      isWhole_readFile reader tree path (by simp [failed])
    obtain ⟨strings, ends⟩ := Reading.sequence_append_cons (List.forall_mem_map.2 clean) failed
      (after.map (reader.readFile tree))
    rw [none, List.append_nil, List.flatMap_map] at strings
    rw [read_eq_sequence single, paths, List.map_append, List.map_cons]
    exact ⟨none, strings, ends⟩
  · have faulty : (reader.read tree).fault ≠ none := fun clean =>
      failed (fault_readFile_eq_none kind (Reading.all?_eq_ok.2 ⟨clean, rfl⟩) member)
    exact ⟨isWhole_read_any kind tree faulty, faulty⟩
  · obtain ⟨format, origin⟩ := exists_origin_of_mem_readFile member
    exact origin.build_draft
  · exact (Program.line_le_of_mem_calls parsed call member).trans
      (Nat.add_le_add_right (Text.length_splitNewlines_le text) 1)

/-- Three catalogs, of which the second one has an entry before the line that cannot be read. -/
theorem read_upTo_fault_second :
    let tree : FileTree :=
      ⟨[(["w", "a.po"], .file (Text.encode "msgid \"a\"\nmsgid_plural \"as\"\nmsgstr[0] \"b\"\n")),
        (["w", "b.po"], .file (Text.encode "msgid \"c\"\nmsgstr \"d\"\noops\n")),
        (["w", "c.po"], .file (Text.encode "msgid \"f\"\nmsgstr \"g\"\n"))]⟩
    let paths : List Path := [.ofString "a.po", .ofString "b.po", .ofString "c.po"]
    let reader : Reader := ⟨.only .catalog, none, 0, [], paths⟩
    let string : Translatable := ⟨"a", none, some "as", some [some "b", some "b"], none, none, [], none, {}⟩
    (reader.read tree).strings = [string] ∧ (reader.read tree).fault ≠ none ∧
      (Reader.read { reader with kind := .any Format.all } tree).strings = [] ∧
      string.draft.build = .ok string := by
  intro tree paths reader string
  have first : (reader.readFile tree (.ofString "a.po")).all? = .ok [string] := by decide +kernel
  obtain ⟨clean, found⟩ := Reading.all?_eq_ok.1 first
  have second : (reader.readFile tree (.ofString "b.po")).fault ≠ none := by decide +kernel
  obtain ⟨fault, failed⟩ := Option.ne_none_iff_exists'.1 second
  have gathered : (Reader.readFile { reader with kind := .any Format.all } tree
    (.ofString "b.po")).fault ≠ none := by decide +kernel
  obtain ⟨single, -, built, -⟩ := read_upTo_fault reader tree
  obtain ⟨-, strings, ends⟩ := (single fun _ => Kind.noConfusion).2 [.ofString "a.po"]
    (.ofString "b.po") [.ofString "c.po"] fault rfl (List.forall_mem_singleton.2 clean) failed
  rw [List.flatMap_singleton, found] at strings
  exact ⟨strings, by simp [ends],
    ((read_upTo_fault _ tree).2.1 _ rfl (.ofString "b.po") (by decide) gathered).1,
    built (.ofString "a.po") string (found ▸ List.mem_singleton_self string)⟩

end Reader

end StringCatalog
