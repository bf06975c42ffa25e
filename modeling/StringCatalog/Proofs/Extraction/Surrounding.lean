import StringCatalog.Proofs.Extraction.Whole
import StringCatalog.Proofs.FileTree.Write

/-! # Catalogs among other files

What a catalog comes to hangs on its own file, and on the file that its whole text is the path of, if
there is one:

* **`FileTree.IsPathText`** — the texts that can be the path of a file at all.
* **`FileTree.AreAlike`** — two file trees in which both files are the same.
* **`Reader.readFile_alike`** — in such trees a catalog comes to the same.
* **`Reader.readFile_alike_named`** — a catalog whose text is the path of another one comes to what is
  in that one. -/

namespace StringCatalog

/-! ## Texts that are paths -/

namespace FileTree

variable {tree first second : FileTree}

/-- **A text that can be the path of a file:** it and its names are not too long. -/
structure IsPathText (text : String) : Prop where
  /-- There is no null character. -/
  nul : '\x00' ∉ text.toList
  /-- The text is not empty. -/
  nonempty : text ≠ ""
  /-- The text is not too long. -/
  length : text.utf8ByteSize ≤ longestPath
  /-- No name in it is. -/
  names : ∀ name ∈ Path.names text, name.utf8ByteSize ≤ longestName

/-- `name.utf8ByteSize ≤ longestName`: a name that can be entered is not too long. -/
theorem le_longestName_of_enter {place : Place} {name : String} {spot : Spot}
    (found : tree.enter place name = .ok spot) : name.utf8ByteSize ≤ longestName := by
  unfold enter at found
  by_cases stays : name = "" ∨ name = "."
  · rcases stays with rfl | rfl <;> decide
  · have moves : (name == "" || name == ".") = false := by simpa using stays
    rw [moves] at found
    by_contra long
    simp [Nat.lt_of_not_le long] at found

/-- **No name on the way to a spot is too long.** -/
theorem le_longestName_of_follow {spot last : Spot} {names : List String}
    (found : tree.follow spot names = .ok last) :
    ∀ name ∈ names, name.utf8ByteSize ≤ longestName := by
  induction names generalizing spot with
  | nil => simp
  | cons name names ih =>
      cases spot with
      | folder place =>
          rw [follow] at found
          split at found
          · cases found
          · next next entered =>
            exact List.forall_mem_cons.2 ⟨le_longestName_of_enter entered, ih found⟩
      | file _ _ => cases found
      | free _ _ => cases found

/-- **A text under which there is a file** can be the path of one. -/
theorem isPathText_of_read {text : String} {bytes : List UInt8} (read : tree.read text = .ok bytes) :
    IsPathText text := by
  unfold FileTree.read at read
  split at read
  · cases read
  · cases read
  · cases read
  · next names content found =>
    obtain ⟨nul, length, nonempty, followed⟩ := resolve_eq_ok_iff.1 found
    exact ⟨by simpa using nul, nonempty, length, le_longestName_of_follow followed⟩

/-! ## Trees in which a catalog is the same -/

/-- The text of the file under a path, if it is one. -/
def text? (tree : FileTree) (path : Path) : Option String :=
  match tree.read path.toString with
  | .error _ => none
  | .ok bytes =>
      match Text.decode bytes with
      | .error _ => none
      | .ok text => some (String.ofList (Text.unifyNewlines text))

/-- **Two trees in which the file under a path is the same,** and if its text can be a path, the file
under that as well, where there is one. -/
structure AreAlike (first second : FileTree) (path : Path) : Prop where
  /-- The file is the same, or cannot be read for the same reason. -/
  content : first.read path.toString = second.read path.toString
  /-- The file under its text is the same, or there is none. -/
  named : ∀ text ∈ first.text? path, IsPathText text →
    (first.read text).toOption = (second.read text).toOption

/-- `(first.read text).toOption = (second.read text).toOption`: the file under the text of a
catalog is the same in such trees. -/
theorem AreAlike.toOption_read {path : Path} (h : first.AreAlike second path) {text : String}
    (there : first.text? path = some text) :
    (first.read text).toOption = (second.read text).toOption := by
  by_cases possible : IsPathText text
  · exact h.named text there possible
  · -- no tree has a file under such a text
    have none (tree : FileTree) : (tree.read text).toOption = none := by
      cases read : tree.read text with
      | error fault => rfl
      | ok bytes => exact absurd (isPathText_of_read read) possible
    rw [none, none]

end FileTree

/-! ## Lines -/

namespace Catalog

/-- **The lines of a catalog** are those of the file under its text, or else its own. -/
theorem linesOf_eq (tree : FileTree) (content : List Char) :
    linesOf tree content =
      match (tree.read (String.ofList content)).toOption with
      | some bytes =>
          match (charsetOf bytes).decode bytes with
          | .error fault => .error (.named fault)
          | .ok text =>
              .ok (some (String.ofList content), Text.splitNewlines (Text.unifyNewlines text))
      | none => .ok (none, Text.splitLines content) := by
  unfold linesOf FileTree.read
  dsimp only
  cases tree.resolve (String.ofList content) with
  | error fault => rfl
  | ok spot => cases spot <;> rfl

/-- **A catalog comes to the same** in trees with the same file, or none, under its text:
`readContent first path content = readContent second path content`. -/
theorem readContent_congr {first second : FileTree} (path : String) {content : List Char}
    (same : (first.read (String.ofList content)).toOption =
      (second.read (String.ofList content)).toOption) :
    readContent first path content = readContent second path content := by
  have lines : linesOf first content = linesOf second content := by
    rw [linesOf_eq, linesOf_eq, same]
  rw [readContent, readContent, entriesOf, entriesOf, lines]

end Catalog

/-! ## Readers -/

/-- A catalog comes to the same in trees in which it is the same. -/
theorem Format.read_catalog_congr (keywords : List Program.Keyword) {first second : FileTree}
    {path : Path} (h : first.AreAlike second path) :
    Format.catalog.read keywords first path = Format.catalog.read keywords second path := by
  unfold Format.read
  rw [← h.content]
  cases content : first.read path.toString with
  | error fault => rfl
  | ok bytes =>
      unfold readBytes
      dsimp only
      cases decoded : Text.decode bytes with
      | error fault => rfl
      | ok text =>
          have there : first.text? path = some (String.ofList (Text.unifyNewlines text)) := by
            simp only [FileTree.text?, content, decoded]
          dsimp only
          rw [Catalog.readContent_congr path.toString (h.toOption_read there)]

namespace Reader

variable {reader : Reader}

/-- **A reader of catalogs reads nothing but these,** and the files under their texts:
`reader.readFile first path = reader.readFile second path` in trees that are `AreAlike` for a path,
in which the catalog is the same and its text is the path of the same file, or of none; and if this
holds for all its paths, `reader.read first = reader.read second`. -/
theorem readFile_alike (kind : reader.kind = .only .catalog) (first second : FileTree) :
    (∀ path, first.AreAlike second path → reader.readFile first path = reader.readFile second path) ∧
      ((∀ path ∈ reader.paths, first.AreAlike second path) →
        reader.read first = reader.read second) := by
  have each : ∀ path, first.AreAlike second path →
      reader.readFile first path = reader.readFile second path := by
    intro path alike
    unfold readFile
    rw [kind]
    exact Format.read_catalog_congr reader.keywords alike
  refine ⟨each, fun all => ?_⟩
  have single : ∀ formats, reader.kind ≠ .any formats := by simp [kind]
  rw [read_eq_sequence single, read_eq_sequence single,
    List.map_congr_left fun path member => each path (all path member)]

/-- A catalog whose text could be the path of a file, with other files beside it in either tree. -/
theorem readFile_alike_apart :
    let content := Text.encode "msgid \"a\"\nmsgstr \"b\"\n"
    let first : FileTree :=
      ⟨[(["w", "a.po"], .file content), (["w", "app.py"], .file (Text.encode "_('x')\n"))]⟩
    let second : FileTree :=
      ⟨[(["w", "b.po"], .file (Text.encode "msgid \"c\"\nmsgstr \"d\"\n")), (["w", "a.po"], .file content)]⟩
    let reader : Reader := ⟨.only .catalog, none, 0, [], [.ofString "a.po"]⟩
    reader.read first = reader.read second ∧
      (reader.read second).all? =
        .ok [⟨"a", none, none, some [some "b"], none, none, [], none, {}⟩] := by
  intro content first second reader
  have found : first.text? (.ofString "a.po") = some "msgid \"a\"\nmsgstr \"b\"\n" := by
    decide +kernel
  have alike : first.AreAlike second (.ofString "a.po") := by
    refine ⟨by decide +kernel, fun text there _ => ?_⟩
    obtain rfl := Option.some.inj (found.symm.trans there)
    decide +kernel
  exact ⟨(readFile_alike rfl first second).2 (List.forall_mem_singleton.2 alike), by decide +kernel⟩

/-- A catalog whose text is the path of another one: on its own it cannot be read, and beside the other
one it comes to what is in that one. -/
theorem readFile_alike_named :
    let first : FileTree := ⟨[(["w", "a.po"], .file (Text.encode "b.po"))]⟩
    let second : FileTree :=
      ⟨[(["w", "a.po"], .file (Text.encode "b.po")),
        (["w", "b.po"], .file (Text.encode "msgid \"a\"\nmsgstr \"b\"\n"))]⟩
    let reader : Reader := ⟨.only .catalog, none, 0, [], [.ofString "a.po"]⟩
    first.read "a.po" = second.read "a.po" ∧
      (reader.read first).all? = .error (.input "a.po" (.catalog ⟨none, 1, .misplaced⟩)) ∧
      (reader.read second).all? =
        .ok [⟨"a", none, none, some [some "b"], none, none, [], none, {}⟩] := by
  decide +kernel

end Reader

end StringCatalog
