import StringCatalog.Proofs.FileTree.Path
import StringCatalog.Proofs.FileTree.Write

/-! # Writing where a path leads

* **`FileTree.follow_append`** — the names of a path are followed one after another.
* **`FileTree.exists_place_of_resolve`** — one step up from a file, or from a free name in a folder, there
  is a folder.
* **`FileTree.exists_write_of_resolve`** — a file can be written there, also in place of another one. -/

namespace StringCatalog.FileTree

variable {tree : FileTree}

/-! ## One step up -/

/-- **The names of a path are followed one after another.** -/
theorem follow_append (tree : FileTree) (spot : Spot) (names more : List String) :
    tree.follow spot (names ++ more) = (tree.follow spot names).bind (tree.follow · more) := by
  induction names generalizing spot with
  | nil => rfl
  | cons name names ih =>
      cases spot with
      | folder place =>
          rw [List.cons_append, follow, follow]
          cases tree.enter place name with
          | error cause => rfl
          | ok next => exact ih next
      | file _ _ => rfl
      | free _ _ => rfl

/-- The names before the last one lead to a folder, if all of them lead anywhere. -/
theorem exists_place_of_follow {spot last : Spot} {front : List String} {name : String}
    (found : tree.follow spot (front ++ [name]) = .ok last) :
    ∃ place, tree.follow spot front = .ok (.folder place) := by
  rw [follow_append] at found
  cases up : tree.follow spot front with
  | error cause => rw [up] at found; cases found
  | ok between =>
      rw [up] at found
      cases between with
      | folder place => exact ⟨place, rfl⟩
      | file _ _ => cases found
      | free _ _ => cases found

/-- A path starts at the working folder, or else at the root. -/
theorem start_toString {path : Path} (known : ∀ name ∈ path.parts, Path.IsName name) :
    start path.toString = if path.anchor = .working then Path.workingFolder else [] := by
  have absolute := Path.isAbsoluteText_toString known
  by_cases relative : path.anchor = .working
  · rw [start, if_pos relative, if_neg fun is => absolute.1 is relative]
  · rw [start, if_neg relative, if_pos (absolute.2 relative)]

/-- **The names of a path are followed as it has them:** what its text has besides them leads
nowhere. -/
theorem follow_names_toString {path : Path} (known : ∀ name ∈ path.parts, Path.IsName name)
    (place : Place) :
    tree.follow (.folder place) (Path.names path.toString) =
      tree.follow (.folder place) path.parts := by
  obtain ⟨anchor, parts⟩ := path
  by_cases begun : parts = []
  · subst begun
    cases anchor <;> rfl
  · rw [Path.names_toString_of_ne_nil anchor begun known]
    cases anchor <;> rfl

/-- **What a path leads to** is found by following its names from where it starts. -/
theorem resolve_toString_eq_ok_iff {path : Path} (known : ∀ name ∈ path.parts, Path.IsName name)
    {spot : Spot} :
    tree.resolve path.toString = .ok spot ↔
      path.toString.toList.contains '\x00' = false ∧ path.toString.utf8ByteSize ≤ longestPath ∧
        tree.follow (.folder (start path.toString)) path.parts = .ok spot := by
  rw [resolve_eq_ok_iff, follow_names_toString known]
  simp [Path.toString_ne_empty known]

/-- `start (folder.child name).toString = start folder.toString`: the path to an entry starts where
that of the folder does. -/
theorem start_child {folder : Path} {name : String}
    (known : ∀ name ∈ folder.parts, Path.IsName name) (good : Path.IsName name) :
    start (folder.child name).toString = start folder.toString := by
  have below : ∀ other ∈ (folder.child name).parts, Path.IsName other := by
    simpa [Path.child, or_imp, forall_and, good] using known
  rw [start_toString known, start_toString below]
  rfl

/-- The text of a folder has no NUL character if that of the path to an entry has none, and it is no
longer, unless it is a single full stop. -/
theorem fits_of_child {folder : Path} {name : String}
    (good : (folder.child name).toString.toList.contains '\x00' = false)
    (short : (folder.child name).toString.utf8ByteSize ≤ longestPath) :
    folder.toString.toList.contains '\x00' = false ∧ folder.toString.utf8ByteSize ≤ longestPath := by
  rw [Path.toString_child] at good short
  by_cases begun : folder.parts = []
  · obtain ⟨anchor, parts⟩ := folder
    obtain rfl : parts = [] := begun
    cases anchor <;> exact ⟨by decide, by decide⟩
  · rw [if_neg begun] at good short
    rw [String.utf8ByteSize_append, String.utf8ByteSize_append] at short
    simp only [String.toList_append, List.contains_append, Bool.or_eq_false_iff] at good
    exact ⟨good.1.1, by omega⟩

/-- **One step up from a file,** or from a free name in a folder, there is a folder. -/
theorem exists_place_of_resolve {path : Path} (known : ∀ name ∈ path.parts, Path.IsName name)
    {spot : Spot} {target : Place} (found : tree.resolve path.toString = .ok spot)
    (here : spot.place? = some target) :
    ∃ place, tree.resolve path.parent.toString = .ok (.folder place) := by
  obtain ⟨good, short, followed⟩ := (resolve_toString_eq_ok_iff known).1 found
  by_cases begun : path.parts = []
  · rw [begun, follow] at followed
    rw [← Except.ok.inj followed] at here
    cases here
  have whole := Path.parent_child_name begun
  have above : ∀ name ∈ path.parent.parts, Path.IsName name :=
    fun name member => known name (List.dropLast_subset _ member)
  rw [← whole] at good short followed
  rw [start_child above (known _ (Path.name_mem_parts begun))] at followed
  obtain ⟨place, before⟩ := exists_place_of_follow followed
  obtain ⟨upGood, upShort⟩ := fits_of_child good short
  exact ⟨place, (resolve_toString_eq_ok_iff above).2 ⟨upGood, upShort, before⟩⟩

/-- `tree.makeFolders path = (tree, none)`: a folder that is there is not made. -/
theorem makeFolders_of_resolve {path : Path} {place : Place}
    (found : tree.resolve path.toString = .ok (.folder place)) :
    tree.makeFolders path = (tree, none) := by
  have step : tree.makeFolder path.toString = .ok tree := by rw [makeFolder, found]
  have anchored : path = Path.mk path.anchor path.parts.reverse.reverse := by
    rw [List.reverse_reverse]
  rw [makeFolders]
  cases names : path.parts.reverse with
  | nil =>
      rw [names] at anchored
      rw [makeFoldersUp, ← List.reverse_nil, ← anchored, step]
      rfl
  | cons name above =>
      rw [names] at anchored
      simp only [makeFoldersUp, ← anchored, step]
      rfl

/-- **A file can be written where a path leads to one,** or to a free name in a folder. -/
theorem exists_write_of_resolve {path : Path} (known : ∀ name ∈ path.parts, Path.IsName name)
    {spot : Spot} {target : Place} (found : tree.resolve path.toString = .ok spot)
    (here : spot.place? = some target) (content : List UInt8) :
    ∃ later, tree.write path content = (later, none) ∧ later.read path.toString = .ok content := by
  obtain ⟨place, up⟩ := exists_place_of_resolve known found here
  have placed : tree.writeFile path content = .ok (tree.put target (.file content)) := by
    unfold writeFile
    rw [found]
    cases spot with
    | folder place => cases here
    | file names old => cases here; rfl
    | free folder name => cases here; rfl
  refine ⟨tree.put target (.file content), ?_, ?_⟩
  · rw [write, makeFolders_of_resolve up]
    simp only [placed, written]
  · exact (isWritten_put found here content).read_eq

/-- What can be read is a file. -/
theorem exists_resolve_of_read {path : String} {content : List UInt8}
    (found : tree.read path = .ok content) :
    ∃ place, tree.resolve path = .ok (.file place content) := by
  unfold read at found
  split at found <;> cases found
  exact ⟨_, ‹_›⟩

end StringCatalog.FileTree
