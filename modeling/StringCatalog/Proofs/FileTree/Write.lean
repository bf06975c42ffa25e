import StringCatalog.FileTree.Basic

/-! # Writing to a file tree

* **`FileTree.file?`** — the bytes of the file at a place.
* **`FileTree.AddsFolders`** — a tree that has some more folders and is the same in all else.
* **`FileTree.resolve_put`** — a path leads to the file that is put where it has led to.
* **`FileTree.IsWritten`** — a tree in which some content stands under a path, with all other files as
  before.
* **`FileTree.write_cases`** — writing to a path does this, or fails and changes no file. -/

namespace StringCatalog.FileTree

variable {tree earlier later : FileTree}

/-! ## Entries -/

/-- What is found among some entries, one of which is replaced where it stands. -/
theorem lookup_map_replace (names other : List String) (node : Node)
    (entries : List (List String × Node)) :
    (entries.map fun entry => if entry.1 == names then (names, node) else entry).lookup other =
      if other = names then (entries.lookup names).map fun _ => node else entries.lookup other := by
  induction entries with
  | nil => simp
  | cons entry entries ih =>
      obtain ⟨place, found⟩ := entry
      by_cases here : place = names
      · subst here
        by_cases same : other = place
        · simp [same]
        · have apart : (other == place) = false := by simpa using same
          simp only [List.map_cons, beq_self_eq_true, if_true, List.lookup_cons, apart, ih, same,
            if_false]
      · have kept : (place == names) = false := by simpa using here
        have missed : (names == place) = false := by simpa using Ne.symm here
        simp only [List.map_cons, kept, Bool.false_eq_true, if_false, List.lookup_cons, ih, missed]
        by_cases same : other = names
        · simp [same, missed]
        · simp only [same, if_false]

/-- `tree.node? place = tree.entries.lookup place`: what is in a tree at a place that is not always
there: the entry at it. -/
theorem node?_of_notMem_fixed {place : Place} (free : place ∉ fixed) :
    tree.node? place = tree.entries.lookup place := by
  have always : (fixed.map (·, Node.folder)).lookup place = none := by
    simpa [fixed, and_comm] using free
  rw [node?, nodes, List.lookup_append, always, Option.none_or]

/-- `tree.node? place = some .folder`: the folders that are always there are there. -/
theorem node?_of_mem_fixed {place : Place} (always : place ∈ fixed) :
    tree.node? place = some .folder := by
  have found : (fixed.map (·, Node.folder)).lookup place = some .folder := by
    rcases List.mem_cons.1 always with rfl | always
    · rfl
    · rw [List.mem_singleton.1 always]
      rfl
  rw [node?, nodes, List.lookup_append, found, Option.some_or]

/-- **What is put at a place is there, and all else is as before:**
`(tree.put place node).node? other` is `some node` at the place itself, and `tree.node? other` at any
other. -/
theorem node?_put {place : Place} (free : place ∉ fixed) (node : Node) (other : Place) :
    (tree.put place node).node? other = if other = place then some node else tree.node? other := by
  have put : (tree.put place node).entries.lookup other =
      if other = place then some node else tree.entries.lookup other := by
    rw [FileTree.put, if_neg (by simpa using free)]
    split
    · next there =>
      obtain ⟨found, there⟩ := Option.isSome_iff_exists.1 there
      dsimp only
      rw [lookup_map_replace, there]
      rfl
    · next missing =>
      have missing : tree.entries.lookup place = none := Option.not_isSome_iff_eq_none.1 missing
      by_cases same : other = place
      · simp [List.lookup_append, same, missing]
      · have apart : (other == place) = false := by simpa using same
        simp [List.lookup_append, List.lookup_cons, apart, same]
  by_cases always : other ∈ fixed
  · have apart : other ≠ place := fun same => free (same ▸ always)
    rw [if_neg apart, node?_of_mem_fixed always, node?_of_mem_fixed always]
  · rw [node?_of_notMem_fixed always, node?_of_notMem_fixed always, put]

/-- The bytes of an entry that is a file. -/
def Node.content? : Node → Option (List UInt8)
  | .file content => some content
  | .folder => none

/-- **The bytes of the file at a place,** if there is a file. -/
def file? (tree : FileTree) (place : Place) : Option (List UInt8) :=
  (tree.node? place).bind Node.content?

/-! ## More folders -/

/-- **A tree that has some more folders,** behind the entries of another one. -/
def AddsFolders (earlier later : FileTree) : Prop :=
  ∃ folders : List Place, later.entries = earlier.entries ++ folders.map (·, .folder)

/-- `tree.AddsFolders tree`: no folder is added. -/
theorem AddsFolders.refl (tree : FileTree) : tree.AddsFolders tree := ⟨[], by simp⟩

/-- `AddsFolders` is transitive: what is added later comes behind. -/
theorem AddsFolders.trans {between : FileTree} (first : earlier.AddsFolders between)
    (second : between.AddsFolders later) : earlier.AddsFolders later := by
  obtain ⟨folders, one⟩ := first
  obtain ⟨more, other⟩ := second
  exact ⟨folders ++ more, by rw [other, one, List.map_append, List.append_assoc]⟩

/-- **Folders are no files:** `later.files = earlier.files`. -/
theorem AddsFolders.files_eq (h : earlier.AddsFolders later) : later.files = earlier.files := by
  obtain ⟨folders, entries⟩ := h
  have none : folders.filterMap (fun _ => (Option.none : Option (String × List UInt8))) = [] := by
    simp
  simp only [files, entries, List.filterMap_append, List.filterMap_map, Function.comp_def]
  rw [none, List.append_nil]

/-- `later.file? place = earlier.file? place`: at no place there is another file than before. -/
theorem AddsFolders.file?_eq (h : earlier.AddsFolders later) (place : Place) :
    later.file? place = earlier.file? place := by
  obtain ⟨folders, entries⟩ := h
  have none : ((folders.map (·, Node.folder)).lookup place).bind Node.content? = Option.none := by
    clear entries
    induction folders with
    | nil => rfl
    | cons folder folders ih =>
        rw [List.map_cons, List.lookup_cons]
        split
        · rfl
        · exact ih
  have all : later.nodes = earlier.nodes ++ folders.map (·, .folder) := by
    rw [nodes, nodes, entries, List.append_assoc]
  rw [file?, file?, node?, node?, all, List.lookup_append]
  cases earlier.nodes.lookup place with
  | none => rw [Option.none_or, none, Option.bind_none]
  | some node => rfl

/-! ## What a path leads to -/

/-- The place at which a file at a spot is or can be kept. -/
def Spot.place? : Spot → Option Place
  | .folder _ => none
  | .file place _ => some place
  | .free place name => some (place ++ [name])

/-- **A spot as it is in a tree:** a file at its place, or nothing. -/
def Spot.IsIn (tree : FileTree) : Spot → Prop
  | .folder _ => True
  | .file place content => tree.node? place = some (.file content)
  | .free place name => tree.node? (place ++ [name]) = none

/-- `tree.node? place ≠ some .folder`: no folder stands where a file is or can be kept. -/
theorem Spot.IsIn.node?_ne {spot : Spot} (h : spot.IsIn tree) {place : Place}
    (here : spot.place? = some place) : tree.node? place ≠ some .folder := by
  cases spot with
  | folder _ => cases here
  | file found content =>
      cases here
      rw [IsIn] at h
      rw [h]
      simp
  | free place name =>
      cases here
      rw [IsIn] at h
      rw [h]
      simp

/-- `place ∉ fixed`: a place without a folder is not one that is always there. -/
theorem notMem_fixed_of_node?_ne {place : Place} (h : tree.node? place ≠ some .folder) :
    place ∉ fixed :=
  fun always => h (node?_of_mem_fixed always)

/-- A name leads to a spot of the tree. -/
theorem isIn_enter {folder : Place} {name : String} {spot : Spot}
    (found : tree.enter folder name = .ok spot) : spot.IsIn tree := by
  unfold enter at found
  split at found
  · cases found
    trivial
  split at found
  · cases found
  split at found
  · cases found
    trivial
  split at found
  · cases found
    trivial
  · next content there =>
    cases found
    exact there
  · next missing =>
    cases found
    exact missing

/-- **A path leads to a spot of the tree.** -/
theorem isIn_follow {spot last : Spot} (start : spot.IsIn tree) {names : List String}
    (found : tree.follow spot names = .ok last) : last.IsIn tree := by
  induction names generalizing spot with
  | nil =>
      cases found
      exact start
  | cons name names ih =>
      cases spot with
      | folder place =>
          rw [follow] at found
          split at found
          · cases found
          · next next entered => exact ih (isIn_enter entered) found
      | file _ _ => cases found
      | free _ _ => cases found

/-- **What the text of a path leads to** is found by following its names, if the text can be one of a
path at all. -/
theorem resolve_eq_ok_iff {path : String} {spot : Spot} :
    tree.resolve path = .ok spot ↔
      path.toList.contains '\x00' = false ∧ path.utf8ByteSize ≤ longestPath ∧ path ≠ "" ∧
        tree.follow (.folder (start path)) (Path.names path) = .ok spot := by
  unfold resolve
  split
  · next bad =>
    have bad : path.toList.contains '\x00' = true := bad
    rw [bad]
    simp only [reduceCtorEq, Bool.true_eq_false, false_and]
  · next good =>
    have good : path.toList.contains '\x00' = false := by simpa using good
    by_cases long : path.utf8ByteSize > longestPath
    · simp [long, Nat.not_le.2 long]
    · by_cases none : path = ""
      · simp [none]
      · simp only [long, if_false, none, beq_iff_eq, good, true_and, Nat.not_lt.1 long, ne_eq,
          not_false_eq_true]
        split <;> simp_all

/-- The text of a path leads to a spot of the tree. -/
theorem isIn_resolve {path : String} {spot : Spot} (found : tree.resolve path = .ok spot) :
    spot.IsIn tree := by
  obtain ⟨-, -, -, followed⟩ := resolve_eq_ok_iff.1 found
  have start : (Spot.folder (start path)).IsIn tree := trivial
  exact isIn_follow start followed

/-- `empty.isFile path = false`: where there are no entries, no path leads to a file. -/
theorem isFile_empty (path : String) : empty.isFile path = false := by
  unfold isFile
  split
  · next place content found =>
    -- what a file is found at is an entry, for no file is always there
    have there : empty.node? place = some (.file content) := isIn_resolve found
    obtain ⟨before, after, nodes, -⟩ := List.lookup_eq_some_iff.1 there
    have member : (place, Node.file content) ∈ empty.nodes := by simp [nodes]
    simp [FileTree.nodes, empty, fixed] at member
  · rfl

/-! ## Putting a file where a path leads to -/

/-- A spot once a file has been put at a place. -/
def Spot.withFile (target : Place) (content : List UInt8) (spot : Spot) : Spot :=
  if spot.place? = some target then .file target content else spot

section Put

variable {target : Place} (content : List UInt8)

/-- `(Spot.folder place).withFile target content = .folder place`: a file is never put in the place of
a folder. -/
@[simp] theorem Spot.withFile_folder (place : Place) :
    (Spot.folder place).withFile target content = .folder place := rfl

/-- A name leads to the same spot as before, or to the file that was put there. -/
theorem enter_put (unfolded : tree.node? target ≠ some .folder) {folder : Place} {name : String}
    {spot : Spot} (found : tree.enter folder name = .ok spot) :
    (tree.put target (.file content)).enter folder name = .ok (spot.withFile target content) := by
  unfold enter at found ⊢
  split at found
  · next stays => cases found; rw [if_pos stays]; rfl
  next moves =>
  rw [if_neg moves]
  split at found
  · cases found
  next short =>
  rw [if_neg short]
  split at found
  · next back => cases found; rw [if_pos back]; rfl
  next onward =>
  rw [if_neg onward, node?_put (notMem_fixed_of_node?_ne unfolded)]
  -- either the name leads to where the file is put, or to what was there before
  by_cases here : folder ++ [name] = target
  · subst here
    split at found
    · next there => exact absurd there unfolded
    · cases found; simp [Spot.withFile, Spot.place?]
    · cases found; simp [Spot.withFile, Spot.place?]
  · rw [if_neg here]
    split at found <;> cases found <;> simp_all [Spot.withFile, Spot.place?]

/-- **A path leads to the same spot as before,** or to the file that was put there. -/
theorem follow_put (unfolded : tree.node? target ≠ some .folder) {spot last : Spot}
    {names : List String} (found : tree.follow spot names = .ok last) :
    (tree.put target (.file content)).follow (spot.withFile target content) names =
      .ok (last.withFile target content) := by
  induction names generalizing spot with
  | nil => cases found; rfl
  | cons name names ih =>
      cases spot with
      | folder place =>
          rw [follow] at found
          split at found
          · cases found
          · next next entered =>
            rw [Spot.withFile_folder, follow, enter_put content unfolded entered]
            exact ih found
      | file _ _ => cases found
      | free _ _ => cases found

/-- **The text of a path leads to the file** that is put where it has led to. -/
theorem resolve_put {path : String} {spot : Spot} (found : tree.resolve path = .ok spot)
    (here : spot.place? = some target) :
    (tree.put target (.file content)).resolve path = .ok (.file target content) := by
  have unfolded := (isIn_resolve found).node?_ne here
  obtain ⟨good, short, some, followed⟩ := resolve_eq_ok_iff.1 found
  refine resolve_eq_ok_iff.2 ⟨good, short, some, ?_⟩
  have put := follow_put content unfolded followed
  rwa [Spot.withFile_folder, Spot.withFile, if_pos here] at put

end Put

/-! ## Making folders -/

/-- `(tree.put place node).entries = tree.entries ++ [(place, node)]`: an entry at a free place
comes behind all others. -/
theorem put_of_node?_eq_none {place : Place} (free : tree.node? place = none) (node : Node) :
    (tree.put place node).entries = tree.entries ++ [(place, node)] := by
  have other : place ∉ fixed := notMem_fixed_of_node?_ne (by rw [free]; simp)
  rw [node?_of_notMem_fixed other] at free
  rw [put, if_neg (by simpa using other), free, if_neg (by simp)]

/-- Making a folder adds one, unless it is there. -/
theorem addsFolders_makeFolder {path : String} (made : earlier.makeFolder path = .ok later) :
    earlier.AddsFolders later := by
  unfold makeFolder at made
  split at made
  · next folder name free =>
    cases made
    exact ⟨[folder ++ [name]], put_of_node?_eq_none (isIn_resolve free) .folder⟩
  · cases made
    exact .refl earlier
  · cases made
  · cases made

/-- A step that makes a folder or nothing. -/
theorem addsFolders_written {between : FileTree} (before : earlier.AddsFolders between)
    (path : String) : earlier.AddsFolders (between.written (between.makeFolder path)).1 := by
  cases made : between.makeFolder path with
  | error fault => exact before
  | ok later => exact before.trans (addsFolders_makeFolder made)

/-- `tree.AddsFolders (makeFoldersUp anchor names tree).1`: whatever goes wrong, only folders have
been added. The induction is on the names, the last of which is made last. -/
theorem addsFolders_makeFoldersUp (anchor : Path.Anchor) (names : List String) (tree : FileTree) :
    tree.AddsFolders (makeFoldersUp anchor names tree).1 := by
  induction names with
  | nil => exact addsFolders_written (.refl tree) _
  | cons name above ih =>
      unfold makeFoldersUp
      dsimp only
      split
      -- the folder above comes first, and may be all that can be made
      · split
        · next made fault up => rwa [up] at ih
        · next made up =>
          rw [up] at ih
          exact addsFolders_written ih _
      · exact addsFolders_written (.refl tree) _

/-- **Making folders adds folders,** also where it fails half way. -/
theorem addsFolders_makeFolders (tree : FileTree) (path : Path) :
    tree.AddsFolders (tree.makeFolders path).1 :=
  addsFolders_makeFoldersUp _ _ tree

/-! ## Writing -/

/-- **A tree in which some content stands under a path, and all other files are as before.** -/
def IsWritten (earlier later : FileTree) (path : String) (content : List UInt8) : Prop :=
  ∃ place, later.resolve path = .ok (.file place content) ∧
    ∀ others, others ≠ place → later.file? others = earlier.file? others

/-- `later.read path = .ok content`: what stands under a path is what is read there. -/
theorem IsWritten.read_eq {path : String} {content : List UInt8}
    (h : earlier.IsWritten later path content) : later.read path = .ok content := by
  obtain ⟨place, found, -⟩ := h
  rw [read, found]

/-- `(tree.put place (.file content)).file? others = tree.file? others`: files at other places than
a new one are as before. -/
theorem file?_put {place others : Place} (free : place ∉ fixed) (content : List UInt8)
    (apart : others ≠ place) : (tree.put place (.file content)).file? others = tree.file? others := by
  rw [file?, node?_put free, if_neg apart, file?]

/-- **A file put where a path leads to** stands under the path. -/
theorem isWritten_put {path : String} {spot : Spot} (found : earlier.resolve path = .ok spot)
    {place : Place} (here : spot.place? = some place) (content : List UInt8) :
    earlier.IsWritten (earlier.put place (.file content)) path content := by
  have free := notMem_fixed_of_node?_ne ((isIn_resolve found).node?_ne here)
  exact ⟨place, resolve_put content found here, fun others => file?_put free content⟩

/-- What a file is written to has it then. -/
theorem isWritten_writeFile {path : Path} {content : List UInt8}
    (written : earlier.writeFile path content = .ok later) :
    earlier.IsWritten later path.toString content := by
  unfold writeFile at written
  split at written
  · cases written
  · cases written
  · next found =>
    cases written
    exact isWritten_put found rfl content
  · next found =>
    cases written
    exact isWritten_put found rfl content

/-- **Writing to a path** either puts the content there and leaves all other files, or fails and
leaves all files. -/
theorem write_cases (tree : FileTree) (path : Path) (content : List UInt8) :
    match tree.write path content with
    | (later, none) => tree.IsWritten later path.toString content
    | (later, some _) => later.files = tree.files := by
  have folders := addsFolders_makeFolders tree path.parent
  unfold write
  cases up : tree.makeFolders path.parent with
  | mk made fault =>
      rw [up] at folders
      cases fault with
      | some fault => exact folders.files_eq
      | none =>
          dsimp only
          cases done : made.writeFile path content with
          | error fault => exact folders.files_eq
          | ok later =>
              -- the folders made on the way hold no files
              obtain ⟨place, found, others⟩ := isWritten_writeFile done
              refine ⟨place, found, fun other apart => ?_⟩
              rw [others other apart, folders.file?_eq]

end StringCatalog.FileTree
