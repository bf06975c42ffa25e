import Mathlib.Data.List.Nodup
import StringCatalog.Proofs.FileTree.Destination

/-! # The entries of a folder

* **`FileTree.IsProper`** — a tree as a file system keeps it: names are names, and no two entries
  have the same.
* **`FileTree.member?`** — the entry of a folder with a name.
* **`FileTree.mem_list_iff`, `FileTree.IsProper.pairwise_list`** — the names in a folder are those of its
  entries, each once and in order.
* **`FileTree.regular?_child`** — the path to an entry leads to a file exactly if the entry is one,
  unless its text is too long. -/

namespace StringCatalog

/-- **The order of the paths that start in one place** is that of their names, one by one:
`path.anchor = other.anchor ∧ path.parts < other.parts`. -/
def Path.Precedes (path other : Path) : Prop :=
  path.anchor = other.anchor ∧ path.parts < other.parts

/-- The entries of a folder are in the order of their names. -/
theorem Path.child_precedes (folder : Path) {name other : String} (less : name < other) :
    (folder.child name).Precedes (folder.child other) :=
  ⟨rfl, List.append_left_lt (List.cons_lt_cons_iff.2 (.inl less))⟩

namespace FileTree

variable {tree : FileTree}

/-! ## Proper trees -/

/-- **A name that an entry can have.** -/
structure IsEntryName (name : String) : Prop where
  /-- A path keeps it. -/
  isName : Path.IsName name
  /-- It leads down. -/
  down : name ≠ ".."
  /-- It has no NUL character. -/
  noNul : name.toList.contains '\x00' = false
  /-- It is not too long. -/
  short : name.utf8ByteSize ≤ longestName

/-- `IsEntryName name` spelled out, so that it can be decided. -/
theorem isEntryName_iff {name : String} : IsEntryName name ↔ name ≠ "" ∧ name ≠ "." ∧
    '/' ∉ name.toList ∧ name ≠ ".." ∧ name.toList.contains '\x00' = false ∧
      name.utf8ByteSize ≤ longestName :=
  ⟨fun h => ⟨h.isName.some, h.isName.leads, h.isName.whole, h.down, h.noNul, h.short⟩,
    fun ⟨letters, leads, whole, down, noNul, short⟩ => ⟨⟨letters, leads, whole⟩, down, noNul, short⟩⟩

instance (name : String) : Decidable (IsEntryName name) :=
  decidable_of_iff _ isEntryName_iff.symm

/-- **A tree as a file system keeps it.** -/
structure IsProper (tree : FileTree) : Prop where
  /-- At no place there are two things. -/
  nodup : (tree.nodes.map Prod.fst).Nodup
  /-- Entries have the names that entries can have. -/
  named : ∀ entry ∈ tree.entries, ∀ name ∈ entry.1, IsEntryName name

instance (tree : FileTree) : Decidable tree.IsProper :=
  decidable_of_iff ((tree.nodes.map Prod.fst).Nodup ∧
      ∀ entry ∈ tree.entries, ∀ name ∈ entry.1, IsEntryName name)
    ⟨fun h => ⟨h.1, h.2⟩, fun h => ⟨h.nodup, h.named⟩⟩

/-- The tree with nothing in it is proper. -/
theorem isProper_empty : empty.IsProper := by decide

/-- `(nodes.lookup place).isSome = true ↔ place ∈ nodes.map Prod.fst`: something is found at the
places of some nodes, and at no other. -/
theorem isSome_lookup_iff {place : Place} {nodes : List (Place × Node)} :
    (nodes.lookup place).isSome = true ↔ place ∈ nodes.map Prod.fst := by
  rw [List.lookup_isSome_iff]
  simp

/-- `tree.nodes.map Prod.fst = fixed ++ tree.entries.map Prod.fst`: the places of a tree are those
that are always there, and those of the entries. -/
theorem map_fst_nodes : tree.nodes.map Prod.fst = fixed ++ tree.entries.map Prod.fst := by
  simp [nodes, Function.comp_def]

/-- What is in a proper tree has the names that entries can have. -/
theorem IsProper.isEntryName_of_mem (proper : tree.IsProper) {place : Place}
    (member : place ∈ tree.nodes.map Prod.fst) : ∀ name ∈ place, IsEntryName name := by
  rw [map_fst_nodes] at member
  rcases List.mem_append.1 member with always | other
  · have decided : ∀ place ∈ fixed, ∀ name ∈ place, IsEntryName name := by decide
    exact decided place always
  · obtain ⟨entry, inside, rfl⟩ := List.mem_map.1 other
    exact proper.named entry inside

/-- **A tree is proper with one more entry.** -/
theorem IsProper.put (proper : tree.IsProper) {place : Place}
    (known : ∀ name ∈ place, IsEntryName name) (node : Node) : (tree.put place node).IsProper := by
  unfold FileTree.put
  split
  · exact proper
  next other =>
  have nodup := proper.nodup
  rw [map_fst_nodes] at nodup
  split
  · -- the entry is replaced where it stands, at the same place
    have keys : (tree.entries.map fun entry => if entry.1 == place then (place, node) else entry).map
        Prod.fst = tree.entries.map Prod.fst := by
      rw [List.map_map]
      refine List.map_congr_left fun entry _ => ?_
      by_cases same : entry.1 = place <;> simp [same]
    refine ⟨by rw [map_fst_nodes, keys]; exact nodup, fun entry member => ?_⟩
    obtain ⟨old, inside, rfl⟩ := List.mem_map.1 member
    split
    · exact known
    · exact proper.named old inside
  · next free =>
    rw [isSome_lookup_iff] at free
    refine ⟨?_, fun entry member => ?_⟩
    · rw [map_fst_nodes, List.map_append, List.map_singleton, ← List.append_assoc, List.nodup_append]
      refine ⟨nodup, List.nodup_singleton _, fun old inside new last same => ?_⟩
      rw [same, List.mem_singleton.1 last] at inside
      exact (List.mem_append.1 inside).elim (by simpa using other) free
    · rcases List.mem_append.1 member with old | new
      · exact proper.named entry old
      · obtain rfl := List.mem_singleton.1 new
        exact known

/-- A tree is proper with one more folder. -/
theorem IsProper.putFolder (proper : tree.IsProper) {place : Place}
    (known : ∀ name ∈ place, IsEntryName name) : (tree.putFolder place).IsProper := by
  unfold FileTree.putFolder
  split
  · exact proper
  · exact proper.put known .folder

/-- A tree is proper with some more folders. -/
theorem IsProper.foldl_putFolder (proper : tree.IsProper) {places : List Place}
    (known : ∀ place ∈ places, ∀ name ∈ place, IsEntryName name) :
    (places.foldl FileTree.putFolder tree).IsProper := by
  induction places generalizing tree with
  | nil => exact proper
  | cons place places ih =>
      rw [List.forall_mem_cons] at known
      exact ih (proper.putFolder known.1) known.2

/-- `route ⊆ place`: the places on the way to a place have no other names. -/
theorem of_mem_routes {place route : Place} (member : route ∈ routes place) : route ⊆ place := by
  obtain ⟨count, -, rfl⟩ := List.mem_map.1 member
  exact List.take_subset count place

/-- The names of an absolute path can be those of entries if the names of the path can. -/
theorem isEntryName_of_mem_absolute {path : Path} (known : ∀ name ∈ path.parts, IsEntryName name) :
    ∀ name ∈ path.absolute.parts, IsEntryName name := by
  intro name member
  rcases (Path.of_mem_absolute member).1 with rfl | inside
  · decide
  · exact known name inside

/-- **A tree is proper with one more file,** if its path has the names that entries can have. -/
theorem IsProper.addFile (proper : tree.IsProper) {path : Path}
    (known : ∀ name ∈ path.parts, IsEntryName name) (content : List UInt8) :
    (tree.addFile path content).IsProper := by
  have names := isEntryName_of_mem_absolute known
  exact (proper.foldl_putFolder fun _ route name inside =>
    names name (of_mem_routes route inside)).put names _

/-! ## Entries -/

/-- **What is in a folder under a name.** -/
def member? (tree : FileTree) (folder : Place) (name : String) : Option Node :=
  tree.node? (folder ++ [name])

/-- The names of an entry, one of which is the last. -/
theorem dropLast_eq_iff {names front : List String} {name : String} :
    (if names.dropLast == front then names.getLast? else none) = some name ↔
      names = front ++ [name] := by
  rcases List.eq_nil_or_concat names with rfl | ⟨others, last, rfl⟩
  · simp
  · rw [List.concat_eq_append]
    simp only [List.dropLast_concat, List.getLast?_concat, beq_iff_eq, List.append_singleton_inj]
    split <;> simp_all

/-- **The names in a folder** are those under which something is in it:
`name ∈ tree.list folder ↔ (tree.member? folder name).isSome = true`. -/
theorem mem_list_iff {folder : Place} {name : String} :
    name ∈ tree.list folder ↔ (tree.member? folder name).isSome = true := by
  rw [list, List.mem_mergeSort, List.mem_filterMap, member?, node?, isSome_lookup_iff, List.mem_map]
  simp only [dropLast_eq_iff]

/-- **The names in a folder are in order,** and each is there once:
`(tree.list folder).Pairwise (· < ·)`. -/
theorem IsProper.pairwise_list (proper : tree.IsProper) (folder : Place) :
    (tree.list folder).Pairwise (· < ·) := by
  have once : (tree.nodes.filterMap fun entry =>
      if entry.1.dropLast == folder then entry.1.getLast? else none).Nodup := by
    have keys : ((tree.nodes.map Prod.fst).filterMap fun key =>
        if key.dropLast == folder then key.getLast? else none).Nodup := by
      refine List.Nodup.filterMap (fun first second name one other => ?_) proper.nodup
      rw [dropLast_eq_iff.1 one, dropLast_eq_iff.1 other]
    rwa [List.filterMap_map] at keys
  have sorted : (tree.list folder).Pairwise fun a b => decide (a ≤ b) = true :=
    List.pairwise_mergeSort (by simpa using fun _ _ _ => String.le_trans)
      (by simpa using String.le_total) _
  have apart : (tree.list folder).Nodup := (List.mergeSort_perm _ _).nodup_iff.2 once
  refine List.Pairwise.imp₂ (fun a b le ne => String.not_le.1 fun ge => ?_) sorted apart
  exact ne (String.le_antisymm (by simpa using le) ge)

/-! ## Paths to entries -/

/-- `tree.resolve path = .error (.refused .nameTooLong path)`: a path whose text is too long is
refused. -/
theorem resolve_of_long {path : String} (noNul : path.toList.contains '\x00' = false)
    (long : longestPath < path.utf8ByteSize) :
    tree.resolve path = .error (.refused .nameTooLong path) := by
  unfold resolve
  rw [noNul]
  simp [long]

/-- **A name that is too long** is refused:
`tree.resolve name = .error (.refused .nameTooLong name)`. -/
theorem resolve_of_longName (tree : FileTree) {name : String} (known : Path.IsName name)
    (noNul : name.toList.contains '\x00' = false) (long : longestName < name.utf8ByteSize) :
    tree.resolve name = .error (.refused .nameTooLong name) := by
  have alone : Path.names name = [name] := by
    have names := @Path.names_toString [name] (by simpa using known)
    rwa [Path.toString_single, if_neg (List.cons_ne_nil _ _)] at names
  have refused (place : Place) : tree.follow (.folder place) [name] = .error .nameTooLong := by
    simp [follow, enter, known.some, known.leads, long]
  unfold resolve
  rw [noNul, alone]
  by_cases whole : name.utf8ByteSize > longestPath
  · simp [whole]
  · simp [whole, known.some, refused]

variable {folder : Path} {place : Place} {name : String}

/-- `(folder.child name).toString.toList.contains '\x00' = false`: the text of the path to an entry
has no NUL characters. -/
theorem noNul_child (noNul : folder.toString.toList.contains '\x00' = false)
    (here : name.toList.contains '\x00' = false) :
    (folder.child name).toString.toList.contains '\x00' = false := by
  rw [Path.toString_child]
  split
  · have start : folder.anchor.toString.toList.contains '\x00' = false := by
      cases folder.anchor <;> decide
    simp only [String.toList_append, List.contains_append, start, here, Bool.or_false]
  · simp only [String.toList_append, List.contains_append, noNul, here, Bool.or_false,
      Bool.false_or]
    decide

/-- **What the path to an entry leads to** is what its name leads to in the folder. -/
theorem resolve_child_eq_ok_iff (known : ∀ name ∈ folder.parts, Path.IsName name)
    (found : tree.resolve folder.toString = .ok (.folder place)) (good : Path.IsName name)
    {spot : Spot} :
    tree.resolve (folder.child name).toString = .ok spot ↔
      (folder.child name).toString.toList.contains '\x00' = false ∧
        (folder.child name).toString.utf8ByteSize ≤ longestPath ∧
        tree.enter place name = .ok spot := by
  have below : ∀ other ∈ (folder.child name).parts, Path.IsName other := by
    simpa [Path.child, or_imp, forall_and, good] using known
  have followed := ((resolve_toString_eq_ok_iff known).1 found).2.2
  have entered : tree.follow (.folder (start folder.toString)) (folder.child name).parts =
      tree.enter place name := by
    rw [Path.child, follow_append, followed]
    change tree.follow (.folder place) [name] = _
    rw [follow]
    cases tree.enter place name <;> rfl
  rw [resolve_toString_eq_ok_iff below, start_child known good, entered]

/-- A name that an entry can have leads to what is in the folder under it. -/
theorem enter_of_isEntryName (good : IsEntryName name) : tree.enter place name =
    .ok (match tree.member? place name with
      | some .folder => .folder (place ++ [name])
      | some (.file content) => .file (place ++ [name]) content
      | none => .free place name) := by
  have stays : (name == "" || name == ".") = false := by
    simp [good.isName.some, good.isName.leads]
  have down : (name == "..") = false := by simpa using good.down
  rw [enter, stays, down, if_neg (by simp), if_neg (Nat.not_lt.2 good.short), if_neg (by simp), member?]
  cases tree.node? (place ++ [name]) with
  | none => rfl
  | some node => cases node <;> rfl

/-- **The path to an entry** leads to a file exactly if the entry is one, unless its text is too
long. -/
theorem regular?_child (known : ∀ name ∈ folder.parts, Path.IsName name)
    (found : tree.resolve folder.toString = .ok (.folder place)) (good : IsEntryName name)
    {node : Node} (here : tree.member? place name = some node) :
    tree.regular? (folder.child name) =
      if (folder.child name).toString.utf8ByteSize ≤ longestPath then .ok node.content?.isSome
      else .error (.refused .nameTooLong (folder.child name).toString) := by
  have noNul := noNul_child (resolve_eq_ok_iff.1 found).1 good.noNul
  split
  · next short =>
    have entered := @enter_of_isEntryName tree place name good
    rw [here] at entered
    have leads := (resolve_child_eq_ok_iff known found good.isName).2 ⟨noNul, short, entered⟩
    rw [regular?, leads]
    cases node <;> rfl
  · next long => rw [regular?, resolve_of_long noNul (Nat.not_le.1 long)]

/-- **A path to a file** is the path to an entry of the folder above. -/
theorem member?_of_regular? (known : ∀ name ∈ folder.parts, Path.IsName name)
    (found : tree.resolve folder.toString = .ok (.folder place)) (good : Path.IsName name)
    (regular : tree.regular? (folder.child name) = .ok true) :
    ∃ content, tree.member? place name = some (.file content) := by
  unfold regular? at regular
  split at regular
  · next names content leads =>
    have entered := ((resolve_child_eq_ok_iff known found good).1 leads).2.2
    refine ⟨content, ?_⟩
    unfold enter at entered
    split at entered
    · cases entered
    split at entered
    · cases entered
    split at entered
    · cases entered
    split at entered
    · cases entered
    · next there => cases entered; exact there
    · cases entered
  · cases regular
  · cases regular

end FileTree

end StringCatalog
