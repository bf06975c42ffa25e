import StringCatalog.Extraction.Reader
import StringCatalog.Proofs.FileTree.Folder
import StringCatalog.Proofs.Text.Utf8

/-! # Inputs

An input is a file, or stands for files of one folder:

* **`NamePattern.Matches`** — the names that the last name of a path stands for.
* **`FileTree.IsScan`** — what scanning a folder comes to: the supported files whose names match, in
  order, up to the first path that is too long.
* **`Reader.register_input`** — a file is added if its format is known and is refused otherwise;
  anything else is scanned, and nothing in it is refused.
* **`Reader.register_input_long`** — a name that is too long is a fault, also where it is a pattern
  for short ones. -/

namespace StringCatalog

/-! ## Patterns -/

/-- **The names that a pattern stands for.** Two stars stand for no files. -/
def NamePattern.Matches (pattern name : String) : Prop :=
  match NamePattern.ofName? pattern with
  | some (.exactly own) => name = own
  | some (.form glyphs) => matchesName glyphs name.toList = true
  | _ => False

/-- `matchesName [.run] name = true`: a star matches every name. -/
theorem matchesName_run (name : List Char) : matchesName [.run] name = true := by
  induction name with
  | nil => simp [matchesName]
  | cons c name ih => simp [matchesName, ih]

/-- A set of one letter, however often it stands there, is a pattern of its own. -/
theorem glyphs_repeated (count : Nat) :
    glyphs ('[' :: List.replicate (count + 1) 'a' ++ "].po".toList) =
      [.set false (List.replicate (count + 1) ('a', 'a')), .one '.', .one 'p', .one 'o'] := by
  have close : Glyph.setText? (List.replicate (count + 1) 'a' ++ "].po".toList) =
      some (List.replicate (count + 1) 'a', ".po".toList) := by
    have noBracket : ']' ∉ List.replicate (count + 1) 'a' := by simp [List.mem_replicate]
    exact Text.cutAt?_append noBracket ".po".toList
  have set : Glyph.ofSetText (List.replicate (count + 1) 'a') =
      .set false (List.replicate (count + 1) ('a', 'a')) := by
    have plain : (List.replicate (count + 1) 'a').contains '-' = false := by
      simp [List.mem_replicate]
    unfold Glyph.ofSetText
    rw [plain]
    dsimp only [Bool.false_eq_true, if_false, List.replicate_succ]
    simp [Glyph.rangesOf]
  rw [glyphs, List.cons_append, List.length_cons, glyphsWithin, Glyph.next, close]
  dsimp only
  rw [set]
  have long : (List.replicate (count + 1) 'a' ++ "].po".toList).length = count + 5 := by simp
  rw [long]
  rfl

/-- It matches that letter. -/
theorem matches_repeated (count : Nat) : NamePattern.Matches
    (String.ofList ('[' :: List.replicate (count + 1) 'a' ++ "].po".toList)) "a.po" := by
  have noStar : '*' ∉ '[' :: List.replicate (count + 1) 'a' ++ "].po".toList := by
    simp [List.mem_replicate]
  have form : NamePattern.ofName?
      (String.ofList ('[' :: List.replicate (count + 1) 'a' ++ "].po".toList)) =
      some (.form (glyphs ('[' :: List.replicate (count + 1) 'a' ++ "].po".toList))) := by
    have other : String.ofList ('[' :: List.replicate (count + 1) 'a' ++ "].po".toList) ≠ "**" := by
      intro same
      have := congrArg String.toList same
      simp at this
    unfold NamePattern.ofName?
    rw [String.toList_ofList, if_neg (by simpa using other), Text.contains_cons_of_not_mem noStar]
    simp
  rw [NamePattern.Matches, form]
  show matchesName (glyphs _) "a.po".toList = true
  rw [glyphs_repeated]
  simp [matchesName]

/-! ## Scans -/

namespace FileTree

variable {tree : FileTree} {formats : List Format} {folder : Path} {place : Place}
  {candidate : String → Prop}

/-- **What scanning a folder comes to:** the paths that are found, and a fault if there is one. The
candidates are the names that a pattern stands for. -/
structure IsScan (tree : FileTree) (formats : List Format) (folder : Path) (place : Place)
    (candidate : String → Prop) (found : List Path) (fault : Option FileFault) : Prop where
  /-- The paths are in order, and each is there once. -/
  increasing : found.Pairwise Path.Precedes
  /-- They lead to the files of the folder whose names are candidates and whose format is known. No
  path to a candidate up to there is too long. -/
  mem_iff : ∀ path, path ∈ found ↔ ∃ name, path = folder.child name ∧ candidate name ∧
    (∃ content, tree.member? place name = some (.file content)) ∧
    (Format.ofPath? formats path).isSome = true ∧
    ∀ other, candidate other → (tree.member? place other).isSome = true → other ≤ name →
      (folder.child other).toString.utf8ByteSize ≤ longestPath
  /-- Nothing goes wrong but that the path to a candidate is too long. -/
  fault_iff : ∀ cause, fault = some cause ↔ ∃ name, candidate name ∧
    (tree.member? place name).isSome = true ∧
    longestPath < (folder.child name).toString.utf8ByteSize ∧
    cause = .refused .nameTooLong (folder.child name).toString ∧
    ∀ other, candidate other → (tree.member? place other).isSome = true → other < name →
      (folder.child other).toString.utf8ByteSize ≤ longestPath

/-- **What an input comes to that is not a file.** -/
inductive Scans (tree : FileTree) (formats : List Format) (path : Path) :
    List Path → Option FileFault → Prop where
  /-- It is a folder, all names in which are candidates. -/
  | folder {place found fault} (here : tree.folder? path = .ok (some place))
      (scan : tree.IsScan formats path place (fun _ => True) found fault) :
      Scans tree formats path found fault
  /-- It is none, but is in a folder: its last name is a pattern for the names there. -/
  | pattern {place found fault} (nothing : tree.folder? path = .ok none)
      (above : tree.folder? path.parent = .ok (some place))
      (scan : tree.IsScan formats path.parent place (NamePattern.Matches path.name) found fault) :
      Scans tree formats path found fault
  /-- It is not in a folder. -/
  | missing (nothing : tree.folder? path = .ok none) (above : tree.folder? path.parent = .ok none) :
      Scans tree formats path [] none
  /-- It is too long. -/
  | tooLong {text} (long : tree.folder? path = .error (.refused .nameTooLong text)) :
      Scans tree formats path [] (some (.refused .nameTooLong text))
  /-- What it would be in is too long. -/
  | tooLongAbove {text} (nothing : tree.folder? path = .ok none)
      (above : tree.folder? path.parent = .error (.refused .nameTooLong text)) :
      Scans tree formats path [] (some (.refused .nameTooLong text))

/-- Why a path cannot be asked whether it leads to a file. -/
def fault? (tree : FileTree) (path : Path) : Option FileFault :=
  match tree.regular? path with
  | .error fault => some fault
  | .ok _ => none

/-- Whether a path leads to a file of a known format. -/
def isWanted (tree : FileTree) (formats : List Format) (path : Path) : Bool :=
  match tree.regular? path with
  | .ok true => (Format.ofPath? formats path).isSome
  | _ => false

/-- The paths up to the first one that is too long. -/
def reached (tree : FileTree) (paths : List Path) : List Path :=
  paths.takeWhile fun path => (tree.fault? path).isNone

/-- `tree.resolve path.toString = .ok (.folder place)`: the folder that a path leads to. -/
theorem resolve_of_folder? {path : Path} (here : tree.folder? path = .ok (some place)) :
    tree.resolve path.toString = .ok (.folder place) := by
  unfold folder? at here
  split at here
  · next found => cases here; exact found
  · cases here
  · cases here

/-- The only fault of asking for a folder. -/
theorem exists_of_folder?_eq_error {path : Path} {fault : FileFault}
    (failed : tree.folder? path = .error fault) : ∃ text, fault = .refused .nameTooLong text := by
  unfold folder? at failed
  split at failed
  · cases failed
  · next text _ => cases failed; exact ⟨text, rfl⟩
  · cases failed

/-- `tree.fault? path = none`: what is no folder can be asked whether it is a file. -/
theorem fault?_of_folder? {path : Path} (nothing : tree.folder? path = .ok none) :
    tree.fault? path = none := by
  unfold folder? at nothing
  unfold fault? regular?
  cases leads : tree.resolve path.toString with
  | ok spot => cases spot <;> rfl
  | error fault =>
      rw [leads] at nothing
      cases fault with
      | nulInPath => rfl
      | refused cause text =>
          cases cause with
          | nameTooLong => cases nothing
          | missing | existing | notFolder | isFolder => rfl

/-- An entry has a name that an entry can have. -/
theorem IsProper.isEntryName (proper : tree.IsProper) {name : String} {node : Node}
    (here : tree.member? place name = some node) : IsEntryName name := by
  have member : place ++ [name] ∈ tree.nodes.map Prod.fst := by
    rw [member?, node?] at here
    exact isSome_lookup_iff.1 (by rw [here]; rfl)
  exact proper.isEntryName_of_mem member name (by simp)

/-! ## In order -/

variable {names : List String}

/-- The first names in order, up to the first one that fails. -/
theorem mem_takeWhile_iff (sorted : names.Pairwise (· < ·)) {p : String → Bool} {name : String} :
    name ∈ names.takeWhile p ↔ name ∈ names ∧ ∀ other ∈ names, other ≤ name → p other = true := by
  induction names with
  | nil => simp
  | cons first names ih =>
      obtain ⟨least, sorted⟩ := List.pairwise_cons.1 sorted
      rw [List.takeWhile_cons]
      split
      · next holds =>
        rw [List.mem_cons, ih sorted, List.mem_cons, List.forall_mem_cons]
        constructor
        · rintro (rfl | ⟨member, all⟩)
          · refine ⟨.inl rfl, fun _ => holds, fun other inside le => ?_⟩
            exact absurd (least other inside) (String.not_lt.2 le)
          · exact ⟨.inr member, fun _ => holds, all⟩
        · rintro ⟨rfl | member, -, all⟩
          · exact .inl rfl
          · exact .inr ⟨member, all⟩
      · next fails =>
        refine iff_of_false List.not_mem_nil fun ⟨member, all⟩ => fails (all first (by simp) ?_)
        rcases List.mem_cons.1 member with rfl | inside
        · exact String.le_refl _
        · exact String.not_lt.1 (String.lt_asymm (least name inside))

/-- The first of some names in order for which there is something. -/
theorem findSome?_eq_some_iff_of_sorted (sorted : names.Pairwise (· < ·)) {α : Type}
    {f : String → Option α} {found : α} :
    names.findSome? f = some found ↔ ∃ name ∈ names, f name = some found ∧
      ∀ other ∈ names, other < name → f other = none := by
  rw [List.findSome?_eq_some_iff]
  constructor
  · rintro ⟨before, name, after, rfl, here, none⟩
    refine ⟨name, by simp, here, fun other member less => none other ?_⟩
    obtain ⟨-, rest, -⟩ := List.pairwise_append.1 sorted
    -- what comes behind the name is above it
    rcases List.mem_append.1 member with inside | inside
    · exact inside
    · rcases List.mem_cons.1 inside with rfl | inside
      · exact absurd less (String.lt_irrefl _)
      · exact absurd (List.rel_of_pairwise_cons rest inside) (String.lt_asymm less)
  · rintro ⟨name, member, here, none⟩
    obtain ⟨before, after, rfl⟩ := List.append_of_mem member
    refine ⟨before, name, after, rfl, here, fun other inside => none other (by simp [inside]) ?_⟩
    exact (List.pairwise_append.1 sorted).2.2 other inside name (by simp)

/-! ## Folders -/

/-- The path to an entry cannot be asked about exactly if it is too long. -/
theorem fault?_child (proper : tree.IsProper) (known : ∀ name ∈ folder.parts, Path.IsName name)
    (here : tree.resolve folder.toString = .ok (.folder place)) {name : String}
    (there : (tree.member? place name).isSome = true) :
    tree.fault? (folder.child name) =
      if (folder.child name).toString.utf8ByteSize ≤ longestPath then none
      else some (.refused .nameTooLong (folder.child name).toString) := by
  obtain ⟨node, there⟩ := Option.isSome_iff_exists.1 there
  rw [fault?, regular?_child known here (proper.isEntryName there) there]
  by_cases short : (folder.child name).toString.utf8ByteSize ≤ longestPath
  · rw [if_pos short, if_pos short]
  · rw [if_neg short, if_neg short]

/-- The path to an entry leads to a file of a known format if it is short enough, the entry is a file
and the format is known. -/
theorem isWanted_child (proper : tree.IsProper) (known : ∀ name ∈ folder.parts, Path.IsName name)
    (here : tree.resolve folder.toString = .ok (.folder place)) {name : String}
    (there : (tree.member? place name).isSome = true)
    (short : (folder.child name).toString.utf8ByteSize ≤ longestPath) :
    tree.isWanted formats (folder.child name) = true ↔
      (∃ content, tree.member? place name = some (.file content)) ∧
        (Format.ofPath? formats (folder.child name)).isSome = true := by
  obtain ⟨node, there⟩ := Option.isSome_iff_exists.1 there
  rw [isWanted, regular?_child known here (proper.isEntryName there) there, if_pos short, there]
  cases node <;> simp [Node.content?]

/-- A path to an entry can be asked about exactly if it is short enough. -/
theorem fault?_child_eq_none_iff (proper : tree.IsProper)
    (known : ∀ name ∈ folder.parts, Path.IsName name)
    (here : tree.resolve folder.toString = .ok (.folder place)) {name : String}
    (there : (tree.member? place name).isSome = true) :
    tree.fault? (folder.child name) = none ↔
      (folder.child name).toString.utf8ByteSize ≤ longestPath := by
  rw [fault?_child proper known here there]
  split <;> simp_all

/-- The paths that are reached are those to the first names. -/
theorem reached_map (folder : Path) (names : List String) :
    tree.reached (names.map folder.child) =
      (names.takeWhile fun name => (tree.fault? (folder.child name)).isNone).map folder.child := by
  rw [reached, List.takeWhile_map]
  rfl

section

variable (proper : tree.IsProper) (known : ∀ name ∈ folder.parts, Path.IsName name)
  (here : tree.resolve folder.toString = .ok (.folder place)) (sorted : names.Pairwise (· < ·))
  (all : ∀ name, name ∈ names ↔ candidate name ∧ (tree.member? place name).isSome = true)
include proper known here sorted all

/-- **The files that are found** among the candidates of a folder. -/
theorem mem_filter_reached_iff (path : Path) :
    path ∈ (tree.reached (names.map folder.child)).filter (tree.isWanted formats) ↔
      ∃ name, path = folder.child name ∧ candidate name ∧
        (∃ content, tree.member? place name = some (.file content)) ∧
        (Format.ofPath? formats path).isSome = true ∧
        ∀ other, candidate other → (tree.member? place other).isSome = true → other ≤ name →
          (folder.child other).toString.utf8ByteSize ≤ longestPath := by
  rw [List.mem_filter, reached_map, List.mem_map]
  constructor
  · rintro ⟨⟨name, member, rfl⟩, wanted⟩
    obtain ⟨inside, upTo⟩ := (mem_takeWhile_iff sorted).1 member
    have short (other : String) (among : other ∈ names) (le : other ≤ name) :=
      (fault?_child_eq_none_iff proper known here ((all other).1 among).2).1
        (Option.isNone_iff_eq_none.1 (upTo other among le))
    obtain ⟨fits, there⟩ := (all name).1 inside
    obtain ⟨file, supported⟩ := (isWanted_child proper known here there
      (short name inside (String.le_refl name))).1 wanted
    exact ⟨name, rfl, fits, file, supported,
      fun other also present => short other ((all other).2 ⟨also, present⟩)⟩
  · rintro ⟨name, rfl, fits, ⟨content, file⟩, supported, short⟩
    have there : (tree.member? place name).isSome = true := by rw [file]; rfl
    have inside := (all name).2 ⟨fits, there⟩
    refine ⟨⟨name, (mem_takeWhile_iff sorted).2 ⟨inside, fun other among le => ?_⟩, rfl⟩, ?_⟩
    · obtain ⟨also, present⟩ := (all other).1 among
      exact Option.isNone_iff_eq_none.2
        ((fault?_child_eq_none_iff proper known here present).2 (short other also present le))
    · exact (isWanted_child proper known here there
        (short name fits there (String.le_refl name))).2 ⟨⟨content, file⟩, supported⟩

/-- **The fault that ends a scan** is that of the first candidate whose path is too long. -/
theorem findSome?_fault?_eq_some_iff (cause : FileFault) :
    (names.map folder.child).findSome? tree.fault? = some cause ↔
      ∃ name, candidate name ∧ (tree.member? place name).isSome = true ∧
        longestPath < (folder.child name).toString.utf8ByteSize ∧
        cause = .refused .nameTooLong (folder.child name).toString ∧
        ∀ other, candidate other → (tree.member? place other).isSome = true → other < name →
          (folder.child other).toString.utf8ByteSize ≤ longestPath := by
  rw [List.findSome?_map, findSome?_eq_some_iff_of_sorted sorted]
  constructor
  · rintro ⟨name, inside, failed, first⟩
    obtain ⟨fits, there⟩ := (all name).1 inside
    change tree.fault? (folder.child name) = some cause at failed
    rw [fault?_child proper known here there] at failed
    split at failed
    · cases failed
    · next long =>
      cases failed
      refine ⟨name, fits, there, Nat.not_le.1 long, rfl, fun other also present less => ?_⟩
      exact (fault?_child_eq_none_iff proper known here present).1
        (first other ((all other).2 ⟨also, present⟩) less)
  · rintro ⟨name, fits, there, long, rfl, first⟩
    refine ⟨name, (all name).2 ⟨fits, there⟩, ?_, fun other among less => ?_⟩
    · show tree.fault? (folder.child name) = _
      rw [fault?_child proper known here there, if_neg (Nat.not_le.2 long)]
    · obtain ⟨also, present⟩ := (all other).1 among
      exact (fault?_child_eq_none_iff proper known here present).2 (first other also present less)

/-- **Going through the candidates of a folder in order** is a scan of it. -/
theorem isScan :
    tree.IsScan formats folder place candidate
      ((tree.reached (names.map folder.child)).filter (tree.isWanted formats))
      ((names.map folder.child).findSome? tree.fault?) where
  increasing := by
    rw [reached_map]
    refine List.Pairwise.sublist List.filter_sublist (List.pairwise_map.2 ?_)
    exact (sorted.sublist (List.takeWhile_sublist _)).imp folder.child_precedes
  mem_iff := mem_filter_reached_iff proper known here sorted all
  fault_iff := findSome?_fault?_eq_some_iff proper known here sorted all

end

end FileTree

namespace Reader

variable {reader : Reader} {tree : FileTree} {formats : List Format}

/-- **Adding the files among some paths** adds those of known formats, up to the first path that is
too long. -/
theorem addFound_eq (several : reader.kind = .any formats) (paths : List Path) :
    (reader.addFound tree paths).reader =
        { reader with
          paths := reader.paths ++ (tree.reached paths).filter (tree.isWanted formats) } ∧
      (reader.addFound tree paths).fault = (paths.findSome? tree.fault?).map .file := by
  induction paths generalizing reader with
  | nil => simp [addFound, FileTree.reached]
  | cons path paths ih =>
      cases regular : tree.regular? path with
      | error fault =>
          have failed : tree.fault? path = some fault := by rw [FileTree.fault?, regular]
          have none : tree.reached (path :: paths) = [] := by
            rw [FileTree.reached, List.takeWhile_cons, failed]
            rfl
          rw [addFound, regular, none, List.findSome?_cons, failed]
          simp
      | ok is =>
          have fine : tree.fault? path = none := by rw [FileTree.fault?, regular]
          have more : tree.reached (path :: paths) = path :: tree.reached paths := by
            rw [FileTree.reached, List.takeWhile_cons, fine]
            rfl
          rw [addFound, regular, more, List.filter_cons, List.findSome?_cons, fine,
            FileTree.isWanted, regular]
          cases is with
          | false => exact ih several
          | true =>
              dsimp only
              split
              · next known kind =>
                obtain rfl : formats = known := Kind.any.inj (several.symm.trans kind)
                split
                · have next := @ih (reader.push path) several
                  rw [next.1, next.2]
                  simp [push]
                · exact ih several
              · next other => exact absurd several (other formats)

/-- **A folder is scanned** for the names of a pattern without two stars. -/
theorem addMatching_eq (proper : tree.IsProper) (several : reader.kind = .any formats)
    {folder : Path} (known : ∀ name ∈ folder.parts, Path.IsName name) {place : FileTree.Place}
    (here : tree.folder? folder = .ok (some place)) {pattern : String}
    (single : Text.contains ['*', '*'] pattern.toList = false)
    (alone : NamePattern.ofName? pattern = some (.exactly pattern) →
      Path.IsName pattern ∧ tree.folder? (folder.child pattern) = .ok none) :
    ∃ found fault, (reader.addMatching tree folder place pattern).reader =
        { reader with paths := reader.paths ++ found } ∧
      (reader.addMatching tree folder place pattern).fault = fault.map .file ∧
      tree.IsScan formats folder place (NamePattern.Matches pattern) found fault := by
  have leads := FileTree.resolve_of_folder? here
  have stars : pattern ≠ "**" := by
    rintro rfl
    exact absurd single (by decide)
  unfold addMatching
  by_cases wild : pattern.toList.any (fun c => c == '*' || c == '?' || c == '[') = true
  · have form : NamePattern.ofName? pattern = some (.form (glyphs pattern.toList)) := by
      simp [NamePattern.ofName?, stars, single, wild]
    obtain ⟨added, failed⟩ := @addFound_eq reader tree formats several
      (((tree.list place).filter fun name => matchesName (glyphs pattern.toList) name.toList).map
        folder.child)
    rw [form]
    refine ⟨_, _, added, failed, FileTree.isScan proper known leads ?_ fun name => ?_⟩
    · exact (proper.pairwise_list place).filter _
    · rw [List.mem_filter, FileTree.mem_list_iff, NamePattern.Matches, form, and_comm]
  · have exactly : NamePattern.ofName? pattern = some (.exactly pattern) := by
      simp [NamePattern.ofName?, stars, single, wild]
    obtain ⟨isName, nothing⟩ := alone exactly
    have own (name : String) : NamePattern.Matches pattern name ↔ name = pattern := by
      rw [NamePattern.Matches, exactly]
    obtain ⟨added, failed⟩ := @addFound_eq reader tree formats several [folder.child pattern]
    rw [exactly]
    refine ⟨_, _, added, failed, ?_⟩
    by_cases there : (tree.member? place pattern).isSome = true
    · refine FileTree.isScan proper known leads (List.pairwise_singleton _ pattern) fun name => ?_
      rw [List.mem_singleton, own]
      exact ⟨fun same => ⟨same, same ▸ there⟩, And.left⟩
    · -- what is not there is not found, as if nothing had been looked for
      have unwanted : tree.isWanted formats (folder.child pattern) = false := by
        unfold FileTree.isWanted
        split
        · next regular =>
          obtain ⟨content, file⟩ := FileTree.member?_of_regular? known leads isName regular
          exact absurd (by rw [file]; rfl) there
        · rfl
      have fine := FileTree.fault?_of_folder? nothing
      have none := @FileTree.isScan tree formats folder place (NamePattern.Matches pattern) []
        proper known leads .nil fun name => by
          rw [own]
          exact iff_of_false List.not_mem_nil fun both => there (both.1 ▸ both.2)
      simpa [FileTree.reached, fine, unwanted] using none

/-- **What an input that is not a file comes to:** it is scanned, or nothing can be found. -/
theorem exists_scans (proper : tree.IsProper) (several : reader.kind = .any formats) {input : String}
    (single : Text.contains ['*', '*'] (Path.ofString input).name.toList = false)
    (noFile : tree.isFile input = false) :
    ∃ found fault, (reader.register tree input).reader =
        { reader with paths := reader.paths ++ found } ∧
      (reader.register tree input).fault = fault.map .file ∧
      tree.Scans formats (Path.ofString input) found fault := by
  have known : ∀ name ∈ (Path.ofString input).parts, Path.IsName name :=
    fun name member => (Path.of_mem_parts member).2
  have nothing : reader = { reader with paths := reader.paths ++ [] } := by rw [List.append_nil]
  rw [register, noFile, if_neg (by simp)]
  generalize Path.ofString input = path at single known
  cases here : tree.folder? path with
  | error fault =>
      obtain ⟨text, rfl⟩ := FileTree.exists_of_folder?_eq_error here
      exact ⟨[], some _, nothing, rfl, .tooLong here⟩
  | ok place =>
      cases place with
      | some place =>
          have star : NamePattern.ofName? "*" = some (.form [.run]) := by decide
          obtain ⟨found, fault, added, failed, scan⟩ :=
            @addMatching_eq reader tree formats proper several path known place here "*" (by decide)
              (by simp [star])
          refine ⟨found, fault, added, failed, .folder here ?_⟩
          have every : NamePattern.Matches "*" = fun _ => True := by
            funext name
            rw [NamePattern.Matches, star]
            exact eq_true (matchesName_run name.toList)
          exact every ▸ scan
      | none =>
          dsimp only
          unfold addBelow
          have up : ∀ name ∈ path.parent.parts, Path.IsName name :=
            fun name member => known name (List.dropLast_subset _ member)
          cases above : tree.folder? path.parent with
          | error fault =>
              obtain ⟨text, rfl⟩ := FileTree.exists_of_folder?_eq_error above
              exact ⟨[], some _, nothing, rfl, .tooLongAbove here above⟩
          | ok place =>
              cases place with
              | none => exact ⟨[], none, nothing, rfl, .missing here above⟩
              | some place =>
                  -- the working folder and the root are folders, so there is a last name
                  have begun : path.parts ≠ [] := by
                    intro empty
                    rw [Path.parent_of_parts_eq_nil empty, here] at above
                    cases above
                  have isName := known path.name (Path.name_mem_parts begun)
                  have whole := Path.parent_child_name begun
                  obtain ⟨found, fault, added, failed, scan⟩ := addMatching_eq proper several up above
                    single fun _ => ⟨isName, whole.symm ▸ here⟩
                  exact ⟨found, fault, added, failed, .pattern here above scan⟩

/-- **Inputs.** `reader.register tree input` adds a file if its format is known, and refuses it
otherwise. Anything else is scanned (`FileTree.Scans`): the reader has `reader.paths ++ found`,
files of unknown formats are passed over, and nothing is refused but what is too long. -/
theorem register_input (proper : tree.IsProper) (several : reader.kind = .any formats)
    (input : String) (single : Text.contains ['*', '*'] (Path.ofString input).name.toList = false) :
    (tree.isFile input = true → reader.register tree input =
      if (Format.ofPath? formats (.ofString input)).isSome then
        ⟨[], { reader with paths := reader.paths ++ [.ofString input] }, none⟩
      else ⟨[], reader, some (.unsupported input)⟩) ∧
    (tree.isFile input = false → ∃ found fault,
      (reader.register tree input).reader = { reader with paths := reader.paths ++ found } ∧
        (reader.register tree input).fault = fault.map .file ∧
        tree.Scans formats (.ofString input) found fault) := by
  refine ⟨fun file => ?_, exists_scans proper several single⟩
  rw [register, file, if_pos rfl, add, several]
  dsimp only
  by_cases known : (Format.ofPath? formats (.ofString input)).isSome = true
  · rw [if_pos known, if_pos known, push, several]
  · rw [if_neg known, if_neg known]

/-- The files that a star stands for, in order: neither the folder `x/d.po` nor the file of no known
format is among them. -/
theorem register_input_pattern :
    let tree : FileTree := ⟨[(["w", "x"], .folder), (["w", "x", "b.po"], .file []),
      (["w", "x", "y"], .folder), (["w", "x", "y", "c.po"], .file []),
      (["w", "x", "d.po"], .folder), (["w", "x", "n.txt"], .file []), (["w", "x", "a.po"], .file [])]⟩
    let reader := ofAll none 0
    let found := [Path.ofString "x/a.po", .ofString "x/b.po"]
    tree.isFile "x/*" = false ∧
      reader.register tree "x/*" =
        ⟨[.step "Skipping unsupported file: x/n.txt"], { reader with paths := found }, none⟩ ∧
      tree.Scans Format.all (.ofString "x/*") found none := by
  intro tree reader found
  have noFile : tree.isFile "x/*" = false := by decide
  have comes : reader.register tree "x/*" =
      ⟨[.step "Skipping unsupported file: x/n.txt"], { reader with paths := found }, none⟩ := by
    have nothing : tree.folder? (.ofString "x/*") = .ok none := by rfl
    have above : tree.folder? (Path.ofString "x/*").parent = .ok (some ["w", "x"]) := by rfl
    have below : (Path.ofString "x/*").name = "*" := by decide
    have star : NamePattern.ofName? "*" = some (.form [.run]) := by decide
    have entries : (tree.nodes.filterMap fun entry =>
        if entry.1.dropLast == ["w", "x"] then entry.1.getLast? else none) =
        ["b.po", "y", "d.po", "n.txt", "a.po"] := by decide
    have listed : tree.list ["w", "x"] = ["a.po", "b.po", "d.po", "n.txt", "y"] := by
      rw [FileTree.list, entries]
      simp [List.mergeSort]
    have chosen : (NamePattern.form [.run]).select tree ["w", "x"] =
        ["a.po", "b.po", "d.po", "n.txt", "y"] := by
      simp [NamePattern.select, listed, matchesName_run]
    rw [register, noFile, if_neg (by simp), nothing]
    simp only [addBelow, above, addMatching, below, star, chosen]
    rfl
  obtain ⟨paths, fault, added, failed, scans⟩ :=
    (@register_input reader tree Format.all (by decide) rfl "x/*" (by decide)).2 noFile
  rw [comes] at added failed
  obtain rfl : paths = found := by simpa [reader, ofAll] using added.symm
  obtain rfl : fault = none := by simpa using failed.symm
  exact ⟨noFile, comes, scans⟩

/-- **A name that is too long** is refused, whatever it is a pattern of. -/
theorem register_of_longName (reader : Reader) (tree : FileTree) {name : String}
    (known : Path.IsName name) (noNul : name.toList.contains '\x00' = false)
    (long : FileTree.longestName < name.utf8ByteSize) :
    reader.register tree name = ⟨[], reader, some (.file (.refused .nameTooLong name))⟩ := by
  have refused := tree.resolve_of_longName known noNul long
  have noFile : tree.isFile name = false := by rw [FileTree.isFile, refused]
  have noFolder : tree.folder? ⟨.working, [name]⟩ = .error (.refused .nameTooLong name) := by
    rw [FileTree.folder?, Path.toString_single, refused]
  rw [register, noFile, Path.ofString_single known, if_neg (by simp), noFolder]

/-- A file may have a name that matches a pattern that is too long for a name. It is not found. -/
theorem register_input_long :
    ∃ (tree : FileTree) (input : String), tree.IsProper ∧ tree.isFile input = false ∧
      Text.contains ['*', '*'] (Path.ofString input).name.toList = false ∧
      (∀ place, tree.folder? (.ofString input) ≠ .ok (some place)) ∧
      tree.folder? (Path.ofString input).parent = .ok (some Path.workingFolder) ∧
      NamePattern.Matches (Path.ofString input).name "a.po" ∧
      tree.member? Path.workingFolder "a.po" = some (.file []) ∧
      (Format.ofPath? Format.all ((Path.ofString input).parent.child "a.po")).isSome = true ∧
      (Path.ofString input).parent.child "a.po" ∉
        ((ofAll none 0).register tree input).reader.paths := by
  obtain ⟨count, large⟩ : ∃ count, FileTree.longestName ≤ count := ⟨_, Nat.le_refl _⟩
  have letters := @String.toList_ofList ('[' :: List.replicate (count + 1) 'a' ++ "].po".toList)
  have size := Text.length_le_utf8ByteSize ('[' :: List.replicate (count + 1) 'a' ++ "].po".toList)
  have fits := matches_repeated count
  generalize String.ofList ('[' :: List.replicate (count + 1) 'a' ++ "].po".toList) = input at *
  have known : Path.IsName input := by
    refine ⟨?_, ?_, ?_⟩
    · rintro rfl
      simp at letters
    · rintro rfl
      simp at letters
    · rw [letters]
      simp [List.mem_replicate]
  have noNul : input.toList.contains '\x00' = false := by
    rw [letters]
    simp [List.mem_replicate]
  have long : FileTree.longestName < input.utf8ByteSize := by
    simp only [List.length_append, List.length_cons, List.length_replicate] at size
    omega
  have path := Path.ofString_single known
  have name : (Path.ofString input).name = input := by rw [path]; rfl
  have above : (Path.ofString input).parent = ⟨.working, []⟩ := by rw [path]; rfl
  have refused := (FileTree.empty.addFile (.ofString "a.po") []).resolve_of_longName known noNul long
  have noFolder : (FileTree.empty.addFile (.ofString "a.po") []).folder? (.ofString input) =
      .error (.refused .nameTooLong input) := by
    rw [path, FileTree.folder?, Path.toString_single, refused]
  refine ⟨FileTree.empty.addFile (.ofString "a.po") [], input,
    FileTree.isProper_empty.addFile (by decide) [], ?_, ?_, ?_, ?_, ?_, by decide, ?_, ?_⟩
  · rw [FileTree.isFile, refused]
  · rw [name, letters]
    exact Text.contains_cons_of_not_mem (by simp [List.mem_replicate])
  · simp [noFolder]
  · rw [above]
    decide
  · rwa [name]
  · rw [above]
    decide
  · rw [register_of_longName (ofAll none 0) _ known noNul long]
    exact List.not_mem_nil

end Reader

end StringCatalog
