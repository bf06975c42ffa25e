import StringCatalog.FileTree.Fault
import StringCatalog.FileTree.Path
import StringCatalog.Text.Utf8

/-! # File trees

The files and folders below the root, as a value:

* **`FileTree`** — the entries, each under the names that lead to it from the root.
* **`FileTree.resolve`** — what a path leads to: a folder, a file, or a free place in a folder. A
  relative path starts at the working folder.
* **`FileTree.read`, `FileTree.write`** — the content of a file, and a tree with a file written.
* **`FileTree.makeFolders`** — a tree with a folder and the folders above it. What could be done
  before something went wrong stays done.
* **`FileTree.list`** — the names in a folder in order. -/

namespace StringCatalog

/-- An entry of a file tree. -/
inductive FileTree.Node where
  /-- A folder. -/
  | folder
  /-- A file with its bytes. -/
  | file (content : List UInt8)
  deriving DecidableEq, Repr

/-- A place in a file tree: the names that lead to it from the root. -/
abbrev FileTree.Place := List String

/-- **A tree of files.** The root and the working folder are always there and not among the
entries. -/
structure FileTree where
  /-- The entries, each under the names that lead to it from the root. -/
  entries : List (FileTree.Place × FileTree.Node)
  deriving Repr

namespace FileTree

/-- The tree with nothing in it. -/
def empty : FileTree := ⟨[]⟩

/-- The folders that are always there: the root and the working folder. -/
def fixed : List Place := [[], Path.workingFolder]

/-- All that is in a tree: the folders that are always there, and the entries. -/
def nodes (tree : FileTree) : List (Place × Node) :=
  fixed.map (·, .folder) ++ tree.entries

/-- **What is in a tree at a place.** -/
def node? (tree : FileTree) (place : Place) : Option Node :=
  tree.nodes.lookup place

/-- **The tree with an entry put at a place.** An entry that was there is replaced where it stood. -/
def put (tree : FileTree) (place : Place) (node : Node) : FileTree :=
  if fixed.contains place then tree
  else if (tree.entries.lookup place).isSome then
    ⟨tree.entries.map fun entry => if entry.1 == place then (place, node) else entry⟩
  else ⟨tree.entries ++ [(place, node)]⟩

/-- The tree with a folder at a place, if nothing is there yet. -/
def putFolder (tree : FileTree) (place : Place) : FileTree :=
  if (tree.node? place).isSome then tree else tree.put place .folder

/-- The places on the way to a place, from the root on. -/
def routes (place : Place) : List Place :=
  (List.range place.length).map (place.take ·)

/-- The tree with a folder at a path and the folders above it. -/
def addFolder (tree : FileTree) (path : Path) : FileTree :=
  let place := path.absolute.parts
  (routes place ++ [place]).foldl putFolder tree

/-- The tree with a file at a path and the folders above it. -/
def addFile (tree : FileTree) (path : Path) (content : List UInt8) : FileTree :=
  let place := path.absolute.parts
  ((routes place).foldl putFolder tree).put place (.file content)

/-! ## Following a path -/

/-- **What a path leads to.** -/
inductive Spot where
  /-- A folder. -/
  | folder (place : Place)
  /-- A file. -/
  | file (place : Place) (content : List UInt8)
  /-- A free name in a folder. -/
  | free (folder : Place) (name : String)
  deriving Repr

/-- The longest name of an entry, in bytes. -/
def longestName : Nat := 255

/-- The longest text of a path, in bytes. -/
def longestPath : Nat := 4095

/-- One name followed from a folder. One step up from the root is the root. -/
def enter (tree : FileTree) (folder : Place) (name : String) : Except FileCause Spot :=
  if name == "" || name == "." then .ok (.folder folder)
  else if name.utf8ByteSize > longestName then .error .nameTooLong
  else if name == ".." then .ok (.folder folder.dropLast)
  else
    match tree.node? (folder ++ [name]) with
    | some .folder => .ok (.folder (folder ++ [name]))
    | some (.file content) => .ok (.file (folder ++ [name]) content)
    | none => .ok (.free folder name)

/-- The names of a path followed from a spot on. -/
def follow (tree : FileTree) : Spot → List String → Except FileCause Spot
  | spot, [] => .ok spot
  | .folder place, name :: rest =>
      match tree.enter place name with
      | .error cause => .error cause
      | .ok spot => tree.follow spot rest
  | .file _ _, _ :: _ => .error .notFolder
  | .free _ _, _ :: _ => .error .missing

/-- The place that the names of a path are followed from. -/
def start (path : String) : Place :=
  if Path.isAbsoluteText path then [] else Path.workingFolder

/-- **What the text of a path leads to.** A slash at the end asks for a folder. -/
def resolve (tree : FileTree) (path : String) : Except FileFault Spot :=
  if path.toList.contains '\x00' then .error .nulInPath
  else
    let found :=
      if path.utf8ByteSize > longestPath then .error .nameTooLong
      else if path == "" then .error .missing
      else tree.follow (.folder (start path)) (Path.names path)
    match found with
    | .ok spot => .ok spot
    | .error cause => .error (.refused cause path)

/-- Whether a path leads to a file. -/
def isFile (tree : FileTree) (path : String) : Bool :=
  match tree.resolve path with
  | .ok (.file _ _) => true
  | _ => false

/-- Whether a path leads to a folder. -/
def isFolder (tree : FileTree) (path : String) : Bool :=
  match tree.resolve path with
  | .ok (.folder _) => true
  | _ => false

/-- **The folder that a path leads to, if it leads to one.** A name that is too long for any entry
is a fault here, not just nothing. -/
def folder? (tree : FileTree) (path : Path) : Except FileFault (Option Place) :=
  match tree.resolve path.toString with
  | .ok (.folder place) => .ok (some place)
  | .error (.refused .nameTooLong shown) => .error (.refused .nameTooLong shown)
  | _ => .ok none

/-- **Whether a path leads to a file,** for a path that is one of several. Here too it is a fault if
the path is too long. -/
def regular? (tree : FileTree) (path : Path) : Except FileFault Bool :=
  match tree.resolve path.toString with
  | .ok (.file _ _) => .ok true
  | .error (.refused .nameTooLong shown) => .error (.refused .nameTooLong shown)
  | _ => .ok false

/-! ## Reading -/

/-- **The bytes of a file.** -/
def read (tree : FileTree) (path : String) : Except FileFault (List UInt8) :=
  match tree.resolve path with
  | .error fault => .error fault
  | .ok (.folder _) => .error (.refused .isFolder path)
  | .ok (.free _ _) => .error (.refused .missing path)
  | .ok (.file _ content) => .ok content

/-- **The names in a folder in order.** -/
def list (tree : FileTree) (folder : Place) : List String :=
  let found := tree.nodes.filterMap fun entry =>
    if entry.1.dropLast == folder then entry.1.getLast? else none
  found.mergeSort fun a b => decide (a ≤ b)

/-! ## Writing -/

/-- The tree with one folder made unless it is there; the folder above has to be there. -/
def makeFolder (tree : FileTree) (path : String) : Except FileFault FileTree :=
  match tree.resolve path with
  | .ok (.free folder name) => .ok (tree.put (folder ++ [name]) .folder)
  | .ok (.folder _) => .ok tree
  | .ok (.file _ _) => .error (.refused .existing path)
  | .error fault => .error fault

/-- What comes of writing: the tree as it is then, and what went wrong, if anything did. -/
abbrev Written := FileTree × Option FileFault

/-- What comes of a step that makes all of it or nothing. -/
def written (tree : FileTree) : Except FileFault FileTree → Written
  | .ok later => (later, none)
  | .error fault => (tree, some fault)

/-- A folder and the folders above it, the names in reverse order. Folders above that could be made
are there even if the folder itself could not. -/
def makeFoldersUp (anchor : Path.Anchor) : List String → FileTree → Written
  | [], tree => tree.written (tree.makeFolder (Path.mk anchor []).toString)
  | name :: above, tree =>
      let path := (Path.mk anchor (name :: above).reverse).toString
      match tree.makeFolder path with
      | .error (.refused .missing _) =>
          match makeFoldersUp anchor above tree with
          | (made, some fault) => (made, some fault)
          | (made, none) => made.written (made.makeFolder path)
      | result => tree.written result

/-- **The tree with a folder and the folders above it.** -/
def makeFolders (tree : FileTree) (path : Path) : Written :=
  makeFoldersUp path.anchor path.parts.reverse tree

/-- The tree with a file written; its folder has to be there. -/
def writeFile (tree : FileTree) (path : Path) (content : List UInt8) :
    Except FileFault FileTree :=
  match tree.resolve path.toString with
  | .error fault => .error fault
  | .ok (.folder _) => .error (.refused .isFolder path.toString)
  | .ok (.file place _) => .ok (tree.put place (.file content))
  | .ok (.free folder name) => .ok (tree.put (folder ++ [name]) (.file content))

/-- **The tree with a file written and the folders above it made.** -/
def write (tree : FileTree) (path : Path) (content : List UInt8) : Written :=
  match tree.makeFolders path.parent with
  | (made, some fault) => (made, some fault)
  | (made, none) => made.written (made.writeFile path content)

/-! ## Comparing -/

/-- The path to a place: from the working folder on if it lies below, and from the root on if not. -/
def pathTo (place : Place) : Path :=
  if Path.workingFolder.isPrefixOf place then ⟨.working, place.drop Path.workingFolder.length⟩
  else ⟨.root, place⟩

/-- The files of a tree in the order of their paths. -/
def files (tree : FileTree) : List (String × List UInt8) :=
  let found := tree.entries.filterMap fun entry =>
    match entry.2 with
    | .file content => some ((pathTo entry.1).toString, content)
    | .folder => none
  found.mergeSort fun a b => decide (a.1 ≤ b.1)

/-- **The files that a later tree has and an earlier one has not,** or not with the same bytes. -/
def changes (earlier later : FileTree) : List (String × List UInt8) :=
  later.files.filter fun file => !earlier.files.contains file

end FileTree

end StringCatalog
