import StringCatalog.Extraction.Format
import StringCatalog.Extraction.Sighting
import StringCatalog.FileTree.Pattern
import StringCatalog.Progress

/-! # Readers

A reader has a list of files that it reads whenever it is asked:

* **`Reader`** — a reader of one format, of several, or of none.
* **`Reader.add`** — a reader with one more file.
* **`Reader.register`** — a reader given a file, the files of a folder, or those of a folder that a
  name pattern stands for.
* **`Reader.addInput`** — the reader with all of them.
* **`Reader.read`** — the strings of all files. -/

namespace StringCatalog

/-- What a reader reads. -/
inductive Reader.Kind where
  /-- Files of one format, whatever their suffix. -/
  | only (format : Format)
  /-- Files of several formats by their suffix; sightings of one string become one. -/
  | any (formats : List Format)
  /-- No format: such a reader cannot read a file. -/
  | unknown
  deriving DecidableEq, Repr

/-- **A reader of files.** -/
structure Reader where
  /-- What it reads. -/
  kind : Reader.Kind
  /-- The folder that references are made relative to, where several formats are read. -/
  root : Option String
  /-- How much detail its notes show. -/
  logLevel : Int
  /-- The functions that are looked for in programs. -/
  keywords : List Program.Keyword
  /-- The files, in the order in which they are read. -/
  paths : List Path
  deriving DecidableEq, Repr

namespace Reader

/-- A reader of all formats that has no files yet. -/
def ofAll (root : Option String) (logLevel : Int) : Reader :=
  ⟨.any Format.all, root, logLevel, Program.Keyword.usual, []⟩

/-- A reader of catalogs that has no files yet. -/
def ofCatalogs (root : Option String) (logLevel : Int) : Reader :=
  ⟨.only .catalog, root, logLevel, Program.Keyword.usual, []⟩

/-! ## Adding files -/

/-- The reader with a path more. -/
def push (reader : Reader) (path : Path) : Reader :=
  { reader with paths := reader.paths ++ [path] }

/-- **The reader with one more file.** A reader of several formats takes only files of these. -/
def add (reader : Reader) (path : String) : Except Fault Reader :=
  match reader.kind with
  | .any formats =>
      if (Format.ofPath? formats (.ofString path)).isSome then .ok (reader.push (.ofString path))
      else .error (.unsupported path)
  | _ => .ok (reader.push (.ofString path))

/-- **What comes of adding files:** the reader as it is then, and what went wrong, if anything did.
Files that were added before something went wrong stay added. -/
structure Added where
  /-- What was noted meanwhile. -/
  notes : List Note
  /-- The reader with the files that could be added. -/
  reader : Reader
  /-- Why the others could not. -/
  fault : Option Fault

/-- The reader with those of some paths that are files it supports, with notes on the other files.
Only a reader of several formats can tell. -/
def addFound (reader : Reader) (tree : FileTree) : List Path → Added
  | [] => ⟨[], reader, none⟩
  | path :: rest =>
      match tree.regular? path with
      | .error fault => ⟨[], reader, some (.file fault)⟩
      | .ok false => reader.addFound tree rest
      | .ok true =>
          match reader.kind with
          | .any formats =>
              if (Format.ofPath? formats path).isSome then (reader.push path).addFound tree rest
              else
                let added := reader.addFound tree rest
                { added with
                  notes := .step ("Skipping unsupported file: " ++ path.toString) :: added.notes }
          | _ => ⟨[], reader, some .noSupport⟩

/-- The reader with the files of a folder that a name pattern stands for. -/
def addMatching (reader : Reader) (tree : FileTree) (folder : Path) (place : FileTree.Place)
    (name : String) : Added :=
  match NamePattern.ofName? name with
  | none => ⟨[], reader, some .starPattern⟩
  | some pattern => reader.addFound tree ((pattern.select tree place).map folder.child)

/-- The reader with the files that the last name of a path stands for in the folder above. -/
def addBelow (reader : Reader) (tree : FileTree) (input : String) (path : Path) : Added :=
  match tree.folder? path.parent with
  | .error fault => ⟨[], reader, some (.file fault)⟩
  | .ok (some place) => reader.addMatching tree path.parent place path.name
  | .ok none => ⟨[.step ("Skipping unresolvable input: " ++ input)], reader, none⟩

/-- **A reader given an input:** a file, the files of a folder, or the files of a folder that a name
pattern stands for. -/
def register (reader : Reader) (tree : FileTree) (input : String) : Added :=
  let path := Path.ofString input
  if tree.isFile input then
    match reader.add input with
    | .error fault => ⟨[], reader, some fault⟩
    | .ok later => ⟨[], later, none⟩
  else
    match tree.folder? path with
    | .error fault => ⟨[], reader, some (.file fault)⟩
    | .ok (some place) => reader.addMatching tree path place "*"
    | .ok none => reader.addBelow tree input path

/-- **The reader with an input,** and notes on it, if nothing goes wrong. -/
def addInput (reader : Reader) (tree : FileTree) (input : String) :
    List Note × Except Fault Reader :=
  let added := reader.register tree input
  match added.fault with
  | some fault => (added.notes, .error fault)
  | none => (added.notes, .ok added.reader)

/-! ## Reading -/

/-- What a file comes to for a reader. -/
def readFile (reader : Reader) (tree : FileTree) (path : Path) : Reading :=
  match reader.kind with
  | .only format => format.read reader.keywords tree path
  | .any formats =>
      match Format.ofPath? formats path with
      | some format => format.read Program.Keyword.usual tree path
      | none => .failed (.unsupported path.toString)
  | .unknown => .failed .noFormat

/-- **The strings of all files.** Where several formats are read, there are no strings before all
files have been read. -/
def read (reader : Reader) (tree : FileTree) : Reading :=
  let reading := Reading.sequence (reader.paths.map (reader.readFile tree))
  match reader.kind with
  | .any _ => (reading.relative reader.root).merged
  | _ => reading

/-- What a reader shows of a reading. -/
def shown (reader : Reader) (reading : Reading) : List ConsoleLine :=
  ConsoleLine.ofNotes reader.logLevel reading.notes

/-- The strings of all files, if all can be read, and what is shown meanwhile. -/
def progress (reader : Reader) (tree : FileTree) : Progress (List Translatable) :=
  let reading := reader.read tree
  ⟨reader.shown reading, reading.all?⟩

end Reader

end StringCatalog
