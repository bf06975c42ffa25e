import StringCatalog.Catalog.Source
import StringCatalog.Program.Scan
import StringCatalog.Resource.Source

/-! # Input formats

* **`Format`** — a kind of file that strings are read from.
* **`Format.supports`** — which files a format is for, by their suffix.
* **`Format.ofPath?`** — the first of some formats that is for a file.
* **`Format.read`** — the strings of a file. -/

namespace StringCatalog

/-- **A kind of file that strings are read from.** -/
inductive Format where
  /-- A catalog of translations. -/
  | catalog
  /-- A document with the strings of an application. -/
  | resources
  /-- A program. -/
  | program
  deriving DecidableEq, Repr

namespace Format

/-- All formats, in the order in which they are asked. -/
def all : List Format := [.catalog, .resources, .program]

/-- The suffixes of the files of a format. -/
def suffixes : Format → List String
  | .catalog => [".po", ".pot"]
  | .resources => [".xml"]
  | .program => [".py"]

/-- **Whether a format is for a file.** Suffixes may be in upper or lower case. -/
def supports (format : Format) (path : Path) : Bool :=
  format.suffixes.contains (Text.lower path.suffix)

/-- **The first of some formats that is for a file.** -/
def ofPath? (formats : List Format) (path : Path) : Option Format :=
  formats.find? (·.supports path)

/-- The note that a file is read. -/
def note (format : Format) (path : Path) : Note :=
  let step :=
    match format with
    | .catalog => "Parsing PO catalog: "
    | .resources => "Parsing Android resources: "
    | .program => "Scanning Python source: "
  .step (step ++ path.toString)

/-- What the bytes of a file come to in a format. The keywords are for programs. -/
def readBytes (format : Format) (keywords : List Program.Keyword) (tree : FileTree) (path : Path)
    (bytes : List UInt8) : Reading :=
  match format with
  | .catalog =>
      match Text.decode bytes with
      | .error fault => .failed (.input path.toString (.encoding fault))
      | .ok text => Catalog.readContent tree path.toString (Text.unifyNewlines text)
  | .resources => Resource.readBytes path bytes
  | .program => Program.readBytes keywords path bytes

/-- **The strings of a file,** with the note that it is read. -/
def read (format : Format) (keywords : List Program.Keyword) (tree : FileTree) (path : Path) :
    Reading :=
  (Reading.ofNote (format.note path)).append
    (match tree.read path.toString with
    | .error fault => .failed (.file fault)
    | .ok bytes => format.readBytes keywords tree path bytes)

end Format

end StringCatalog
