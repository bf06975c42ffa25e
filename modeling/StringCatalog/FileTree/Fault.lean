import StringCatalog.Text.Quoted

/-! # Faults of a file tree

* **`FileCause`** — what the file system objects to, with its number and wording.
* **`FileFault`** — a cause together with the path as it was given; a path that holds a NUL
  character is refused before any file is looked for. -/

namespace StringCatalog

/-- **What a file system objects to.** -/
inductive FileCause where
  /-- Nothing has this name. -/
  | missing
  /-- Something has this name already. -/
  | existing
  /-- A file stands where a folder is needed. -/
  | notFolder
  /-- A folder stands where a file is needed. -/
  | isFolder
  /-- No entry can have a name this long. -/
  | nameTooLong
  deriving DecidableEq, Repr

namespace FileCause

/-- The number of a cause. -/
def number : FileCause → Nat
  | .missing => 2
  | .existing => 17
  | .notFolder => 20
  | .isFolder => 21
  | .nameTooLong => 36

/-- The wording of a cause. -/
def message : FileCause → String
  | .missing => "No such file or directory"
  | .existing => "File exists"
  | .notFolder => "Not a directory"
  | .isFolder => "Is a directory"
  | .nameTooLong => "File name too long"

end FileCause

/-- **Why an operation on a file tree fails.** -/
inductive FileFault where
  /-- The file system refuses a path. -/
  | refused (cause : FileCause) (path : String)
  /-- The path holds a NUL character. -/
  | nulInPath
  deriving DecidableEq, Repr

/-- **The wording of a fault,** with the path in quotes. -/
def FileFault.message : FileFault → String
  | .refused cause path =>
      "[Errno " ++ toString cause.number ++ "] " ++ cause.message ++ ": " ++ Text.quoted path
  | .nulInPath => "embedded null byte"

end StringCatalog
