import StringCatalog.Catalog.Fault
import StringCatalog.FileTree.Fault
import StringCatalog.Text.Utf8
import StringCatalog.Text.Wording
import StringCatalog.Translatable.Reference

/-! # Faults

* **`InputFault`** — why the content of a file cannot be read in its format.
* **`Fault`** — why an operation fails, and **`Fault.message`**, its wording. -/

namespace StringCatalog

/-- **Why the content of a file cannot be read in its format.** -/
inductive InputFault where
  /-- The bytes are no text. -/
  | encoding (fault : Text.DecodeFault)
  /-- The bytes of the file that a catalog's content names are no text. -/
  | named (fault : Text.DecodeFault)
  /-- The lines are no catalog. -/
  | catalog (fault : Catalog.Fault)
  /-- The text is no well-formed document. -/
  | document
  /-- The document has another root element. -/
  | root (name : String)
  /-- The text is no program. -/
  | program
  deriving DecidableEq, Repr

/-- The wording of an input's fault; what a grammar objects to is told apart no further. -/
def InputFault.message? : InputFault → Option String
  | .encoding fault => some ("not valid UTF-8: " ++ fault.message)
  | .named fault => some fault.message
  | .catalog fault => some fault.message
  | .document => none
  | .root name => some ("expected <resources> root element, got <" ++ name ++ ">")
  | .program => none

/-- **Why an operation fails.** -/
inductive Fault where
  /-- Some parts make no translatable string. -/
  | draft (fault : Translatable.DraftFault)
  /-- No input format has this suffix. -/
  | unsupported (path : String)
  /-- The content of a file cannot be read. -/
  | input (path : String) (fault : InputFault)
  /-- The file system refuses. -/
  | file (fault : FileFault)
  /-- A reference cannot be made relative. -/
  | reference (fault : Reference.Fault)
  /-- Two stars stand in a name pattern with something else. -/
  | starPattern
  /-- A text has characters that no document can hold. -/
  | notInDocument
  /-- A text has halves of pairs, for which there are no bytes. -/
  | encoding (fault : Text.EncodeFault)
  /-- Inputs without a format cannot be read, nor can strings be written without one. -/
  | noFormat
  /-- A reader of one format cannot tell which files it supports. -/
  | noSupport
  /-- A form that is open cannot be compared. -/
  | openComparison
  /-- A form that is open cannot be written. -/
  | openForm
  /-- A string has no form at all. -/
  | noForm
  /-- Only resource documents take over the names of another one. -/
  | noCarryOver
  /-- Nothing has this name. -/
  | unknownName
  deriving DecidableEq, Repr

/-- **The wording of a fault,** if it has one. -/
def Fault.message? : Fault → Option String
  | .draft fault => some fault.message
  | .unsupported path => some ("No parser supports input: " ++ path)
  | .input path fault => fault.message?.map fun detail => path ++ ": " ++ detail
  | .file fault => some fault.message
  | .starPattern => some "Invalid pattern: '**' can only be an entire path component"
  | .notInDocument =>
      some ("All strings must be XML compatible: Unicode or ASCII, no NULL bytes or control " ++
        "characters")
  | .encoding fault => some fault.message
  | .reference _ => none
  | .noFormat => none
  | .noSupport => none
  | .openComparison => none
  | .openForm => none
  | .noForm => none
  | .noCarryOver => none
  | .unknownName => none

end StringCatalog
