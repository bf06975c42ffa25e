import StringCatalog.Catalog.Stanza
import StringCatalog.Extraction.Reader
import StringCatalog.Resource.Refusal

/-! # Writers

A writer has the form in which strings are written:

* **`Writer`** — a writer of catalogs, of resource documents, or of nothing yet.
* **`Writer.render`** — the text that some strings are written as.
* **`deliver`** — a text handed over: to standard output, or to a file.
* **`deliverNothing`** — a text handed over for which there are no bytes.
* **`Writer.generate`** — strings written and handed over.
* **`Writer.reduce`** — the strings of a master catalog that another one still has. -/

namespace StringCatalog

/-- The form in which a writer writes. -/
inductive Writer.Kind where
  /-- As a catalog. -/
  | catalog
  /-- As a resource document. -/
  | resources
  /-- In no form: such a writer cannot write. -/
  | unknown
  deriving DecidableEq, Repr

/-- **A writer of strings.** -/
structure Writer where
  /-- The form in which it writes. -/
  kind : Writer.Kind
  /-- How much detail its notes show. -/
  logLevel : Int
  /-- What derived resource identifiers begin with. -/
  stem : String
  deriving DecidableEq, Repr

/-! ## Delivery -/

/-- **What comes of handing over a text:** the files as they are then, what went to standard output,
and what went wrong, if anything did. -/
structure Delivery where
  /-- The files. -/
  tree : FileTree
  /-- What went to standard output. -/
  output : Option String
  /-- What went wrong. -/
  fault : Option Fault

/-- What comes of handing over nothing because of a fault. -/
def Delivery.none (tree : FileTree) (fault : Fault) : Delivery :=
  ⟨tree, .none, some fault⟩

/-- What stands for standard output in place of a path. -/
def standardOutput : String := "-"

/-- **A text handed over.** -/
def deliver (tree : FileTree) (content destination : String) : Delivery :=
  if destination == standardOutput then ⟨tree, some content, none⟩
  else
    let (later, fault) := tree.write (.ofString destination) (Text.encode content)
    ⟨later, none, fault.map Fault.file⟩

/-- **A text handed over for which there are no bytes.** That is found out only once the file has been
opened, so it is left empty. -/
def deliverNothing (tree : FileTree) (fault : Text.EncodeFault) (destination : String) : Delivery :=
  if destination == standardOutput then .none tree (.encoding fault)
  else
    let (later, refused) := tree.write (.ofString destination) []
    ⟨later, none, some ((refused.map Fault.file).getD (.encoding fault))⟩

namespace Writer

/-- **The text that some strings are written as.** -/
def render (writer : Writer) (strings : List Translatable) : Except Fault String :=
  match writer.kind with
  | .catalog => .ok (Catalog.render strings)
  | .resources =>
      match Resource.render writer.stem strings with
      | .error _ => .error (Resource.refusal writer.stem strings)
      | .ok document => .ok document
  | .unknown => .error .noFormat

/-- Why there are no bytes for the text that some strings are written as, if that is so. A resource
document is made of bytes. -/
def encodeFault? (writer : Writer) (strings : List Translatable) : Option Text.EncodeFault :=
  match writer.kind with
  | .catalog => Catalog.encodeFault? strings
  | .resources | .unknown => none

/-- **Strings written and handed over.** Nothing is handed over that could not be written. -/
def generate (writer : Writer) (strings : List Translatable) (tree : FileTree)
    (destination : String) : Delivery :=
  match writer.render strings with
  | .error fault => .none tree fault
  | .ok content =>
      match writer.encodeFault? strings with
      | some fault => deliverNothing tree fault destination
      | none => deliver tree content destination

/-! ## Reducing -/

/-- **The strings of a master catalog that another one still has,** going by their untranslated
singulars. -/
def retained (master retain : List Translatable) : List Translatable :=
  master.filter fun string => retain.any (·.wording == string.wording)

/-- **A master catalog reduced to what another one still has,** with what is shown meanwhile. The
other one is read first. -/
def reduce (writer : Writer) (tree : FileTree) (master retain : Reader) :
    Progress (List Translatable) :=
  (retain.progress tree).andThen fun kept =>
    (master.progress tree).andThen fun strings =>
      let left := retained strings kept
      let note := Note.step ("Reduced master catalog to " ++ toString left.length ++ " strings")
      ⟨ConsoleLine.ofNotes writer.logLevel [note], .ok left⟩

end Writer

end StringCatalog
