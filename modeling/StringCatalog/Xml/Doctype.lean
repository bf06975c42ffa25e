import StringCatalog.Xml.Piece
import StringCatalog.Xml.Tree

/-! # What a document type declares

* **`Xml.Entity`** — what a name in a reference stands for.
* **`Xml.Doctype`** — the declarations that bear on the content of a document.
* **`Xml.Remark`** — what a reader of documents remarks without giving up. -/

namespace StringCatalog.Xml

/-- **What is remarked without giving up.** The last remark on a document decides whether the document
is taken. -/
inductive Remark where
  /-- Something is unusual. -/
  | warning
  /-- Something is wrong with a namespace or a declaration. -/
  | error
  deriving DecidableEq, Repr

/-- The last of the remarks, given the last one before them. -/
def lastRemark (before : Option Remark) (remarks : List Remark) : Option Remark :=
  match remarks.getLast? with
  | some remark => some remark
  | none => before

/-- **What a name in a reference stands for.** -/
inductive Entity where
  /-- A text of the document type. -/
  | internal (content : List Char)
  /-- A text elsewhere. -/
  | external
  /-- Something that is no text. -/
  | unparsed
  deriving DecidableEq, Repr

/-- **The declarations that bear on the content of a document.** -/
structure Doctype where
  /-- The entities by their names, the first declaration of a name first. -/
  entities : List (List Char × Entity)
  /-- The entities that only declarations refer to. -/
  parameters : List (List Char × Entity)
  /-- The attributes by element and name, and whether the blanks of their values are trimmed. -/
  trimmed : List ((List Char × List Char) × Bool)
  /-- The bindings that elements declare without writing them. -/
  bindings : List (List Char × Binding)
  /-- The elements that have been declared. -/
  elements : List (List Char)
  /-- Whether there may be declarations that have not been read. -/
  isOpen : Bool
  /-- The last remark on the declarations. -/
  remark : Option Remark
  deriving Repr

namespace Doctype

/-- The document type without declarations. -/
def none : Doctype := ⟨[], [], [], [], [], false, .none⟩

/-- Whether the blanks of an attribute's value are trimmed. -/
def trims (doctype : Doctype) (element name : List Char) : Bool :=
  (doctype.trimmed.lookup (element, name)).getD false

/-- The bindings that an element declares without writing them. -/
def bindingsOf (doctype : Doctype) (element : List Char) : List Binding :=
  (doctype.bindings.filter fun entry => entry.1 == element).map Prod.snd

/-- The characters of a value, every reference to a declared text replaced by it; the number bounds
how deep references may lead. -/
def expand (doctype : Doctype) : Nat → List Piece → List Char
  | 0, _ => []
  | depth + 1, pieces =>
      pieces.flatMap fun piece =>
        match piece with
        | .char c => [c]
        | .reference name =>
            match doctype.entities.lookup name with
            | some (.internal content) =>
                match readPieces? (fun c => if isBlank c then ' ' else c) content with
                | some inner => doctype.expand depth inner
                | .none => []
            | _ => []

/-- **The characters of a value.** References lead from entity to entity without a loop, so that
their number bounds the depth. -/
def valueText (doctype : Doctype) (pieces : List Piece) : List Char :=
  doctype.expand (doctype.entities.length + 1) pieces

end Doctype

end StringCatalog.Xml
