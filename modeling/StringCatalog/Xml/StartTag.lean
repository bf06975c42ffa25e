import StringCatalog.Xml.Doctype
import StringCatalog.Xml.Token
import StringCatalog.Xml.Uri

/-! # Start tags with namespaces

A start tag as it is written becomes the head of an element:

* **`Xml.Context`** — what a document says before its content.
* **`Xml.Binding.declare`** — what an attribute that declares a namespace binds.
* **`Xml.Tag.head?`** — the head of an element, with the remarks on it. -/

namespace StringCatalog.Xml

/-- **What a document says before its content.** -/
structure Context where
  /-- What the document type declares. -/
  doctype : Doctype
  /-- Whether the document says that it needs nothing else. -/
  isStandalone : Bool
  deriving Repr

/-- Whether every entity has to be declared: there is no place for further declarations, or the
document says that it needs none. -/
def Context.mustDeclare (context : Context) : Bool :=
  context.isStandalone || !context.doctype.isOpen

/-- Check a reference inside an attribute, and all references of the entity's text; the number
bounds how deep they may lead. There is no result where the document is not well formed. -/
def Context.checkValue? (context : Context) : Nat → List Piece → Option (List Remark)
  | 0, _ => none
  | depth + 1, pieces =>
      pieces.foldl
        (fun remarks? piece =>
          match remarks?, piece with
          | none, _ => none
          | some remarks, .char _ => some remarks
          | some remarks, .reference name =>
              match context.doctype.entities.lookup name with
              | some (.internal content) =>
                  if content.contains '<' then none
                  else
                    match readPieces? id content with
                    | none => none
                    | some inner => (context.checkValue? depth inner).map (remarks ++ ·)
              | some _ => none
              | none => if context.mustDeclare then none else some (remarks ++ [.warning]))
        (some [])

/-! ## Declarations of namespaces -/

/-- The namespace of the prefix `xml`. -/
def xmlSpace : List Char := "http://www.w3.org/XML/1998/namespace".toList

/-- The namespace that belongs to declarations alone. -/
def declarationSpace : List Char := "http://www.w3.org/2000/xmlns/".toList

/-- **What the declaration of a namespace binds,** and the remarks on it. -/
def Binding.declare (lead : Option (List Char)) (uri : List Char) : Option Binding × List Remark :=
  let binding : Binding := ⟨lead, uri⟩
  match lead with
  | none =>
      if uri.isEmpty then (some binding, [])
      else
        let remarks :=
          match uriForm? uri with
          | none => [Remark.error]
          | some .relative => [.warning]
          | some .absolute => []
        if uri == xmlSpace || uri == declarationSpace then (none, remarks ++ [.error])
        else (some binding, remarks)
  | some lead =>
      if lead == "xml".toList then (none, if uri == xmlSpace then [] else [.error])
      else if uri == xmlSpace || lead == "xmlns".toList || uri == declarationSpace || uri.isEmpty then
        (none, [.error])
      else (some binding, if (uriForm? uri).isNone then [.error] else [])

/-- The prefix that an attribute declares, if it declares one. -/
def Name.declaredLead? (name : Name) : Option (Option (List Char)) :=
  match name.lead with
  | none => if name.base == "xmlns".toList then some none else none
  | some lead => if lead == "xmlns".toList then some (some name.base) else none

/-! ## Attributes -/

/-- A value whose blanks are trimmed: none at its ends, and one between other pieces. The flag says
whether a blank would be one too many. -/
def trimPieces : Bool → List Piece → List Piece
  | _, [] => []
  | afterBlank, piece :: rest =>
      if piece == .char ' ' then
        match trimPieces true rest with
        | [] => []
        | kept => if afterBlank then kept else .char ' ' :: kept
      else piece :: trimPieces false rest

/-- What has been made of the attributes of a tag. -/
structure Sorted where
  /-- The bindings that they declare. -/
  bindings : List Binding
  /-- The others. -/
  plain : List Tag.Attribute
  /-- The remarks on them. -/
  remarks : List Remark
  deriving Repr

/-- Whether a value of `xml:space` is unusual. -/
def isOddSpace (name : Name) (value : List Char) : Bool :=
  name == ⟨some "xml".toList, "space".toList⟩ && value != "default".toList &&
    value != "preserve".toList

/-- One more attribute of an element. A prefix is declared once. -/
def Sorted.add? (context : Context) (element : List Char) (sorted : Sorted)
    (entry : Tag.Attribute) : Option Sorted :=
  let doctype := context.doctype
  let value :=
    if doctype.trims element entry.name.text then trimPieces true entry.value else entry.value
  match context.checkValue? (doctype.entities.length + 1) value with
  | none => none
  | some found =>
      let odd := if entry.name.isOdd then [Remark.error] else []
      match entry.name.declaredLead? with
      | some lead =>
          let (binding?, remarks) := Binding.declare lead (doctype.valueText value)
          let all := sorted.remarks ++ odd ++ found ++ remarks
          match binding? with
          | none => some { sorted with remarks := all }
          | some binding =>
              if sorted.bindings.any (·.lead == binding.lead) then none
              else some { sorted with bindings := sorted.bindings ++ [binding], remarks := all }
      | none =>
          let space :=
            if isOddSpace entry.name (doctype.valueText value) then [Remark.warning] else []
          some { sorted with
            plain := sorted.plain ++ [⟨entry.name, value⟩]
            remarks := sorted.remarks ++ odd ++ found ++ space }

/-- All attributes of an element. -/
def Sorted.all? (context : Context) (element : List Char) :
    Sorted → List Tag.Attribute → Option Sorted
  | sorted, [] => some sorted
  | sorted, entry :: rest =>
      match sorted.add? context element entry with
      | none => none
      | some next => Sorted.all? context element next rest

/-! ## Names -/

/-- The namespace of a name with a prefix, and a remark where the prefix is bound to none. -/
def spaceOfLead (scope : List Binding) (lead : List Char) : Option (List Char) × List Remark :=
  if lead == "xml".toList then (some xmlSpace, [])
  else
    match bindingOf? (some lead) scope with
    | some binding => (some binding.uri, [])
    | none => (none, [.error])

/-- The namespace of an element's name. -/
def elementSpace (scope : List Binding) (name : Name) : Option (List Char) × List Remark :=
  match name.lead with
  | some lead => spaceOfLead scope lead
  | none =>
      match bindingOf? none scope with
      | some binding => (if binding.uri.isEmpty then none else some binding.uri, [])
      | none => (none, [])

/-- The namespace of an attribute's name: without a prefix there is none. -/
def attributeSpace (scope : List Binding) (name : Name) : Option (List Char) × List Remark :=
  match name.lead with
  | some lead => spaceOfLead scope lead
  | none => (none, [])

/-- Whether two attributes have one name, though not one spelling. -/
def Attribute.clashes (entry other : Attribute) : Bool :=
  entry.name.base == other.name.base && entry.uri == other.uri && entry.name != other.name

/-- The remarks on attributes that share a name with an earlier one; there is no result where two
have the same spelling. -/
def clashes? : List Attribute → Option (List Remark)
  | [] => some []
  | entry :: rest =>
      if rest.any (·.name == entry.name) then none
      else
        (clashes? rest).map fun remarks =>
          if rest.any entry.clashes then .error :: remarks else remarks

/-- Whether a value of `xml:id` is no name. -/
def isOddId (doctype : Doctype) (entry : Attribute) : Bool :=
  entry.name == ⟨some "xml".toList, "id".toList⟩ &&
    (let value := skipBlanks (doctype.valueText entry.value)
    !isPlainName (value.reverse.dropWhile isBlank).reverse)

/-- **The head of an element,** given the bindings in scope around it, with the remarks on it. There
is no result where the tag is not well formed. -/
def Tag.head? (context : Context) (scope : List Binding) (line : Nat) (tag : Tag) :
    Option (Head × List Remark) :=
  let element := tag.name.text
  match Sorted.all? context element ⟨[], [], []⟩ tag.attributes with
  | none => none
  | some sorted =>
      let bindings := (context.doctype.bindingsOf element).foldl addBinding sorted.bindings
      let inner := bindings ++ scope
      let spaced := sorted.plain.map fun entry => (entry, attributeSpace inner entry.name)
      let entries := spaced.map fun (entry, found) =>
        (⟨entry.name, found.1, entry.value⟩ : Xml.Attribute)
      let (uri, elementRemarks) := elementSpace inner tag.name
      match clashes? entries with
      | none => none
      | some clashRemarks =>
          let odd := if tag.name.isOdd then [Remark.error] else []
          let ids := if entries.any (isOddId context.doctype) then [Remark.error] else []
          some (⟨tag.name, uri, bindings, entries, line⟩,
            odd ++ sorted.remarks ++ spaced.flatMap (fun (_, found) => found.2) ++ clashRemarks ++
              elementRemarks ++ ids)

end StringCatalog.Xml
