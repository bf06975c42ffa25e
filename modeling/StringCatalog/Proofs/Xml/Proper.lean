import StringCatalog.Proofs.Xml.Frame
import StringCatalog.Xml.Assembly
import StringCatalog.Xml.Transplant

/-! # Nodes that can be written

* **`Xml.Binding.IsProper`, `Xml.Attribute.IsProper`, `Xml.Head.IsProper`** — parts of a start tag
  that are read as they are written.
* **`Xml.Node.IsProper`** — the same of a node with all that is in it.
* **`Xml.Node.IsSpelledApart`** — no element in a node has two attributes that are written alike. -/

namespace StringCatalog.Xml

/-! ## Names -/

/-- **A prefix that may be bound.** -/
structure IsBindable (lead : List Char) : Prop where
  /-- It is a name without a colon. -/
  plain : isPlainName lead
  /-- It is not the one that is bound from the start. -/
  notXml : lead ≠ "xml".toList
  /-- It is not the one of declarations. -/
  notDeclaration : lead ≠ "xmlns".toList

/-- **A namespace that a prefix may be bound to.** -/
structure IsDeclarable (uri : List Char) : Prop where
  /-- Its characters are legal. -/
  legal : uri.all isChar
  /-- It is not empty. -/
  nonempty : uri ≠ []
  /-- It is not the one that is bound from the start. -/
  notXml : uri ≠ xmlSpace
  /-- It is not the one of declarations. -/
  notDeclaration : uri ≠ declarationSpace

/-- **A name whose parts are names,** the first of them without a colon. -/
structure Name.IsProper (name : Name) : Prop where
  /-- The last part. -/
  base : isName name.base
  /-- The first part. -/
  lead : ∀ lead ∈ name.lead, isPlainName lead

/-- The text of a proper name is a name. -/
theorem Name.IsProper.isName {name : Name} (h : name.IsProper) : isName name.text := by
  obtain ⟨lead, base⟩ := name
  cases lead with
  | none => exact h.base
  | some lead =>
      refine isName_append (isPlainName_iff.1 (h.lead lead rfl)).1 fun c member => ?_
      rcases List.mem_cons.1 member with rfl | member
      · decide
      · exact isNameChar_of_mem h.base member

/-- The name of a text that is one is proper. -/
theorem Name.isProper_ofText {text : List Char} (h : Xml.isName text) : (ofText text).IsProper := by
  -- an undivided text is its own last part
  cases found : ofText text with
  | mk lead base =>
      cases lead with
      | none =>
          have same : base = text := by rw [← text_ofText text, found, text_none]
          exact ⟨same ▸ h, by simp⟩
      | some lead =>
          obtain ⟨first, second⟩ := isPlainName_of_ofText found
          exact ⟨(isPlainName_iff.1 second).1, by simpa using first⟩

/-! ## Start tags -/

/-- **A binding that is read as it is written.** -/
structure Binding.IsProper (binding : Binding) : Prop where
  /-- The characters of the namespace are legal. -/
  legal : binding.uri.all isChar
  /-- The namespace is none that is bound from the start. -/
  notXml : binding.uri ≠ xmlSpace
  /-- The namespace is not the one of declarations. -/
  notDeclaration : binding.uri ≠ declarationSpace
  /-- A prefix may be bound, and to this namespace. -/
  lead : ∀ lead ∈ binding.lead, IsBindable lead ∧ binding.uri ≠ []

/-- Whether some pieces are legal characters and nothing else:
`∃ text : List Char, text.all isChar ∧ pieces = text.map .char`. -/
def IsPlain (pieces : List Piece) : Prop :=
  ∃ text : List Char, text.all isChar ∧ pieces = text.map .char

/-- **An attribute that is read as it is written.** -/
structure Attribute.IsProper (entry : Attribute) : Prop where
  /-- The name is proper. -/
  name : entry.name.IsProper
  /-- The name declares no binding. -/
  undeclared : (Name.ofText entry.name.text).declaredLead? = none
  /-- The value has no references. -/
  value : IsPlain entry.value
  /-- A prefix in a namespace may be bound, and to this namespace. -/
  space : ∀ uri ∈ entry.uri, ∀ lead ∈ entry.name.lead, lead ≠ "xml".toList →
    IsBindable lead ∧ IsDeclarable uri

/-- **An element's start that is read as it is written,** unless two attributes are written alike. -/
structure Head.IsProper (head : Head) : Prop where
  /-- The name is proper. -/
  name : head.name.IsProper
  /-- A prefix in a namespace may be bound. -/
  space : isBound head.name head.uri → ∀ lead ∈ head.name.lead, IsBindable lead
  /-- The bindings are proper. -/
  bindings : ∀ binding ∈ head.bindings, binding.IsProper
  /-- No prefix is bound twice. -/
  nodup : (head.bindings.map Binding.lead).Nodup
  /-- The attributes are proper. -/
  attributes : ∀ entry ∈ head.attributes, entry.IsProper

/-- **Attributes of which no two are written alike.** -/
def Head.IsSpelledApart (head : Head) : Prop :=
  (head.attributes.map fun entry => entry.name.text).Nodup

/-! ## Nodes -/

/-- **A comment that is read as it is written.** -/
structure IsProperComment (content : List Char) : Prop where
  /-- The characters are legal. -/
  legal : content.all isChar
  /-- No line ends with a carriage return. -/
  lines : '\r' ∉ content
  /-- Nothing in it closes it. -/
  inside : isCommentText content

/-- **An instruction that is read as it is written.** -/
structure IsProperInstruction (target data : List Char) : Prop where
  /-- The target is a name. -/
  name : isName target
  /-- It is not the one of the first line. -/
  notXml : target ≠ "xml".toList
  /-- The characters are legal. -/
  legal : data.all isChar
  /-- No line ends with a carriage return. -/
  lines : '\r' ∉ data
  /-- Nothing in it closes it. -/
  inside : ¬['?', '>'] <:+: data
  /-- Blanks before the data are not part of it. -/
  trimmed : ∀ c ∈ data.head?, isBlank c = false

/-- **A node that is read as it is written,** unless two attributes are written alike. -/
inductive Node.IsProper : Node → Prop
  | text {content : List Char} : content.all isChar → Node.IsProper (.text content)
  | comment {content : List Char} : IsProperComment content → Node.IsProper (.comment content)
  | instruction {target data : List Char} : IsProperInstruction target data →
      Node.IsProper (.instruction target data)
  | element {head : Head} {children : List Node} : head.IsProper →
      (∀ child ∈ children, child.IsProper) → Node.IsProper (.element head children)

/-- The start of a proper element is proper. -/
theorem Node.IsProper.head {head : Head} {children : List Node}
    (h : (Node.element head children).IsProper) : head.IsProper := by
  cases h
  assumption

/-- So are its children. -/
theorem Node.IsProper.children {head : Head} {children : List Node}
    (h : (Node.element head children).IsProper) : ∀ child ∈ children, child.IsProper := by
  cases h
  assumption

/-- **A node in which no element has two attributes that are written alike.** -/
inductive Node.IsSpelledApart : Node → Prop
  | text {content : List Char} : Node.IsSpelledApart (.text content)
  | comment {content : List Char} : Node.IsSpelledApart (.comment content)
  | instruction {target data : List Char} : Node.IsSpelledApart (.instruction target data)
  | reference {name : List Char} : Node.IsSpelledApart (.reference name)
  | element {head : Head} {children : List Node} : head.IsSpelledApart →
      (∀ child ∈ children, child.IsSpelledApart) → Node.IsSpelledApart (.element head children)

/-- `IsSpelledApart` of an element is that of its start and of its children. -/
theorem Node.isSpelledApart_element {head : Head} {children : List Node} :
    (Node.element head children).IsSpelledApart ↔
      head.IsSpelledApart ∧ ∀ child ∈ children, child.IsSpelledApart :=
  ⟨fun | .element apart inner => ⟨apart, inner⟩, fun ⟨apart, inner⟩ => .element apart inner⟩

end StringCatalog.Xml
