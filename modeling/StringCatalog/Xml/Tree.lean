import StringCatalog.Xml.Piece

/-! # Trees of a document

* **`Xml.Binding`** — a prefix bound to a namespace.
* **`Xml.Head`** — an element without its content.
* **`Xml.Node`** — an element, text, a comment, an instruction, or a reference that is kept.
* **`Xml.Node.write`** — a node as it is written.
* **`Xml.Node.writeAlone`** — a node as it is written outside its element, with the bindings of that
  element. -/

namespace StringCatalog.Xml

/-- **A prefix bound to a namespace,** or the namespace of names without a prefix. -/
structure Binding where
  /-- The prefix. -/
  lead : Option (List Char)
  /-- The namespace; an empty one takes a binding back. -/
  uri : List Char
  deriving DecidableEq, Repr

/-- An attribute of an element. -/
structure Attribute where
  /-- The name. -/
  name : Name
  /-- The namespace of the name, if its prefix is bound to one. -/
  uri : Option (List Char)
  /-- The value. -/
  value : List Piece
  deriving DecidableEq, Repr

/-- **An element without its content.** -/
structure Head where
  /-- The name. -/
  name : Name
  /-- The namespace of the name. -/
  uri : Option (List Char)
  /-- The bindings that the element declares. -/
  bindings : List Binding
  /-- The attributes that declare no binding. -/
  attributes : List Attribute
  /-- The line on which the start tag ends. -/
  line : Nat
  deriving DecidableEq, Repr

/-- The name of an element with its namespace in braces. -/
def Head.fullName (head : Head) : List Char :=
  match head.uri with
  | none => head.name.text
  | some uri => '\x7b' :: uri ++ '}' :: head.name.base

/-- The value of an attribute without a namespace. -/
def Head.attribute? (head : Head) (key : String) : Option (List Piece) :=
  (head.attributes.find? fun entry =>
    entry.uri.isNone && entry.name.text == key.toList).map Attribute.value

/-- **A node of a document.** -/
inductive Node where
  /-- Text; no two texts stand side by side. -/
  | text (content : List Char)
  /-- A comment. -/
  | comment (content : List Char)
  /-- An instruction for the program named first. -/
  | instruction (target data : List Char)
  /-- A reference to an entity by its name. -/
  | reference (name : List Char)
  /-- An element with its content. -/
  | element (head : Head) (children : List Node)
  deriving Repr

/-- Whether a node is text. -/
def Node.isText : Node → Bool
  | .text _ => true
  | _ => false

/-! ## Writing -/

/-- A binding as it is written in a start tag. -/
def Binding.write (binding : Binding) : List Char :=
  let key :=
    match binding.lead with
    | none => " xmlns".toList
    | some lead => " xmlns:".toList ++ lead
  key ++ "=\"".toList ++ escapeValue binding.uri ++ ['"']

/-- An attribute as it is written in a start tag. -/
def Attribute.write (entry : Attribute) : List Char :=
  ' ' :: entry.name.text ++ "=\"".toList ++ entry.value.flatMap Piece.writeValue ++ ['"']

/-- What a start tag holds behind its opening bracket. -/
def Head.write (head : Head) : List Char :=
  head.name.text ++ head.bindings.flatMap Binding.write ++ head.attributes.flatMap Attribute.write

/-- A comment as it is written. -/
def writeComment (content : List Char) : List Char :=
  "<!--".toList ++ content ++ "-->".toList

/-- An instruction as it is written. -/
def writeInstruction (target data : List Char) : List Char :=
  let inner := if data.isEmpty then target else target ++ ' ' :: data
  "<?".toList ++ inner ++ "?>".toList

/-- An element as it is written around its written content; an element with no node in it is closed
at once. -/
def writeElement (head : Head) (isEmpty : Bool) (content : List Char) : List Char :=
  if isEmpty then '<' :: head.write ++ "/>".toList
  else '<' :: head.write ++ '>' :: content ++ "</".toList ++ head.name.text ++ ['>']

mutual

/-- **A node as it is written.** -/
def Node.write : Node → List Char
  | .text content => escapeText content
  | .comment content => writeComment content
  | .instruction target data => writeInstruction target data
  | .reference name => referenceText name
  | .element head children => writeElement head children.isEmpty (writeNodes children)

/-- Nodes as they are written one after another. -/
def writeNodes : List Node → List Char
  | [] => []
  | node :: rest => node.write ++ writeNodes rest

end

/-! ## Writing outside of an element -/

/-- The binding of a prefix that is next on the way outwards. -/
def bindingOf? (lead : Option (List Char)) (scope : List Binding) : Option Binding :=
  scope.find? fun binding => binding.lead == lead

/-- Bindings with one more behind, unless its prefix is bound already. -/
def addBinding (bindings : List Binding) (binding : Binding) : List Binding :=
  if bindings.any (·.lead == binding.lead) then bindings else bindings ++ [binding]

/-- The prefix whose binding a name needs: none if the name has no namespace, or if its prefix is
the one that every document has bound. -/
def neededLead? (name : Name) (uri : Option (List Char)) : Option (Option (List Char)) :=
  if uri.isNone || name.lead == some ['x', 'm', 'l'] then none else some name.lead

/-- **The bindings of an element that stands alone:** its own, those that its name and its
attributes need, and then all others in scope, the nearest first. -/
def bindingsAlone (head : Head) (scope : List Binding) : List Binding :=
  let leads := neededLead? head.name head.uri ::
    head.attributes.map fun entry => neededLead? entry.name entry.uri
  let needed := (leads.filterMap id).filterMap fun lead => bindingOf? lead scope
  (needed ++ scope).foldl addBinding head.bindings

/-- **A node as it is written outside its element,** given the bindings in scope there, the nearest
first. -/
def Node.writeAlone (scope : List Binding) : Node → List Char
  | .element head children =>
      (Node.element { head with bindings := bindingsAlone head scope } children).write
  | node => node.write

end StringCatalog.Xml
