import StringCatalog.Fault
import StringCatalog.Resource.Slot
import StringCatalog.Xml.Document
import StringCatalog.Xml.Transplant

/-! # Writing resource documents

* **`Resource.Item`** — a name with the content under it.
* **`Resource.embed`** — a text as content: markup where the text is well formed, plain text
  otherwise.
* **`Resource.write`** — the document of some items.
* **`Resource.render`** — the document of some strings. -/

namespace StringCatalog.Resource

/-- **A name with the content under it.** -/
structure Item where
  /-- The name. -/
  name : List Char
  /-- The bindings that the element has to declare for its content. -/
  bindings : List Xml.Binding
  /-- The content. -/
  content : List Xml.Node
  deriving Repr

/-- The nodes of a text that is well formed inside an element. -/
def markup? (text : List Char) : Option (List Xml.Binding × List Xml.Node) :=
  (Xml.Document.ofText? ("<string>".toList ++ text ++ "</string>".toList)).map fun document =>
    Xml.transplant document.children

/-- **A text as content.** Its quotes are escaped first. Well-formed text is markup, any other is
plain text, as long as a document may hold its characters. -/
def embed (value : String) : Except Fault (List Xml.Binding × List Xml.Node) :=
  let text := escapeChars value.toList
  match markup? text with
  | some content => .ok content
  | none => if text.all Xml.isChar then .ok ([], [.text text]) else .error .notInDocument

/-- The item of a name and a text. -/
def Item.make (name value : String) : Except Fault Item :=
  match embed value with
  | .error fault => .error fault
  | .ok (bindings, content) =>
      if name.toList.all Xml.isChar then .ok ⟨name.toList, bindings, content⟩
      else .error .notInDocument

/-! ## Documents -/

/-- The element of an item. -/
def Item.node (item : Item) : Xml.Node :=
  let name : Xml.Attribute := ⟨⟨none, "name".toList⟩, none, item.name.map .char⟩
  .element ⟨⟨none, "string".toList⟩, none, item.bindings, [name], 0⟩ item.content

/-- The first line of a document. -/
def firstLine : List Char :=
  "<?xml version='1.0' encoding='utf-8'?>\n".toList

/-- **The document of some items,** each on a line of its own as far as its content allows. -/
def write (items : List Item) : String :=
  let body :=
    if items.isEmpty then "<resources/>".toList
    else
      "<resources>".toList ++
        items.flatMap (fun item => "\n  ".toList ++ item.node.write) ++ "\n</resources>".toList
  String.ofList (firstLine ++ body ++ ['\n'])

/-- Pairs without those whose name has come before. -/
def distinctNames (seen : List String) : List (String × String) → List (String × String)
  | [] => []
  | (name, value) :: rest =>
      if seen.contains name then distinctNames seen rest
      else (name, value) :: distinctNames (name :: seen) rest

/-- The items of pairs of a name and a text. -/
def makeItems : List (String × String) → Except Fault (List Item)
  | [] => .ok []
  | (name, value) :: rest =>
      match Item.make name value with
      | .error fault => .error fault
      | .ok item =>
          match makeItems rest with
          | .error fault => .error fault
          | .ok items => .ok (item :: items)

/-- **The document of some strings,** one element for each slot. A name that comes again is left
out. -/
def render (stem : String) (strings : List Translatable) : Except Fault String :=
  let pairs := (strings.flatMap (slots stem)).map fun slot => (slot.id, slot.translated)
  match makeItems (distinctNames [] pairs) with
  | .error fault => .error fault
  | .ok items => .ok (write items)

end StringCatalog.Resource
