import StringCatalog.Extraction.Reading
import StringCatalog.FileTree.Basic
import StringCatalog.Resource.Slot
import StringCatalog.Xml.Document

/-! # Reading resource documents

* **`Resource.innerText`** — the content of an element as the text of a string.
* **`Resource.childReadings`** — what the nodes of a document's root come to.
* **`Resource.readBytes`** — the strings of a resource document. -/

namespace StringCatalog.Resource

/-! ## Content -/

/-- One character of the text before the first node that is no text. -/
def escapeLeadingChar : Char → List Char
  | '&' => "&amp;".toList
  | '<' => "&lt;".toList
  | '>' => "&gt;".toList
  | c => [c]

/-- A node behind the leading text, written on its own. -/
def writeChild (scope : List Xml.Binding) (node : Xml.Node) : List Char :=
  node.writeAlone scope

/-- **The content of an element as the text of a string.** Text alone stands for itself; with other
nodes in it the content is written out as markup. -/
def innerText (scope : List Xml.Binding) (children : List Xml.Node) : List Char :=
  match children with
  | [] => []
  | [.text content] => content
  | .text content :: rest =>
      content.flatMap escapeLeadingChar ++ rest.flatMap (writeChild scope)
  | nodes => nodes.flatMap (writeChild scope)

/-! ## Nodes of the root -/

/-- What a note calls a node that is no string. -/
def nodeName : Xml.Node → List Char
  | .element head _ => head.fullName
  | .instruction target _ => '?' :: target
  | .reference name => Xml.referenceText name
  | .comment _ => []
  | .text _ => []

/-- What the reader of a document needs besides its nodes. -/
structure Setting where
  /-- The path as notes show it. -/
  path : String
  /-- The path from the root of the file system on. -/
  place : String
  /-- The bindings that the root declares. -/
  scope : List Xml.Binding
  /-- What the document type declares. -/
  doctype : Xml.Doctype

/-- The value of an attribute of an element. -/
def Setting.value? (setting : Setting) (head : Xml.Head) (key : String) : Option String :=
  (head.attribute? key).map fun pieces => String.ofList (setting.doctype.valueText pieces)

/-- What an element with a string comes to. The comment is the one that stands before it. -/
def stringReading (setting : Setting) (comment : Option String) (head : Xml.Head)
    (children : List Xml.Node) : Reading :=
  let name := (setting.value? head "name").getD ""
  if name == "" then
    .ofNote (.step ("Skipping <string> without a name in " ++ setting.path ++ " (line " ++
      toString head.line ++ ")"))
  else if Text.lower ((setting.value? head "translatable").getD "true") == "false" then
    .ofNote (.item ("Skipping untranslatable string: " ++ name))
  else
    let text := innerText (head.bindings ++ setting.scope) children
    .ofString (.item ("Found string: " ++ name))
      { Translatable.ofText (String.ofList (unescapeChars text)) with
        name := some name
        developerComments := comment
        references := [setting.place ++ ":" ++ toString head.line] }

/-- **What the nodes of a document's root come to,** given the comment before them. A comment counts
for the string that follows it, text between them aside. -/
def childReadings (setting : Setting) : Option String → List Xml.Node → List Reading
  | _, [] => []
  | _, .comment content :: rest => childReadings setting (Text.trimmed? content) rest
  | comment, .text _ :: rest => childReadings setting comment rest
  | comment, .element head children :: rest =>
      (if head.fullName == "string".toList then stringReading setting comment head children
      else
        .ofNote (.step ("Skipping unsupported <" ++ String.ofList head.fullName ++
          "> resource in " ++ setting.path))) ::
        childReadings setting none rest
  | _, node :: rest =>
      .ofNote (.step ("Skipping unsupported <" ++ String.ofList (nodeName node) ++
        "> resource in " ++ setting.path)) :: childReadings setting none rest

/-! ## Documents -/

/-- **The strings of a resource document,** given its path and its bytes. -/
def readBytes (path : Path) (bytes : List UInt8) : Reading :=
  let shown := path.toString
  match Xml.Document.ofBytes? bytes with
  | none => .failed (.input shown .document)
  | some document =>
      if document.head.fullName == "resources".toList then
        .sequence (childReadings
          ⟨shown, path.absolute.toString, document.head.bindings, document.doctype⟩ none
          document.children)
      else .failed (.input shown (.root (String.ofList document.head.fullName)))

end StringCatalog.Resource
