import StringCatalog.Xml.StartTag

/-! # Assembling a tree

The tokens of a document make up its tree one after another:

* **`Xml.Assembly`** — the elements that are open, the nodes that are complete, and what has been
  remarked.
* **`Xml.Assembly.add?`** — takes in one token.
* **`Xml.Assembly.read?`** — the nodes of a text that is content. -/

namespace StringCatalog.Xml

/-- An element whose end has not been met. -/
structure Assembly.Open where
  /-- The element. -/
  head : Head
  /-- The bindings in scope inside of it, the nearest first. -/
  scope : List Binding
  /-- Its nodes, the last one first. -/
  before : List Node
  deriving Repr

/-- **How far a tree has come.** -/
structure Assembly where
  /-- The open elements, the innermost first. -/
  opened : List Assembly.Open
  /-- The nodes outside of all elements, the last one first. -/
  done : List Node
  /-- The last remark. -/
  remark : Option Remark
  /-- The entities whose texts have been found to be content. -/
  checked : List (List Char)
  deriving Repr

namespace Assembly

/-- Nothing has been met. -/
def start (remark : Option Remark) : Assembly := ⟨[], [], remark, []⟩

/-- The bindings in scope. -/
def scope (assembly : Assembly) : List Binding :=
  match assembly.opened with
  | [] => []
  | element :: _ => element.scope

/-- A node behind others, the last of which comes first: text joins text. -/
def push (node : Node) (before : List Node) : List Node :=
  match node, before with
  | .text more, .text content :: rest => .text (content ++ more) :: rest
  | node, before => node :: before

/-- The assembly with one more node at its place. -/
def addNode (assembly : Assembly) (node : Node) : Assembly :=
  match assembly.opened with
  | [] => { assembly with done := push node assembly.done }
  | element :: outer =>
      { assembly with opened := { element with before := push node element.before } :: outer }

/-- The assembly with further remarks. -/
def remarked (assembly : Assembly) (remarks : List Remark) : Assembly :=
  { assembly with remark := lastRemark assembly.remark remarks }

/-- The assembly with an element opened. -/
def openElement (assembly : Assembly) (head : Head) : Assembly :=
  { assembly with opened := ⟨head, head.bindings ++ assembly.scope, []⟩ :: assembly.opened }

/-- The assembly with its innermost element closed under a name. -/
def close? (assembly : Assembly) (name : List Char) : Option Assembly :=
  match assembly.opened with
  | [] => none
  | element :: outer =>
      if element.head.name.text == name then
        some ({ assembly with opened := outer }.addNode
          (.element element.head element.before.reverse))
      else none

/-- The nodes of some pieces: runs of characters are text. -/
def nodesOf : List Piece → List Node
  | [] => []
  | .reference name :: rest => .reference name :: nodesOf rest
  | .char c :: rest =>
      match nodesOf rest with
      | .text more :: nodes => .text (c :: more) :: nodes
      | nodes => .text [c] :: nodes

/-- The names in the references among some pieces. -/
def referenceNames (pieces : List Piece) : List (List Char) :=
  pieces.filterMap fun piece =>
    match piece with
    | .reference name => some name
    | .char _ => none

/-- What is remarked on the target of an instruction. -/
def targetRemarks (target : List Char) : List Remark :=
  if target.map Char.toLower == "xml".toList then [.error]
  else
    let usual := target == "xml-stylesheet".toList || target == "xml-model".toList
    (if "xml".toList.isPrefixOf (target.map Char.toLower) && !usual then [Remark.warning] else []) ++
      (if target.contains ':' then [.error] else [])

/-- **Take in one token.** References are checked by the given function. There is no result where
the token has no place. -/
def add? (context : Context) (check? : List Char → Assembly → Option Assembly)
    (assembly : Assembly) : Token → Option Assembly
  | .literal text => some (assembly.addNode (.text text))
  | .comment text => some (assembly.addNode (.comment text))
  | .instruction target data =>
      some ((assembly.remarked (targetRemarks target)).addNode (.instruction target data))
  | .text pieces =>
      match (referenceNames pieces).foldlM (fun state name => check? name state) assembly with
      | none => none
      | some checked => some ((nodesOf pieces).foldl addNode checked)
  | .start tag isClosed line =>
      match tag.head? context assembly.scope line with
      | none => none
      | some (head, remarks) =>
          if isClosed then some ((assembly.remarked remarks).addNode (.element head []))
          else some ((assembly.remarked remarks).openElement head)
  | .finish name => assembly.close? name

/-- Take in many tokens. -/
def addAll? (context : Context) (check? : List Char → Assembly → Option Assembly) :
    Assembly → List Token → Option Assembly
  | assembly, [] => some assembly
  | assembly, token :: rest =>
      match assembly.add? context check? token with
      | none => none
      | some next => addAll? context check? next rest

/-- Check a reference in content: the entity has to be declared, and its text has to be content in
itself; the number bounds how deep references may lead. -/
def check? (context : Context) : Nat → List Char → Assembly → Option Assembly
  | 0, _, _ => none
  | depth + 1, name, assembly =>
      match context.doctype.entities.lookup name with
      | none => if context.mustDeclare then none else some (assembly.remarked [.warning])
      | some .unparsed => none
      | some .external => some assembly
      | some (.internal content) =>
          if assembly.checked.contains name then some assembly
          else
            match Token.read? 1 content with
            | none => none
            | some tokens =>
                match addAll? context (check? context depth)
                    ⟨[], [], assembly.remark, assembly.checked⟩ tokens with
                | none => none
                | some inner =>
                    if inner.opened.isEmpty then
                      some { assembly with
                        remark := inner.remark
                        checked := name :: inner.checked }
                    else none

/-- **The assembly of some tokens.** No element may stay open. -/
def ofTokens? (context : Context) (remark : Option Remark) (tokens : List Token) :
    Option Assembly :=
  match addAll? context (check? context (context.doctype.entities.length + 1)) (start remark)
      tokens with
  | none => none
  | some assembly => if assembly.opened.isEmpty then some assembly else none

end Assembly

end StringCatalog.Xml
