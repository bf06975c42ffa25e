import StringCatalog.Xml.Tree

/-! # Moving nodes into another element

Nodes that move into another element lose the bindings that are there already:

* **`Xml.Surrounding`** — an element around a node, as far as bindings go.
* **`Xml.knownLead?`** — the prefix under which a namespace is bound around a node.
* **`Xml.transplant`** — the nodes as they are in their new place, with the bindings that this place
  has to declare for them. -/

namespace StringCatalog.Xml

/-- **An element around a node,** as far as bindings go. -/
structure Surrounding where
  /-- The bindings that the element declares. -/
  bindings : List Binding
  /-- The binding of its own name. -/
  own : Option Binding
  deriving Repr

/-- The prefix of a binding of a namespace among those that nothing nearer hides. -/
def leadFor? (uri : List Char) (hidden : List (Option (List Char))) (bindings : List Binding) :
    Option (Option (List Char)) :=
  (bindings.find? fun binding => binding.uri == uri && !hidden.contains binding.lead).map
    Binding.lead

/-- The search goes outwards: the names of the elements count too, but for the nearest one. -/
def knownLeadFrom? (uri : List Char) (isNearest : Bool) (hidden : List (Option (List Char))) :
    List Surrounding → Option (Option (List Char))
  | [] => none
  | around :: outer =>
      let candidates :=
        if isNearest then around.bindings else around.bindings ++ around.own.toList
      match leadFor? uri hidden candidates with
      | some lead => some lead
      | none =>
          knownLeadFrom? uri false (around.bindings.map Binding.lead ++ hidden) outer

/-- **The prefix under which a namespace is bound around a node.** -/
def knownLead? (uri : List Char) (around : List Surrounding) : Option (Option (List Char)) :=
  knownLeadFrom? uri true [] around

/-- What a prefix of the moved nodes has become: the old prefix, and the new one. -/
abbrev Renaming := List (Option (List Char) × Option (List Char))

/-- The bindings of an element that stay, and what becomes of its prefixes. -/
def keepNew (around : List Surrounding) : List Binding → List Binding × Renaming
  | [] => ([], [])
  | binding :: rest =>
      let (kept, renames) := keepNew around rest
      match knownLead? binding.uri around with
      | none => (binding :: kept, (binding.lead, binding.lead) :: renames)
      | some lead => (kept, (binding.lead, lead) :: renames)

/-- Whether a prefix is one that moved nodes bind: names without a namespace and names under `xml`
have none of those. -/
def isBound (name : Name) (uri : Option (List Char)) : Bool :=
  uri.isSome && name.lead != some "xml".toList

/-- The name of an element under its new prefix. -/
def renamed (renames : Renaming) (name : Name) (uri : Option (List Char)) : Name :=
  if isBound name uri then ⟨(renames.lookup name.lead).getD name.lead, name.base⟩ else name

/-- A prefix that is not bound, the wanted one if possible. -/
def freshLead (bindings : List Binding) (wanted : List Char) : List Char :=
  let isFree (lead : List Char) : Bool := !bindings.any (·.lead == some lead)
  if isFree wanted then wanted
  else
    let numbered := (List.range (bindings.length + 1)).map fun i => ("ns" ++ toString i).toList
    (numbered.find? isFree).getD wanted

/-- An attribute under its new prefix. An attribute cannot do without one: where its namespace has
become that of names without a prefix, the new place declares a prefix for it. -/
def renameAttribute (renames : Renaming) (declared : List Binding) (entry : Attribute) :
    List Binding × Attribute :=
  match entry.uri, entry.name.lead with
  | some uri, some lead =>
      if lead == "xml".toList then (declared, entry)
      else
        match (renames.lookup (some lead)).getD (some lead) with
        | some next => (declared, { entry with name := ⟨some next, entry.name.base⟩ })
        | none =>
            match leadFor? uri [] declared with
            | some (some next) =>
                (declared, { entry with name := ⟨some next, entry.name.base⟩ })
            | _ =>
                let next := freshLead declared lead
                (declared ++ [⟨some next, uri⟩],
                  { entry with name := ⟨some next, entry.name.base⟩ })
  | _, _ => (declared, entry)

/-- All attributes of an element under their new prefixes. -/
def renameAttributes (renames : Renaming) (declared : List Binding) :
    List Attribute → List Binding × List Attribute
  | [] => (declared, [])
  | entry :: rest =>
      let (declared, first) := renameAttribute renames declared entry
      let (declared, others) := renameAttributes renames declared rest
      (declared, first :: others)

mutual

/-- A node in its new place, given what is around it there up to the new place itself, whose
bindings are given and returned. -/
def Node.settle (around : List Surrounding) (renames : Renaming) (declared : List Binding) :
    Node → List Binding × Node
  | .element head children =>
      let place : Surrounding := ⟨declared, none⟩
      let (kept, added) := keepNew (around ++ [place]) head.bindings
      let renames := added ++ renames
      let name := renamed renames head.name head.uri
      let (declared, attributes) := renameAttributes renames declared head.attributes
      let own := if isBound head.name head.uri then head.uri.map (Binding.mk name.lead) else none
      let (declared, children) :=
        settleAll (⟨kept, own⟩ :: around) renames declared children
      (declared, .element { head with name, bindings := kept, attributes } children)
  | node => (declared, node)

/-- Nodes in their new place. -/
def settleAll (around : List Surrounding) (renames : Renaming) (declared : List Binding) :
    List Node → List Binding × List Node
  | [] => (declared, [])
  | node :: rest =>
      let (declared, first) := node.settle around renames declared
      let (declared, others) := settleAll around renames declared rest
      (declared, first :: others)

end

/-- **Nodes in their new place,** with the bindings that it has to declare for them. -/
def transplant (nodes : List Node) : List Binding × List Node :=
  settleAll [] [] [] nodes

end StringCatalog.Xml
