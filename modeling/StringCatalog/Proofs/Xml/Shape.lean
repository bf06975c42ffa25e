import StringCatalog.Proofs.Xml.Document

/-! # Trees of names

* **`Xml.Shape`** — an element as far as names go: its own, those of its attributes, and the
  elements inside of it.
* **`Xml.Node.shape?`, `Xml.shapesOf`** — the shapes of nodes.
* **`Xml.exists_onlyElement?`** — the only element among nodes is a matter of their shapes.
* **`Xml.shapesOf_transplant`** — they stay the same where nodes move. -/

namespace StringCatalog.Xml

/-- **An element as far as names go.** -/
inductive Shape where
  /-- The names of an element and of its attributes, and the elements inside of it. -/
  | element (name : List Char) (attributes : List (List Char)) (inner : List Shape)
  deriving Repr

mutual

/-- Shapes are told apart by the names, and then by the elements inside. -/
def Shape.decEq : (one two : Shape) → Decidable (one = two)
  | .element name attributes inner, .element name' attributes' inner' =>
      have : Decidable (inner = inner') := Shape.decEqAll inner inner'
      decidable_of_iff (name = name' ∧ attributes = attributes' ∧ inner = inner')
        (Shape.element.injEq ..).symm.to_iff

/-- Shapes are told apart one by one. -/
def Shape.decEqAll : (ones twos : List Shape) → Decidable (ones = twos)
  | [], [] => isTrue rfl
  | [], _ :: _ => isFalse (by simp)
  | _ :: _, [] => isFalse (by simp)
  | one :: ones, two :: twos =>
      have : Decidable (one = two) := Shape.decEq one two
      have : Decidable (ones = twos) := Shape.decEqAll ones twos
      decidable_of_iff (one = two ∧ ones = twos) (List.cons.injEq ..).symm.to_iff

end

instance : DecidableEq Shape := Shape.decEq

/-- A name with its namespace in braces. -/
def Name.within (name : Name) (uri : Option (List Char)) : List Char :=
  match uri with
  | none => name.text
  | some uri => '\x7b' :: uri ++ '}' :: name.base

/-- The start of an element as far as names go, around given shapes. -/
def Head.shape (head : Head) (inner : List Shape) : Shape :=
  .element (head.name.within head.uri) (head.attributes.map fun entry => entry.name.within entry.uri)
    inner

mutual

/-- **The shape of a node,** if it is an element. -/
def Node.shape? : Node → Option Shape
  | .element head children => some (head.shape (shapesOf children))
  | _ => none

/-- **The shapes of the elements among some nodes.** -/
def shapesOf : List Node → List Shape
  | [] => []
  | node :: rest => node.shape?.toList ++ shapesOf rest

end

/-- `shapesOf nodes = nodes.filterMap Node.shape?`. -/
theorem shapesOf_eq_filterMap (nodes : List Node) : shapesOf nodes = nodes.filterMap Node.shape? := by
  induction nodes with
  | nil => rw [shapesOf, List.filterMap_nil]
  | cons node nodes ih =>
      rw [shapesOf, ih, List.filterMap_cons]
      cases node.shape? <;> rfl

/-- `shapesOf nodes.reverse = (shapesOf nodes).reverse`. -/
theorem shapesOf_reverse (nodes : List Node) : shapesOf nodes.reverse = (shapesOf nodes).reverse := by
  rw [shapesOf_eq_filterMap, shapesOf_eq_filterMap, List.filterMap_reverse]

/-- The shape of an element is made of its start and the shapes of its children. -/
theorem Node.shape?_element (head : Head) (children : List Node) :
    (Node.element head children).shape? = some (head.shape (shapesOf children)) := by
  rw [Node.shape?]

/-- `node.shape? = none` for a node that is no element. -/
theorem Node.shape?_eq_none {node : Node} (h : node.isElement = false) : node.shape? = none := by
  cases node with
  | element head children => cases h
  | _ => rw [Node.shape?]; simp

/-! ## The only element -/

/-- The elements among some nodes are those that have shapes. -/
theorem map_shape?_filter (nodes : List Node) :
    (nodes.filter Node.isElement).map Node.shape? = (shapesOf nodes).map some := by
  induction nodes with
  | nil => rw [shapesOf]; rfl
  | cons node nodes ih =>
      rw [shapesOf, List.map_append, ← ih, List.filter_cons]
      cases node with
      | element head children => simp [Node.isElement, Node.shape?_element]
      | _ => simp [Node.isElement, Node.shape?]

/-- `shapesOf nodes = [head.shape (shapesOf children)]`: the shape of the only element among some
nodes is the only shape. -/
theorem shapesOf_of_onlyElement? {nodes children : List Node} {head : Head}
    (h : onlyElement? nodes = some (head, children)) :
    shapesOf nodes = [head.shape (shapesOf children)] := by
  unfold onlyElement? at h
  split at h
  · next element filtered =>
    cases h
    have all := map_shape?_filter nodes
    rw [filtered, List.map_singleton, Node.shape?_element] at all
    obtain ⟨shape, only, same⟩ := List.map_eq_singleton_iff.1 all.symm
    rw [only, Option.some.inj same]
  · cases h

/-- **Nodes of the same shapes have the same only element,** as far as shapes go. -/
theorem exists_onlyElement? {ones twos children : List Node} {head : Head}
    (same : shapesOf twos = shapesOf ones) (h : onlyElement? ones = some (head, children)) :
    ∃ other inner, onlyElement? twos = some (other, inner) ∧ shapesOf inner = shapesOf children := by
  have all := map_shape?_filter twos
  rw [same, shapesOf_of_onlyElement? h, List.map_singleton] at all
  obtain ⟨node, filtered, shape⟩ := List.map_eq_singleton_iff.1 all
  cases node with
  | element other inner =>
      rw [Node.shape?_element, Option.some.injEq, Head.shape, Head.shape, Shape.element.injEq] at shape
      exact ⟨other, inner, by rw [onlyElement?, filtered], shape.2.2⟩
  | _ => rw [Node.shape?_eq_none rfl] at shape; cases shape

/-! ## Nodes in a new place -/

/-- `(renamed renames name uri).within uri = name.within uri`: only prefixes are renamed. -/
theorem within_renamed (renames : Renaming) (name : Name) (uri : Option (List Char)) :
    (renamed renames name uri).within uri = name.within uri := by
  unfold renamed
  split
  · next bound =>
    -- a name that is bound has a namespace, in front of which its prefix does not count
    cases uri with
    | none => simp [isBound] at bound
    | some uri => rfl
  · rfl

/-- The same for an attribute. -/
theorem within_renameAttribute (renames : Renaming) (declared : List Binding) (entry : Attribute) :
    let found := (renameAttribute renames declared entry).2
    found.name.within found.uri = entry.name.within entry.uri := by
  unfold renameAttribute
  split
  · next uri lead space _ =>
    split
    · rfl
    · split
      · simp only [space, Name.within]
      · split <;> simp only [space, Name.within]
  · rfl

/-- The same for all attributes of an element. -/
theorem map_within_renameAttributes (renames : Renaming) (declared : List Binding)
    (attributes : List Attribute) :
    (renameAttributes renames declared attributes).2.map (fun entry => entry.name.within entry.uri) =
      attributes.map fun entry => entry.name.within entry.uri := by
  induction attributes generalizing declared with
  | nil => rfl
  | cons entry attributes ih =>
      simp only [renameAttributes, List.map_cons]
      rw [ih, within_renameAttribute]

mutual

/-- `(node.settle around renames declared).2.shape? = node.shape?`: a node keeps its shape in its
new place. -/
theorem Node.shape?_settle (node : Node) (around : List Surrounding) (renames : Renaming)
    (declared : List Binding) :
    (node.settle around renames declared).2.shape? = node.shape? := by
  match node with
  | .element head children =>
      simp only [Node.settle, Node.shape?_element, Head.shape, within_renamed,
        map_within_renameAttributes]
      rw [shapesOf_settleAll children]
  | .text content => rw [Node.settle]; simp
  | .comment content => rw [Node.settle]; simp
  | .instruction target data => rw [Node.settle]; simp
  | .reference name => rw [Node.settle]; simp

/-- `shapesOf (settleAll around renames declared nodes).2 = shapesOf nodes`: so do all nodes. -/
theorem shapesOf_settleAll (nodes : List Node) (around : List Surrounding) (renames : Renaming)
    (declared : List Binding) :
    shapesOf (settleAll around renames declared nodes).2 = shapesOf nodes := by
  match nodes with
  | [] => rw [settleAll]
  | node :: rest =>
      simp only [settleAll, shapesOf]
      rw [Node.shape?_settle node, shapesOf_settleAll rest]

end

/-- **Nodes keep their shapes in a new place:** `shapesOf (transplant nodes).2 = shapesOf nodes`. -/
theorem shapesOf_transplant (nodes : List Node) : shapesOf (transplant nodes).2 = shapesOf nodes :=
  shapesOf_settleAll nodes [] [] []

end StringCatalog.Xml
