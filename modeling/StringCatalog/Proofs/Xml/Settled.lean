import StringCatalog.Proofs.Xml.Sketch
import StringCatalog.Proofs.Xml.Transplant

/-! # Nodes that are settled

A node whose bindings are all new is the same in its new place:

* **`Xml.isKnown`** — whether a prefix stands for a namespace already.
* **`Xml.Node.isSettled`** — whether all bindings in a node are proper, and declare namespaces that
  are not known where they are declared.
* **`Xml.Node.isFresh_of_again?`** — so are those of a node that comes back.
* **`Xml.transplant_eq_self`** — nodes of which this is known are not changed by moving them. -/

namespace StringCatalog.Xml

/-! ## Known namespaces -/

/-- **Whether a prefix stands for a namespace** in a scope. -/
def isKnown (scope : List Binding) (uri : List Char) : Bool :=
  scope.any fun binding => binding.uri == uri && bindingOf? binding.lead scope == some binding

/-- `bindingOf? lead scope` has that prefix. -/
theorem lead_of_bindingOf? {lead : Option (List Char)} {scope : List Binding} {binding : Binding}
    (h : bindingOf? lead scope = some binding) : binding.lead = lead := by
  simpa using List.find?_some h

/-- And its namespace is known in the scope. -/
theorem isKnown_of_bindingOf? {lead : Option (List Char)} {scope : List Binding}
    {binding : Binding} (h : bindingOf? lead scope = some binding) :
    isKnown scope binding.uri := by
  rw [isKnown, List.any_eq_true]
  refine ⟨binding, List.mem_of_find?_eq_some h, ?_⟩
  rw [lead_of_bindingOf? h, h]
  simp

/-- `bindingOf? binding.lead (bindings ++ scope) = some binding`: a prefix that an element binds
stands for what it is bound to. -/
theorem bindingOf?_append_of_mem {bindings : List Binding}
    (nodup : (bindings.map Binding.lead).Nodup) {binding : Binding} (h : binding ∈ bindings)
    (scope : List Binding) : bindingOf? binding.lead (bindings ++ scope) = some binding := by
  induction bindings with
  | nil => cases h
  | cons first bindings ih =>
      rw [List.map_cons, List.nodup_cons] at nodup
      rw [bindingOf?, List.cons_append, List.find?_cons]
      rcases List.mem_cons.1 h with rfl | h
      · simp
      · have other : (first.lead == binding.lead) = false := by
          rw [beq_eq_false_iff_ne]
          exact fun same => nodup.1 (same ▸ List.mem_map_of_mem h)
        rw [other]
        exact ih nodup.2 h

/-- `bindingOf? lead (bindings ++ scope) = bindingOf? lead scope`: any other prefix stands for what
it is bound to around the element. -/
theorem bindingOf?_append_of_notMem {bindings : List Binding} {lead : Option (List Char)}
    (h : lead ∉ bindings.map Binding.lead) (scope : List Binding) :
    bindingOf? lead (bindings ++ scope) = bindingOf? lead scope := by
  have none : bindings.find? (fun binding => binding.lead == lead) = none := by
    rw [List.find?_eq_none]
    intro binding member same
    exact h (List.mem_map.2 ⟨binding, member, by simpa using same⟩)
  rw [bindingOf?, List.find?_append, none, Option.none_or]
  rfl

/-! ## Places -/

/-- **The bindings in scope at some places,** the innermost first. The binding of an element's own
name is one of those in scope. -/
inductive IsScopeOf : List Surrounding → List Binding → Prop
  | nil : IsScopeOf [] []
  | cons {place : Surrounding} {outer : List Surrounding} {scope : List Binding} :
      (place.bindings.map Binding.lead).Nodup →
      (∀ own ∈ place.own, bindingOf? own.lead (place.bindings ++ scope) = some own) →
      IsScopeOf outer scope → IsScopeOf (place :: outer) (place.bindings ++ scope)

/-- **A prefix under which a namespace is bound stands for it,** and is not hidden:
`lead ∉ hidden ∧ bindingOf? lead scope = some ⟨lead, uri⟩`. -/
theorem bindingOf?_of_knownLeadFrom? {uri : List Char} {isNearest : Bool}
    {hidden : List (Option (List Char))} {places : List Surrounding} {scope : List Binding}
    (h : IsScopeOf places scope) {lead : Option (List Char)}
    (known : knownLeadFrom? uri isNearest hidden places = some lead) :
    lead ∉ hidden ∧ bindingOf? lead scope = some ⟨lead, uri⟩ := by
  induction h generalizing isNearest hidden with
  | nil => cases known
  | @cons place outer scope nodup own _ ih =>
      rw [knownLeadFrom?] at known
      split at known
      -- the place binds it, be it by the name of its element
      · next found there =>
        cases known
        obtain ⟨binding, first, rfl⟩ := Option.map_eq_some_iff.1 there
        have accepted := List.find?_some first
        simp only [Bool.and_eq_true, beq_iff_eq, Bool.not_eq_true', List.contains_eq_mem,
          decide_eq_false_iff_not] at accepted
        obtain ⟨rfl, visible⟩ := accepted
        refine ⟨visible, ?_⟩
        have member := List.mem_of_find?_eq_some first
        have either : binding ∈ place.bindings ∨ binding ∈ place.own := by
          split at member
          · exact .inl member
          · simpa using member
        rcases either with bound | named
        · exact bindingOf?_append_of_mem nodup bound scope
        · exact own binding named
      · obtain ⟨visible, outside⟩ := ih known
        rw [List.mem_append, not_or] at visible
        exact ⟨visible.2, by rw [bindingOf?_append_of_notMem visible.1, outside]⟩

/-- `knownLead? uri places = none`: a namespace that is not known is bound under no prefix. -/
theorem knownLead?_eq_none {places : List Surrounding} {scope : List Binding}
    (h : IsScopeOf places scope) {uri : List Char} (new : isKnown scope uri = false) :
    knownLead? uri places = none := by
  rw [Option.eq_none_iff_forall_ne_some]
  intro lead known
  have found := isKnown_of_bindingOf? (bindingOf?_of_knownLeadFrom? h known).2
  rw [new] at found
  cases found

/-! ## Nodes that do not change -/

/-- **A node whose bindings are all new,** given those in scope around it, and whose elements have
the namespaces that their names have in scope. -/
inductive Node.IsFresh : List Binding → Node → Prop
  | text {scope : List Binding} {content : List Char} : Node.IsFresh scope (.text content)
  | comment {scope : List Binding} {content : List Char} : Node.IsFresh scope (.comment content)
  | instruction {scope : List Binding} {target data : List Char} :
      Node.IsFresh scope (.instruction target data)
  | reference {scope : List Binding} {name : List Char} : Node.IsFresh scope (.reference name)
  | element {scope : List Binding} {head : Head} {children : List Node} :
      (head.bindings.map Binding.lead).Nodup →
      (∀ binding ∈ head.bindings, isKnown scope binding.uri = false) →
      (isBound head.name head.uri → ∀ uri ∈ head.uri,
        bindingOf? head.name.lead (head.bindings ++ scope) = some ⟨head.name.lead, uri⟩) →
      (∀ child ∈ children, child.IsFresh (head.bindings ++ scope)) →
      Node.IsFresh scope (.element head children)

/-- Bindings that are new all stay. -/
theorem keepNew_eq {around : List Surrounding} {bindings : List Binding}
    (new : ∀ binding ∈ bindings, knownLead? binding.uri around = none) :
    keepNew around bindings =
      (bindings, bindings.map fun binding => (binding.lead, binding.lead)) := by
  induction bindings with
  | nil => rfl
  | cons binding bindings ih =>
      rw [List.forall_mem_cons] at new
      rw [keepNew, ih new.2]
      simp only [new.1, List.map_cons]

/-- **Whether every prefix stays what it is:** `∀ entry ∈ renames, entry.1 = entry.2`. -/
def Renaming.IsIdentity (renames : Renaming) : Prop := ∀ entry ∈ renames, entry.1 = entry.2

namespace Renaming.IsIdentity

variable {renames : Renaming} (h : renames.IsIdentity)
include h

/-- `(renames.lookup lead).getD lead = lead`: a prefix is looked up as itself. -/
theorem lookup (lead : Option (List Char)) : (renames.lookup lead).getD lead = lead := by
  cases found : renames.lookup lead with
  | none => rfl
  | some next =>
      obtain ⟨front, back, equal, -⟩ := List.lookup_eq_some_iff.1 found
      exact (h (lead, next) (by simp [equal])).symm

/-- `renamed renames name uri = name`. -/
theorem renamed_eq (name : Name) (uri : Option (List Char)) : renamed renames name uri = name := by
  rw [renamed, h.lookup]
  split <;> rfl

/-- `renameAttributes renames [] attributes = ([], attributes)`: nothing is declared or renamed. -/
theorem renameAttributes_eq (attributes : List Attribute) :
    renameAttributes renames [] attributes = ([], attributes) := by
  have one (entry : Attribute) : renameAttribute renames [] entry = ([], entry) := by
    unfold renameAttribute
    split
    · next uri lead _ known =>
      split
      · rfl
      · rw [h.lookup]
        obtain ⟨⟨found, base⟩, space, value⟩ := entry
        obtain rfl : found = some lead := known
        rfl
    · rfl
  induction attributes with
  | nil => rfl
  | cons entry attributes ih => simp only [renameAttributes, one, ih]

/-- Bindings that keep their prefixes rename nothing. -/
theorem append_bindings (bindings : List Binding) :
    IsIdentity ((bindings.map fun binding => (binding.lead, binding.lead)) ++ renames) := by
  intro entry member
  rcases List.mem_append.1 member with member | member
  · obtain ⟨binding, -, rfl⟩ := List.mem_map.1 member
    rfl
  · exact h entry member

end Renaming.IsIdentity

mutual

/-- **A node whose bindings are all new does not change:**
`node.settle around renames [] = ([], node)`. -/
theorem settle_of_isFresh (node : Node) {scope : List Binding} (h : node.IsFresh scope)
    {around : List Surrounding} (places : IsScopeOf (around ++ [⟨[], none⟩]) scope)
    {renames : Renaming} (same : renames.IsIdentity) :
    node.settle around renames [] = ([], node) := by
  match node with
  | .element head children =>
      cases h with
      | element nodup new space inner =>
          have kept := keepNew_eq fun binding member =>
            knownLead?_eq_none places (new binding member)
          have renames := same.append_bindings head.bindings
          have inside : IsScopeOf ((⟨head.bindings, if isBound head.name head.uri then
              head.uri.map (Binding.mk head.name.lead) else none⟩ :: around) ++ [⟨[], none⟩])
              (head.bindings ++ scope) := by
            refine .cons nodup (fun own member => ?_) places
            dsimp only at member
            split at member
            · next bound =>
              obtain ⟨uri, there, rfl⟩ := Option.map_eq_some_iff.1 member
              exact space bound uri there
            · cases member
          simp only [Node.settle, kept, renames.renamed_eq, renames.renameAttributes_eq,
            settleAll_of_isFresh children inner inside renames]
  | .text content => rfl
  | .comment content => rfl
  | .instruction target data => rfl
  | .reference name => rfl

/-- **Fresh nodes stay as they are** in their new place:
`settleAll around renames [] nodes = ([], nodes)`. -/
theorem settleAll_of_isFresh (nodes : List Node) {scope : List Binding}
    (h : ∀ node ∈ nodes, node.IsFresh scope) {around : List Surrounding}
    (places : IsScopeOf (around ++ [⟨[], none⟩]) scope) {renames : Renaming}
    (same : renames.IsIdentity) : settleAll around renames [] nodes = ([], nodes) := by
  match nodes with
  | [] => rfl
  | node :: nodes =>
      rw [List.forall_mem_cons] at h
      simp only [settleAll, settle_of_isFresh node h.1 places same,
        settleAll_of_isFresh nodes h.2 places same]

end

/-- **Nodes whose bindings are all new are not changed by moving them:**
`transplant nodes = ([], nodes)`. -/
theorem transplant_eq_self {nodes : List Node} (h : ∀ node ∈ nodes, node.IsFresh []) :
    transplant nodes = ([], nodes) :=
  settleAll_of_isFresh nodes h (.cons (by simp) (by simp) .nil) (by simp [Renaming.IsIdentity])

/-! ## Nodes that come back -/

instance (lead : List Char) : Decidable (IsBindable lead) :=
  decidable_of_iff (isPlainName lead ∧ lead ≠ "xml".toList ∧ lead ≠ "xmlns".toList)
    ⟨fun ⟨plain, notXml, notDeclaration⟩ => ⟨plain, notXml, notDeclaration⟩,
      fun h => ⟨h.plain, h.notXml, h.notDeclaration⟩⟩

instance (binding : Binding) : Decidable binding.IsProper :=
  decidable_of_iff (binding.uri.all isChar ∧ binding.uri ≠ xmlSpace ∧
      binding.uri ≠ declarationSpace ∧ ∀ lead ∈ binding.lead, IsBindable lead ∧ binding.uri ≠ [])
    ⟨fun ⟨legal, notXml, notDeclaration, lead⟩ => ⟨legal, notXml, notDeclaration, lead⟩,
      fun h => ⟨h.legal, h.notXml, h.notDeclaration, h.lead⟩⟩

/-- Whether there is an empty text and nothing else. -/
def isHollow : List Node → Bool
  | [.text []] => true
  | _ => false

mutual

/-- **Whether all bindings in a node are proper,** and declare namespaces that are not known where
they are declared, given the bindings in scope around the node. No element has an empty text alone.
-/
def Node.isSettled (scope : List Binding) : Node → Bool
  | .element head children =>
      head.bindings.all (fun binding => decide binding.IsProper && !isKnown scope binding.uri) &&
        !isHollow children && areSettled (head.bindings ++ scope) children
  | _ => true

/-- Whether this is so for all of some nodes. -/
def areSettled (scope : List Binding) : List Node → Bool
  | [] => true
  | node :: rest => node.isSettled scope && areSettled scope rest

end

/-- `isSettled` of an element, part by part. -/
theorem Node.isSettled_element {scope : List Binding} {head : Head} {children : List Node} :
    (Node.element head children).isSettled scope ↔
      (∀ binding ∈ head.bindings, binding.IsProper ∧ isKnown scope binding.uri = false) ∧
        isHollow children = false ∧ areSettled (head.bindings ++ scope) children := by
  simp only [Node.isSettled, Bool.and_eq_true, List.all_eq_true, decide_eq_true_eq,
    Bool.not_eq_true', and_assoc]

/-- `bindingOf? name.lead scope = some ⟨name.lead, uri⟩`: the name of an element that comes back
has the namespace that it has in scope. -/
theorem bindingOf?_of_elementSpace {scope : List Binding} {name : Name}
    (bound : isBound name (elementSpace scope name).1) {uri : List Char}
    (found : (elementSpace scope name).1 = some uri) :
    bindingOf? name.lead scope = some ⟨name.lead, uri⟩ := by
  obtain ⟨lead, base⟩ := name
  cases lead with
  | none =>
      rw [elementSpace] at found
      dsimp only at found
      split at found
      · next binding there =>
        split at found
        · cases found
        · cases found
          rw [there, ← lead_of_bindingOf? there]
      · cases found
  | some lead =>
      have other : (lead == "xml".toList) = false := by
        rw [isBound, Bool.and_eq_true, bne_iff_ne] at bound
        simpa using bound.2
      rw [elementSpace] at found
      dsimp only at found
      rw [spaceOfLead, other, if_neg Bool.false_ne_true] at found
      split at found
      · next binding there =>
        cases found
        rw [there, ← lead_of_bindingOf? there]
      · cases found

/-- What is true of texts and of all of some nodes is true of them with text joined to text. -/
theorem forall_mem_joined {belongs : Node → Prop} (texts : ∀ text, belongs (.text text))
    {nodes : List Node} (h : ∀ node ∈ nodes, belongs node) :
    ∀ node ∈ joined nodes, belongs node := by
  intro node member
  cases node with
  | text text => exact texts text
  | _ =>
      refine h _ (List.mem_of_mem_filter (p := (!·.isText)) ?_)
      rw [← filter_joined]
      exact List.mem_filter.2 ⟨member, rfl⟩

mutual

/-- **The bindings of a settled node are all new when it comes back.** -/
theorem Node.isFresh_of_again? {context : Context} (bare : context.IsBare) (node : Node)
    (h : node.IsProper) {scope : List Binding} (settled : node.isSettled scope) {line : Nat}
    {found : Node} {remarks : List Remark}
    (read : node.again? context scope line = some (found, remarks)) : found.IsFresh scope := by
  match node with
  | .element head children =>
      obtain ⟨inner, more, content, rfl⟩ := Head.IsProper.exists_of_again? bare h read
      obtain ⟨new, -, inside⟩ := Node.isSettled_element.1 settled
      refine .element h.head.nodup (fun binding member => (new binding member).2)
        (fun bound uri known => bindingOf?_of_elementSpace bound known) ?_
      exact forall_mem_joined (fun _ => .text)
        (isFresh_of_againAll? bare children h.children inside content)
  | .text content =>
      cases read
      exact .text
  | .comment content =>
      cases read
      exact .comment
  | .instruction target data =>
      cases read
      exact .instruction
  | .reference name => cases h

/-- What comes back of settled nodes is fresh. -/
theorem isFresh_of_againAll? {context : Context} (bare : context.IsBare) (nodes : List Node)
    (h : ∀ node ∈ nodes, node.IsProper) {scope : List Binding} (settled : areSettled scope nodes)
    {line : Nat} {found : List Node} {remarks : List Remark}
    (read : againAll? context scope line nodes = some (found, remarks)) :
    ∀ node ∈ found, node.IsFresh scope := by
  match nodes with
  | [] =>
      cases read
      simp
  | node :: nodes =>
      rw [List.forall_mem_cons] at h
      rw [areSettled, Bool.and_eq_true] at settled
      rw [againAll?] at read
      split at read
      · cases read
      · next first remarks one =>
        obtain ⟨⟨others, more⟩, all, equal⟩ := Option.map_eq_some_iff.1 read
        cases equal
        exact List.forall_mem_cons.2 ⟨Node.isFresh_of_again? bare node h.1 settled.1 one,
          isFresh_of_againAll? bare nodes h.2 settled.2 all⟩

end

end StringCatalog.Xml
