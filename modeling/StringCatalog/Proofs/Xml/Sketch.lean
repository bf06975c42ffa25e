import StringCatalog.Proofs.Xml.Written

/-! # What comes back of a node

* **`Xml.Node.sketch`** — a node as far as it is written.
* **`Xml.joined_map_joined`** — text is joined to text once.
* **`Xml.Node.again?_bare`** — a proper node comes back the same as far as it is written, unless two
  attributes are written alike. -/

namespace StringCatalog.Xml

/-! ## Sketches -/

/-- An attribute as far as it is written. -/
def Attribute.sketch (entry : Attribute) : Attribute :=
  ⟨⟨none, entry.name.text⟩, none, entry.value⟩

/-- The start of an element as far as it is written. -/
def Head.sketch (head : Head) : Head :=
  ⟨⟨none, head.name.text⟩, none, head.bindings, head.attributes.map Attribute.sketch, 0⟩

mutual

/-- **A node as far as it is written:** names are not divided, and text is joined to text. -/
def Node.sketch : Node → Node
  | .element head children => .element head.sketch (joined (sketchAll children))
  | node => node

/-- Nodes as far as they are written. -/
def sketchAll : List Node → List Node
  | [] => []
  | node :: rest => node.sketch :: sketchAll rest

end

/-- `sketchAll nodes = nodes.map Node.sketch`. -/
theorem sketchAll_eq_map (nodes : List Node) : sketchAll nodes = nodes.map Node.sketch := by
  induction nodes with
  | nil => rfl
  | cons node nodes ih => rw [sketchAll, ih, List.map_cons]

/-- `(head.again scope line).sketch = head.sketch`. -/
theorem Head.sketch_again (scope : List Binding) (line : Nat) (head : Head) :
    (head.again scope line).sketch = head.sketch := by
  simp [Head.again, Head.sketch, Attribute.again, Attribute.sketch]

/-! ## Joining twice -/

section

variable {change : Node → Node}

/-- Changes inside of elements do not matter to joining a node. -/
theorem foldl_pushKept_pushKept (keeps : ∀ text, change (.text text) = .text text)
    (before : List Node) (node : Node) :
    ((pushKept before node).reverse.map change).foldl pushKept [] =
      pushKept ((before.reverse.map change).foldl pushKept []) (change node) := by
  cases node with
  | text text =>
      rw [keeps]
      cases text with
      | nil => rfl
      | cons c text =>
          -- text goes to the text that came last, if it did, and that one has not been changed
          rcases before with _ | ⟨last, before⟩
          · simp [pushKept, Assembly.push, keeps]
          · cases last with
            | text content =>
                have one : pushKept (.text content :: before) (.text (c :: text)) =
                    .text (content ++ c :: text) :: before := rfl
                rw [one]
                simp [keeps, List.foldl_append, pushKept_text]
            | _ => simp [pushKept, Assembly.push, List.foldl_append, keeps]
  | _ => simp [pushKept, Assembly.push, List.foldl_append]

/-- **Text is joined to text once:**
`joined ((joined nodes).map change) = joined (nodes.map change)`. -/
theorem joined_map_joined (keeps : ∀ text, change (.text text) = .text text) (nodes : List Node) :
    joined ((joined nodes).map change) = joined (nodes.map change) := by
  unfold joined
  congr 1
  induction nodes using List.reverseRecOn with
  | nil => rfl
  | append_singleton nodes node ih =>
      rw [List.foldl_concat, foldl_pushKept_pushKept keeps, ih, List.map_append, List.map_singleton,
        List.foldl_concat]

end

/-- `(Node.text text).sketch = .text text`. -/
theorem Node.sketch_text (text : List Char) : (Node.text text).sketch = .text text := by
  rw [Node.sketch]
  simp

/-! ## What comes back -/

mutual

/-- **A proper node comes back** the same as far as it is written, unless two attributes are written
alike. -/
theorem Node.again?_bare {context : Context} (bare : context.IsBare) (node : Node)
    (h : node.IsProper) (scope : List Binding) (line : Nat) :
    (node.IsSpelledApart ∧ ∃ found remarks, node.again? context scope line = some (found, remarks) ∧
      found.sketch = node.sketch) ∨
    (¬node.IsSpelledApart ∧ node.again? context scope line = none) := by
  match node with
  | .text content => exact .inl ⟨.text, _, _, rfl, rfl⟩
  | .comment content => exact .inl ⟨.comment, _, _, rfl, rfl⟩
  | .instruction target data => exact .inl ⟨.instruction, _, _, rfl, rfl⟩
  | .reference name => exact .inl ⟨.reference, _, _, rfl, rfl⟩
  | .element head children =>
      rw [Node.isSpelledApart_element, Node.again?]
      -- an element fails by its own attributes, or by those of an element inside of it
      rcases h.head.head?_tag bare scope line with ⟨apart, remarks, found⟩ | ⟨alike, missing⟩
      · rw [found]
        rcases againAll?_bare bare children h.children (head.bindings ++ scope) line with
          ⟨inner, nodes, more, others, same⟩ | ⟨inner, missing⟩
        · refine .inl ⟨⟨apart, inner⟩, _, _, congrArg (Option.map _) others, ?_⟩
          rw [Node.sketch, Node.sketch, Head.sketch_again, sketchAll_eq_map,
            joined_map_joined Node.sketch_text, ← sketchAll_eq_map, same]
        · exact .inr ⟨fun both => inner both.2, congrArg (Option.map _) missing⟩
      · rw [missing]
        exact .inr ⟨fun both => alike both.1, rfl⟩

/-- Proper nodes come back the same as far as they are written. -/
theorem againAll?_bare {context : Context} (bare : context.IsBare) (nodes : List Node)
    (h : ∀ node ∈ nodes, node.IsProper) (scope : List Binding) (line : Nat) :
    ((∀ node ∈ nodes, node.IsSpelledApart) ∧
      ∃ found remarks, againAll? context scope line nodes = some (found, remarks) ∧
        sketchAll found = sketchAll nodes) ∨
    (¬(∀ node ∈ nodes, node.IsSpelledApart) ∧ againAll? context scope line nodes = none) := by
  match nodes with
  | [] => exact .inl ⟨by simp, _, _, rfl, rfl⟩
  | node :: nodes =>
      rw [againAll?, List.forall_mem_cons]
      rcases Node.again?_bare bare node (h node List.mem_cons_self) scope line with
        ⟨apart, first, remarks, found, same⟩ | ⟨alike, missing⟩
      · rw [found]
        rcases againAll?_bare bare nodes
            (fun other member => h other (List.mem_cons_of_mem node member)) scope
            (line + node.write.count '\n') with
          ⟨inner, others, more, rest, equal⟩ | ⟨inner, missing⟩
        · refine .inl ⟨⟨apart, inner⟩, _, _, congrArg (Option.map _) rest, ?_⟩
          rw [sketchAll, sketchAll, same, equal]
        · exact .inr ⟨fun both => inner both.2, congrArg (Option.map _) missing⟩
      · rw [missing]
        exact .inr ⟨fun both => alike both.1, rfl⟩

end

/-- Nodes come back one by one. -/
theorem forall₂_of_againAll? {context : Context} {scope : List Binding} {line : Nat}
    {nodes found : List Node} {remarks : List Remark}
    (h : againAll? context scope line nodes = some (found, remarks)) :
    List.Forall₂ (fun node other => ∃ line remarks,
      node.again? context scope line = some (other, remarks)) nodes found := by
  induction nodes generalizing line found remarks with
  | nil =>
      cases h
      exact .nil
  | cons node nodes ih =>
      rw [againAll?] at h
      split at h
      · simp at h
      · next first more one =>
        obtain ⟨⟨others, rest⟩, all, equal⟩ := Option.map_eq_some_iff.1 h
        cases equal
        exact .cons ⟨line, more, one⟩ (ih all)

/-- `found.isText = node.isText`: text comes back as text, and nothing else does. -/
theorem Node.isText_of_again? {context : Context} {scope : List Binding} {line : Nat}
    {node found : Node} {remarks : List Remark}
    (h : node.again? context scope line = some (found, remarks)) : found.isText = node.isText := by
  cases node with
  | element head children =>
      rw [Node.again?] at h
      split at h
      · cases h
      · obtain ⟨inner, -, equal⟩ := Option.map_eq_some_iff.1 h
        cases equal
        rfl
  | _ =>
      cases h
      rfl

/-- **An element comes back with its start,** and with its content as it comes back. -/
theorem Head.IsProper.exists_of_again? {context : Context} (bare : context.IsBare) {head : Head}
    {children : List Node} (h : (Node.element head children).IsProper) {scope : List Binding}
    {line : Nat} {found : Node} {remarks : List Remark}
    (read : (Node.element head children).again? context scope line = some (found, remarks)) :
    ∃ inner more, againAll? context (head.bindings ++ scope) line children = some (inner, more) ∧
      found = .element (head.again scope line) (joined inner) := by
  rw [Node.again?] at read
  rcases h.head.head?_tag bare scope line with ⟨-, first, there⟩ | ⟨-, missing⟩
  · rw [there] at read
    obtain ⟨⟨inner, more⟩, content, equal⟩ := Option.map_eq_some_iff.1 read
    cases equal
    exact ⟨inner, more, content, rfl⟩
  · rw [missing] at read
    cases read

/-- An element comes back with its content as far as that is written. -/
theorem Head.IsProper.of_again? {context : Context} (bare : context.IsBare) {head : Head}
    {children : List Node} (h : (Node.element head children).IsProper) {scope : List Binding}
    {line : Nat} {found : Node} {remarks : List Remark}
    (read : (Node.element head children).again? context scope line = some (found, remarks)) :
    ∃ content, found = .element (head.again scope line) content ∧
      joined (sketchAll content) = joined (sketchAll children) := by
  obtain ⟨inner, more, content, same⟩ := Head.IsProper.exists_of_again? bare h read
  refine ⟨_, same, ?_⟩
  rcases againAll?_bare bare children h.children (head.bindings ++ scope) line with
    ⟨-, others, rest, all, equal⟩ | ⟨-, missing⟩
  · rw [all] at content
    cases content
    rw [sketchAll_eq_map, joined_map_joined Node.sketch_text, ← sketchAll_eq_map, equal]
  · rw [missing] at content
    cases content

/-! ## Joining and kinds of nodes -/

/-- Joining texts leaves the other nodes. -/
theorem filter_pushKept (before : List Node) (node : Node) :
    (pushKept before node).filter (!·.isText) =
      [node].filter (!·.isText) ++ before.filter (!·.isText) := by
  cases node with
  | text text =>
      cases text with
      | nil => rfl
      | cons c text =>
          rcases before with _ | ⟨last, before⟩
          · rfl
          · cases last <;> rfl
  | _ => rfl

/-- `(joined nodes).filter (!·.isText) = nodes.filter (!·.isText)`: joining text leaves the other
nodes as they are. -/
theorem filter_joined (nodes : List Node) :
    (joined nodes).filter (!·.isText) = nodes.filter (!·.isText) := by
  unfold joined
  induction nodes using List.reverseRecOn with
  | nil => rfl
  | append_singleton nodes node ih =>
      rw [List.filter_reverse] at ih ⊢
      rw [List.foldl_concat, filter_pushKept, List.reverse_append, ih, List.filter_append]
      cases node <;> rfl

/-- A text among the kept nodes was there, is the new one, or is both joined. -/
theorem of_text_mem_pushKept {before : List Node} {node : Node} {text : List Char}
    (h : .text text ∈ pushKept before node) :
    .text text ∈ before ∨ node = .text text ∨
      ∃ content more, .text content ∈ before ∧ node = .text more ∧ text = content ++ more := by
  unfold pushKept at h
  split at h
  · exact .inl h
  · unfold Assembly.push at h
    split at h
    · next more content rest _ =>
      rcases List.mem_cons.1 h with same | member
      · cases same
        exact .inr (.inr ⟨content, more, List.mem_cons_self, rfl, rfl⟩)
      · exact .inl (List.mem_cons_of_mem _ member)
    · rcases List.mem_cons.1 h with same | member
      · exact .inr (.inl same.symm)
      · exact .inl member

/-- Joined text is made of the characters of the texts. -/
theorem all_of_text_mem_joined {belongs : Char → Bool} {nodes : List Node}
    (h : ∀ text, .text text ∈ nodes → text.all belongs) :
    ∀ text, .text text ∈ joined nodes → text.all belongs := by
  unfold joined
  simp only [List.mem_reverse]
  induction nodes using List.reverseRecOn with
  | nil => simp
  | append_singleton nodes node ih =>
      have before := ih fun text member => h text (List.mem_append_left _ member)
      intro text member
      rw [List.foldl_concat] at member
      -- an earlier text, the new one, or the new one behind the last of the earlier ones
      rcases of_text_mem_pushKept member with there | rfl | ⟨content, more, there, rfl, rfl⟩
      · exact before text there
      · exact h text (by simp)
      · rw [List.all_append, before content there, h more (by simp)]
        rfl

end StringCatalog.Xml
