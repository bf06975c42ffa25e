import StringCatalog.Proofs.Xml.Settled
import StringCatalog.Proofs.Xml.SoundText

/-! # What is written for nodes that come back

* **`Xml.joined_eq_filter`** — where no two texts stand side by side, joining text leaves out the
  empty ones.
* **`Xml.Node.write_of_again?`** — a settled node is written as before when it comes back.
* **`Xml.Node.exists_again?_line`** — the remarks on a node do not depend on the line. -/

namespace StringCatalog.Xml

/-! ## Empty texts -/

/-- Whether a node is an empty text. -/
def Node.isEmptyText : Node → Bool
  | .text [] => true
  | _ => false

/-- `node.isEmptyText ↔ node = .text []`. -/
theorem Node.isEmptyText_iff {node : Node} : node.isEmptyText ↔ node = .text [] := by
  unfold Node.isEmptyText
  split
  · simp
  · next other => simpa using other

/-- `pushKept before node = node :: before`: a node is put behind others as it is, if it is no text
behind text. -/
theorem pushKept_eq {before : List Node} {node : Node} (nonempty : node.isEmptyText = false)
    (apart : ∀ last ∈ before.head?, ¬(last.isText ∧ node.isText)) :
    pushKept before node = node :: before := by
  unfold pushKept
  split
  · cases nonempty
  · unfold Assembly.push
    split
    · exact absurd ⟨rfl, rfl⟩ (apart _ rfl)
    · rfl

/-- Nodes that are apart are kept one by one, but for empty texts: there is nothing to join. -/
theorem foldl_pushKept_of_areApart {before nodes : List Node} (h : AreApart nodes)
    (apart : ∀ last ∈ before.head?, ∀ next ∈ nodes.head?, ¬(last.isText ∧ next.isText)) :
    nodes.foldl pushKept before = (nodes.filter (!·.isEmptyText)).reverse ++ before := by
  induction nodes generalizing before with
  | nil => rfl
  | cons node nodes ih =>
      have behind : ∀ next ∈ nodes.head?, ¬(node.isText ∧ next.isText) := by
        intro next first
        obtain ⟨more, rfl⟩ := List.head?_eq_some_iff.1 first
        exact (List.isChain_cons_cons.1 h).1
      rw [List.foldl_cons, List.filter_cons]
      cases empty : node.isEmptyText with
      | true =>
          -- an empty text is left out, and there is no text behind it
          obtain rfl : node = .text [] := by
            unfold Node.isEmptyText at empty
            split at empty
            · rfl
            · cases empty
          exact ih h.tail fun last _ next first both => behind next first ⟨rfl, both.2⟩
      | false =>
          rw [pushKept_eq empty fun last first => apart last first node rfl, ih h.tail]
          · simp
          · intro last first next
            cases first
            exact behind next

/-- **Where no two texts stand side by side,** joining text leaves out the empty ones:
`joined nodes = nodes.filter (!·.isEmptyText)`. -/
theorem joined_eq_filter {nodes : List Node} (h : AreApart nodes) :
    joined nodes = nodes.filter (!·.isEmptyText) := by
  rw [joined, foldl_pushKept_of_areApart h (by simp), List.append_nil, List.reverse_reverse]

/-- `writeNodes (nodes.filter (!·.isEmptyText)) = writeNodes nodes`: nothing is written for empty
texts. -/
theorem writeNodes_filter (nodes : List Node) :
    writeNodes (nodes.filter (!·.isEmptyText)) = writeNodes nodes := by
  induction nodes with
  | nil => rfl
  | cons node nodes ih =>
      rw [List.filter_cons, writeNodes]
      split
      · rw [writeNodes, ih]
      · next empty =>
        obtain rfl : node = .text [] := Node.isEmptyText_iff.1 (by simpa using empty)
        rw [ih]
        rfl

/-- `writeNodes (joined nodes) = writeNodes nodes`: joining texts leaves what is written. -/
theorem writeNodes_joined {nodes : List Node} (h : AreApart nodes) :
    writeNodes (joined nodes) = writeNodes nodes := by
  rw [joined_eq_filter h, writeNodes_filter]

/-- `nodes = [] ∨ isHollow nodes`: all that is left out is an empty text alone. -/
theorem AreApart.isHollow_of_joined {nodes : List Node} (h : AreApart nodes)
    (none : joined nodes = []) : nodes = [] ∨ isHollow nodes := by
  rw [joined_eq_filter h, List.filter_eq_nil_iff] at none
  have empty : ∀ node ∈ nodes, node = .text [] := fun node member =>
    Node.isEmptyText_iff.1 (by simpa using none node member)
  rcases h.eq_text fun node member => by rw [empty node member]; rfl with rfl | ⟨text, rfl⟩
  · exact .inl rfl
  · right
    rw [empty (.text text) (by simp)]
    rfl

/-- `nodes.head? = some (.text text)`: the text that nodes begin with does so still when text is
joined to text. -/
theorem AreApart.head?_joined {nodes : List Node} (h : AreApart nodes) {text : List Char}
    (first : (joined nodes).head? = some (.text text)) : nodes.head? = some (.text text) := by
  rw [joined_eq_filter h] at first
  cases nodes with
  | nil => cases first
  | cons node nodes =>
      rw [List.filter_cons] at first
      split at first
      · exact first
      · next empty =>
        -- no text stands behind the empty one that is left out
        obtain rfl : node = .text [] := Node.isEmptyText_iff.1 (by simpa using empty)
        cases nodes with
        | nil => cases first
        | cons next nodes =>
            have apart := (List.isChain_cons_cons.1 h).1
            rw [List.filter_cons] at first
            split at first
            · cases first
              exact absurd ⟨rfl, rfl⟩ apart
            · next hidden =>
              obtain rfl : next = .text [] := Node.isEmptyText_iff.1 (by simpa using hidden)
              exact absurd ⟨rfl, rfl⟩ apart

/-- Something else than text is still there when text is joined to text. -/
theorem exists_isText_joined {nodes : List Node} (h : ∃ node ∈ nodes, node.isText = false) :
    ∃ node ∈ joined nodes, node.isText = false := by
  obtain ⟨node, member, other⟩ := h
  have kept : node ∈ (joined nodes).filter (!·.isText) := by
    rw [filter_joined]
    exact List.mem_filter.2 ⟨member, by rw [other]; rfl⟩
  exact ⟨node, List.mem_of_mem_filter kept, other⟩

/-! ## Nodes that come back -/

/-- `found.map Node.isText = nodes.map Node.isText`: texts come back as texts, and other nodes as
other nodes. -/
theorem map_isText_of_againAll? {context : Context} {scope : List Binding} {line : Nat}
    {nodes found : List Node} {remarks : List Remark}
    (read : againAll? context scope line nodes = some (found, remarks)) :
    found.map Node.isText = nodes.map Node.isText := by
  have related := forall₂_of_againAll? read
  clear read
  induction related with
  | nil => rfl
  | cons one _ ih =>
      obtain ⟨line, remarks, one⟩ := one
      rw [List.map_cons, List.map_cons, Node.isText_of_again? one, ih]

/-- Texts stand apart when they come back. -/
theorem AreApart.of_againAll? {nodes : List Node} (h : AreApart nodes) {context : Context}
    {scope : List Binding} {line : Nat} {found : List Node} {remarks : List Remark}
    (read : againAll? context scope line nodes = some (found, remarks)) : AreApart found := by
  have same := map_isText_of_againAll? read
  have chain (nodes : List Node) : AreApart nodes ↔
      (nodes.map Node.isText).IsChain fun first next : Bool => ¬(first ∧ next) := by
    rw [List.isChain_map, AreApart]
  rw [chain, same, ← chain]
  exact h

/-- `node = .text text`: a text that comes back has been that text. -/
theorem Node.eq_text_of_again? {context : Context} {scope : List Binding} {line : Nat} {node : Node}
    {text : List Char} {remarks : List Remark}
    (read : node.again? context scope line = some (.text text, remarks)) : node = .text text := by
  have isText := Node.isText_of_again? read
  cases node with
  | text content =>
      cases read
      rfl
  | _ => cases isText

/-- An empty text alone comes back only from one. -/
theorem isHollow_of_againAll? {context : Context} {scope : List Binding} {line : Nat}
    {nodes found : List Node} {remarks : List Remark}
    (read : againAll? context scope line nodes = some (found, remarks)) (h : isHollow found) :
    isHollow nodes := by
  obtain rfl : found = [.text []] := by
    unfold isHollow at h
    split at h
    · rfl
    · cases h
  cases forall₂_of_againAll? read with
  | cons one rest =>
      obtain ⟨line, remarks, one⟩ := one
      cases rest
      rw [Node.eq_text_of_again? one]
      rfl

/-- `nodes.head? = some (.text text)`: a text that nodes begin with when they come back is the one
that they begin with. -/
theorem head?_of_againAll? {context : Context} {scope : List Binding} {line : Nat}
    {nodes found : List Node} {remarks : List Remark}
    (read : againAll? context scope line nodes = some (found, remarks)) {text : List Char}
    (first : found.head? = some (.text text)) : nodes.head? = some (.text text) := by
  cases forall₂_of_againAll? read with
  | nil => cases first
  | cons one _ =>
      obtain ⟨line, remarks, one⟩ := one
      cases first
      rw [Node.eq_text_of_again? one]
      rfl

/-- If there is a node that is no text, one comes back. -/
theorem exists_isText_of_againAll? {context : Context} {scope : List Binding} {line : Nat}
    {nodes found : List Node} {remarks : List Remark}
    (read : againAll? context scope line nodes = some (found, remarks))
    (h : ∃ node ∈ nodes, node.isText = false) : ∃ node ∈ found, node.isText = false := by
  rwa [← List.mem_map, map_isText_of_againAll? read, List.mem_map]

/-- `(head.again scope line).write = head.write`: only the line is another. -/
theorem Head.write_again (scope : List Binding) (line : Nat) (head : Head) :
    (head.again scope line).write = head.write := by
  have attributes : (head.attributes.map (Attribute.again (head.bindings ++ scope))).flatMap
      Attribute.write = head.attributes.flatMap Attribute.write := by
    rw [List.flatMap_map]
    refine List.flatMap_congr fun entry _ => ?_
    simp only [Attribute.write, Attribute.again, Name.text_ofText]
  simp only [Head.write, Head.again, Name.text_ofText, attributes]

mutual

/-- **A settled node is written as before** when it comes back: `found.write = node.write`. -/
theorem Node.write_of_again? {context : Context} (bare : context.IsBare) (node : Node)
    (h : node.IsProper) (sound : node.IsSound) {scope : List Binding}
    (settled : node.isSettled scope) {line : Nat} {found : Node} {remarks : List Remark}
    (read : node.again? context scope line = some (found, remarks)) : found.write = node.write := by
  match node with
  | .element head children =>
      obtain ⟨inner, more, content, rfl⟩ := Head.IsProper.exists_of_again? bare h read
      obtain ⟨-, solid, inside⟩ := Node.isSettled_element.1 settled
      have apart := sound.apart.of_againAll? content
      have same := writeNodes_of_againAll? bare children h.children sound.children inside content
      have isEmpty : (joined inner).isEmpty = children.isEmpty := by
        rw [Bool.eq_iff_iff, List.isEmpty_iff, List.isEmpty_iff]
        refine ⟨fun none => ?_, fun none => ?_⟩
        · rcases apart.isHollow_of_joined none with rfl | hollow
          · cases forall₂_of_againAll? content
            rfl
          · rw [isHollow_of_againAll? content hollow] at solid
            cases solid
        · subst none
          cases content
          rfl
      have name : (head.again scope line).name.text = head.name.text := Name.text_ofText _
      rw [Node.write, Node.write, writeNodes_joined apart, same, isEmpty, writeElement,
        writeElement, head.write_again, name]
  | .text content =>
      cases read
      rfl
  | .comment content =>
      cases read
      rfl
  | .instruction target data =>
      cases read
      rfl
  | .reference name => cases h

/-- `writeNodes found = writeNodes nodes`: what comes back of settled nodes is written the same. -/
theorem writeNodes_of_againAll? {context : Context} (bare : context.IsBare) (nodes : List Node)
    (h : ∀ node ∈ nodes, node.IsProper) (sound : ∀ node ∈ nodes, node.IsSound)
    {scope : List Binding} (settled : areSettled scope nodes) {line : Nat} {found : List Node}
    {remarks : List Remark} (read : againAll? context scope line nodes = some (found, remarks)) :
    writeNodes found = writeNodes nodes := by
  match nodes with
  | [] =>
      cases read
      rfl
  | node :: nodes =>
      rw [List.forall_mem_cons] at h sound
      rw [areSettled, Bool.and_eq_true] at settled
      rw [againAll?] at read
      split at read
      · cases read
      · next first remarks one =>
        obtain ⟨⟨others, more⟩, all, equal⟩ := Option.map_eq_some_iff.1 read
        cases equal
        rw [writeNodes, writeNodes, Node.write_of_again? bare node h.1 sound.1 settled.1 one,
          writeNodes_of_againAll? bare nodes h.2 sound.2 settled.2 all]

end

/-! ## Lines -/

/-- The remarks on a start tag do not depend on its line. -/
theorem Tag.head?_line {context : Context} {scope : List Binding} {line : Nat} {tag : Tag}
    {head : Head} {remarks : List Remark}
    (h : tag.head? context scope line = some (head, remarks)) (other : Nat) :
    tag.head? context scope other = some ({ head with line := other }, remarks) := by
  unfold Tag.head? at h ⊢
  dsimp only at h ⊢
  split at h
  · cases h
  · next sorted read =>
    split at h
    · cases h
    · cases h
      rfl

mutual

/-- **The remarks on a node do not depend on its line.** -/
theorem Node.exists_again?_line (node : Node) {context : Context} {scope : List Binding}
    {line : Nat} {found : Node} {remarks : List Remark}
    (read : node.again? context scope line = some (found, remarks)) (other : Nat) :
    ∃ again, node.again? context scope other = some (again, remarks) := by
  match node with
  | .element head children =>
      rw [Node.again?] at read ⊢
      split at read
      · cases read
      · next start first there =>
        obtain ⟨⟨inner, more⟩, content, equal⟩ := Option.map_eq_some_iff.1 read
        cases equal
        obtain ⟨again, same⟩ := exists_againAll?_line children content other
        rw [Tag.head?_line there other]
        exact ⟨_, congrArg (Option.map _) same⟩
  | .text content =>
      cases read
      exact ⟨_, rfl⟩
  | .comment content =>
      cases read
      exact ⟨_, rfl⟩
  | .instruction target data =>
      cases read
      exact ⟨_, rfl⟩
  | .reference name =>
      cases read
      exact ⟨_, rfl⟩

/-- Nodes come back also from another line. -/
theorem exists_againAll?_line (nodes : List Node) {context : Context} {scope : List Binding}
    {line : Nat} {found : List Node} {remarks : List Remark}
    (read : againAll? context scope line nodes = some (found, remarks)) (other : Nat) :
    ∃ again, againAll? context scope other nodes = some (again, remarks) := by
  match nodes with
  | [] =>
      cases read
      exact ⟨_, rfl⟩
  | node :: nodes =>
      rw [againAll?] at read ⊢
      split at read
      · cases read
      · next first remarks one =>
        obtain ⟨⟨others, more⟩, all, equal⟩ := Option.map_eq_some_iff.1 read
        cases equal
        obtain ⟨again, same⟩ := Node.exists_again?_line node one other
        obtain ⟨rest, equal⟩ := exists_againAll?_line nodes all (other + node.write.count '\n')
        rw [same]
        exact ⟨_, congrArg (Option.map _) equal⟩

end

/-! ## Bindings that are settled -/

mutual

/-- The bindings in a settled node are proper. -/
theorem Node.isProper_of_isSettled (node : Node) {scope : List Binding}
    (settled : node.isSettled scope) :
    ∀ head children, .element head children ∈ node.within →
      ∀ binding ∈ head.bindings, binding.IsProper := by
  match node with
  | .element head children =>
      obtain ⟨bindings, -, inside⟩ := Node.isSettled_element.1 settled
      intro other inner member
      rcases List.mem_cons.1 member with same | member
      · cases same
        exact fun binding there => (bindings binding there).1
      · exact isProper_of_areSettled children inside other inner member
  | .text content => simp [Node.within]
  | .comment content => simp [Node.within]
  | .instruction target data => simp [Node.within]
  | .reference name => simp [Node.within]

/-- All bindings in settled nodes are proper. -/
theorem isProper_of_areSettled (nodes : List Node) {scope : List Binding}
    (settled : areSettled scope nodes) :
    ∀ head children, .element head children ∈ withinAll nodes →
      ∀ binding ∈ head.bindings, binding.IsProper := by
  match nodes with
  | [] => simp [withinAll]
  | node :: nodes =>
      rw [areSettled, Bool.and_eq_true] at settled
      intro head children member
      rcases List.mem_append.1 member with member | member
      · exact Node.isProper_of_isSettled node settled.1 head children member
      · exact isProper_of_areSettled nodes settled.2 head children member

end

end StringCatalog.Xml
