import StringCatalog.Proofs.Resource.Quote
import StringCatalog.Proofs.Resource.Slot
import StringCatalog.Proofs.Xml.Document
import StringCatalog.Proofs.Xml.Transplant

/-! # What a written resource document holds

* **`Resource.isProper_embed`** — the content of an item can be written.
* **`Resource.IsDocumentOf`** — a document that holds some items and nothing else.
* **`Resource.wellFormed?_write`** — what is read from the document of some items. -/

namespace StringCatalog.Resource

/-! ## Content -/

/-- **Markup can be written in its new place.** -/
theorem isProper_markup? {text : List Char} {bindings : List Xml.Binding} {nodes : List Xml.Node}
    (h : markup? text = some (bindings, nodes)) :
    Xml.IsDeclaration bindings ∧ ∀ node ∈ nodes, node.IsProper := by
  obtain ⟨document, read, moved⟩ := Option.map_eq_some_iff.1 h
  unfold Xml.Document.ofText? at read
  split at read
  · simp at read
  · next found remark wellFormed =>
    split at read
    · simp at read
    · cases read
      -- the document that is read begins with the tag around the text
      have proper := (Xml.Document.isProper_of_wellFormed? (c := 's') rfl (by decide)
        wellFormed).children
      have good := Xml.isProper_transplant proper
      rwa [moved] at good

/-- **A legal text comes to content that can be written.** -/
theorem isProper_embed {value : String} (legal : value.toList.all Xml.isChar) :
    ∃ bindings nodes, embed value = .ok (bindings, nodes) ∧ Xml.IsDeclaration bindings ∧
      ∀ node ∈ nodes, node.IsProper := by
  have escaped := all_isChar_escapeChars legal
  unfold embed
  dsimp only
  -- markup is what comes of a document, plain text is legal by itself
  split
  · next content found =>
    obtain ⟨declared, proper⟩ := isProper_markup? found
    exact ⟨_, _, rfl, declared, proper⟩
  · refine ⟨[], [.text (escapeChars value.toList)], if_pos escaped,
      ⟨by simp, by simp, by simp⟩, ?_⟩
    simpa using Xml.Node.IsProper.text escaped

/-! ## Items -/

/-- **An item that can be written.** -/
structure Item.IsProper (item : Item) : Prop where
  /-- The characters of the name are legal. -/
  name : item.name.all Xml.isChar
  /-- The element can declare the bindings. -/
  bindings : Xml.IsDeclaration item.bindings
  /-- The content can be written. -/
  content : ∀ node ∈ item.content, node.IsProper

/-- The attribute with the name of an item. -/
def nameAttribute (name : List Char) : Xml.Attribute :=
  ⟨⟨none, "name".toList⟩, none, name.map .char⟩

/-- The start of the element of an item. -/
def Item.head (item : Item) : Xml.Head :=
  ⟨⟨none, "string".toList⟩, none, item.bindings, [nameAttribute item.name], 0⟩

/-- `item.node = .element item.head item.content`. -/
theorem Item.node_eq (item : Item) : item.node = .element item.head item.content := rfl

/-- The element of a proper item can be written. -/
theorem Item.IsProper.node {item : Item} (h : item.IsProper) : item.node.IsProper := by
  have key : Xml.Name.IsProper ⟨none, "name".toList⟩ := ⟨by decide, by simp⟩
  have undeclared : (Xml.Name.ofText "name".toList).declaredLead? = none := by decide
  have name : (nameAttribute item.name).IsProper :=
    ⟨key, undeclared, ⟨item.name, h.name, rfl⟩, by simp [nameAttribute]⟩
  have tag : Xml.Name.IsProper ⟨none, "string".toList⟩ := ⟨by decide, by simp⟩
  have start : item.head.IsProper := by
    refine ⟨tag, by simp [Xml.isBound, Item.head], h.bindings.proper, h.bindings.nodup, ?_⟩
    simpa [Item.head] using name
  exact .element start h.content

/-- The element of an item has one attribute, so only its content matters. -/
theorem Item.isSpelledApart_node (item : Item) :
    item.node.IsSpelledApart ↔ ∀ node ∈ item.content, node.IsSpelledApart := by
  rw [Item.node_eq, Xml.Node.isSpelledApart_element]
  simp [Xml.Head.IsSpelledApart, Item.head]

/-! ## The root -/

/-- The nodes of the root: each element on a line of its own. -/
def rootChildren (items : List Item) : List Xml.Node :=
  if items.isEmpty then []
  else items.flatMap (fun item => [.text "\n  ".toList, item.node]) ++ [.text ['\n']]

/-- The start of the root. -/
def rootHead : Xml.Head := ⟨⟨none, "resources".toList⟩, none, [], [], 0⟩

/-- `writeNodes (nodes ++ more) = writeNodes nodes ++ writeNodes more`. -/
theorem writeNodes_append (nodes more : List Xml.Node) :
    Xml.writeNodes (nodes ++ more) = Xml.writeNodes nodes ++ Xml.writeNodes more := by
  induction nodes with
  | nil => rfl
  | cons node nodes ih =>
      rw [List.cons_append, Xml.writeNodes, Xml.writeNodes, ih, List.append_assoc]

/-- An item on a line of its own is indented by two blanks. -/
theorem writeNodes_line (item : Item) :
    Xml.writeNodes [.text "\n  ".toList, item.node] = "\n  ".toList ++ item.node.write := by
  have line : Xml.escapeText "\n  ".toList = "\n  ".toList := by decide
  rw [Xml.writeNodes, Xml.writeNodes, Xml.writeNodes, Xml.Node.write, line, List.append_nil]

/-- Items are written line by line. -/
theorem writeNodes_lines (items : List Item) :
    Xml.writeNodes (items.flatMap fun item => [.text "\n  ".toList, item.node]) =
      items.flatMap fun item => "\n  ".toList ++ item.node.write := by
  induction items with
  | nil => rfl
  | cons item items ih =>
      rw [List.flatMap_cons, List.flatMap_cons, writeNodes_append, writeNodes_line, ih]

/-- **The document of some items** is a first line with a root behind it. -/
theorem toList_write (items : List Item) :
    (write items).toList = firstLine ++ (Xml.Node.element rootHead (rootChildren items)).write ++
      ['\n'] := by
  rw [write, String.toList_ofList]
  cases items with
  | nil => rfl
  | cons item items =>
      have inner : (rootChildren (item :: items)).isEmpty = false := by simp [rootChildren]
      -- the two tags of the root, as they are written around its nodes
      have start : "<resources>".toList = '<' :: rootHead.write ++ ['>'] := by decide
      have finish : "\n</resources>".toList =
          Xml.writeNodes [.text ['\n']] ++ "</".toList ++ rootHead.name.text ++ ['>'] := by
        decide
      rw [Xml.Node.write, Xml.writeElement, inner, rootChildren]
      simp only [List.isEmpty_cons, Bool.false_eq_true, if_false]
      rw [writeNodes_append, writeNodes_lines, start, finish]
      simp only [List.append_assoc, List.cons_append, List.nil_append]

/-- The nodes of the root are the elements of the items and white space. -/
theorem of_mem_rootChildren {items : List Item} {node : Xml.Node} (h : node ∈ rootChildren items) :
    (∃ item ∈ items, node = item.node) ∨ node = .text "\n  ".toList ∨ node = .text ['\n'] := by
  unfold rootChildren at h
  split at h
  · simp at h
  · rcases List.mem_append.1 h with h | h
    · obtain ⟨item, there, member⟩ := List.mem_flatMap.1 h
      rcases List.mem_cons.1 member with same | member
      · exact .inr (.inl same)
      · exact .inl ⟨item, there, List.mem_singleton.1 member⟩
    · exact .inr (.inr (List.mem_singleton.1 h))

/-- Between the items there are texts only. -/
theorem filter_lines (items : List Item) :
    (items.flatMap fun item => [.text "\n  ".toList, item.node]).filter (!·.isText) =
      items.map Item.node := by
  induction items with
  | nil => rfl
  | cons item items ih =>
      rw [List.flatMap_cons, List.filter_append, ih, List.map_cons]
      rfl

/-- `(rootChildren items).filter (!·.isText) = items.map Item.node`: the nodes of the root besides
white space are the elements of the items. -/
theorem filter_rootChildren (items : List Item) :
    (rootChildren items).filter (!·.isText) = items.map Item.node := by
  unfold rootChildren
  split
  · next empty => rw [List.isEmpty_iff.1 empty]; rfl
  · rw [List.filter_append, filter_lines]
    exact List.append_nil _

/-- The node of each item is a child of the root. -/
theorem node_mem_rootChildren {items : List Item} {item : Item} (h : item ∈ items) :
    item.node ∈ rootChildren items := by
  have member := List.mem_map_of_mem (f := Item.node) h
  rw [← filter_rootChildren] at member
  exact List.mem_of_mem_filter member

/-- The root of proper items can be written. -/
theorem isProper_root {items : List Item} (h : ∀ item ∈ items, item.IsProper) :
    (Xml.Node.element rootHead (rootChildren items)).IsProper := by
  refine .element ⟨⟨by decide, by simp [rootHead]⟩, by simp [Xml.isBound, rootHead],
    by simp [rootHead], by simp [rootHead], by simp [rootHead]⟩ fun node member => ?_
  rcases of_mem_rootChildren member with ⟨item, there, rfl⟩ | rfl | rfl
  · exact (h item there).node
  · exact .text (by decide)
  · exact .text (by decide)

/-- Two attributes are written alike in the root if they are in an item. -/
theorem isSpelledApart_rootChildren {items : List Item} :
    (∀ node ∈ rootChildren items, node.IsSpelledApart) ↔
      ∀ item ∈ items, ∀ node ∈ item.content, node.IsSpelledApart := by
  refine ⟨fun h item member => ?_, fun h node member => ?_⟩
  · exact item.isSpelledApart_node.1 (h item.node (node_mem_rootChildren member))
  · rcases of_mem_rootChildren member with ⟨item, there, rfl⟩ | rfl | rfl
    · exact item.isSpelledApart_node.2 (h item there)
    · exact .text
    · exact .text

/-- **What is read from the document of some items:** the root as it comes back. -/
theorem wellFormed?_write {items : List Item} (h : ∀ item ∈ items, item.IsProper) :
    Xml.Document.wellFormed? (write items).toList =
      match rootHead.tag.head? ⟨{ Xml.Doctype.none with remark := none }, false⟩ [] 2 with
      | none => none
      | some (found, remarks) =>
          (Xml.againAll? ⟨{ Xml.Doctype.none with remark := none }, false⟩ found.bindings 2
            (rootChildren items)).map fun (nodes, more) =>
              (⟨found, Xml.joined nodes, { Xml.Doctype.none with remark := none }⟩,
                Xml.lastRemark none (remarks ++ more)) := by
  have proper := isProper_root h
  have begins : ∃ rest, (Xml.Node.element rootHead (rootChildren items)).write ++ ['\n'] =
      '<' :: 'r' :: rest := by
    rw [Xml.Node.write, Xml.writeElement]
    split <;> exact ⟨_, rfl⟩
  obtain ⟨rest, begins⟩ := begins
  have clean : Xml.IsClean (write items).toList := by
    rw [toList_write]
    exact Xml.isClean_append.2
      ⟨Xml.isClean_append.2 ⟨by decide, Xml.isClean_write _ proper⟩, by decide⟩
  have split : (write items).toList = firstLine ++ '<' :: 'r' :: rest := by
    rw [toList_write, List.append_assoc, begins]
  -- the first line names its encoding, and nothing else stands in front of the root
  have header : Xml.readHeader? (write items).toList =
      some (⟨some "utf-8".toList, false, none⟩, ['\n'] ++ '<' :: 'r' :: rest) := by
    rw [split]
    rfl
  have line : (write items).toList.count '\n' - ('<' :: 'r' :: rest).count '\n' = 1 := by
    rw [split, List.count_append, Nat.add_sub_cancel]
    decide
  rw [Xml.Document.wellFormed?_root clean.joinLineEnds clean.legal header (by decide) (by decide),
    line, ← begins]
  exact Xml.Document.ofRoot?_write _ 2 proper (by decide) (by decide)

/-! ## What the document holds -/

/-- Whether a node is nothing but white space. -/
def isBlankText : Xml.Node → Bool
  | .text content => content.all Xml.isBlank
  | _ => false

/-- **The element that holds an item:** its one attribute has the name, and its content is that of the
item as far as it is written. -/
def IsElementOf (item : Item) (node : Xml.Node) : Prop :=
  ∃ line content, node = .element { item.head with line } content ∧
    Xml.joined (Xml.sketchAll content) = Xml.joined (Xml.sketchAll item.content)

/-- **A document that holds some items and nothing else.** -/
structure IsDocumentOf (items : List Item) (document : Xml.Document) : Prop where
  /-- The root is the one of resources, without attributes. -/
  root : ∃ line, document.head = { rootHead with line }
  /-- The nodes of the root are the elements of the items and white space. -/
  elements : List.Forall₂ IsElementOf items (document.children.filter (!isBlankText ·))

/-- `item.head.again [] line = { item.head with line }`: the start of an item's element comes back
as it was. -/
theorem Item.again_head {item : Item} (h : item.IsProper) (line : Nat) :
    item.head.again [] line = { item.head with line } := by
  have unbound : Xml.bindingOf? none (item.bindings ++ []) = none := by
    rw [Xml.bindingOf?, List.append_nil, List.find?_eq_none]
    intro binding member
    have isSome := h.bindings.isSome binding member
    cases lead : binding.lead <;> simp_all
  have tag : Xml.Name.ofText "string".toList = ⟨none, "string".toList⟩ := by decide
  have key : Xml.Name.ofText "name".toList = ⟨none, "name".toList⟩ := by decide
  simp only [Xml.Head.again, Item.head, Xml.Name.text_none, tag, Xml.elementSpace, unbound,
    List.map_cons, List.map_nil, nameAttribute, Xml.Attribute.again, key, Xml.attributeSpace]

/-- The elements of items come back as elements of these items. -/
theorem forall₂_isElementOf {context : Xml.Context} (bare : context.IsBare) {items : List Item}
    (h : ∀ item ∈ items, item.IsProper) {found : List Xml.Node}
    (all : List.Forall₂ (fun node other => ∃ line remarks,
      node.again? context [] line = some (other, remarks)) (items.map Item.node) found) :
    List.Forall₂ IsElementOf items found := by
  induction items generalizing found with
  | nil =>
      cases all
      exact .nil
  | cons item items ih =>
      rw [List.forall_mem_cons] at h
      rw [List.map_cons] at all
      cases all with
      | cons one rest =>
          obtain ⟨line, remarks, read⟩ := one
          obtain ⟨content, same, inner⟩ :=
            @Xml.Head.IsProper.of_again? context bare item.head item.content h.1.node _ _ _ _ read
          rw [Item.again_head h.1] at same
          exact .cons ⟨line, content, same, inner⟩ (ih h.2 rest)

/-- The root of a document of items comes back as it was. -/
theorem head?_rootHead {context : Xml.Context} (bare : context.IsBare) :
    ∃ remarks, rootHead.tag.head? context [] 2 = some ({ rootHead with line := 2 }, remarks) := by
  have proper : rootHead.IsProper := (@isProper_root [] (by simp)).head
  rcases proper.head?_tag bare [] 2 with ⟨-, remarks, found⟩ | ⟨alike, -⟩
  · exact ⟨remarks, found⟩
  · exact absurd List.nodup_nil alike

/-- What is related to members of a list is as these make it. -/
theorem forall_mem_of_forall₂ {α β : Type} {related : α → β → Prop} {belongs : β → Prop}
    {values : List α} {others : List β} (h : List.Forall₂ related values others)
    (step : ∀ value ∈ values, ∀ other, related value other → belongs other) :
    ∀ other ∈ others, belongs other := by
  induction h with
  | nil => simp
  | cons one _ ih =>
      rw [List.forall_mem_cons] at step ⊢
      exact ⟨step.1 _ one, ih step.2⟩

/-- What comes back of the nodes of the root besides white space are the elements of the items. -/
theorem elements_of_againAll? {context : Xml.Context} (bare : context.IsBare) {items : List Item}
    (h : ∀ item ∈ items, item.IsProper) {line : Nat} {found : List Xml.Node}
    {remarks : List Xml.Remark}
    (read : Xml.againAll? context [] line (rootChildren items) = some (found, remarks)) :
    List.Forall₂ IsElementOf items ((Xml.joined found).filter (!isBlankText ·)) := by
  have all := Xml.forall₂_of_againAll? read
  -- text between the elements comes back as the blanks that were written
  have blank : ∀ other ∈ found, ∀ text, other = .text text → text.all Xml.isBlank := by
    refine forall_mem_of_forall₂ all fun node member other related text same => ?_
    obtain ⟨line, more, one⟩ := related
    rcases of_mem_rootChildren member with ⟨item, -, rfl⟩ | rfl | rfl
    · have kind := Xml.Node.isText_of_again? one
      rw [same] at kind
      cases kind
    · cases one
      cases same
      decide
    · cases one
      cases same
      decide
  -- joining text leaves blanks, so that blank text is all the text there is
  have plain : (Xml.joined found).filter (!isBlankText ·) = found.filter (!·.isText) := by
    rw [← Xml.filter_joined]
    refine List.filter_congr fun node member => ?_
    cases node with
    | text text => simpa [isBlankText, Xml.Node.isText] using
        Xml.all_of_text_mem_joined (fun text there => blank _ there text rfl) text member
    | _ => rfl
  rw [plain]
  refine forall₂_isElementOf bare h ?_
  rw [← filter_rootChildren]
  refine List.rel_filter (fun node other related => ?_) all
  obtain ⟨line, more, one⟩ := related
  simp only [Xml.Node.isText_of_again? one]

/-- **The document of some items is well formed** unless two attributes of an element in their
content are written alike, and it holds these items and nothing else. -/
theorem wellFormed?_write_cases {items : List Item} (h : ∀ item ∈ items, item.IsProper) :
    ((∀ item ∈ items, ∀ node ∈ item.content, node.IsSpelledApart) ∧
      ∃ document remark, Xml.Document.wellFormed? (write items).toList = some (document, remark) ∧
        IsDocumentOf items document) ∨
    (¬(∀ item ∈ items, ∀ node ∈ item.content, node.IsSpelledApart) ∧
      Xml.Document.wellFormed? (write items).toList = none) := by
  have bare := (Xml.isClosed_none false).bare
  have proper := isProper_root h
  obtain ⟨first, root⟩ := head?_rootHead bare
  rw [wellFormed?_write h, root, ← isSpelledApart_rootChildren]
  dsimp only
  rcases Xml.againAll?_bare bare (rootChildren items) proper.children [] 2 with
    ⟨each, found, remarks, read, same⟩ | ⟨some_alike, missing⟩
  · refine .inl ⟨each, _, _, congrArg (Option.map _) read, ⟨2, rfl⟩, ?_⟩
    have elements := elements_of_againAll? bare h read
    exact elements
  · exact .inr ⟨some_alike, congrArg (Option.map _) missing⟩

/-! ## Rendering -/

/-- **Whether an item is made of a name and a text.** -/
structure IsItemOf (pair : String × String) (item : Item) : Prop where
  /-- The name. -/
  name : item.name = pair.1.toList
  /-- The content is what the text comes to. -/
  content : embed pair.2 = .ok (item.bindings, item.content)

/-- A legal name and a legal text make an item that can be written. -/
theorem exists_item {pair : String × String} (name : pair.1.toList.all Xml.isChar)
    (value : pair.2.toList.all Xml.isChar) :
    ∃ item, Item.make pair.1 pair.2 = .ok item ∧ IsItemOf pair item ∧ item.IsProper := by
  obtain ⟨bindings, nodes, embedded, declared, proper⟩ := isProper_embed value
  refine ⟨⟨pair.1.toList, bindings, nodes⟩, ?_, ⟨rfl, embedded⟩, ⟨name, declared, proper⟩⟩
  simp only [Item.make, embedded, name, if_true]

/-- **Legal pairs make items:** `makeItems pairs` succeeds, item by item, and each item is
proper. -/
theorem exists_items {pairs : List (String × String)}
    (h : ∀ pair ∈ pairs, pair.1.toList.all Xml.isChar ∧ pair.2.toList.all Xml.isChar) :
    ∃ items, makeItems pairs = .ok items ∧ List.Forall₂ IsItemOf pairs items ∧
      ∀ item ∈ items, item.IsProper := by
  induction pairs with
  | nil => exact ⟨[], rfl, .nil, by simp⟩
  | cons pair pairs ih =>
      rw [List.forall_mem_cons] at h
      obtain ⟨item, made, known, proper⟩ := exists_item h.1.1 h.1.2
      obtain ⟨items, all, others, rest⟩ := ih h.2
      refine ⟨item :: items, ?_, .cons known others, List.forall_mem_cons.2 ⟨proper, rest⟩⟩
      unfold makeItems
      rw [made, all]

/-- **The items of some slots:** one for each identifier, with the text of its first slot. -/
structure AreItemsOf (slots : List Slot) (items : List Item) : Prop where
  /-- The names are the identifiers, each once, in the order in which they first occur. -/
  names : items.map (String.ofList ·.name) = (slots.map Slot.id).eraseDups
  /-- No two of them are the same. -/
  distinct : (items.map (String.ofList ·.name)).Nodup
  /-- The content of each is that of the first slot with its identifier. -/
  first : ∀ item ∈ items, ∃ slot, slots.find? (·.id == String.ofList item.name) = some slot ∧
    embed slot.translated = .ok (item.bindings, item.content)

/-- `items.map (String.ofList ·.name) = pairs.map Prod.fst`: the names of items are those of the
pairs that they are made of. -/
theorem map_name_of_isItemOf {pairs : List (String × String)} {items : List Item}
    (h : List.Forall₂ IsItemOf pairs items) :
    items.map (String.ofList ·.name) = pairs.map Prod.fst := by
  induction h with
  | nil => rfl
  | cons one _ ih => rw [List.map_cons, List.map_cons, ih, one.name, String.ofList_toList]

/-- `makeItems (distinctNames [] …)` makes the items of the slots: the first text is kept for each
identifier. -/
theorem areItemsOf {slots : List Slot} {items : List Item}
    (h : List.Forall₂ IsItemOf
      (distinctNames [] (slots.map fun slot => (slot.id, slot.translated))) items) :
    AreItemsOf slots items where
  names := by
    rw [map_name_of_isItemOf h, map_fst_distinctNames, List.map_map]
    simp [Function.comp_def]
  distinct := by
    rw [map_name_of_isItemOf h]
    exact nodup_distinctNames _ _
  first := by
    refine forall_mem_of_forall₂ h fun pair member item known => ?_
    have found := (find?_of_mem_distinctNames member).2
    rw [List.find?_map] at found
    obtain ⟨slot, there, same⟩ := Option.map_eq_some_iff.1 found
    have name : String.ofList item.name = pair.1 := by rw [known.name, String.ofList_toList]
    refine ⟨slot, ?_, ?_⟩
    · rw [name]
      exact there
    · rw [← known.content, ← same]

/-- **The document of legal strings:** `render stem strings = .ok (write items)`, where the items
are `AreItemsOf` the slots: one for each identifier, with the text of its first slot. What is
written is a document with these elements and nothing else (`IsDocumentOf`) if all content
`IsSpelledApart`, and not well formed if two attributes of an element in these texts are written
alike in their new place. -/
theorem render_cases {stem : String} (legal : stem.toList.all Xml.isChar)
    {strings : List Translatable} (h : ∀ string ∈ strings, string.IsLegal) :
    ∃ items, render stem strings = .ok (write items) ∧
      AreItemsOf (strings.flatMap (slots stem)) items ∧
      (((∀ item ∈ items, ∀ node ∈ item.content, node.IsSpelledApart) ∧
        ∃ document remark, Xml.Document.wellFormed? (write items).toList = some (document, remark) ∧
          IsDocumentOf items document) ∨
      (¬(∀ item ∈ items, ∀ node ∈ item.content, node.IsSpelledApart) ∧
        Xml.Document.wellFormed? (write items).toList = none)) := by
  have slots_legal : ∀ slot ∈ strings.flatMap (slots stem),
      slot.id.toList.all Xml.isChar ∧ slot.translated.toList.all Xml.isChar := by
    intro slot member
    obtain ⟨string, there, member⟩ := List.mem_flatMap.1 member
    exact isLegal_of_mem_slots legal (h string there) member
  -- the pairs that are kept are slots, and these are legal
  have pairs_legal : ∀ pair ∈ distinctNames []
      ((strings.flatMap (slots stem)).map fun slot => (slot.id, slot.translated)),
      pair.1.toList.all Xml.isChar ∧ pair.2.toList.all Xml.isChar := by
    intro pair member
    have found := (find?_of_mem_distinctNames member).2
    obtain ⟨slot, there, rfl⟩ := List.mem_map.1 (List.mem_of_find?_eq_some found)
    exact slots_legal slot there
  obtain ⟨items, made, all, proper⟩ := exists_items pairs_legal
  refine ⟨items, ?_, areItemsOf all, wellFormed?_write_cases proper⟩
  rw [render, made]

/-- A text with markup, and one that would end its element. -/
theorem render_cases_two :
    let strings : List Translatable :=
      [⟨"a", some "m", none, some [some "<b/>"], none, none, [], none, {}⟩,
        ⟨"c", some "n", none, some [some "</string>"], none, none, [], none, {}⟩]
    ∃ items document remark, render "Str" strings = .ok (write items) ∧
      AreItemsOf (strings.flatMap (slots "Str")) items ∧
      Xml.Document.wellFormed? (write items).toList = some (document, remark) ∧
      IsDocumentOf items document := by
  intro strings
  have legal : ∀ string ∈ strings, string.IsLegal := by
    simp only [strings, List.forall_mem_cons]
    exact ⟨⟨by decide, by decide⟩, ⟨by decide, by decide⟩, by simp⟩
  have reads : ∀ text ∈ (render "Str" strings).toOption,
      (Xml.Document.wellFormed? text.toList).isSome := by
    decide +kernel
  obtain ⟨items, rendered, made, ⟨-, document, remark, read, held⟩ | ⟨-, missing⟩⟩ :=
    @render_cases "Str" (by decide) strings legal
  · exact ⟨items, document, remark, rendered, made, read, held⟩
  · rw [rendered] at reads
    exact absurd (reads _ rfl) (by simp [missing])

/-- A text in which two prefixes come to be one: the document of this legal string is not well
formed. -/
theorem render_cases_clash :
    let value := "<o xmlns:r=\"u\"><a xmlns:p=\"u\" xmlns:r=\"w\" p:x=\"1\" r:x=\"2\"/></o>"
    let string : Translatable := ⟨"a", some "n", none, some [some value], none, none, [], none, {}⟩
    let written := "<?xml version='1.0' encoding='utf-8'?>\n<resources>\n  <string name=\"n\">" ++
      "<o xmlns:r=\"u\"><a xmlns:r=\"w\" r:x=\"1\" r:x=\"2\"/></o></string>\n</resources>\n"
    string.IsLegal ∧ render "Str" [string] = .ok written ∧
      Xml.Document.wellFormed? written.toList = none := by
  refine ⟨⟨by decide, ?_⟩, by decide +kernel, Option.isNone_iff_eq_none.1 (by decide +kernel)⟩
  simp only [Translatable.effective, Option.getD_some, List.forall_mem_singleton,
    Option.mem_some_iff, forall_eq']
  decide +kernel

end StringCatalog.Resource
