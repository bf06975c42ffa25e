import StringCatalog.Proofs.Resource.Quote
import StringCatalog.Proofs.Resource.Source
import StringCatalog.Proofs.Xml.Reread

/-! # Texts that a resource document keeps

* **`Resource.IsKept`** — a text whose content comes back as content that stands for the text.
* **`Resource.isSome_ofText?_write`** — a document of such texts alone is read.
* **`Resource.IsKept.textIn_eq`** — in a document that is read such a text comes back.
* **`Resource.exists_render_of_isNamed`** — what is read from the document of named strings. -/

namespace StringCatalog.Resource

/-! ## Remarks -/

/-- Whether the last of some remarks is no error: `remarks.getLast? ≠ some .error`. -/
def IsQuiet (remarks : List Xml.Remark) : Prop := remarks.getLast? ≠ some .error

/-- No remarks are quiet. -/
theorem isQuiet_nil : IsQuiet [] := by simp [IsQuiet]

/-- Quiet remarks behind quiet ones are quiet. -/
theorem IsQuiet.append {remarks more : List Xml.Remark} (first : IsQuiet remarks)
    (second : IsQuiet more) : IsQuiet (remarks ++ more) := by
  unfold IsQuiet at *
  rw [List.getLast?_append]
  cases last : more.getLast? with
  | none => simpa using first
  | some remark => simpa [last] using second

/-- `Xml.lastRemark none remarks ≠ some .error`: quiet remarks end in no error. -/
theorem IsQuiet.lastRemark {remarks : List Xml.Remark} (h : IsQuiet remarks) :
    Xml.lastRemark none remarks ≠ some .error := by
  unfold IsQuiet at h
  unfold Xml.lastRemark
  split
  · next remark last =>
    rw [last] at h
    exact h
  · simp

/-- Remarks that do not end in an error are quiet. -/
theorem isQuiet_of_lastRemark {remarks : List Xml.Remark}
    (h : Xml.lastRemark none remarks ≠ some .error) : IsQuiet remarks := by
  unfold Xml.lastRemark at h
  unfold IsQuiet
  split at h
  · next last => rwa [last]
  · next none => simp [none]

/-- Nodes that come back one by one without an error come back together without one. -/
theorem exists_againAll?_of_forall {context : Xml.Context} {scope : List Xml.Binding}
    {nodes : List Xml.Node}
    (h : ∀ node ∈ nodes, ∀ line, ∃ found remarks,
      node.again? context scope line = some (found, remarks) ∧ IsQuiet remarks) (line : Nat) :
    ∃ found remarks, Xml.againAll? context scope line nodes = some (found, remarks) ∧
      IsQuiet remarks := by
  induction nodes generalizing line with
  | nil => exact ⟨[], [], rfl, isQuiet_nil⟩
  | cons node nodes ih =>
      rw [List.forall_mem_cons] at h
      obtain ⟨first, remarks, one, quiet⟩ := h.1 line
      obtain ⟨others, more, all, silent⟩ := ih h.2 (line + node.write.count '\n')
      refine ⟨first :: others, remarks ++ more, ?_, quiet.append silent⟩
      rw [Xml.againAll?, one]
      simp only [all, Option.map_some]

/-! ## Kept texts -/

/-- **A text that a document keeps:** its content needs no bindings around it, and comes back
without an error as content that stands for the text. -/
structure IsKeptAs (value : String) (nodes : List Xml.Node) : Prop where
  /-- The text comes to the content. -/
  embedded : embed value = .ok ([], nodes)
  /-- The content comes back as content that stands for the text. -/
  again : ∀ line, ∃ found remarks,
    Xml.againAll? bareContext [] line nodes = some (found, remarks) ∧ IsQuiet remarks ∧
      unescapeChars (innerText [] (Xml.joined found)) = value.toList

/-- **A text that a document keeps,** with some content: `∃ nodes, IsKeptAs value nodes`. -/
def IsKept (value : String) : Prop := ∃ nodes, IsKeptAs value nodes

/-! ## Items that are read -/

/-- The start of an item that declares nothing comes back without a remark. -/
theorem Item.head?_tag {item : Item} (none : item.bindings = []) (line : Nat) :
    item.head.tag.head? bareContext [] line = some ({ item.head with line }, []) := by
  have tag : Xml.Name.ofText "string".toList = ⟨Option.none, "string".toList⟩ := by decide
  have key : Xml.Name.ofText "name".toList = ⟨Option.none, "name".toList⟩ := by decide
  have entry : item.head.tag =
      ⟨⟨Option.none, "string".toList⟩, [⟨⟨Option.none, "name".toList⟩, item.name.map .char⟩]⟩ := by
    simp only [Xml.Head.tag, Xml.Head.entries, Item.head, none, nameAttribute, Xml.Name.text_none,
      tag, key, List.map_nil, List.nil_append, List.map_cons, Xml.plainText_map]
  have added : Xml.Sorted.add? bareContext "string".toList ⟨[], [], []⟩
      ⟨⟨Option.none, "name".toList⟩, item.name.map .char⟩ =
        some ⟨[], [⟨⟨Option.none, "name".toList⟩, item.name.map .char⟩], []⟩ := by
    rw [Xml.Sorted.add?]
    simp only [isBare_bareContext.trims, Bool.false_eq_true, if_false, Xml.Context.checkValue?_map]
    rfl
  have sorted : Xml.Sorted.all? bareContext "string".toList ⟨[], [], []⟩
      [⟨⟨Option.none, "name".toList⟩, item.name.map .char⟩] =
        some ⟨[], [⟨⟨Option.none, "name".toList⟩, item.name.map .char⟩], []⟩ := by
    rw [Xml.Sorted.all?, added]
    rfl
  have start : item.head =
      ⟨⟨Option.none, "string".toList⟩, Option.none, [], [nameAttribute item.name], 0⟩ := by
    rw [Item.head, none]
  rw [entry, start, Xml.Tag.head?, Xml.Name.text_none, sorted]
  rfl

/-- **An item whose element comes back without an error,** on whatever line. -/
def Item.IsRead (item : Item) : Prop :=
  ∀ line, ∃ found remarks, item.node.again? bareContext [] line = some (found, remarks) ∧
    IsQuiet remarks

/-- An item that declares nothing is such if its content comes back without an error. -/
theorem Item.isRead_of_againAll? {item : Item} (none : item.bindings = [])
    (again : ∀ line, ∃ found remarks,
      Xml.againAll? bareContext [] line item.content = some (found, remarks) ∧ IsQuiet remarks) :
    item.IsRead := by
  intro line
  obtain ⟨found, remarks, read, quiet⟩ := again line
  refine ⟨.element { item.head with line } (Xml.joined found), remarks, ?_, quiet⟩
  have scope : item.head.bindings ++ [] = [] := by
    rw [List.append_nil]
    exact none
  rw [Item.node_eq, Xml.Node.again?, item.head?_tag none line]
  simp only [scope, read, Option.map_some, List.nil_append]

/-- **A document of such items is read.** -/
theorem isSome_ofText?_write {items : List Item} (proper : ∀ item ∈ items, item.IsProper)
    (known : ∀ item ∈ items, item.IsRead) : (Xml.Document.ofText? (write items).toList).isSome := by
  -- what stands between the elements is white space, on which there is no remark
  have nodes : ∀ node ∈ rootChildren items, ∀ line, ∃ found remarks,
      node.again? bareContext [] line = some (found, remarks) ∧ IsQuiet remarks := by
    intro node member line
    rcases of_mem_rootChildren member with ⟨item, there, rfl⟩ | rfl | rfl
    · exact known item there line
    · exact ⟨_, [], rfl, isQuiet_nil⟩
    · exact ⟨_, [], rfl, isQuiet_nil⟩
  obtain ⟨found, remarks, read, quiet⟩ := exists_againAll?_of_forall nodes 2
  have whole := wellFormed?_write proper
  rw [← bareContext, head?_tag_rootHead] at whole
  dsimp only at whole
  rw [show rootHead.bindings = [] from rfl, read] at whole
  have accepted : (Xml.lastRemark none remarks == some .error) = false := by
    simpa using quiet.lastRemark
  rw [Xml.Document.ofText?, whole]
  simp only [Option.map_some, List.nil_append, accepted, Bool.false_eq_true, if_false,
    Option.isSome_some]

/-- **An item is such if it is read in a document of its own.** -/
theorem Item.isRead_of_isSome {item : Item} (proper : item.IsProper)
    (read : (Xml.Document.ofText? (write [item]).toList).isSome) : item.IsRead := by
  obtain ⟨document, read⟩ := Option.isSome_iff_exists.1 read
  obtain ⟨found, remarks, again, last, -⟩ :=
    exists_againAll?_of_ofText? (List.forall_mem_singleton.2 proper) read
  -- there is no remark on the texts around the element
  obtain ⟨line, one, element⟩ : ∃ line one,
      item.node.again? bareContext [] line = some (one, remarks) := by
    have children : rootChildren [item] = [.text "\n  ".toList, item.node, .text ['\n']] := rfl
    rw [children, Xml.againAll?, Xml.againAll?, Xml.againAll?] at again
    cases element : item.node.again? bareContext []
        (2 + (Xml.Node.text "\n  ".toList).write.count '\n') with
    | none =>
        rw [element] at again
        cases again
    | some first =>
        rw [element] at again
        cases again
        exact ⟨_, first.1, by rw [element]; simp⟩
  intro other
  obtain ⟨next, same⟩ := item.node.exists_again?_line element other
  exact ⟨next, remarks, same, isQuiet_of_lastRemark last⟩

/-! ## Texts in documents of their own -/

/-- **A text that is read under a name,** in a document of its own. -/
def IsReadAlone (name value : String) : Prop :=
  ∃ item, Item.make name value = .ok item ∧ (Xml.Document.ofText? (write [item]).toList).isSome

/-- The item of such a text is read in any document. -/
theorem IsReadAlone.isRead {pair : String × String} {item : Item} (made : IsItemOf pair item)
    (proper : item.IsProper) (h : IsReadAlone pair.1 pair.2) : item.IsRead := by
  obtain ⟨other, same, read⟩ := h
  have known : Item.make pair.1 pair.2 = .ok item := by
    simp only [Item.make, made.content, ← made.name, proper.name, if_true]
  rw [known] at same
  cases same
  exact Item.isRead_of_isSome proper read

/-- **A text is read** if its content needs no bindings around it and comes back without an error. -/
theorem isReadAlone_of_embed {name value : String} (named : name.toList.all Xml.isChar)
    (legal : value.toList.all Xml.isChar) {nodes : List Xml.Node}
    (embedded : embed value = .ok ([], nodes))
    (again : ∀ line, ∃ found remarks,
      Xml.againAll? bareContext [] line nodes = some (found, remarks) ∧ IsQuiet remarks) :
    IsReadAlone name value := by
  obtain ⟨item, made, known, proper⟩ := @exists_item (name, value) named legal
  have content := known.content
  rw [embedded] at content
  obtain ⟨bindings, rfl⟩ : [] = item.bindings ∧ nodes = item.content := by simpa using content
  have read := Item.isRead_of_againAll? bindings.symm again
  exact ⟨item, made, isSome_ofText?_write (List.forall_mem_singleton.2 proper)
    (List.forall_mem_singleton.2 read)⟩

/-- **A kept text is read.** -/
theorem IsKept.isReadAlone {name value : String} (h : IsKept value)
    (named : name.toList.all Xml.isChar) (legal : value.toList.all Xml.isChar) :
    IsReadAlone name value := by
  obtain ⟨nodes, embedded, again⟩ := h
  refine isReadAlone_of_embed named legal embedded fun line => ?_
  obtain ⟨found, remarks, read, quiet, -⟩ := again line
  exact ⟨found, remarks, read, quiet⟩

/-! ## Kept texts that come back -/

/-- **A kept text comes back** as the text of its element: `textIn document element = value`. -/
theorem IsKept.textIn_eq {value : String} (kept : IsKept value) {item : Item}
    (embedded : embed value = .ok (item.bindings, item.content)) {document : Xml.Document}
    (root : document.head.bindings = []) {element : Xml.Head × List Xml.Node}
    (known : IsElementAgain item element) : textIn document element = value := by
  obtain ⟨nodes, same, again⟩ := kept
  rw [embedded] at same
  obtain ⟨bindings, content⟩ : item.bindings = [] ∧ item.content = nodes := by simpa using same
  obtain ⟨line, start⟩ := known.head
  obtain ⟨line, found, remarks, read, inner⟩ := known.content
  obtain ⟨others, more, once, -, text⟩ := again line
  rw [bindings, content, once] at read
  obtain ⟨rfl, -⟩ : others = found ∧ more = remarks := by simpa using read
  have scope : element.1.bindings = [] := by rw [start]; exact bindings
  rw [textIn, scope, root, inner, List.append_nil, text, String.ofList_toList]

/-! ## Named strings -/

/-- `distinctNames seen pairs = pairs`: nothing is left out where no name comes twice. -/
theorem distinctNames_eq_self {seen : List String} {pairs : List (String × String)}
    (new : ∀ pair ∈ pairs, pair.1 ∉ seen) (distinct : (pairs.map Prod.fst).Nodup) :
    distinctNames seen pairs = pairs := by
  induction pairs generalizing seen with
  | nil => rfl
  | cons pair pairs ih =>
      obtain ⟨name, value⟩ := pair
      rw [List.forall_mem_cons] at new
      rw [List.map_cons, List.nodup_cons] at distinct
      have first : seen.contains name = false := by simpa using new.1
      rw [distinctNames, first, if_neg Bool.false_ne_true, ih _ distinct.2]
      intro other member
      rw [List.mem_cons, not_or]
      have there : other.1 ∈ pairs.map Prod.fst := List.mem_map_of_mem member
      exact ⟨fun same => distinct.1 (same ▸ there), new.2 other member⟩

/-- **What is rendered for legal slots** whose identifiers are distinct: one item for each slot. -/
theorem exists_items_of_nodup {stem : String} {strings : List Translatable}
    (legal : ∀ slot ∈ strings.flatMap (slots stem),
      slot.id.toList.all Xml.isChar ∧ slot.translated.toList.all Xml.isChar)
    (distinct : ((strings.flatMap (slots stem)).map Slot.id).Nodup) :
    ∃ items, render stem strings = .ok (write items) ∧
      List.Forall₂ (fun slot => IsItemOf (slot.id, slot.translated))
        (strings.flatMap (slots stem)) items ∧
      ∀ item ∈ items, item.IsProper := by
  have all : distinctNames [] ((strings.flatMap (slots stem)).map fun slot =>
      (slot.id, slot.translated)) =
        (strings.flatMap (slots stem)).map fun slot => (slot.id, slot.translated) := by
    refine distinctNames_eq_self (by simp) ?_
    rw [List.map_map]
    exact distinct
  have chars : ∀ pair ∈ (strings.flatMap (slots stem)).map fun slot => (slot.id, slot.translated),
      pair.1.toList.all Xml.isChar ∧ pair.2.toList.all Xml.isChar := by
    rw [List.forall_mem_map]
    exact legal
  obtain ⟨items, made, related, proper⟩ := exists_items chars
  refine ⟨items, ?_, List.forall₂_map_left_iff.1 related, proper⟩
  rw [render, all, made]

/-- **A string with a name:** `∃ name, string.name = some name ∧ name ≠ ""`. -/
def IsNamed (string : Translatable) : Prop := ∃ name, string.name = some name ∧ name ≠ ""

/-- `slots stem string = slots other string`: the identifiers of a named string do not depend on
what those of other strings begin with. -/
theorem IsNamed.slots_eq {string : Translatable} (h : IsNamed string) (stem other : String) :
    slots stem string = slots other string := by
  obtain ⟨name, same, nonempty⟩ := h
  have identifier_eq (untranslated : String) (order : Int) :
      identifier stem untranslated order string.name =
        identifier other untranslated order string.name := by
    rw [same]
    simp [identifier, nonempty]
  unfold slots slot?
  simp only [identifier_eq]

/-- `slot.id ≠ ""`: the identifiers of a named string are not empty. -/
theorem IsNamed.id_ne {string : Translatable} (h : IsNamed string) {stem : String} {slot : Slot}
    (member : slot ∈ slots stem string) : slot.id ≠ "" := by
  obtain ⟨name, same, nonempty⟩ := h
  obtain ⟨-, -, -, order, id⟩ := exists_of_mem_slots member
  have present : (name == "") = false := by simpa using nonempty
  rw [id, same]
  simp only [identifier, present, Bool.false_eq_true, if_false]
  split
  · exact nonempty
  · simp [nonempty]

/-- **What is rendered for named strings** whose identifiers are distinct: one item for each slot.
-/
theorem exists_items_of_isNamed {stem : String} {strings : List Translatable}
    (named : ∀ string ∈ strings, IsNamed string) (legal : ∀ string ∈ strings, string.IsLegal)
    (distinct : ((strings.flatMap (slots stem)).map Slot.id).Nodup) :
    ∃ items, render stem strings = .ok (write items) ∧
      List.Forall₂ IsItemOf
        ((strings.flatMap (slots stem)).map fun slot => (slot.id, slot.translated)) items ∧
      (∀ item ∈ items, item.IsProper) ∧ ∀ item ∈ items, item.name ≠ [] := by
  have known : ∀ slot ∈ strings.flatMap (slots stem), slot.id.toList.all Xml.isChar ∧
      slot.translated.toList.all Xml.isChar ∧ slot.id ≠ "" := by
    intro slot member
    obtain ⟨string, there, member⟩ := List.mem_flatMap.1 member
    have nonempty := (named string there).id_ne member
    rw [(named string there).slots_eq stem ""] at member
    have chars := isLegal_of_mem_slots (by decide) (legal string there) member
    exact ⟨chars.1, chars.2, nonempty⟩
  obtain ⟨items, made, related, proper⟩ := exists_items_of_nodup
    (fun slot member => ⟨(known slot member).1, (known slot member).2.1⟩) distinct
  refine ⟨items, made, List.forall₂_map_left_iff.2 related, proper,
    forall_mem_of_forall₂ related fun slot member item same => ?_⟩
  rw [same.name]
  simpa using (known slot member).2.2

/-! ## Slots that come back -/

/-- **An element that a slot has come back as:** it has the slot's identifier for its name, a kept
text comes back, and so does content that needs no bindings around it. -/
structure IsSlotAgain (document : Xml.Document) (slot : Slot)
    (element : Xml.Head × List Xml.Node) : Prop where
  /-- The name. -/
  name : nameIn document.doctype element.1 = slot.id
  /-- The text, if it is kept. -/
  text : IsKept slot.translated → textIn document element = slot.translated
  /-- The content, as it comes back. -/
  content : ∀ nodes, embed slot.translated = .ok ([], nodes) → ∃ line found remarks,
    Xml.againAll? bareContext [] line nodes = some (found, remarks) ∧ element.2 = Xml.joined found

/-- The element of an item is one that the item's slot has come back as. -/
theorem IsElementAgain.isSlotAgain {item : Item} {slot : Slot}
    (made : IsItemOf (slot.id, slot.translated) item) {document : Xml.Document}
    (root : document.head.bindings = []) {element : Xml.Head × List Xml.Node}
    (known : IsElementAgain item element) : IsSlotAgain document slot element where
  name := by
    obtain ⟨line, start⟩ := known.head
    rw [start, nameIn_head, made.name, String.ofList_toList]
  text kept := kept.textIn_eq made.content root known
  content nodes embedded := by
    rw [made.content] at embedded
    obtain ⟨bindings, content⟩ : item.bindings = [] ∧ item.content = nodes := by simpa using embedded
    have again := known.content
    rwa [bindings, content] at again

/-- What is related over something between. -/
theorem forall₂_comp {α β γ : Type} {related : α → β → Prop} {further : β → γ → Prop}
    {values : List α} {others : List β} {ends : List γ} (first : List.Forall₂ related values others)
    (second : List.Forall₂ further others ends) :
    List.Forall₂ (Relation.Comp related further) values ends := by
  induction first generalizing ends with
  | nil =>
      cases second
      exact .nil
  | cons one _ ih =>
      cases second with
      | cons next rest => exact .cons ⟨_, one, next⟩ (ih rest)

/-- **The document of named strings** whose identifiers are distinct: it is read if each text is read
in a document of its own, and if it is read, it has one element for each slot. -/
theorem exists_render_of_isNamed {stem : String} {strings : List Translatable}
    (named : ∀ string ∈ strings, IsNamed string) (legal : ∀ string ∈ strings, string.IsLegal)
    (distinct : ((strings.flatMap (slots stem)).map Slot.id).Nodup) :
    ∃ written, render stem strings = .ok written ∧
      ((∀ slot ∈ strings.flatMap (slots stem), IsReadAlone slot.id slot.translated) →
        (Xml.Document.ofText? written.toList).isSome) ∧
      ∀ document, Xml.Document.ofText? written.toList = some document →
        document.head.fullName = "resources".toList ∧
          Xml.Document.ofBytes? (Text.encode written) = some document ∧
          List.Forall₂ (IsSlotAgain document) (strings.flatMap (slots stem))
            (stringElements document) := by
  obtain ⟨items, made, related, proper, names⟩ := exists_items_of_isNamed named legal distinct
  refine ⟨write items, made, fun alone => isSome_ofText?_write proper ?_, fun document read => ?_⟩
  · have known : ∀ item ∈ items, item.IsProper → item.IsRead := by
      refine forall_mem_of_forall₂ related fun pair member item made proper => ?_
      obtain ⟨slot, there, rfl⟩ := List.mem_map.1 member
      exact (alone slot there).isRead made proper
    exact fun item member => known item member (proper item member)
  · obtain ⟨full, root, elements⟩ := stringElements_write proper names read
    refine ⟨full, by rw [ofBytes?_write, read], ?_⟩
    refine (forall₂_comp (List.forall₂_map_left_iff.1 related) elements).imp ?_
    rintro slot element ⟨item, known, again⟩
    exact again.isSlotAgain known root

end StringCatalog.Resource
