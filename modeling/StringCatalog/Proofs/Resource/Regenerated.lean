import StringCatalog.Proofs.Resource.Kept
import StringCatalog.Proofs.Xml.SoundText

/-! # Regenerating a resource document

The strings of a document are rendered again:

* **`Resource.isLegal_of_isStringOf`** — they are legal, as the characters of the document are.
* **`Resource.isLegal_of_readBytes`** — all of them are, and have names.
* **`Resource.exists_render_of_readBytes`** — the document that is made of them, and its
  elements. -/

namespace StringCatalog.Resource

/-- `value ∈ result.toOption → result = .ok value`. -/
theorem eq_ok_of_mem_toOption {ε α : Type} {result : Except ε α} {value : α}
    (h : value ∈ result.toOption) : result = .ok value := by
  cases result with
  | error fault => cases h
  | ok found =>
      cases h
      rfl

/-! ## Texts of a document -/

/-- Escaping leading characters keeps a text legal. -/
theorem all_isChar_escapeLeading {text : List Char} (h : text.all Xml.isChar) :
    (text.flatMap escapeLeadingChar).all Xml.isChar := by
  rw [List.all_flatMap, List.all_eq_true]
  intro c member
  have legal := List.all_eq_true.1 h c member
  unfold escapeLeadingChar
  split
  iterate 3 decide
  simpa using legal

/-- What is written for sound nodes on their own is legal. -/
theorem all_isChar_writeChildren {scope : List Xml.Binding} {nodes : List Xml.Node}
    (sound : ∀ binding ∈ scope, binding.IsSound) (h : ∀ node ∈ nodes, node.IsSound) :
    (nodes.flatMap (writeChild scope)).all Xml.isChar := by
  rw [List.all_flatMap, List.all_eq_true]
  intro node member
  rw [writeChild, Xml.Node.writeAlone_eq]
  exact Xml.all_isChar_write _ ((h node member).alone sound)

/-- **The content of a sound element is legal** as the text of a string. -/
theorem all_isChar_innerText {scope : List Xml.Binding} {nodes : List Xml.Node}
    (sound : ∀ binding ∈ scope, binding.IsSound) (h : ∀ node ∈ nodes, node.IsSound) :
    (innerText scope nodes).all Xml.isChar := by
  unfold innerText
  split
  · rfl
  · cases h _ List.mem_cons_self with
    | text legal => exact legal
  · next content rest _ =>
    rw [List.forall_mem_cons] at h
    cases h.1 with
    | text legal =>
        rw [List.all_append, all_isChar_escapeLeading legal, all_isChar_writeChildren sound h.2]
        rfl
  · exact all_isChar_writeChildren sound h

/-- The value of an attribute is legal. -/
theorem all_isChar_of_valueIn {doctype : Xml.Doctype} (legal : doctype.IsLegal) {head : Xml.Head}
    (sound : head.IsSound) {key value : String} (found : valueIn doctype head key = some value) :
    value.toList.all Xml.isChar := by
  obtain ⟨pieces, there, rfl⟩ := Option.map_eq_some_iff.1 found
  obtain ⟨entry, first, rfl⟩ := Option.map_eq_some_iff.1 there
  have value := (sound.attributes entry (List.mem_of_find?_eq_some first)).value
  rw [String.toList_ofList]
  exact legal.all_isChar_valueText fun c member => value _ member

/-! ## Strings of a document -/

/-- An element that has a string is one of the nodes of the root. -/
theorem mem_children_of_mem_stringElements {document : Xml.Document}
    {element : Xml.Head × List Xml.Node} (member : element ∈ stringElements document) :
    .element element.1 element.2 ∈ document.children := by
  obtain ⟨node, there, found⟩ := List.mem_filterMap.1 member
  unfold stringElement? at found
  split at found
  · split at found
    · cases found
      exact there
    · cases found
  · cases found

/-- `string.effective = [some (textIn document element)]`: the translations of such a string are
its text alone. -/
theorem IsStringOf.effective_eq {document : Xml.Document} {element : Xml.Head × List Xml.Node}
    {string : Translatable} (h : IsStringOf document element string) :
    string.effective = [some (textIn document element)] := by
  rw [Translatable.effective, h.translations, Translatable.sources, h.plural, h.singular]
  rfl

/-- The bindings around the content of such an element are sound. -/
theorem isSound_of_mem_scope {document : Xml.Document} (sound : document.IsSound)
    {element : Xml.Head × List Xml.Node} (member : element ∈ stringElements document) :
    ∀ binding ∈ element.1.bindings ++ document.head.bindings, binding.IsSound := by
  have node := sound.children _ (mem_children_of_mem_stringElements member)
  exact List.forall_mem_append.2 ⟨node.head.bindings, sound.head.bindings⟩

/-- The text of an element's string is legal. -/
theorem all_isChar_textIn {document : Xml.Document} (sound : document.IsSound)
    {element : Xml.Head × List Xml.Node} (member : element ∈ stringElements document) :
    (textIn document element).toList.all Xml.isChar := by
  have node := sound.children _ (mem_children_of_mem_stringElements member)
  rw [textIn, String.toList_ofList]
  exact all_isChar_unescapeChars
    (all_isChar_innerText (isSound_of_mem_scope sound member) node.children)

/-- The name of an element's string is legal. -/
theorem all_isChar_nameIn {document : Xml.Document} (sound : document.IsSound)
    {element : Xml.Head × List Xml.Node} (member : element ∈ stringElements document) :
    (nameIn document.doctype element.1).toList.all Xml.isChar := by
  have node := sound.children _ (mem_children_of_mem_stringElements member)
  unfold nameIn
  cases found : valueIn document.doctype element.1 "name" with
  | none => rfl
  | some name => exact all_isChar_of_valueIn sound.doctype node.head found

/-- **The string of an element is legal.** -/
theorem isLegal_of_isStringOf {document : Xml.Document} (sound : document.IsSound)
    {element : Xml.Head × List Xml.Node} (member : element ∈ stringElements document)
    {string : Translatable} (h : IsStringOf document element string) : string.IsLegal := by
  refine ⟨fun name same => ?_, fun form there text same => ?_⟩
  · rw [h.name] at same
    obtain rfl : nameIn document.doctype element.1 = name := by simpa using same
    exact all_isChar_nameIn sound member
  · rw [h.effective_eq, List.mem_singleton] at there
    obtain rfl : textIn document element = text := by simpa [there] using same
    exact all_isChar_textIn sound member

/-- **The strings of a document are legal,** and have names. -/
theorem isLegal_of_readBytes {path : Path} {bytes : List UInt8} {strings : List Translatable}
    (read : (readBytes path bytes).all? = .ok strings) {string : Translatable}
    (member : string ∈ strings) : string.IsLegal ∧ ∃ name, string.name = some name := by
  obtain ⟨document, made, root⟩ := exists_document read
  obtain ⟨others, all, elements⟩ := forall₂_stringElements path made root
  cases all.symm.trans read
  have sound := Xml.Document.isSound_of_ofBytes? made
  have each : ∀ string ∈ strings, string.IsLegal ∧ ∃ name, string.name = some name := by
    refine forall_mem_of_forall₂ elements fun element inside string one => ?_
    exact ⟨isLegal_of_isStringOf sound inside one, _, one.name⟩
  exact each string member

/-! ## Slots -/

/-- Whether an element's string is blank, so that it has no slot. -/
def isBlankIn (document : Xml.Document) (element : Xml.Head × List Xml.Node) : Bool :=
  Text.isBlankText (textIn document element).toList

/-- The slot of an element's string. -/
def slotIn (document : Xml.Document) (element : Xml.Head × List Xml.Node) : Slot :=
  ⟨nameIn document.doctype element.1, textIn document element, textIn document element⟩

/-- The string of an element takes one slot, or none if it is blank. -/
theorem IsStringOf.slots_eq {document : Xml.Document} {element : Xml.Head × List Xml.Node}
    {string : Translatable} (h : IsStringOf document element string) (stem : String) :
    slots stem string =
      if isBlankIn document element then [] else [slotIn document element] := by
  have named : (nameIn document.doctype element.1 == "") = false := by simpa using h.named
  have id : identifier stem (textIn document element) ((0 : Nat) : Int) string.name =
      nameIn document.doctype element.1 := by
    rw [h.name]
    simp [identifier, named]
  rw [slots, h.effective_eq, isBlankIn]
  simp only [List.zipIdx_cons, List.zipIdx_nil, List.filterMap_cons, List.filterMap_nil, slot?,
    h.singular, id, beq_self_eq_true, Bool.true_and]
  cases Text.isBlankText (textIn document element).toList <;> rfl

/-- **The slots of a document's strings** are those of the elements that are not blank. -/
theorem flatMap_slots_eq {document : Xml.Document} {elements : List (Xml.Head × List Xml.Node)}
    {strings : List Translatable} (h : List.Forall₂ (IsStringOf document) elements strings)
    (stem : String) :
    strings.flatMap (slots stem) =
      (elements.filter (!isBlankIn document ·)).map (slotIn document) := by
  induction h with
  | nil => rfl
  | @cons element string elements strings one _ ih =>
      rw [List.flatMap_cons, one.slots_eq stem, ih, List.filter_cons]
      cases isBlankIn document element <;> rfl

/-! ## The document that is made of them -/

/-- **An element as another document has it:** under its own name, with the text that it has if that
is kept, and with the content of that text as it comes back. -/
abbrev IsRegenerated (document again : Xml.Document) (element other : Xml.Head × List Xml.Node) :
    Prop :=
  IsSlotAgain again (slotIn document element) other

/-- **The document that is made of another one's strings,** if no name comes twice: it is read if
each text that is not blank is read in a document of its own, and if it is read, it has an element
for each of them. -/
theorem exists_render_of_readBytes {path : Path} {bytes : List UInt8} {strings : List Translatable}
    (read : (readBytes path bytes).all? = .ok strings)
    (distinct : (strings.map Translatable.name).Nodup) (stem : String) :
    ∃ document written, Xml.Document.ofBytes? bytes = some document ∧
      List.Forall₂ (IsStringOf document) (stringElements document) strings ∧
      render stem strings = .ok written ∧
      ((∀ element ∈ (stringElements document).filter (!isBlankIn document ·),
          IsReadAlone (nameIn document.doctype element.1) (textIn document element)) →
        (Xml.Document.ofText? written.toList).isSome) ∧
      ∀ again, Xml.Document.ofText? written.toList = some again →
        again.head.fullName = "resources".toList ∧
          Xml.Document.ofBytes? (Text.encode written) = some again ∧
          List.Forall₂ (IsRegenerated document again)
            ((stringElements document).filter (!isBlankIn document ·)) (stringElements again) := by
  obtain ⟨document, found, root⟩ := exists_document read
  obtain ⟨others, all, elements⟩ := forall₂_stringElements path found root
  obtain rfl : others = strings := by
    rw [read] at all
    exact (Except.ok.inj all).symm
  have sound := Xml.Document.isSound_of_ofBytes? found
  have slots_eq := flatMap_slots_eq elements stem
  have legal : ∀ string ∈ others, string.IsLegal :=
    forall_mem_of_forall₂ elements fun element member string =>
      isLegal_of_isStringOf sound member
  have named : ∀ string ∈ others, IsNamed string :=
    forall_mem_of_forall₂ elements fun element _ string one => ⟨_, one.name, one.named⟩
  -- identifiers are the names of the elements, so none comes twice
  have ids : ((others.flatMap (slots stem)).map Slot.id).Nodup := by
    have names : others.map Translatable.name =
        ((stringElements document).map fun element => nameIn document.doctype element.1).map
          some := by
      rw [List.map_map]
      clear slots_eq legal named read all distinct
      generalize stringElements document = list at elements
      induction elements with
      | nil => rfl
      | cons one _ ih => rw [List.map_cons, List.map_cons, ih, one.name]; rfl
    rw [names] at distinct
    rw [slots_eq, List.map_map]
    exact (distinct.of_map _).sublist (List.filter_sublist.map _)
  obtain ⟨written, made, whole, parts⟩ := exists_render_of_isNamed named legal ids
  refine ⟨document, written, found, elements, made, fun alone => whole ?_, fun again known => ?_⟩
  · rw [slots_eq, List.forall_mem_map]
    exact alone
  · obtain ⟨full, bytes, related⟩ := parts again known
    rw [slots_eq, List.forall₂_map_left_iff] at related
    exact ⟨full, bytes, related⟩

end StringCatalog.Resource
