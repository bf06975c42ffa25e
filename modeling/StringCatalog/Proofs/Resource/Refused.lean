import StringCatalog.Proofs.Resource.Document

/-! # Strings that no document can hold

* **`Resource.embed_eq_error`** — a text with a character that no document may hold is refused.
* **`Resource.Slot.IsLegal`, `Resource.IsFirst`** — a slot that a document may hold, and one that is
  written.
* **`Resource.render_legal_cases`** — strings are rendered just where all slots that are written are
  legal, and refused otherwise. -/

namespace StringCatalog

/-- Joining line ends leaves out carriage returns only, which are legal. -/
theorem Xml.all_isChar_of_joinLineEnds {text : List Char}
    (h : (Xml.joinLineEnds text).all Xml.isChar) : text.all Xml.isChar := by
  fun_induction Xml.joinLineEnds text with
  | case1 => rfl
  | case2 rest ih =>
      rw [List.all_cons, Bool.and_eq_true] at h
      rw [List.all_cons, List.all_cons, ih h.2]
      decide
  | case3 c rest _ ih =>
      rw [List.all_cons, Bool.and_eq_true] at h
      rw [List.all_cons, h.1, ih h.2]
      rfl

namespace Resource

/-! ## Texts -/

/-- Escaping leaves no character out. -/
theorem mem_escapeChars {text : List Char} {c : Char} (member : c ∈ text) : c ∈ escapeChars text := by
  induction text with
  | nil => cases member
  | cons first text ih =>
      rw [escapeChars]
      rcases List.mem_cons.1 member with rfl | later
      · split <;> simp
      · split <;> simp [ih later]

/-- A text whose escaped form is legal is legal itself. -/
theorem all_isChar_of_escapeChars {text : List Char} (h : (escapeChars text).all Xml.isChar) :
    text.all Xml.isChar :=
  List.all_eq_true.2 fun c member => List.all_eq_true.1 h c (mem_escapeChars member)

/-- The text of a document that is well formed is legal. -/
theorem all_isChar_of_markup? {text : List Char} {content : List Xml.Binding × List Xml.Node}
    (found : markup? text = some content) : text.all Xml.isChar := by
  obtain ⟨document, read, -⟩ := Option.map_eq_some_iff.1 found
  unfold Xml.Document.ofText? at read
  split at read
  · cases read
  · next wellFormed =>
    have legal := Xml.all_isChar_of_joinLineEnds (Xml.Document.legal_of_wellFormed? wellFormed)
    rw [List.all_append, List.all_append, Bool.and_eq_true, Bool.and_eq_true] at legal
    exact legal.1.2

/-- **A text that is not legal is refused,** as markup and as plain text:
`embed value = .error .notInDocument`. -/
theorem embed_eq_error {value : String} (illegal : ¬value.toList.all Xml.isChar) :
    embed value = .error .notInDocument := by
  have escaped : ¬(escapeChars value.toList).all Xml.isChar := fun legal =>
    illegal (all_isChar_of_escapeChars legal)
  unfold embed
  dsimp only
  split
  · next found => exact absurd (all_isChar_of_markup? found) escaped
  · exact if_neg escaped

/-! ## Items -/

/-- `Item.make pair.1 pair.2 = .error .notInDocument`: a name or a text that is not legal makes no
item. -/
theorem Item.make_eq_error {pair : String × String}
    (illegal : ¬(pair.1.toList.all Xml.isChar ∧ pair.2.toList.all Xml.isChar)) :
    Item.make pair.1 pair.2 = .error .notInDocument := by
  unfold Item.make
  by_cases value : pair.2.toList.all Xml.isChar
  · have name : ¬pair.1.toList.all Xml.isChar := fun legal => illegal ⟨legal, value⟩
    obtain ⟨bindings, nodes, embedded, -⟩ := isProper_embed value
    rw [embedded]
    exact if_neg name
  · rw [embed_eq_error value]

/-- **Pairs are refused** if one of them is not legal: `makeItems pairs = .error .notInDocument`. -/
theorem makeItems_eq_error {pairs : List (String × String)}
    (illegal : ¬∀ pair ∈ pairs, pair.1.toList.all Xml.isChar ∧ pair.2.toList.all Xml.isChar) :
    makeItems pairs = .error .notInDocument := by
  induction pairs with
  | nil => exact absurd (by simp) illegal
  | cons pair pairs ih =>
      unfold makeItems
      -- the first pair that is not legal stops the others, and it is refused the same way
      by_cases here : pair.1.toList.all Xml.isChar ∧ pair.2.toList.all Xml.isChar
      · obtain ⟨item, made, -⟩ := exists_item here.1 here.2
        rw [made, ih fun legal => illegal (List.forall_mem_cons.2 ⟨here, legal⟩)]
      · rw [Item.make_eq_error here]

/-! ## Slots -/

/-- **A slot that a document may hold.** -/
structure Slot.IsLegal (slot : Slot) : Prop where
  /-- The characters of the identifier are legal. -/
  id : slot.id.toList.all Xml.isChar
  /-- So are those of the text. -/
  translated : slot.translated.toList.all Xml.isChar

/-- **A slot that is written:** the first with its identifier. That is,
`slots.find? (·.id == slot.id) = some slot`. -/
def IsFirst (slots : List Slot) (slot : Slot) : Prop :=
  slots.find? (·.id == slot.id) = some slot

/-- The first pair with a name is kept, if the name is new. -/
theorem mem_distinctNames {seen : List String} {pairs : List (String × String)}
    {pair : String × String} (new : pair.1 ∉ seen)
    (first : pairs.find? (·.1 == pair.1) = some pair) : pair ∈ distinctNames seen pairs := by
  induction pairs generalizing seen with
  | nil => cases first
  | cons other pairs ih =>
      obtain ⟨name, value⟩ := other
      rw [distinctNames]
      by_cases same : name = pair.1
      · rw [List.find?_cons_of_pos (by simpa using same)] at first
        obtain rfl := Option.some.inj first
        rw [if_neg (by simpa using new)]
        exact List.mem_cons_self
      · rw [List.find?_cons_of_neg (by simpa using same)] at first
        split
        · exact ih new first
        · refine List.mem_cons_of_mem _ (ih (fun there => ?_) first)
          rcases List.mem_cons.1 there with equal | seen
          · exact same equal.symm
          · exact new seen

/-- The pairs that are kept are those of the slots that are written. -/
theorem mem_distinctNames_iff {slots : List Slot} {pair : String × String} :
    pair ∈ distinctNames [] (slots.map fun slot => (slot.id, slot.translated)) ↔
      ∃ slot, IsFirst slots slot ∧ (slot.id, slot.translated) = pair := by
  constructor
  · intro kept
    have found := (find?_of_mem_distinctNames kept).2
    rw [List.find?_map] at found
    obtain ⟨slot, first, rfl⟩ := Option.map_eq_some_iff.1 found
    exact ⟨slot, first, rfl⟩
  · rintro ⟨slot, first, rfl⟩
    refine mem_distinctNames List.not_mem_nil ?_
    rw [List.find?_map]
    exact congrArg (Option.map _) first

/-- **Strings are rendered** just where all slots that are written are legal; otherwise they are refused. -/
theorem render_legal_cases (stem : String) (strings : List Translatable) :
    ((∀ slot, IsFirst (strings.flatMap (slots stem)) slot → slot.IsLegal) ∧
      ∃ written, render stem strings = .ok written) ∨
    (¬(∀ slot, IsFirst (strings.flatMap (slots stem)) slot → slot.IsLegal) ∧
      render stem strings = .error .notInDocument) := by
  have kept : (∀ slot, IsFirst (strings.flatMap (slots stem)) slot → slot.IsLegal) ↔
      ∀ pair ∈ distinctNames []
        ((strings.flatMap (slots stem)).map fun slot => (slot.id, slot.translated)),
        pair.1.toList.all Xml.isChar ∧ pair.2.toList.all Xml.isChar := by
    constructor
    · intro legal pair member
      obtain ⟨slot, first, rfl⟩ := mem_distinctNames_iff.1 member
      exact ⟨(legal slot first).id, (legal slot first).translated⟩
    · intro legal slot first
      obtain ⟨id, translated⟩ := legal _ (mem_distinctNames_iff.2 ⟨slot, first, rfl⟩)
      exact ⟨id, translated⟩
  rw [kept, render]
  by_cases legal : ∀ pair ∈ distinctNames []
      ((strings.flatMap (slots stem)).map fun slot => (slot.id, slot.translated)),
      pair.1.toList.all Xml.isChar ∧ pair.2.toList.all Xml.isChar
  · obtain ⟨items, made, -⟩ := exists_items legal
    exact .inl ⟨legal, write items, by rw [made]⟩
  · exact .inr ⟨legal, by rw [makeItems_eq_error legal]⟩

end Resource

end StringCatalog
