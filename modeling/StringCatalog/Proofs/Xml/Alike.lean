import Mathlib.Data.List.Forall2
import StringCatalog.Proofs.Xml.Shape

/-! # Texts that tell the same names

Two texts may differ in their characters and still come to elements of the same names, in the same
places:

* **`Xml.AreAlike`** — values that say the same as far as remarks go.
* **`Xml.Token.Alike`** — tokens that tell the same names and namespaces.
* **`Xml.Tag.exists_head?`** — start tags that do so come to the same head, values apart.
* **`Xml.Assembly.exists_ofTokens?`** — tokens that do so come to nodes of the same shapes. -/

namespace StringCatalog.Xml

open Assembly (referenceNames)

/-! ## Values -/

/-- **Pieces with the same references,** which are the same altogether unless a single quote is
among both. -/
structure AreAlike (one two : List Piece) : Prop where
  /-- The references. -/
  references : referenceNames two = referenceNames one
  /-- The characters. -/
  chars : two = one ∨ .char '\'' ∈ one ∧ .char '\'' ∈ two

/-- Pieces are alike to themselves. -/
theorem AreAlike.refl (pieces : List Piece) : AreAlike pieces pieces := ⟨rfl, .inl rfl⟩

section

variable {one two : List Piece} (h : AreAlike one two)
include h

/-- One more piece in front of both keeps pieces alike. -/
theorem AreAlike.cons (piece : Piece) : AreAlike (piece :: one) (piece :: two) where
  references := by
    have same := h.references
    cases piece <;> simpa [referenceNames] using same
  chars := h.chars.imp (congrArg (piece :: ·)) fun quotes =>
    ⟨List.mem_cons_of_mem piece quotes.1, List.mem_cons_of_mem piece quotes.2⟩

/-- A quote may have a backslash in front of it on one side. -/
theorem AreAlike.quote : AreAlike (.char '\'' :: one) (.char '\\' :: .char '\'' :: two) where
  references := (h.cons (.char '\'')).references
  chars := .inr ⟨List.mem_cons_self, List.mem_cons_of_mem _ List.mem_cons_self⟩

end

/-- A character of a value is one of its text. -/
theorem Doctype.mem_valueText {doctype : Doctype} {pieces : List Piece} {c : Char}
    (h : .char c ∈ pieces) : c ∈ doctype.valueText pieces := by
  rw [valueText, expand]
  exact List.mem_flatMap.2 ⟨.char c, h, List.mem_singleton_self c⟩

/-- `isOddSpace name text = (name == ⟨some "xml".toList, "space".toList⟩)`: a value with a quote in
it is none of the usual ones. -/
theorem isOddSpace_of_mem {name : Name} {text : List Char} (h : '\'' ∈ text) :
    isOddSpace name text = (name == ⟨some "xml".toList, "space".toList⟩) := by
  have other {word : List Char} (plain : '\'' ∉ word) : text != word := by
    rw [bne_iff_ne]
    rintro rfl
    exact plain h
  rw [isOddSpace, other (by decide), other (by decide), Bool.and_true, Bool.and_true]

/-- `c ∈ text.dropWhile stops` for a character `c` of the text that is none to be dropped. -/
theorem mem_dropWhile {stops : Char → Bool} {text : List Char} {c : Char} (h : c ∈ text)
    (stays : stops c = false) : c ∈ text.dropWhile stops := by
  rw [← @List.takeWhile_append_dropWhile _ stops text, List.mem_append] at h
  refine h.resolve_left fun member => ?_
  rw [List.mem_takeWhile_imp member] at stays
  cases stays

/-- `isOddId doctype entry = (entry.name == ⟨some "xml".toList, "id".toList⟩)`: a value with a
quote in it is no name. -/
theorem isOddId_of_mem {doctype : Doctype} {entry : Attribute} (h : .char '\'' ∈ entry.value) :
    isOddId doctype entry = (entry.name == ⟨some "xml".toList, "id".toList⟩) := by
  have stays : isBlank '\'' = false := by decide
  have first := mem_dropWhile (@Doctype.mem_valueText doctype _ _ h) stays
  have second := List.mem_reverse.2 (mem_dropWhile (List.mem_reverse.2 first) stays)
  have noName : isPlainName ((skipBlanks (doctype.valueText entry.value)).reverse.dropWhile
      isBlank).reverse = false := by
    rw [Bool.eq_false_iff]
    intro plain
    have char := isNameChar_of_mem (isPlainName_iff.1 plain).1 second
    revert char
    decide
  dsimp only [isOddId]
  rw [noName, Bool.not_false, Bool.and_true]

section

variable {one two : List Piece} (h : AreAlike one two) (doctype : Doctype)
include h

/-- **Alike values of `xml:space` are unusual alike.** -/
theorem AreAlike.isOddSpace_eq (name : Name) :
    isOddSpace name (doctype.valueText two) = isOddSpace name (doctype.valueText one) := by
  rcases h.chars with rfl | ⟨first, second⟩
  · rfl
  · rw [isOddSpace_of_mem (Doctype.mem_valueText first),
      isOddSpace_of_mem (Doctype.mem_valueText second)]

/-- **Alike values of `xml:id` are names alike.** -/
theorem AreAlike.isOddId_eq (name : Name) (uri : Option (List Char)) :
    isOddId doctype ⟨name, uri, two⟩ = isOddId doctype ⟨name, uri, one⟩ := by
  rcases h.chars with rfl | ⟨first, second⟩
  · rfl
  · have left := @isOddId_of_mem doctype ⟨name, uri, one⟩ first
    have right := @isOddId_of_mem doctype ⟨name, uri, two⟩ second
    rw [left, right]

end

/-- Without declarations a value is right if it has no references. -/
theorem Context.IsClosed.checkValue?_eq {context : Context} (closed : context.IsClosed) (depth : Nat)
    (pieces : List Piece) :
    context.checkValue? (depth + 1) pieces =
      if referenceNames pieces = [] then some [] else none := by
  induction pieces using List.reverseRecOn with
  | nil => rfl
  | append_singleton pieces piece ih =>
      rw [closed.checkValue?_concat, ih]
      cases piece with
      | char c => by_cases plain : referenceNames pieces = [] <;> simp_all [referenceNames]
      | reference name =>
          have some : referenceNames (pieces ++ [.reference name]) ≠ [] := by
            simp [referenceNames]
          rw [if_neg some]
          split <;> rfl

/-! ## Tags -/

/-- **Attributes that tell the same name,** and the same namespace if they declare one. -/
structure Tag.Attribute.Alike (one two : Tag.Attribute) : Prop where
  /-- The name. -/
  name : two.name = one.name
  /-- The value. -/
  value : AreAlike one.value two.value
  /-- The namespace. -/
  declared : one.name.declaredLead?.isSome → two.value = one.value

/-- **Tags that tell the same names** and namespaces. -/
structure Tag.Alike (one two : Tag) : Prop where
  /-- The name. -/
  name : two.name = one.name
  /-- The attributes. -/
  attributes : List.Forall₂ Tag.Attribute.Alike one.attributes two.attributes

/-- What is made of the attributes of such tags. -/
structure Sorted.Alike (one two : Sorted) : Prop where
  /-- The bindings. -/
  bindings : two.bindings = one.bindings
  /-- The others. -/
  plain : List.Forall₂ Tag.Attribute.Alike one.plain two.plain
  /-- The remarks. -/
  remarks : two.remarks = one.remarks

section

variable {context : Context} (closed : context.IsClosed) {element : List Char}
include closed

/-- An attribute that is alike is added where one has been, and what it is added to stays alike. -/
theorem Sorted.Alike.exists_add? {one two next : Sorted} (h : one.Alike two)
    {entry other : Tag.Attribute} (alike : entry.Alike other)
    (added : one.add? context element entry = some next) :
    ∃ again, two.add? context element other = some again ∧ next.Alike again := by
  simp only [Sorted.add?, closed.bare.trims, Bool.false_eq_true, if_false, closed.checkValue?_eq,
    alike.value.references, alike.name] at added ⊢
  by_cases plain : referenceNames entry.value = []
  · simp only [plain, if_true] at added ⊢
    cases declared : entry.name.declaredLead? with
    | some lead =>
        -- a declaration binds the same on both sides
        simp only [declared, alike.declared (by simp [declared]), h.bindings, h.remarks]
          at added ⊢
        split at added
        · cases added
          exact ⟨_, rfl, ⟨rfl, h.plain, rfl⟩⟩
        · split at added
          · cases added
          · next new =>
            cases added
            rw [if_neg new]
            exact ⟨_, rfl, ⟨rfl, h.plain, rfl⟩⟩
    | none =>
        simp only [declared, alike.value.isOddSpace_eq, h.remarks] at added ⊢
        cases added
        have last : (⟨entry.name, entry.value⟩ : Tag.Attribute).Alike ⟨entry.name, other.value⟩ :=
          ⟨rfl, alike.value, alike.declared⟩
        exact ⟨_, rfl, ⟨h.bindings, List.rel_append h.plain (.cons last .nil), rfl⟩⟩
  · simp only [plain, if_false] at added
    cases added

/-- So are the attributes of a whole tag. -/
theorem Sorted.Alike.exists_all? {entries others : List Tag.Attribute}
    (alike : List.Forall₂ Tag.Attribute.Alike entries others) {one two next : Sorted}
    (h : one.Alike two) (all : Sorted.all? context element one entries = some next) :
    ∃ again, Sorted.all? context element two others = some again ∧ next.Alike again := by
  induction alike generalizing one two with
  | nil =>
      cases all
      exact ⟨two, rfl, h⟩
  | cons first _ ih =>
      rw [Sorted.all?] at all
      split at all
      · cases all
      · next found added =>
        obtain ⟨again, same, alike⟩ := h.exists_add? closed first added
        rw [Sorted.all?, same]
        exact ih alike all

end

/-- An attribute without its value. -/
def Attribute.bare (entry : Attribute) : Attribute := { entry with value := [] }

/-- **The start of an element without the values of its attributes.** -/
def Head.bare (head : Head) : Head :=
  { head with attributes := head.attributes.map Attribute.bare }

/-- `head.bare.shape inner = head.shape inner`: a shape has no values. -/
theorem Head.shape_bare (head : Head) (inner : List Shape) :
    head.bare.shape inner = head.shape inner := by
  simp only [Head.shape, Head.bare, List.map_map]
  rfl

/-- `clashes? (entries.map Attribute.bare) = clashes? entries`: values never clash. -/
theorem clashes?_map_bare (entries : List Attribute) :
    clashes? (entries.map Attribute.bare) = clashes? entries := by
  induction entries with
  | nil => rfl
  | cons entry entries ih =>
      rw [List.map_cons, clashes?, clashes?, ih, List.any_map, List.any_map]
      rfl

/-- `twos.map right = ones.map left`: related values that are mapped to the same, list by list. -/
theorem map_eq_of_forall₂ {α β γ : Type} {related : α → β → Prop} {left : α → γ} {right : β → γ}
    (same : ∀ a b, related a b → right b = left a) {ones : List α} {twos : List β}
    (h : List.Forall₂ related ones twos) : twos.map right = ones.map left := by
  induction h with
  | nil => rfl
  | cons first _ ih => rw [List.map_cons, List.map_cons, same _ _ first, ih]

/-- An attribute in the namespace of its name, given the bindings in scope. -/
def Tag.Attribute.placed (scope : List Binding) (entry : Tag.Attribute) : Xml.Attribute :=
  ⟨entry.name, (attributeSpace scope entry.name).1, entry.value⟩

section

variable {ones twos : List Tag.Attribute} (alike : List.Forall₂ Tag.Attribute.Alike ones twos)
  (scope : List Binding)
include alike

/-- In their namespaces both have the same attributes, but for the values. -/
theorem bare_placed :
    (twos.map (Tag.Attribute.placed scope)).map Attribute.bare =
      (ones.map (Tag.Attribute.placed scope)).map Attribute.bare := by
  rw [List.map_map, List.map_map]
  refine map_eq_of_forall₂ (fun one two same => ?_) alike
  simp only [Function.comp_apply, Tag.Attribute.placed, Attribute.bare, same.name]

/-- One has two attributes of one name just where the other has. -/
theorem clashes?_placed :
    clashes? (twos.map (Tag.Attribute.placed scope)) =
      clashes? (ones.map (Tag.Attribute.placed scope)) := by
  rw [← clashes?_map_bare, bare_placed alike, clashes?_map_bare]

/-- There are the same remarks on their namespaces. -/
theorem remarks_placed :
    twos.flatMap (fun entry => (attributeSpace scope entry.name).2) =
      ones.flatMap fun entry => (attributeSpace scope entry.name).2 := by
  rw [List.flatMap_def, List.flatMap_def]
  congr 1
  exact map_eq_of_forall₂ (fun one two same => by rw [same.name]) alike

/-- An identifier is odd in one just where it is in the other. -/
theorem any_isOddId_placed (doctype : Doctype) :
    (twos.map (Tag.Attribute.placed scope)).any (isOddId doctype) =
      (ones.map (Tag.Attribute.placed scope)).any (isOddId doctype) := by
  have same : (twos.map (Tag.Attribute.placed scope)).map (isOddId doctype) =
      (ones.map (Tag.Attribute.placed scope)).map (isOddId doctype) := by
    rw [List.map_map, List.map_map]
    refine map_eq_of_forall₂ (fun one two same => ?_) alike
    simp only [Function.comp_apply, Tag.Attribute.placed, same.name, same.value.isOddId_eq]
  simpa [List.any_map] using congrArg (List.any · id) same

end

/-- The head of an element, once its attributes have been sorted. -/
theorem Tag.head?_eq (context : Context) (scope : List Binding) (line : Nat) (tag : Tag) :
    tag.head? context scope line =
      (Sorted.all? context tag.name.text ⟨[], [], []⟩ tag.attributes).bind fun sorted =>
        let bindings := (context.doctype.bindingsOf tag.name.text).foldl addBinding sorted.bindings
        let inner := bindings ++ scope
        let entries := sorted.plain.map (Tag.Attribute.placed inner)
        (clashes? entries).map fun clashRemarks =>
          (⟨tag.name, (elementSpace inner tag.name).1, bindings, entries, line⟩,
            (if tag.name.isOdd then [Remark.error] else []) ++ sorted.remarks ++
              sorted.plain.flatMap (fun entry => (attributeSpace inner entry.name).2) ++
                clashRemarks ++ (elementSpace inner tag.name).2 ++
                  if entries.any (isOddId context.doctype) then [Remark.error] else []) := by
  rw [Tag.head?]
  dsimp only
  cases Sorted.all? context tag.name.text ⟨[], [], []⟩ tag.attributes with
  | none => rfl
  | some sorted =>
      simp only [Option.bind_some, List.map_map, List.flatMap_map]
      generalize (context.doctype.bindingsOf tag.name.text).foldl addBinding sorted.bindings = bindings
      have entries : sorted.plain.map ((fun found : Tag.Attribute × Option (List Char) × List Remark =>
          (⟨found.1.name, found.2.1, found.1.value⟩ : Xml.Attribute)) ∘ fun entry =>
            (entry, attributeSpace (bindings ++ scope) entry.name)) =
          sorted.plain.map (Tag.Attribute.placed (bindings ++ scope)) := rfl
      rw [entries]
      cases clashes? (sorted.plain.map (Tag.Attribute.placed (bindings ++ scope))) <;> rfl

/-- **Start tags that tell the same names** come to the same head, values apart, with the same
remarks. -/
theorem Tag.Alike.exists_head? {context : Context} (closed : context.IsClosed) {one two : Tag}
    (alike : one.Alike two) {scope : List Binding} {line : Nat} {head : Head}
    {remarks : List Remark} (h : one.head? context scope line = some (head, remarks)) :
    ∃ other, two.head? context scope line = some (other, remarks) ∧ other.bare = head.bare := by
  rw [Tag.head?_eq] at h ⊢
  obtain ⟨sorted, all, made⟩ := Option.bind_eq_some_iff.1 h
  obtain ⟨again, same, sortedAlike⟩ := Sorted.Alike.exists_all? closed alike.attributes
    ⟨rfl, .nil, rfl⟩ all
  obtain ⟨clashRemarks, clash, equal⟩ := Option.map_eq_some_iff.1 made
  cases equal
  simp only [alike.name, same, Option.bind_some, sortedAlike.bindings, sortedAlike.remarks,
    clashes?_placed sortedAlike.plain, remarks_placed sortedAlike.plain,
    any_isOddId_placed sortedAlike.plain, clash, Option.map_some]
  refine ⟨_, rfl, ?_⟩
  simp only [Head.bare, bare_placed sortedAlike.plain]

/-! ## Tokens -/

/-- **Tokens that tell the same names** and namespaces. -/
inductive Token.Alike : Token → Token → Prop
  | text {one two : List Piece} : AreAlike one two → Alike (.text one) (.text two)
  | literal (one two : List Char) : Alike (.literal one) (.literal two)
  | comment (one two : List Char) : Alike (.comment one) (.comment two)
  | instruction (target one two : List Char) :
      Alike (.instruction target one) (.instruction target two)
  | start {one two : Tag} (isClosed : Bool) (line : Nat) : one.Alike two →
      Alike (.start one isClosed line) (.start two isClosed line)
  | finish (name : List Char) : Alike (.finish name) (.finish name)

namespace Assembly

/-- **How far a tree has come as far as names go.** -/
structure Outline where
  /-- The open elements: what begins them, the bindings in scope, and the elements inside. -/
  opened : List (Head × List Binding × List Shape)
  /-- The elements outside of all others, the last one first. -/
  done : List Shape
  /-- The last remark. -/
  remark : Option Remark

/-- An outline with one more element at its place, if there is one. -/
def Outline.add (shape? : Option Shape) (outline : Outline) : Outline :=
  match outline.opened with
  | [] => { outline with done := shape?.toList ++ outline.done }
  | (head, scope, inner) :: outer =>
      { outline with opened := (head, scope, shape?.toList ++ inner) :: outer }

/-- `outline.add none = outline`. -/
theorem Outline.add_none (outline : Outline) : outline.add none = outline := by
  unfold Outline.add
  split
  · rfl
  · next some => rw [Option.toList_none, List.nil_append, ← some]

/-- **An assembly as far as names go.** -/
def outline (assembly : Assembly) : Outline where
  opened := assembly.opened.map fun element =>
    (element.head.bare, element.scope, shapesOf element.before)
  done := shapesOf assembly.done
  remark := assembly.remark

/-- `(Node.text content).shape? = none`. -/
theorem shape?_text (content : List Char) : (Node.text content).shape? = none :=
  Node.shape?_eq_none rfl

/-- `shapesOf (push node before) = node.shape?.toList ++ shapesOf before`: a text that is joined
with the one before leaves the shapes. -/
theorem shapesOf_push (node : Node) (before : List Node) :
    shapesOf (push node before) = node.shape?.toList ++ shapesOf before := by
  unfold push
  split
  · simp only [shapesOf, shape?_text, Option.toList_none, List.nil_append]
  · rw [shapesOf]

/-- `(assembly.addNode node).outline = assembly.outline.add node.shape?`. -/
theorem outline_addNode (assembly : Assembly) (node : Node) :
    (assembly.addNode node).outline = assembly.outline.add node.shape? := by
  obtain ⟨opened, done, remark, checked⟩ := assembly
  cases opened with
  | nil => simp [addNode, outline, Outline.add, shapesOf_push]
  | cons element outer => simp [addNode, outline, Outline.add, shapesOf_push]

/-- `(nodes.foldl addNode assembly).outline = assembly.outline`: nodes that are no elements do not
count. -/
theorem outline_foldl_addNode {nodes : List Node} (h : ∀ node ∈ nodes, node.isElement = false)
    (assembly : Assembly) : (nodes.foldl addNode assembly).outline = assembly.outline := by
  induction nodes generalizing assembly with
  | nil => rfl
  | cons node nodes ih =>
      rw [List.forall_mem_cons] at h
      rw [List.foldl_cons, ih h.2, outline_addNode, Node.shape?_eq_none h.1, Outline.add_none]

/-- The nodes of a text are no elements. -/
theorem isElement_nodesOf (pieces : List Piece) :
    ∀ node ∈ nodesOf pieces, node.isElement = false := by
  fun_induction nodesOf pieces with
  | case1 => simp
  | case2 name rest ih => exact List.forall_mem_cons.2 ⟨rfl, ih⟩
  | case3 c rest more nodes found ih =>
      rw [found, List.forall_mem_cons] at ih
      exact List.forall_mem_cons.2 ⟨rfl, ih.2⟩
  | case4 c rest nodes ih => exact List.forall_mem_cons.2 ⟨rfl, ih⟩

/-- The bindings in scope. -/
def Outline.scope (outline : Outline) : List Binding :=
  match outline.opened with
  | [] => []
  | (_, scope, _) :: _ => scope

/-- `assembly.outline.scope = assembly.scope`. -/
theorem scope_outline (assembly : Assembly) : assembly.outline.scope = assembly.scope := by
  obtain ⟨opened, done, remark, checked⟩ := assembly
  cases opened <;> rfl

/-- Remarks change the last remark of an outline alone. -/
theorem outline_remarked (assembly : Assembly) (remarks : List Remark) :
    (assembly.remarked remarks).outline =
      { assembly.outline with remark := lastRemark assembly.outline.remark remarks } :=
  rfl

/-- An element that is opened comes on top of the others, with nothing in it. -/
theorem outline_openElement (assembly : Assembly) (head : Head) :
    (assembly.openElement head).outline =
      { assembly.outline with
        opened := (head.bare, head.bare.bindings ++ assembly.outline.scope, []) ::
          assembly.outline.opened } := by
  rw [scope_outline]
  simp [openElement, outline, Head.bare, shapesOf]

section

variable {one two next : Assembly} (same : two.outline = one.outline)
include same

/-- An element is closed in one assembly if it is in the other, and the outlines stay the same. -/
theorem exists_close? {name : List Char} (h : one.close? name = some next) :
    ∃ again, two.close? name = some again ∧ again.outline = next.outline := by
  obtain ⟨opened, done, remark, checked⟩ := one
  obtain ⟨others, rest, last, known⟩ := two
  cases opened with
  | nil => cases h
  | cons element outer =>
      simp only [outline, List.map_cons, Outline.mk.injEq] at same
      obtain ⟨inner, outside, rfl, first, others⟩ := List.map_eq_cons_iff.1 same.1
      simp only [Prod.mk.injEq] at first
      obtain ⟨bare, -, shapes⟩ := first
      have named : inner.head.name = element.head.name :=
        show inner.head.bare.name = element.head.bare.name by rw [bare]
      have shaped : (Node.element inner.head inner.before.reverse).shape? =
          (Node.element element.head element.before.reverse).shape? := by
        rw [Node.shape?_element, Node.shape?_element, ← Head.shape_bare, bare, Head.shape_bare,
          shapesOf_reverse, shapesOf_reverse, shapes]
      simp only [close?] at h ⊢
      rw [named]
      split at h
      · next fits =>
        cases h
        rw [if_pos fits]
        refine ⟨_, rfl, ?_⟩
        rw [outline_addNode, outline_addNode, shaped]
        simp only [outline, others, same.2.1, same.2.2]
      · cases h

variable {context : Context} (closed : context.IsClosed)
  {check? : List Char → Assembly → Option Assembly} (refuses : ∀ name state, check? name state = none)
include closed refuses

/-- **Tokens that tell the same names** lead to the same outline. -/
theorem exists_add? {token other : Token} (alike : token.Alike other)
    (added : one.add? context check? token = some next) :
    ∃ again, two.add? context check? other = some again ∧ again.outline = next.outline := by
  cases alike with
  | text values =>
      rename_i first second
      rw [add?] at added ⊢
      rw [values.references]
      cases names : referenceNames first with
      | cons name names' => simp [names, refuses] at added
      | nil =>
          rw [names] at added
          cases added
          refine ⟨_, rfl, ?_⟩
          rw [outline_foldl_addNode (isElement_nodesOf second),
            outline_foldl_addNode (isElement_nodesOf first), same]
  | literal first second =>
      cases added
      exact ⟨_, rfl, by rw [outline_addNode, outline_addNode, same, shape?_text, shape?_text]⟩
  | comment first second =>
      cases added
      refine ⟨_, rfl, ?_⟩
      rw [outline_addNode, outline_addNode, same, Node.shape?_eq_none rfl, Node.shape?_eq_none rfl]
  | instruction target first second =>
      cases added
      refine ⟨_, rfl, ?_⟩
      rw [outline_addNode, outline_addNode, outline_remarked, outline_remarked, same,
        Node.shape?_eq_none rfl, Node.shape?_eq_none rfl]
  | start isClosed line tags =>
      rw [add?] at added ⊢
      have scope : two.scope = one.scope := by rw [← scope_outline, ← scope_outline, same]
      split at added
      · cases added
      · next head remarks found =>
        obtain ⟨other, again, bare⟩ := tags.exists_head? closed found
        rw [scope, again]
        dsimp only
        split at added
        · next shut =>
          cases added
          rw [if_pos shut]
          refine ⟨_, rfl, ?_⟩
          have shapes : (Node.element other []).shape? = (Node.element head []).shape? := by
            rw [Node.shape?_element, Node.shape?_element, ← Head.shape_bare, bare, Head.shape_bare]
          rw [outline_addNode, outline_addNode, outline_remarked, outline_remarked, same, shapes]
        · next shut =>
          cases added
          rw [if_neg shut]
          refine ⟨_, rfl, ?_⟩
          rw [outline_openElement, outline_openElement, outline_remarked, outline_remarked, same,
            bare]
  | finish name => exact exists_close? same added

/-- **Tokens that are alike lead to the same outline,** token by token. -/
theorem exists_addAll? {tokens others : List Token}
    (alike : List.Forall₂ Token.Alike tokens others)
    (added : one.addAll? context check? tokens = some next) :
    ∃ again, two.addAll? context check? others = some again ∧ again.outline = next.outline := by
  induction alike generalizing one two with
  | nil =>
      cases added
      exact ⟨two, rfl, same⟩
  | cons first _ ih =>
      rw [addAll?] at added
      split at added
      · cases added
      · next found one =>
        obtain ⟨again, step, still⟩ := exists_add? same closed refuses first one
        rw [addAll?, step]
        exact ih still added

end

/-- **Tokens that tell the same names come to nodes of the same shapes,** with the same remark. -/
theorem exists_ofTokens? {context : Context} (closed : context.IsClosed) {remark : Option Remark}
    {tokens others : List Token} (alike : List.Forall₂ Token.Alike tokens others)
    {assembly : Assembly} (h : ofTokens? context remark tokens = some assembly) :
    ∃ again, ofTokens? context remark others = some again ∧
      shapesOf again.done = shapesOf assembly.done ∧ again.remark = assembly.remark := by
  obtain ⟨added, shut⟩ := exists_of_ofTokens? h
  have begun : (start remark).outline = (start remark).outline := rfl
  obtain ⟨again, all, same⟩ := exists_addAll? begun closed (check?_closed closed _) alike added
  -- no element is open in one outline, so none is in the other
  have empty : again.opened.isEmpty := by
    have opened := congrArg Outline.opened same
    simpa [outline, shut] using opened
  rw [ofTokens?, all]
  exact ⟨again, if_pos empty, congrArg Outline.done same, congrArg Outline.remark same⟩

end Assembly

end StringCatalog.Xml
