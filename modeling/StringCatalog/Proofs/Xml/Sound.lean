import Mathlib.Data.List.Chain
import StringCatalog.Proofs.Xml.Subset

/-! # What is read from a legal text

Where a document type declares entities and bindings, what is read need not be read as it is
written, but it is made of names and of legal characters all the same:

* **`Xml.Head.IsSound`, `Xml.Node.IsSound`** — parts of a tree made of names and legal characters.
* **`Xml.Assembly.IsSound.add?`** — one more token keeps a tree so.
* **`Xml.Document.isSound_of_ofText?`** — a document is made of such parts. -/

namespace StringCatalog.Xml

/-! ## References -/

/-- **A name that has to be declared** to stand for a text. -/
structure IsEntityName (name : List Char) : Prop where
  /-- It is a name. -/
  isName : Xml.isName name
  /-- No document has it from the start. -/
  undefined : predefined? name = none

/-- **A piece that is a legal character,** or a reference to a name that has to be declared. -/
def Piece.IsSound : Piece → Prop
  | .char c => isChar c
  | .reference name => IsEntityName name

/-- The name of a reference that is read is one that an entity can have. -/
theorem isEntityName_of_readReference? {inner name : List Char}
    (h : readReference? inner = some (.reference name)) : IsEntityName name := by
  unfold readReference? at h
  split at h
  · obtain ⟨c, -, equal⟩ := Option.map_eq_some_iff.1 h
    cases equal
  · obtain ⟨c, -, equal⟩ := Option.map_eq_some_iff.1 h
    cases equal
  · split at h
    · simp at h
    · next undefined =>
      split at h
      · next known =>
        cases h
        exact ⟨known, undefined⟩
      · cases h

/-- References that are read are to names that have to be declared. -/
theorem isEntityName_of_readPieces? {plain : Char → Char} {text : List Char} {pieces : List Piece}
    (h : readPieces? plain text = some pieces) :
    ∀ name, .reference name ∈ pieces → IsEntityName name := by
  fun_induction readPieces? plain text generalizing pieces with
  | case1 =>
      cases h
      simp
  | case2 => cases h
  | case3 => cases h
  | case4 c rest _ inner after cut shorter piece read ih =>
      obtain ⟨more, found, rfl⟩ := Option.map_eq_some_iff.1 h
      intro name member
      rcases List.mem_cons.1 member with rfl | member
      · exact isEntityName_of_readReference? read
      · exact ih found name member
  | case5 c rest _ ih =>
      obtain ⟨more, found, rfl⟩ := Option.map_eq_some_iff.1 h
      intro name member
      rcases List.mem_cons.1 member with same | member
      · cases same
      · exact ih found name member

/-- `trimPieces afterBlank pieces ⊆ pieces`: a trimmed value is a part of the value. -/
theorem trimPieces_subset (afterBlank : Bool) (pieces : List Piece) :
    trimPieces afterBlank pieces ⊆ pieces := by
  induction pieces generalizing afterBlank with
  | nil => simp [trimPieces]
  | cons piece pieces ih =>
      rw [trimPieces]
      split
      · next blank =>
        have same : piece = .char ' ' := by simpa using blank
        split
        · simp
        · next kept _ =>
          split
          · exact List.Subset.trans (ih true) (List.subset_cons_self _ _)
          · rw [same]
            exact List.cons_subset_cons _ (ih true)
      · exact List.cons_subset_cons _ (ih false)

/-! ## Parts of a tree -/

/-- **An attribute that declares no binding,** with a sound value. -/
structure Attribute.IsSound (entry : Attribute) : Prop where
  /-- The name is one. -/
  name : entry.name.IsRead
  /-- The name declares no binding. -/
  undeclared : entry.name.declaredLead? = none
  /-- The value. -/
  value : ∀ piece ∈ entry.value, piece.IsSound

/-- **The start of an element made of names and of legal characters.** -/
structure Head.IsSound (head : Head) : Prop where
  /-- The name is one. -/
  name : head.name.IsRead
  /-- The bindings. -/
  bindings : ∀ binding ∈ head.bindings, binding.IsSound
  /-- No prefix is bound twice. -/
  nodup : (head.bindings.map Binding.lead).Nodup
  /-- The attributes. -/
  attributes : ∀ entry ∈ head.attributes, entry.IsSound

/-- **Nodes of which no two texts stand side by side.** -/
def AreApart (nodes : List Node) : Prop :=
  nodes.IsChain fun node next => ¬(node.isText ∧ next.isText)

/-- Texts that stand alone are one. -/
theorem AreApart.eq_text {nodes : List Node} (apart : AreApart nodes)
    (h : ∀ node ∈ nodes, node.isText) : nodes = [] ∨ ∃ text, nodes = [.text text] := by
  match nodes with
  | [] => exact .inl rfl
  | [node] =>
      have isText := h node (by simp)
      cases node with
      | text text => exact .inr ⟨text, rfl⟩
      | _ => cases isText
  | node :: next :: rest =>
      rw [AreApart, List.isChain_cons_cons] at apart
      exact absurd ⟨h node (by simp), h next (by simp)⟩ apart.1

/-- **A node made of names and of legal characters.** -/
inductive Node.IsSound : Node → Prop
  | text {content : List Char} : content.all isChar → Node.IsSound (.text content)
  | comment {content : List Char} : IsProperComment content → Node.IsSound (.comment content)
  | instruction {target data : List Char} : IsProperInstruction target data →
      Node.IsSound (.instruction target data)
  | reference {name : List Char} : IsEntityName name → Node.IsSound (.reference name)
  | element {head : Head} {children : List Node} : head.IsSound →
      (∀ child ∈ children, child.IsSound) → AreApart children →
      Node.IsSound (.element head children)

/-- The start of a sound element is sound. -/
theorem Node.IsSound.head {head : Head} {children : List Node}
    (h : (Node.element head children).IsSound) : head.IsSound := by
  cases h
  assumption

/-- So are its children. -/
theorem Node.IsSound.children {head : Head} {children : List Node}
    (h : (Node.element head children).IsSound) : ∀ child ∈ children, child.IsSound := by
  cases h
  assumption

/-- No two texts among them touch. -/
theorem Node.IsSound.apart {head : Head} {children : List Node}
    (h : (Node.element head children).IsSound) : AreApart children := by
  cases h
  assumption

/-! ## Tokens -/

/-- **A token from which sound nodes come.** -/
structure Token.IsSound (token : Token) : Prop where
  /-- Its characters are legal, and its names are names. -/
  proper : token.IsProper
  /-- The references of a text are to names that have to be declared. -/
  text : ∀ pieces, token = .text pieces → ∀ name, .reference name ∈ pieces → IsEntityName name
  /-- So are those of the attributes of a tag. -/
  attributes : ∀ tag isClosed line, token = .start tag isClosed line → ∀ entry ∈ tag.attributes,
    ∀ name, .reference name ∈ entry.value → IsEntityName name

/-- The references in attributes that are read have such names. -/
theorem isEntityName_of_readAttributes? {text : List Char} {attributes : List Tag.Attribute}
    (h : readAttributes? text = some attributes) :
    ∀ entry ∈ attributes, ∀ name, .reference name ∈ entry.value → IsEntityName name := by
  fun_induction readAttributes? text generalizing attributes with
  | case1 => cases h; simp
  | case2 => cases h
  | case3 => cases h; simp
  | case4 => cases h
  | case5 => cases h
  | case6 => cases h
  | case7 => cases h
  | case8 => cases h
  -- the only case in which an attribute is read
  | case9 c rest _ d more there start name value equals raw after quoted _ _ pieces read =>
      rename_i ih
      obtain ⟨others, found, rfl⟩ := Option.map_eq_some_iff.1 h
      exact List.forall_mem_cons.2 ⟨isEntityName_of_readPieces? read, ih found⟩

/-- So have those in a tag. -/
theorem Tag.isEntityName_of_read? {raw : List Char} {tag : Tag} (h : Tag.read? raw = some tag) :
    ∀ entry ∈ tag.attributes, ∀ name, .reference name ∈ entry.value → IsEntityName name := by
  unfold Tag.read? at h
  split at h
  · cases h
  · obtain ⟨attributes, read, rfl⟩ := Option.map_eq_some_iff.1 h
    exact isEntityName_of_readAttributes? read

/-- What a start says has been read from a tag. -/
theorem exists_read?_of_ofFrame? {line : Nat} {frame : Frame} {tag : Tag} {isClosed : Bool}
    {number : Nat} (h : Token.ofFrame? line frame = some (.start tag isClosed number)) :
    ∃ raw, Tag.read? raw = some tag := by
  unfold Token.ofFrame? at h
  split at h
  · split at h
    · cases h
    · simp at h
  · cases h
  · split at h <;> simp at h
  · unfold readInstruction? at h
    dsimp only at h
    repeat' split at h
    all_goals cases h
  · unfold readFinish? at h
    dsimp only at h
    split at h <;> cases h
  · unfold readStart? at h
    split at h
    · obtain ⟨found, read, equal⟩ := Option.map_eq_some_iff.1 h
      cases equal
      exact ⟨_, read⟩
    · obtain ⟨found, read, equal⟩ := Option.map_eq_some_iff.1 h
      cases equal
      exact ⟨_, read⟩

/-- The pieces of a text come from reading it. -/
theorem exists_readPieces?_of_ofFrame? {line : Nat} {frame : Frame} {pieces : List Piece}
    (h : Token.ofFrame? line frame = some (.text pieces)) :
    ∃ raw, readPieces? lineFeed raw = some pieces := by
  unfold Token.ofFrame? at h
  split at h
  · split at h
    · cases h
    · obtain ⟨found, read, equal⟩ := Option.map_eq_some_iff.1 h
      cases equal
      exact ⟨_, read⟩
  · cases h
  · split at h <;> simp at h
  · unfold readInstruction? at h
    dsimp only at h
    repeat' split at h
    all_goals cases h
  · unfold readFinish? at h
    dsimp only at h
    split at h <;> cases h
  · unfold readStart? at h
    split at h <;> simp at h

/-- A frame that says a token is one of those that the tokens come from. -/
theorem exists_ofFrame?_of_mem {line : Nat} {frames : List Frame} {tokens : List Token}
    (h : Token.ofFrames? line frames = some tokens) {token : Token} (member : token ∈ tokens) :
    ∃ number frame, Token.ofFrame? number frame = some token := by
  induction frames generalizing line tokens with
  | nil =>
      cases h
      cases member
  | cons frame frames ih =>
      rw [Token.ofFrames?] at h
      split at h
      · cases h
      · next first read =>
        obtain ⟨others, found, rfl⟩ := Option.map_eq_some_iff.1 h
        rcases List.mem_cons.1 member with rfl | member
        · exact ⟨_, frame, read⟩
        · exact ih found member

/-- **A legal text comes to tokens from which sound nodes come.** -/
theorem Token.isSound_of_read? {line : Nat} {text : List Char} {tokens : List Token}
    (legal : text.all isChar) (h : Token.read? line text = some tokens) :
    ∀ token ∈ tokens, token.IsSound := by
  intro token member
  obtain ⟨frames, split, read⟩ := Option.bind_eq_some_iff.1 h
  obtain ⟨number, frame, one⟩ := exists_ofFrame?_of_mem read member
  refine ⟨isProper_of_read? legal h token member, ?_, ?_⟩
  · rintro pieces rfl
    obtain ⟨raw, found⟩ := exists_readPieces?_of_ofFrame? one
    exact isEntityName_of_readPieces? found
  · rintro tag isClosed line rfl
    obtain ⟨raw, found⟩ := exists_read?_of_ofFrame? one
    exact Tag.isEntityName_of_read? found

/-! ## Start tags -/

/-- **What has been made of attributes,** sound as well. -/
structure Sorted.IsSound (sorted : Sorted) : Prop where
  /-- The bindings. -/
  bindings : ∀ binding ∈ sorted.bindings, binding.IsSound
  /-- No prefix is bound twice. -/
  nodup : (sorted.bindings.map Binding.lead).Nodup
  /-- The others declare nothing. -/
  plain : ∀ entry ∈ sorted.plain, entry.name.IsRead ∧ entry.name.declaredLead? = none ∧
    ∀ piece ∈ entry.value, piece.IsSound

/-- `binding = ⟨lead, uri⟩`: what a declaration binds is what it says. -/
theorem Binding.eq_of_declare {lead : Option (List Char)} {uri : List Char} {binding : Binding}
    (h : (Binding.declare lead uri).1 = some binding) : binding = ⟨lead, uri⟩ := by
  unfold Binding.declare at h
  cases lead with
  | none =>
      dsimp only at h
      split at h
      · cases h
        rfl
      · split at h <;> cases h
        rfl
  | some lead =>
      dsimp only at h
      split at h
      · cases h
      · split at h <;> cases h
        rfl

/-- Bindings to which others are added stay sound, and none of their prefixes is bound twice. -/
theorem isSound_foldl_addBinding {bindings more : List Binding}
    (sound : ∀ binding ∈ bindings, binding.IsSound) (nodup : (bindings.map Binding.lead).Nodup)
    (others : ∀ binding ∈ more, binding.IsSound) :
    (∀ binding ∈ more.foldl addBinding bindings, binding.IsSound) ∧
      ((more.foldl addBinding bindings).map Binding.lead).Nodup := by
  induction more generalizing bindings with
  | nil => exact ⟨sound, nodup⟩
  | cons binding more ih =>
      rw [List.forall_mem_cons] at others
      rw [List.foldl_cons, addBinding]
      split
      · exact ih sound nodup others.2
      · next new =>
        refine ih ?_ ?_ others.2
        · intro other member
          rcases List.mem_append.1 member with member | member
          · exact sound other member
          · exact List.mem_singleton.1 member ▸ others.1
        · rw [List.map_append, List.map_singleton, List.nodup_append]
          refine ⟨nodup, by simp, ?_⟩
          simpa using new

section

variable {context : Context} (legal : context.doctype.IsLegal)
include legal

/-- **An attribute of an element keeps them sound.** -/
theorem Sorted.IsSound.add? {element : List Char} {sorted next : Sorted} {entry : Tag.Attribute}
    (h : sorted.IsSound) (name : entry.name.IsRead) (value : ∀ piece ∈ entry.value, piece.IsSound)
    (added : sorted.add? context element entry = some next) : next.IsSound := by
  unfold Sorted.add? at added
  dsimp only at added
  generalize given : (if context.doctype.trims element entry.name.text then
    trimPieces true entry.value else entry.value) = pieces at added
  have sound : ∀ piece ∈ pieces, piece.IsSound := by
    intro piece member
    rw [← given] at member
    split at member
    · exact value piece (trimPieces_subset true entry.value member)
    · exact value piece member
  split at added
  · cases added
  · split at added
    -- a declaration binds a prefix that is new, or nothing
    · next lead declared =>
      split at added
      · cases added
        exact ⟨h.bindings, h.nodup, h.plain⟩
      · next binding bound =>
        split at added
        · cases added
        · next new =>
          cases added
          have same := Binding.eq_of_declare bound
          have known : binding.IsSound := by
            rw [same]
            exact ⟨legal.all_isChar_valueText fun c member => sound _ member,
              name.isPlainName_of_declaredLead? declared⟩
          refine ⟨?_, ?_, h.plain⟩
          · intro other member
            rcases List.mem_append.1 member with member | member
            · exact h.bindings other member
            · exact List.mem_singleton.1 member ▸ known
          · rw [List.map_append, List.map_singleton, List.nodup_append]
            refine ⟨h.nodup, by simp, ?_⟩
            simpa using new
    · next undeclared =>
      cases added
      refine ⟨h.bindings, h.nodup, fun other member => ?_⟩
      rcases List.mem_append.1 member with member | member
      · exact h.plain other member
      · obtain rfl := List.mem_singleton.1 member
        exact ⟨name, undeclared, sound⟩

/-- Sorted attributes stay sound with all attributes of a tag. -/
theorem Sorted.IsSound.all? {element : List Char} {sorted last : Sorted}
    {attributes : List Tag.Attribute} (h : sorted.IsSound)
    (names : ∀ entry ∈ attributes, entry.name.IsRead)
    (values : ∀ entry ∈ attributes, ∀ piece ∈ entry.value, piece.IsSound)
    (added : Sorted.all? context element sorted attributes = some last) : last.IsSound := by
  induction attributes generalizing sorted with
  | nil =>
      cases added
      exact h
  | cons entry attributes ih =>
      rw [List.forall_mem_cons] at names values
      rw [Sorted.all?] at added
      split at added
      · cases added
      · next next one => exact ih (h.add? legal names.1 values.1 one) names.2 values.2 added

/-- **The start of an element is sound.** -/
theorem Tag.isSound_of_head? {scope : List Binding} {line number : Nat} {tag : Tag} {head : Head}
    {isClosed : Bool} {remarks : List Remark} (sound : (Token.start tag isClosed number).IsSound)
    (h : tag.head? context scope line = some (head, remarks)) : head.IsSound := by
  obtain ⟨name, proper⟩ := sound.proper
  have values : ∀ entry ∈ tag.attributes, ∀ piece ∈ entry.value, piece.IsSound := by
    intro entry there piece member
    cases piece with
    | char c => exact (proper entry there).legal c member
    | reference word => exact sound.attributes tag isClosed number rfl entry there word member
  unfold Tag.head? at h
  dsimp only at h
  split at h
  · cases h
  · next sorted read =>
    have start : Sorted.IsSound ⟨[], [], []⟩ := ⟨by simp, by simp, by simp⟩
    have good := start.all? legal (fun entry member => (proper entry member).name) values read
    have added : ∀ binding ∈ context.doctype.bindingsOf tag.name.text, binding.IsSound := by
      intro binding member
      obtain ⟨entry, there, rfl⟩ := List.mem_map.1 member
      exact legal.bindings entry (List.mem_of_mem_filter there)
    obtain ⟨bindings, nodup⟩ := isSound_foldl_addBinding good.bindings good.nodup added
    split at h
    · cases h
    · cases h
      refine ⟨name, bindings, nodup, fun entry member => ?_⟩
      obtain ⟨_, paired, rfl⟩ := List.mem_map.1 member
      obtain ⟨other, there, rfl⟩ := List.mem_map.1 paired
      obtain ⟨read, undeclared, value⟩ := good.plain other there
      exact ⟨read, undeclared, value⟩

end

/-! ## Assemblies -/

namespace Assembly

/-- **An open element whose nodes are sound.** -/
structure Open.IsSound (element : Open) : Prop where
  /-- Its start. -/
  head : element.head.IsSound
  /-- Its nodes. -/
  before : ∀ node ∈ element.before, node.IsSound
  /-- Text has joined text. -/
  apart : AreApart element.before

/-- **An assembly whose nodes are sound.** -/
structure IsSound (assembly : Assembly) : Prop where
  /-- The open elements. -/
  opened : ∀ element ∈ assembly.opened, element.IsSound
  /-- The nodes outside of them. -/
  done : ∀ node ∈ assembly.done, node.IsSound

/-- Sound nodes with one more are sound. -/
theorem isSound_push {node : Node} (h : node.IsSound) {before : List Node}
    (known : ∀ other ∈ before, other.IsSound) : ∀ other ∈ push node before, other.IsSound := by
  unfold push
  split
  · next more content rest =>
    rw [List.forall_mem_cons] at known ⊢
    refine ⟨?_, known.2⟩
    cases known.1 with
    | text legal =>
        cases h with
        | text more => exact .text (by rw [List.all_append, legal, more]; rfl)
  · exact List.forall_mem_cons.2 ⟨h, known⟩

/-- Text joins text. -/
theorem areApart_push (node : Node) {before : List Node} (h : AreApart before) :
    AreApart (push node before) := by
  unfold push
  split
  · next more content rest =>
    cases rest with
    | nil => exact .singleton _
    | cons other rest =>
        unfold AreApart at h ⊢
        rw [List.isChain_cons_cons] at h ⊢
        exact h
  · next apart =>
    cases before with
    | nil => exact .singleton _
    | cons other before =>
        refine List.isChain_cons_cons.2 ⟨fun both => ?_, h⟩
        -- two texts would have been joined
        cases node with
        | text more =>
            cases other with
            | text content => exact apart more content before rfl rfl
            | _ => cases both.2
        | _ => cases both.1

/-- The nodes of sound pieces are sound. -/
theorem isSound_nodesOf {pieces : List Piece} (h : ∀ piece ∈ pieces, piece.IsSound) :
    ∀ node ∈ nodesOf pieces, node.IsSound := by
  induction pieces with
  | nil => simp [nodesOf]
  | cons piece pieces ih =>
      rw [List.forall_mem_cons] at h
      cases piece with
      | reference name => exact List.forall_mem_cons.2 ⟨.reference h.1, ih h.2⟩
      | char c =>
          have legal : isChar c := h.1
          have rest := ih h.2
          rw [nodesOf]
          split
          · next more nodes found =>
            rw [found, List.forall_mem_cons] at rest
            refine List.forall_mem_cons.2 ⟨?_, rest.2⟩
            cases rest.1 with
            | text known => exact .text (by rw [List.all_cons, legal, known]; rfl)
          · exact List.forall_mem_cons.2 ⟨.text (by simpa using legal), rest⟩

/-- `next.opened = assembly.opened ∧ next.done = assembly.done`: checking a reference changes no
node. -/
theorem eq_of_check? {context : Context} {depth : Nat} {name : List Char} {assembly next : Assembly}
    (h : check? context depth name assembly = some next) :
    next.opened = assembly.opened ∧ next.done = assembly.done := by
  cases depth with
  | zero => cases h
  | succ depth =>
      rw [check?] at h
      split at h
      · split at h <;> cases h
        exact ⟨rfl, rfl⟩
      · cases h
      · cases h
        exact ⟨rfl, rfl⟩
      · split at h
        · cases h
          exact ⟨rfl, rfl⟩
        · repeat' split at h
          all_goals cases h
          exact ⟨rfl, rfl⟩

/-- `last.opened = assembly.opened ∧ last.done = assembly.done`: nor does checking many of them. -/
theorem eq_of_checks? {context : Context} {depth : Nat} {names : List (List Char)}
    {assembly last : Assembly}
    (h : names.foldlM (fun state name => check? context depth name state) assembly = some last) :
    last.opened = assembly.opened ∧ last.done = assembly.done := by
  induction names generalizing assembly with
  | nil =>
      cases h
      exact ⟨rfl, rfl⟩
  | cons name names ih =>
      rw [List.foldlM_cons] at h
      obtain ⟨next, one, rest⟩ := Option.bind_eq_some_iff.1 h
      obtain ⟨opened, done⟩ := ih rest
      obtain ⟨first, others⟩ := eq_of_check? one
      exact ⟨opened.trans first, done.trans others⟩

namespace IsSound

variable {assembly : Assembly} (h : assembly.IsSound)
include h

/-- The remarks do not count. -/
theorem of_eq {other : Assembly} (opened : other.opened = assembly.opened)
    (done : other.done = assembly.done) : other.IsSound :=
  ⟨opened ▸ h.opened, done ▸ h.done⟩

/-- Remarks do not matter. -/
theorem remarked (remarks : List Remark) : (assembly.remarked remarks).IsSound := h.of_eq rfl rfl

/-- A sound node keeps an assembly sound. -/
theorem addNode {node : Node} (sound : node.IsSound) : (assembly.addNode node).IsSound := by
  unfold Assembly.addNode
  split
  · next found => exact ⟨by simp [found], isSound_push sound h.done⟩
  · next element outer found =>
    have known := h.opened
    rw [found, List.forall_mem_cons] at known
    refine ⟨List.forall_mem_cons.2 ⟨⟨known.1.head, isSound_push sound known.1.before, ?_⟩, known.2⟩,
      h.done⟩
    exact areApart_push node known.1.apart

/-- So do several. -/
theorem addNodes {nodes : List Node} (sound : ∀ node ∈ nodes, node.IsSound) :
    (nodes.foldl Assembly.addNode assembly).IsSound := by
  induction nodes generalizing assembly with
  | nil => exact h
  | cons node nodes ih =>
      rw [List.forall_mem_cons] at sound
      exact ih (h.addNode sound.1) sound.2

/-- So does closing an element: its children are apart, for texts were joined. -/
theorem close? {name : List Char} {next : Assembly} (closed : assembly.close? name = some next) :
    next.IsSound := by
  unfold Assembly.close? at closed
  split at closed
  · cases closed
  · next element outer found =>
    have known := h.opened
    rw [found, List.forall_mem_cons] at known
    split at closed
    · cases closed
      have inner : (Node.element element.head element.before.reverse).IsSound := by
        refine .element known.1.head
          (fun node member => known.1.before node (List.mem_reverse.1 member)) ?_
        refine List.isChain_reverse.2 (known.1.apart.imp fun node next apart both => ?_)
        exact apart both.symm
      have outside : IsSound { assembly with opened := outer } := ⟨known.2, h.done⟩
      exact outside.addNode inner
    · cases closed

/-- **One more token keeps an assembly sound.** -/
theorem add? {context : Context} (legal : context.doctype.IsLegal) {depth : Nat} {token : Token}
    (sound : token.IsSound) {next : Assembly}
    (added : assembly.add? context (check? context depth) token = some next) : next.IsSound := by
  have proper := sound.proper
  cases token with
  | literal text =>
      cases added
      exact h.addNode (.text proper)
  | comment text =>
      cases added
      exact h.addNode (.comment proper)
  | instruction target data =>
      cases added
      exact (h.remarked _).addNode (.instruction proper)
  | text pieces =>
      rw [Assembly.add?] at added
      split at added
      · cases added
      · next checked found =>
        cases added
        obtain ⟨opened, done⟩ := eq_of_checks? found
        refine (h.of_eq opened done).addNodes (isSound_nodesOf fun piece member => ?_)
        cases piece with
        | char c => exact proper c member
        | reference name => exact sound.text pieces rfl name member
  | start tag isClosed line =>
      rw [Assembly.add?] at added
      split at added
      · cases added
      · next head remarks found =>
        have good := Tag.isSound_of_head? legal sound found
        have same := h.remarked remarks
        split at added
        · cases added
          exact same.addNode (.element good (by simp) .nil)
        · cases added
          exact ⟨List.forall_mem_cons.2 ⟨⟨good, by simp, .nil⟩, same.opened⟩, same.done⟩
  | finish name => exact h.close? added

/-- **All tokens keep an assembly sound,** one after another. -/
theorem addAll? {context : Context} (legal : context.doctype.IsLegal) {depth : Nat}
    {tokens : List Token} (sound : ∀ token ∈ tokens, token.IsSound) {last : Assembly}
    (added : assembly.addAll? context (check? context depth) tokens = some last) :
    last.IsSound := by
  induction tokens generalizing assembly with
  | nil =>
      cases added
      exact h
  | cons token tokens ih =>
      rw [List.forall_mem_cons] at sound
      rw [Assembly.addAll?] at added
      split at added
      · cases added
      · next next one => exact ih (h.add? legal sound.1 one) sound.2 added

end IsSound

end Assembly

/-! ## Documents -/

/-- **A document made of names and of legal characters.** -/
structure Document.IsSound (document : Document) : Prop where
  /-- The start of the root. -/
  head : document.head.IsSound
  /-- The nodes of the root. -/
  children : ∀ node ∈ document.children, node.IsSound
  /-- What the document type declares. -/
  doctype : document.doctype.IsLegal

/-- What is read from a root on is sound. -/
theorem Document.isSound_of_ofRoot? {context : Context} {line : Nat} {text : List Char}
    {document : Document} {remark : Option Remark} (known : context.doctype.IsLegal)
    (legal : text.all isChar)
    (read : Document.ofRoot? context line text = some (document, remark)) :
    document.IsSound := by
  obtain ⟨frames, tokens, assembly, split, -, said, come, only, -, same⟩ := exists_of_ofRoot? read
  have whole : Token.read? line text = some tokens :=
    Option.bind_eq_some_iff.2 ⟨frames, split, said⟩
  have start : (Assembly.start context.doctype.remark).IsSound :=
    ⟨by simp [Assembly.start], by simp [Assembly.start]⟩
  have good := start.addAll? known (Token.isSound_of_read? legal whole)
    (Assembly.exists_of_ofTokens? come).1
  -- the only element among the nodes outside of all elements is the root
  have element := good.done _ (mem_of_onlyElement? only)
  exact ⟨element.head, element.children, same ▸ known⟩

/-- **A document that is read is sound.** -/
theorem Document.isSound_of_ofText? {raw : List Char} {document : Document}
    (read : Document.ofText? raw = some document) : document.IsSound := by
  unfold Document.ofText? at read
  split at read
  · cases read
  · next found remark whole =>
    split at read
    · cases read
    · cases read
      unfold Document.wellFormed? at whole
      dsimp only at whole
      split at whole
      · cases whole
      · next legal =>
        have legal : (joinLineEnds raw).all isChar := by simpa using legal
        split at whole
        · cases whole
        · next header behind begins =>
          split at whole
          · cases whole
          · next doctype root before =>
            obtain ⟨known, text⟩ :=
              isLegal_of_readProlog? (all_isChar_of_readHeader? legal begins) before
            exact isSound_of_ofRoot? known text whole

/-- **So is one that is read from bytes.** -/
theorem Document.isSound_of_ofBytes? {bytes : List UInt8} {document : Document}
    (read : Document.ofBytes? bytes = some document) : document.IsSound := by
  unfold Document.ofBytes? at read
  split at read
  · obtain ⟨text, -, found⟩ := Option.bind_eq_some_iff.1 read
    exact isSound_of_ofText? found
  · obtain ⟨text, -, found⟩ := Option.bind_eq_some_iff.1 read
    exact isSound_of_ofText? found

end StringCatalog.Xml
