import StringCatalog.Proofs.Xml.Document
import StringCatalog.Proofs.Xml.Sound

/-! # What is written for sound nodes

* **`Xml.Head.IsSound.read?_write`** — the start of a sound element is read as it is written, the
  references in its attributes and all.
* **`Xml.all_isChar_write`** — what is written for a sound node is legal.
* **`Xml.Node.within`** — a node with all that is in it.
* **`Xml.Document.isPlain_of_ofRoot?`** — where nothing has been declared, it is read as a document
  only if no attribute in it has a reference.
* **`Xml.Node.IsSound.isProper`** — a sound node without references whose bindings are proper. -/

namespace StringCatalog.Xml

/-! ## Values -/

/-- What is written for a sound piece can stand in quotes. -/
theorem Piece.IsSound.isQuotable {piece : Piece} (h : piece.IsSound) :
    IsQuotable piece.writeValue := by
  cases piece with
  | char c =>
      have single : [c].all isChar := by
        rw [List.all_cons, show isChar c from h]
        rfl
      have written := isQuotable_escapeValue single
      rwa [escapeValue, List.flatMap_singleton] at written
  | reference name =>
      have known : IsEntityName name := h
      intro c member
      simp only [writeValue, referenceText, List.cons_append, List.mem_cons, List.mem_append,
        List.not_mem_nil, or_false] at member
      rcases member with rfl | member | rfl
      · decide
      · have name := isNameChar_of_mem known.isName member
        exact ⟨isChar_of_isNameChar name, ne_of_isNameChar name (by decide),
          ne_of_isNameChar name (by decide), ne_of_isNameChar name (by decide),
          ne_of_isNameChar name (by decide), ne_of_isNameChar name (by decide)⟩
      · decide

/-- What is written for a sound value can stand in quotes. -/
theorem isQuotable_writeValue {value : List Piece} (h : ∀ piece ∈ value, piece.IsSound) :
    IsQuotable (value.flatMap Piece.writeValue) := by
  intro c member
  obtain ⟨piece, there, member⟩ := List.mem_flatMap.1 member
  exact (h piece there).isQuotable c member

/-- `readReference? name = some (.reference name)`: a reference to a name that has to be declared
is kept. -/
theorem IsEntityName.readReference? {name : List Char} (h : IsEntityName name) :
    readReference? name = some (.reference name) := by
  obtain ⟨c, rest, rfl, start, -⟩ := isName_iff.1 h.isName
  have other : c ≠ '#' := ne_of_isNameChar (isNameChar_of_isNameStart start) (by decide)
  have undefined := h.undefined
  have known := h.isName
  unfold Xml.readReference?
  split
  · next equal => exact absurd (List.cons.inj equal).1 other
  · next equal => exact absurd (List.cons.inj equal).1 other
  · simp only [undefined, known, if_true]

/-- **What is written for a sound value is read back,** its references and all:
`readPieces? plainValueChar (value.flatMap Piece.writeValue) = some value`. -/
theorem readPieces?_writeValue {value : List Piece} (h : ∀ piece ∈ value, piece.IsSound) :
    readPieces? plainValueChar (value.flatMap Piece.writeValue) = some value := by
  induction value with
  | nil => exact readPieces?_nil _
  | cons piece value ih =>
      rw [List.forall_mem_cons] at h
      rw [List.flatMap_cons]
      cases piece with
      | char c =>
          have first := (isEscape_escapeValueChar c).readPieces? (value.flatMap Piece.writeValue)
          rw [ih h.2] at first
          exact first
      | reference name =>
          have known : IsEntityName name := h.1
          have shut : ';' ∉ name := fun member =>
            ne_of_isNameChar (isNameChar_of_mem known.isName member) (by decide) rfl
          have first := @readPieces?_reference plainValueChar _ _ _ _
            (Text.cutAt?_append shut (value.flatMap Piece.writeValue)) known.readReference?
          rw [ih h.2] at first
          simpa [Piece.writeValue, referenceText] using first

/-- What is written for a legal text is legal. -/
theorem all_isChar_escapeText {text : List Char} (legal : text.all isChar) :
    (escapeText text).all isChar :=
  (isClean_escapeText legal).legal

/-! ## Start tags -/

/-- An attribute of a tag as it is written. -/
def Tag.Attribute.write (entry : Tag.Attribute) : List Char :=
  writeQuoted entry.name.text (entry.value.flatMap Piece.writeValue)

/-- **The attributes of a start tag,** those that declare bindings first. -/
def Head.written (head : Head) : List Tag.Attribute :=
  head.bindings.map Binding.entry ++ head.attributes.map Xml.Attribute.entry

/-- `head.write = head.name.text ++ head.written.flatMap Tag.Attribute.write`: a tag is a name with
attributes behind it. -/
theorem Head.write_eq (head : Head) :
    head.write = head.name.text ++ head.written.flatMap Tag.Attribute.write := by
  have bindings : head.bindings.flatMap Binding.write =
      head.bindings.flatMap fun binding => binding.entry.write := by
    refine List.flatMap_congr fun binding _ => ?_
    rw [binding.write_eq, Tag.Attribute.write, Binding.entry, Name.text_ofText, List.flatMap_map]
    rfl
  have attributes : head.attributes.flatMap Xml.Attribute.write =
      head.attributes.flatMap fun entry => entry.entry.write := by
    refine List.flatMap_congr fun entry _ => ?_
    rw [Tag.Attribute.write, Xml.Attribute.entry, Name.text_ofText]
    rfl
  rw [Head.write, bindings, attributes, Head.written, List.flatMap_append, List.flatMap_map,
    List.flatMap_map, List.append_assoc]

/-- What comes behind the name of a tag ends it. -/
theorem endsName_attributes (entries : List Tag.Attribute) :
    EndsName (entries.flatMap Tag.Attribute.write) := by
  cases entries with
  | nil => exact endsName_nil
  | cons entry entries => exact endsName_cons (by decide) _

section

variable {head : Head} (h : head.IsSound)
include h

/-- The attributes of a sound tag have names, and sound values. -/
theorem Head.IsSound.written {entry : Tag.Attribute} (member : entry ∈ head.written) :
    isName entry.name.text ∧ ∀ piece ∈ entry.value, piece.IsSound := by
  rcases List.mem_append.1 member with member | member
  · obtain ⟨binding, there, rfl⟩ := List.mem_map.1 member
    have sound := h.bindings binding there
    refine ⟨?_, List.forall_mem_map.2 fun c member => List.all_eq_true.1 sound.legal c member⟩
    rw [Binding.entry, Name.text_ofText]
    unfold Binding.key
    split
    · decide
    · next lead found =>
      have plain := sound.lead lead found
      exact isName_append (by decide) fun c => isNameChar_of_mem (isPlainName_iff.1 plain).1
  · obtain ⟨other, there, rfl⟩ := List.mem_map.1 member
    have sound := h.attributes other there
    rw [Xml.Attribute.entry, Name.text_ofText]
    exact ⟨sound.name.isProper.isName, sound.value⟩

/-- **A sound tag is made of texts that can stand in one.** -/
theorem Head.IsSound.isTagText : IsTagText head.write := by
  rw [head.write_eq]
  refine (isTagText_name h.name.isProper.isName).append (.flatMap fun entry member => ?_)
  exact isTagText_writeQuoted (h.written member).1 (isQuotable_writeValue (h.written member).2)

/-- **The start tag of a sound element is read as it is written.** -/
theorem Head.IsSound.read?_write :
    Tag.read? head.write = some ⟨Name.ofText head.name.text,
      head.written.map fun entry => ⟨Name.ofText entry.name.text, entry.value⟩⟩ := by
  have attributes : ∀ entries : List Tag.Attribute, (∀ entry ∈ entries, isName entry.name.text ∧
      ∀ piece ∈ entry.value, piece.IsSound) →
      readAttributes? (entries.flatMap Tag.Attribute.write) =
        some (entries.map fun entry => ⟨Name.ofText entry.name.text, entry.value⟩) := by
    intro entries sound
    induction entries with
    | nil => exact readAttributes?_nil
    | cons entry entries ih =>
        rw [List.forall_mem_cons] at sound
        have quotable := isQuotable_writeValue sound.1.2
        have first := readAttributes?_writeQuoted sound.1.1
          (fun member => (quotable '"' member).2.2.2.1 rfl)
          (fun member => (quotable '<' member).2.1 rfl) (readPieces?_writeValue sound.1.2)
          (entries.flatMap Tag.Attribute.write)
        rw [List.flatMap_cons, Tag.Attribute.write, first, ih sound.2]
        rfl
  rw [Tag.read?, head.write_eq, Name.read?_name h.name.isProper.isName (endsName_attributes _)]
  simp only [attributes head.written fun entry member => h.written member, Option.map_some]

/-- Such a tag begins with a name. -/
theorem Head.IsSound.head?_write (rest : List Char) :
    ∃ c ∈ (head.write ++ rest).head?, isNameStart c := by
  obtain ⟨c, more, same, start, -⟩ := isName_iff.1 h.name.isProper.isName
  exact ⟨c, by simp [Head.write, same], start⟩

/-- `head.write.getLast? ≠ some '/'`: such a tag does not end with the slash that closes an element
at once. -/
theorem Head.IsSound.getLast?_write : head.write.getLast? ≠ some '/' := by
  rw [head.write_eq]
  -- a tag ends with the last character of the name or with the quote behind the last value
  rcases List.eq_nil_or_concat' head.written with empty | ⟨entries, entry, equal⟩
  · intro last
    rw [empty, List.flatMap_nil, List.append_nil] at last
    have name := h.name.isProper.isName
    exact ne_of_isNameChar (isNameChar_of_mem name (List.mem_of_getLast? last)) (by decide) rfl
  · rw [equal, List.flatMap_append, List.flatMap_singleton, Tag.Attribute.write, writeQuoted,
      ← List.append_assoc, ← List.append_assoc, List.getLast?_concat]
    decide

end

mutual

/-- **What is written for a sound node is legal.** -/
theorem all_isChar_write (node : Node) (h : node.IsSound) : node.write.all isChar := by
  match node with
  | .text content =>
      cases h with
      | text legal => exact all_isChar_escapeText legal
  | .comment content =>
      cases h with
      | comment proper => exact (isClean_write _ (.comment proper)).legal
  | .instruction target data =>
      cases h with
      | instruction proper => exact (isClean_write _ (.instruction proper)).legal
  | .reference name =>
      cases h with
      | reference known => exact all_isChar_referenceText known.isName
  | .element head children =>
      have start := List.all_eq_true.2 h.head.isTagText.legal
      have name := isChar_of_isName h.head.name.isProper.isName
      have inner := all_isChar_writeNodes children h.children
      have marks : isChar '<' ∧ isChar '>' ∧ "/>".toList.all isChar ∧ "</".toList.all isChar ∧
          ['>'].all isChar := by decide
      rw [Node.write, writeElement]
      split
      · simp only [List.cons_append, List.all_cons, List.all_append, start, marks, Bool.and_self]
      · simp only [List.cons_append, List.all_cons, List.all_append, start, name, inner, marks,
          Bool.and_self]

/-- What is written for sound nodes is legal. -/
theorem all_isChar_writeNodes (nodes : List Node) (h : ∀ node ∈ nodes, node.IsSound) :
    (writeNodes nodes).all isChar := by
  match nodes with
  | [] => rfl
  | node :: nodes =>
      rw [List.forall_mem_cons] at h
      rw [writeNodes, List.all_append, all_isChar_write node h.1, all_isChar_writeNodes nodes h.2]
      rfl

end

/-! ## Nodes inside of nodes -/

mutual

/-- **A node with all that is in it.** -/
def Node.within : Node → List Node
  | .element head children => .element head children :: withinAll children
  | node => [node]

/-- Nodes with all that is in them. -/
def withinAll : List Node → List Node
  | [] => []
  | node :: rest => node.within ++ withinAll rest

end

/-- Whether a node is a reference. -/
def Node.isReference : Node → Bool
  | .reference _ => true
  | _ => false

mutual

/-- What is in a sound node is sound. -/
theorem Node.IsSound.of_mem_within {node inner : Node} (h : node.IsSound)
    (member : inner ∈ node.within) : inner.IsSound := by
  match node with
  | .element head children =>
      rcases List.mem_cons.1 member with rfl | member
      · exact h
      · exact isSound_of_mem_withinAll h.children member
  | .text content => exact List.mem_singleton.1 member ▸ h
  | .comment content => exact List.mem_singleton.1 member ▸ h
  | .instruction target data => exact List.mem_singleton.1 member ▸ h
  | .reference name => exact List.mem_singleton.1 member ▸ h

/-- All that is in sound nodes is sound. -/
theorem isSound_of_mem_withinAll {nodes : List Node} {inner : Node}
    (h : ∀ node ∈ nodes, node.IsSound) (member : inner ∈ withinAll nodes) : inner.IsSound := by
  match nodes with
  | [] => cases member
  | node :: nodes =>
      rw [List.forall_mem_cons] at h
      rcases List.mem_append.1 member with member | member
      · exact h.1.of_mem_within member
      · exact isSound_of_mem_withinAll h.2 member

end

/-! ### Their frames -/

/-- The tag of an element, as it is opened or closed at once:
`.tag head.write ∈ frames ∨ .tag (head.write ++ ['/']) ∈ frames`. -/
def Head.IsTagIn (head : Head) (frames : List Frame) : Prop :=
  .tag head.write ∈ frames ∨ .tag (head.write ++ ['/']) ∈ frames

namespace Head.IsSound

variable {head : Head} (h : head.IsSound)
include h

/-- The tag of an element without content is one frame. -/
theorem splitFrom_closed (rest : List Char) :
    Frame.splitFrom .text ((Frame.tag (head.write ++ ['/'])).source ++ rest) =
      (Frame.splitFrom .text rest).map (Frame.behindFrame (.tag (head.write ++ ['/']))) := by
  obtain ⟨c, begins, start⟩ := h.head?_write ['/']
  exact (h.isTagText.append isTagText_slash).splitFrom ⟨c, begins, .inl start⟩ rest

/-- So is a start tag. -/
theorem splitFrom_open (rest : List Char) :
    Frame.splitFrom .text ((Frame.tag head.write).source ++ rest) =
      (Frame.splitFrom .text rest).map (Frame.behindFrame (.tag head.write)) := by
  obtain ⟨c, begins, start⟩ := h.head?_write []
  rw [List.append_nil] at begins
  exact h.isTagText.splitFrom ⟨c, begins, .inl start⟩ rest

/-- So is an end tag. -/
theorem splitFrom_finish (rest : List Char) :
    Frame.splitFrom .text ((Frame.tag ('/' :: head.name.text)).source ++ rest) =
      (Frame.splitFrom .text rest).map (Frame.behindFrame (.tag ('/' :: head.name.text))) :=
  (isTagText_slash.append (isTagText_name h.name.isProper.isName)).splitFrom ⟨'/', rfl, .inr rfl⟩ rest

/-- Its tag says the attributes of the element. -/
theorem exists_ofFrame? {frames : List Frame} (there : head.IsTagIn frames) :
    ∃ frame ∈ frames, ∃ isClosed, ∀ line, Token.ofFrame? line frame =
      some (.start ⟨Name.ofText head.name.text,
        head.written.map fun entry => ⟨Name.ofText entry.name.text, entry.value⟩⟩ isClosed line) := by
  rcases there with member | member
  · refine ⟨_, member, false, fun line => ?_⟩
    have begins := h.head?_write []
    rw [List.append_nil] at begins
    rw [Token.ofFrame?_tag begins, readStart?, if_neg (by simpa using h.getLast?_write),
      h.read?_write]
    rfl
  · refine ⟨_, member, true, fun line => ?_⟩
    rw [Token.ofFrame?_tag (h.head?_write _), readStart?, List.getLast?_concat,
      List.dropLast_concat, h.read?_write]
    rfl

end Head.IsSound

/-- What is behind a frame in front of a text is cut into frames as if it stood alone. -/
theorem exists_of_splitFrom {frame : Frame} {text rest : List Char} {found : List Char × List Frame}
    (cut : Frame.splitFrom .text text = (Frame.splitFrom .text rest).map (Frame.behindFrame frame))
    (split : Frame.splitFrom .text text = some found) :
    ∃ behind, Frame.splitFrom .text rest = some behind ∧ behind.2 ⊆ found.2 ∧ frame ∈ found.2 := by
  rw [cut] at split
  obtain ⟨behind, there, rfl⟩ := Option.map_eq_some_iff.1 split
  refine ⟨behind, there, ?_, List.mem_cons_self⟩
  exact List.Subset.trans (suffix_withText _ _).subset (List.subset_cons_self _ _)

/-- Text in front of another text does not matter to its frames. -/
theorem exists_of_splitFrom_text {raw rest : List Char} (h : '<' ∉ raw)
    {found : List Char × List Frame} (split : Frame.splitFrom .text (raw ++ rest) = some found) :
    ∃ behind, Frame.splitFrom .text rest = some behind ∧ behind.2 ⊆ found.2 := by
  rw [Frame.splitFrom_text h] at split
  obtain ⟨behind, there, rfl⟩ := Option.map_eq_some_iff.1 split
  exact ⟨behind, there, List.Subset.refl _⟩

mutual

/-- **The tags of a sound node are among the frames** of what is written for it. -/
theorem exists_of_splitFrom_write (node : Node) (h : node.IsSound) {rest : List Char}
    {found : List Char × List Frame}
    (split : Frame.splitFrom .text (node.write ++ rest) = some found) :
    ∃ behind, Frame.splitFrom .text rest = some behind ∧ behind.2 ⊆ found.2 ∧
      ∀ head children, .element head children ∈ node.within → head.IsTagIn found.2 := by
  match node with
  | .text content =>
      obtain ⟨behind, there, part⟩ := exists_of_splitFrom_text
        (fun member => (@of_mem_escapeText content '<' member).1 rfl) split
      exact ⟨behind, there, part, by simp [Node.within]⟩
  | .comment content =>
      cases h with
      | comment proper =>
          obtain ⟨behind, there, part, -⟩ := exists_of_splitFrom (proper.splitFrom rest) split
          exact ⟨behind, there, part, by simp [Node.within]⟩
  | .instruction target data =>
      cases h with
      | instruction proper =>
          obtain ⟨behind, there, part, -⟩ := exists_of_splitFrom (proper.splitFrom rest) split
          exact ⟨behind, there, part, by simp [Node.within]⟩
  | .reference name =>
      cases h with
      | reference known =>
          have sound : (Piece.reference name).IsSound := known
          have plain : '<' ∉ referenceText name := fun member =>
            (sound.isQuotable '<' member).2.1 rfl
          obtain ⟨behind, there, part⟩ := exists_of_splitFrom_text plain split
          exact ⟨behind, there, part, by simp [Node.within]⟩
  | .element head children =>
      rw [Node.write_element] at split
      split at split
      · next empty =>
        subst empty
        obtain ⟨behind, there, part, first⟩ :=
          exists_of_splitFrom (h.head.splitFrom_closed rest) split
        refine ⟨behind, there, part, fun other inner member => ?_⟩
        cases List.mem_singleton.1 member
        exact .inr first
      -- behind the start tag there is the content, and behind that the end tag
      · rw [List.append_assoc, List.append_assoc] at split
        obtain ⟨content, cut, partContent, first⟩ :=
          exists_of_splitFrom (h.head.splitFrom_open _) split
        obtain ⟨finish, ending, partFinish, tags⟩ :=
          exists_of_splitFrom_writeNodes children h.children cut
        obtain ⟨behind, there, part, -⟩ :=
          exists_of_splitFrom (h.head.splitFrom_finish rest) ending
        refine ⟨behind, there, List.Subset.trans part (List.Subset.trans partFinish partContent),
          fun other inner member => ?_⟩
        rcases List.mem_cons.1 member with same | member
        · cases same
          exact .inl first
        · exact (tags other inner member).imp (partContent ·) (partContent ·)

/-- The tags of all elements in some nodes are among the frames, and so are the frames behind
them. -/
theorem exists_of_splitFrom_writeNodes (nodes : List Node) (h : ∀ node ∈ nodes, node.IsSound)
    {rest : List Char} {found : List Char × List Frame}
    (split : Frame.splitFrom .text (writeNodes nodes ++ rest) = some found) :
    ∃ behind, Frame.splitFrom .text rest = some behind ∧ behind.2 ⊆ found.2 ∧
      ∀ head children, .element head children ∈ withinAll nodes → head.IsTagIn found.2 := by
  match nodes with
  | [] => exact ⟨found, split, List.Subset.refl _, by simp [withinAll]⟩
  | node :: nodes =>
      rw [List.forall_mem_cons] at h
      rw [writeNodes, List.append_assoc] at split
      obtain ⟨others, cut, partOthers, first⟩ := exists_of_splitFrom_write node h.1 split
      obtain ⟨behind, there, part, tags⟩ := exists_of_splitFrom_writeNodes nodes h.2 cut
      refine ⟨behind, there, List.Subset.trans part partOthers, fun head children member => ?_⟩
      rcases List.mem_append.1 member with member | member
      · exact first head children member
      · exact (tags head children member).imp (partOthers ·) (partOthers ·)

end

/-! ### Reading them where nothing has been declared -/

/-- The frames that are read are all read. -/
theorem exists_token_of_mem {line : Nat} {frames : List Frame} {tokens : List Token}
    (h : Token.ofFrames? line frames = some tokens) {frame : Frame} (member : frame ∈ frames) :
    ∃ number, ∃ token ∈ tokens, Token.ofFrame? number frame = some token := by
  induction frames generalizing line tokens with
  | nil => cases member
  | cons first frames ih =>
      rw [Token.ofFrames?] at h
      split at h
      · cases h
      · next token read =>
        obtain ⟨others, found, rfl⟩ := Option.map_eq_some_iff.1 h
        rcases List.mem_cons.1 member with rfl | member
        · exact ⟨_, token, List.mem_cons_self, read⟩
        · obtain ⟨number, other, there, one⟩ := ih found member
          exact ⟨number, other, List.mem_cons_of_mem _ there, one⟩

/-- A start tag that is taken in begins an element. -/
theorem exists_head?_of_addAll? {context : Context}
    {check? : List Char → Assembly → Option Assembly} {assembly last : Assembly}
    {tokens : List Token} (added : assembly.addAll? context check? tokens = some last)
    {tag : Tag} {isClosed : Bool} {line : Nat} (member : .start tag isClosed line ∈ tokens) :
    ∃ scope found, tag.head? context scope line = some found := by
  induction tokens generalizing assembly with
  | nil => cases member
  | cons token tokens ih =>
      rw [Assembly.addAll?] at added
      split at added
      · cases added
      · next next one =>
        rcases List.mem_cons.1 member with rfl | member
        · rw [Assembly.add?] at one
          split at one
          · cases one
          · next head remarks found => exact ⟨_, _, found⟩
        · exact ih added member

section

variable {context : Context} (closed : context.IsClosed)
include closed

/-- Where nothing has been declared an element begins only if no attribute has a reference. -/
theorem Tag.isPlain_of_head? {scope : List Binding} {line : Nat} {tag : Tag}
    {found : Head × List Remark} (h : tag.head? context scope line = some found)
    {entry : Tag.Attribute} (member : entry ∈ tag.attributes)
    (legal : ∀ c, .char c ∈ entry.value → isChar c) : IsPlain entry.value := by
  have one {element : List Char} {sorted next : Sorted}
      (added : sorted.add? context element entry = some next) : IsPlain entry.value := by
    simp only [Sorted.add?, closed.bare.trims, Bool.false_eq_true, if_false] at added
    split at added
    · cases added
    · next checked => exact closed.isPlain legal checked
  have all {element : List Char} {sorted last : Sorted} {attributes : List Tag.Attribute}
      (added : Sorted.all? context element sorted attributes = some last)
      (there : entry ∈ attributes) : IsPlain entry.value := by
    induction attributes generalizing sorted with
    | nil => cases there
    | cons other attributes ih =>
        rw [Sorted.all?] at added
        split at added
        · cases added
        · next next first =>
          rcases List.mem_cons.1 there with rfl | there
          · exact one first
          · exact ih added there
  unfold Tag.head? at h
  dsimp only at h
  split at h
  · cases h
  · next sorted read => exact all read member

/-- **Where nothing has been declared, what is written for a sound node is read as a document** only
if no attribute in it has a reference. -/
theorem Document.isPlain_of_ofRoot? {line : Nat} {node : Node} (sound : node.IsSound)
    {found : Document × Option Remark}
    (read : Document.ofRoot? context line node.write = some found) {head : Head}
    {children : List Node} (member : .element head children ∈ node.within) :
    ∀ entry ∈ head.attributes, IsPlain entry.value := by
  intro entry there
  have known := (sound.of_mem_within member).head
  obtain ⟨frames, tokens, assembly, split, -, said, come, -⟩ := exists_of_ofRoot? read
  obtain ⟨⟨raw, inner⟩, cut, rfl⟩ := Option.map_eq_some_iff.1 split
  rw [← List.append_nil node.write] at cut
  obtain ⟨behind, -, -, tags⟩ := exists_of_splitFrom_write node sound cut
  have tag := (tags head children member).imp ((suffix_withText raw inner).subset ·)
    ((suffix_withText raw inner).subset ·)
  -- the tag of the element is read, and then it begins an element
  obtain ⟨frame, there', isClosed, reading⟩ := known.exists_ofFrame? tag
  obtain ⟨number, token, isToken, one⟩ := exists_token_of_mem said there'
  rw [reading] at one
  cases one
  obtain ⟨scope, start, begins⟩ :=
    exists_head?_of_addAll? (Assembly.exists_of_ofTokens? come).1 isToken
  have written : (⟨Name.ofText entry.entry.name.text, entry.entry.value⟩ : Tag.Attribute) ∈
      head.written.map fun entry => ⟨Name.ofText entry.name.text, entry.value⟩ :=
    List.mem_map_of_mem (List.mem_append_right _ (List.mem_map_of_mem there))
  exact Tag.isPlain_of_head? closed begins written fun c piece =>
    (known.attributes entry there).value _ piece

end

/-! ## Sound nodes that are proper -/

/-- A sound start is proper if its bindings are, if no attribute has a reference, and if nothing is
said about namespaces. -/
theorem Head.IsSound.isProper {head : Head} (h : head.IsSound) (space : head.uri = none)
    (bindings : ∀ binding ∈ head.bindings, binding.IsProper)
    (attributes : ∀ entry ∈ head.attributes, entry.uri = none ∧ IsPlain entry.value) :
    head.IsProper where
  name := h.name.isProper
  space bound := by simp [isBound, space] at bound
  bindings := bindings
  nodup := h.nodup
  attributes entry member := by
    have sound := h.attributes entry member
    obtain ⟨none, plain⟩ := attributes entry member
    refine ⟨sound.name.isProper, ?_, plain, by simp [none]⟩
    rw [sound.name.ofText_text]
    exact sound.undeclared

mutual

/-- **A sound node is proper** if there is no reference in it, and the starts of its elements are
proper. -/
theorem Node.IsSound.isProper (node : Node) (h : node.IsSound)
    (references : ∀ inner ∈ node.within, inner.isReference = false)
    (heads : ∀ head children, .element head children ∈ node.within → head.IsProper) :
    node.IsProper := by
  match node with
  | .text content =>
      cases h with
      | text legal => exact .text legal
  | .comment content =>
      cases h with
      | comment proper => exact .comment proper
  | .instruction target data =>
      cases h with
      | instruction proper => exact .instruction proper
  | .reference name => cases references _ List.mem_cons_self
  | .element head children =>
      refine .element (heads head children List.mem_cons_self)
        (isProper_of_isSound children h.children ?_ ?_)
      · exact fun inner member => references inner (List.mem_cons_of_mem _ member)
      · exact fun other inner member => heads other inner (List.mem_cons_of_mem _ member)

/-- Sound nodes without references, with proper starts, are proper. -/
theorem isProper_of_isSound (nodes : List Node) (h : ∀ node ∈ nodes, node.IsSound)
    (references : ∀ inner ∈ withinAll nodes, inner.isReference = false)
    (heads : ∀ head children, .element head children ∈ withinAll nodes → head.IsProper) :
    ∀ node ∈ nodes, node.IsProper := by
  match nodes with
  | [] => simp
  | node :: nodes =>
      rw [List.forall_mem_cons] at h ⊢
      refine ⟨Node.IsSound.isProper node h.1 ?_ ?_, isProper_of_isSound nodes h.2 ?_ ?_⟩
      · exact fun inner member => references inner (List.mem_append_left _ member)
      · exact fun head children member => heads head children (List.mem_append_left _ member)
      · exact fun inner member => references inner (List.mem_append_right _ member)
      · exact fun head children member => heads head children (List.mem_append_right _ member)

end

/-! ## Nodes outside of their element -/

/-- **A node outside of its element,** with the bindings in scope there. -/
def Node.alone (scope : List Binding) : Node → Node
  | .element head children =>
      .element { head with bindings := bindingsAlone head scope } children
  | node => node

/-- `node.writeAlone scope = (node.alone scope).write`. -/
theorem Node.writeAlone_eq (scope : List Binding) (node : Node) :
    node.writeAlone scope = (node.alone scope).write := by
  cases node <;> rfl

/-- **A sound node is sound outside of its element.** -/
theorem Node.IsSound.alone {node : Node} (h : node.IsSound) {scope : List Binding}
    (sound : ∀ binding ∈ scope, binding.IsSound) : (node.alone scope).IsSound := by
  cases h with
  | text legal => exact .text legal
  | comment proper => exact .comment proper
  | instruction proper => exact .instruction proper
  | reference known => exact .reference known
  | element start children apart =>
      refine .element ?_ children apart
      -- what the element needs is among what is in scope
      have all : ∀ (leads : List (Option (List Char))),
          ∀ binding ∈ leads.filterMap (bindingOf? · scope) ++ scope, binding.IsSound := by
        intro leads binding member
        rcases List.mem_append.1 member with member | member
        · obtain ⟨lead, -, found⟩ := List.mem_filterMap.1 member
          exact sound binding (List.mem_of_find?_eq_some found)
        · exact sound binding member
      obtain ⟨bindings, nodup⟩ := isSound_foldl_addBinding start.bindings start.nodup (all _)
      exact ⟨start.name, bindings, nodup, start.attributes⟩

/-- `node.alone [] = node`: outside of all elements a node is as it is. -/
theorem Node.alone_nil (node : Node) : node.alone [] = node := by
  cases node with
  | element head children =>
      have none (leads : List (Option (List Char))) : leads.filterMap (bindingOf? · []) = [] := by
        simp [bindingOf?]
      have same : bindingsAlone head [] = head.bindings := by
        simp only [bindingsAlone, none, List.append_nil, List.foldl_nil]
      rw [Node.alone, same]
  | _ => rfl

/-- `(node.alone scope).isText = node.isText`. -/
theorem Node.isText_alone (scope : List Binding) (node : Node) :
    (node.alone scope).isText = node.isText := by
  cases node <;> rfl

/-- Nodes that are apart are so outside of their element. -/
theorem AreApart.map_alone {nodes : List Node} (h : AreApart nodes) (scope : List Binding) :
    AreApart (nodes.map (Node.alone scope)) := by
  refine List.isChain_map_of_isChain (Node.alone scope) (fun node next apart => ?_) h
  rwa [Node.isText_alone, Node.isText_alone]

/-- Outside of its element a node has the same in it. -/
theorem isReference_withinAll_alone {scope : List Binding} {nodes : List Node}
    (h : ∀ inner ∈ withinAll nodes, inner.isReference = false) :
    ∀ inner ∈ withinAll (nodes.map (Node.alone scope)), inner.isReference = false := by
  induction nodes with
  | nil => exact h
  | cons node nodes ih =>
      rw [withinAll, List.forall_mem_append] at h
      rw [List.map_cons, withinAll, List.forall_mem_append]
      refine ⟨?_, ih h.2⟩
      cases node with
      | element head children =>
          exact List.forall_mem_cons.2 ⟨rfl, (List.forall_mem_cons.1 h.1).2⟩
      | _ => exact h.1

end StringCatalog.Xml
