import StringCatalog.Proofs.Xml.StartTag

/-! # Written nodes are read back

* **`Xml.joined`** — nodes with text joined to text.
* **`Xml.Assembly.received`** — an assembly with some nodes and remarks more.
* **`Xml.Node.again?`** — a node as it comes back, unless two attributes are written alike.
* **`Xml.Assembly.follow?_write`** — reading what was written comes to the nodes as they come back. -/

namespace StringCatalog.Xml

/-! ## Text joined to text -/

/-- One more node behind others, the last of which comes first; empty text is no node. -/
def pushKept (before : List Node) : Node → List Node
  | .text [] => before
  | node => Assembly.push node before

/-- **Nodes with text joined to text.** -/
def joined (nodes : List Node) : List Node :=
  (nodes.foldl pushKept []).reverse

/-- Two texts are one. -/
theorem pushKept_text (before : List Node) (text more : List Char) :
    pushKept (pushKept before (.text text)) (.text more) = pushKept before (.text (text ++ more)) := by
  cases text with
  | nil => rfl
  | cons c text =>
      cases more with
      | nil => rw [List.append_nil]; rfl
      | cons d more => cases before with
        | nil => rfl
        | cons node before => cases node <;> simp [pushKept, Assembly.push]

namespace Assembly

/-! ## Nodes received -/

/-- The assembly with other nodes in its innermost open element. -/
def within (assembly : Assembly) (change : List Node → List Node) : Assembly :=
  match assembly.opened with
  | [] => { assembly with done := change assembly.done }
  | element :: outer =>
      { assembly with opened := { element with before := change element.before } :: outer }

/-- **The assembly with some nodes and remarks more.** -/
def received (assembly : Assembly) (nodes : List Node) (remarks : List Remark) : Assembly :=
  (assembly.remarked remarks).within fun before => nodes.foldl pushKept before

/-- `lastRemark` of remarks behind others is that of all together. -/
theorem lastRemark_append (before : Option Remark) (remarks more : List Remark) :
    lastRemark (lastRemark before remarks) more = lastRemark before (remarks ++ more) := by
  rcases List.eq_nil_or_concat' more with rfl | ⟨more, remark, rfl⟩
  · rw [List.append_nil]
    rfl
  · simp [lastRemark, ← List.append_assoc]

/-- `assembly.received [] [] = assembly`. -/
@[simp] theorem received_nil (assembly : Assembly) : assembly.received [] [] = assembly := by
  obtain ⟨opened, done, remark, checked⟩ := assembly
  cases opened <;> rfl

/-- Nodes and remarks are received one part after another. -/
@[simp] theorem received_received (assembly : Assembly) (nodes more : List Node)
    (remarks others : List Remark) :
    (assembly.received nodes remarks).received more others =
      assembly.received (nodes ++ more) (remarks ++ others) := by
  obtain ⟨opened, done, remark, checked⟩ := assembly
  cases opened <;> simp [received, within, remarked, lastRemark_append]

/-- `(assembly.received nodes remarks).scope = assembly.scope`. -/
@[simp] theorem scope_received (assembly : Assembly) (nodes : List Node) (remarks : List Remark) :
    (assembly.received nodes remarks).scope = assembly.scope := by
  obtain ⟨opened, done, remark, checked⟩ := assembly
  cases opened <;> rfl

/-- A node is added as it is received, unless it is an empty text. -/
theorem addNode_eq_received (assembly : Assembly) (remarks : List Remark) {node : Node}
    (h : node ≠ .text []) :
    (assembly.remarked remarks).addNode node = assembly.received [node] remarks := by
  have same (before : List Node) : pushKept before node = push node before := by
    unfold pushKept
    split
    · exact absurd rfl h
    · rfl
  obtain ⟨opened, done, remark, checked⟩ := assembly
  cases opened <;> simp [received, within, remarked, addNode, same]

/-- An element that is closed behind some nodes is one more node. -/
theorem close?_received (assembly : Assembly) (head : Head) (nodes : List Node)
    (remarks more : List Remark) :
    (((assembly.remarked remarks).openElement head).received nodes more).close? head.name.text =
      some (assembly.received [.element head (joined nodes)] (remarks ++ more)) := by
  rw [← addNode_eq_received assembly (remarks ++ more) (by simp)]
  obtain ⟨opened, done, remark, checked⟩ := assembly
  simp [received, within, remarked, openElement, close?, joined, lastRemark_append]

/-! ## Reading on -/

variable (context : Context) (check? : List Char → Assembly → Option Assembly)

/-- **Take in a text** that begins on the given line. -/
def follow? (assembly : Assembly) (line : Nat) (text : List Char) : Option Assembly :=
  (Token.read? line text).bind (addAll? context check? assembly)

/-- The first of some frames is taken in first. -/
theorem addAll?_ofFrames?_cons (assembly : Assembly) (line : Nat) (frame : Frame)
    (frames : List Frame) :
    (Token.ofFrames? line (frame :: frames)).bind (addAll? context check? assembly) =
      (Token.ofFrame? (line + frame.source.count '\n') frame).bind fun token =>
        (assembly.add? context check? token).bind fun next =>
          (Token.ofFrames? (line + frame.source.count '\n') frames).bind
            (addAll? context check? next) := by
  rw [Token.ofFrames?]
  cases Token.ofFrame? (line + frame.source.count '\n') frame with
  | none => rfl
  | some token =>
      cases Token.ofFrames? (line + frame.source.count '\n') frames with
      | none => simp
      | some tokens =>
          simp only [Option.map_some, Option.bind_some, addAll?]
          cases assembly.add? context check? token <;> rfl

/-- A frame in front of a text is taken in first. -/
theorem follow?_source (assembly : Assembly) (line : Nat) {frame : Frame} {rest : List Char}
    (split : Frame.splitFrom .text (frame.source ++ rest) =
      (Frame.splitFrom .text rest).map (Frame.behindFrame frame)) :
    assembly.follow? context check? line (frame.source ++ rest) =
      (Token.ofFrame? (line + frame.source.count '\n') frame).bind fun token =>
        (assembly.add? context check? token).bind fun next =>
          next.follow? context check? (line + frame.source.count '\n') rest := by
  simp only [follow?, Token.read?, Frame.split?, split]
  -- what is left of the text is cut into frames as if it stood alone
  cases Frame.splitFrom .text rest with
  | none => simp
  | some found => exact addAll?_ofFrames?_cons context check? assembly line frame _

/-! ## Text -/

/-- **What may stand behind text:** the text in front of its first frame is what is written for some
characters. -/
def EndsText (rest : List Char) : Prop :=
  ∀ raw frames, Frame.splitFrom .text rest = some (raw, frames) → ∃ text, raw = escapeText text

/-- Nothing ends a text. -/
theorem endsText_nil : EndsText [] := by
  intro raw frames found
  obtain ⟨rfl, -⟩ : [] = raw ∧ [] = frames := by simpa [Frame.splitFrom] using found
  exact ⟨[], rfl⟩

/-- So does `<`. -/
theorem endsText_cons (rest : List Char) : EndsText ('<' :: rest) := by
  have opened {frame : List Char → Frame} {found : Option (List Char × List Frame)}
      {raw : List Char} {frames : List Frame}
      (h : Frame.opened frame found = some (raw, frames)) : raw = [] := by
    simp only [Frame.opened, Option.map_eq_some_iff, Prod.mk.injEq] at h
    obtain ⟨_, _, rfl, _⟩ := h
    rfl
  intro raw frames found
  refine ⟨[], ?_⟩
  -- every frame that opens here leaves no text in front of it
  unfold Frame.splitFrom at found
  split at found
  · contradiction
  · exact opened found
  · exact opened found
  · exact opened found
  · exact opened found
  · next other _ equal => exact absurd (List.cons.inj equal).1.symm other
  all_goals simp_all

/-- So does any tag, for it opens with `<`. -/
theorem endsText_tag (raw rest : List Char) : EndsText ((Frame.tag raw).source ++ rest) :=
  endsText_cons _

/-- What ends a text does so also behind more text. -/
theorem EndsText.append {rest : List Char} (h : EndsText rest) (text : List Char) :
    EndsText (escapeText text ++ rest) := by
  intro raw frames found
  rw [Frame.splitFrom_text fun member => (of_mem_escapeText member).1 rfl] at found
  obtain ⟨⟨inner, behind⟩, found, equal⟩ := Option.map_eq_some_iff.1 found
  obtain ⟨more, rfl⟩ := h inner behind found
  obtain ⟨rfl, -⟩ : escapeText text ++ escapeText more = raw ∧ behind = frames := by
    simpa [Frame.behindText] using equal
  exact ⟨text ++ more, by simp⟩

/-- `nodesOf (text.map .char) = [.text text]`. -/
theorem nodesOf_map {text : List Char} (h : text ≠ []) : nodesOf (text.map .char) = [.text text] := by
  induction text with
  | nil => exact absurd rfl h
  | cons c text ih =>
      cases text with
      | nil => rfl
      | cons d text =>
          rw [List.map_cons, nodesOf, ih (by simp)]

/-- `referenceNames (text.map .char) = []`. -/
theorem referenceNames_map (text : List Char) : referenceNames (text.map .char) = [] := by
  induction text with
  | nil => rfl
  | cons c text ih => exact ih

/-- Characters that are written as text are taken in as text. -/
theorem addAll?_withText (assembly : Assembly) (line : Nat) (text : List Char)
    (frames : List Frame) :
    (Token.ofFrames? line (Frame.withText (escapeText text) frames)).bind
        (addAll? context check? assembly) =
      (Token.ofFrames? (line + text.count '\n') frames).bind
        (addAll? context check? (assembly.received [.text text] [])) := by
  -- no text is no frame, and it is no node either
  by_cases empty : text = []
  · subst empty
    rw [show assembly.received [.text []] [] = assembly from received_nil assembly]
    rfl
  · have there : Frame.withText (escapeText text) frames = .text (escapeText text) :: frames :=
      if_neg (by simpa using escapeText_ne_nil empty)
    -- the characters of escaped text do not close a literal section
    have inside : Text.contains [']', ']', '>'] (escapeText text) = false := by
      rw [Bool.eq_false_iff, Ne, Text.contains_iff]
      exact fun part => (of_mem_escapeText (part.subset (by simp))).2.1 rfl
    have pieces := readPieces?_escapeText text []
    rw [readPieces?_nil, List.append_nil, Option.map_some, List.append_nil] at pieces
    have added : assembly.add? context check? (.text (text.map .char)) =
        some (assembly.received [.text text] []) := by
      rw [add?, referenceNames_map, nodesOf_map empty]
      exact congrArg some (addNode_eq_received assembly [] (by simpa using empty))
    have read (line : Nat) : Token.ofFrame? line (.text (escapeText text)) =
        some (.text (text.map .char)) := by
      simp only [Token.ofFrame?, inside, Bool.false_eq_true, if_false, pieces, Option.map_some]
    rw [there, addAll?_ofFrames?_cons, read, Option.bind_some, added, Option.bind_some,
      Frame.source_text, count_escapeText]

/-- **Text in front is taken in first.** -/
theorem follow?_text (assembly : Assembly) (line : Nat) (text : List Char) {rest : List Char}
    (ends : EndsText rest) :
    assembly.follow? context check? line (escapeText text ++ rest) =
      (assembly.received [.text text] []).follow? context check? (line + text.count '\n') rest := by
  simp only [follow?, Token.read?, Frame.split?,
    Frame.splitFrom_text fun member => (of_mem_escapeText member).1 rfl]
  cases found : Frame.splitFrom .text rest with
  | none => rfl
  | some parts =>
      -- text that follows is read in the same frame: it is escaped text as well, and both are
      -- taken in as one node
      obtain ⟨more, equal⟩ := ends parts.1 parts.2 found
      have joint : assembly.received [.text (text ++ more)] [] =
          (assembly.received [.text text] []).received [.text more] [] := by
        rw [received_received]
        simp only [received, List.foldl_cons, List.foldl_nil, List.append_nil, List.cons_append,
          List.nil_append, pushKept_text]
      simp only [Option.map_some, Option.bind_some, Frame.behindText, equal]
      rw [← escapeText_append, addAll?_withText, addAll?_withText, List.count_append, joint,
        Nat.add_assoc]

end Assembly

/-! ## What is written for a node -/

/-- An element is written as one tag, or as two tags around its content. -/
theorem Node.write_element (head : Head) (children : List Node) :
    (Node.element head children).write =
      if children = [] then (Frame.tag (head.write ++ ['/'])).source
      else (Frame.tag head.write).source ++
        (writeNodes children ++ (Frame.tag ('/' :: head.name.text)).source) := by
  cases children with
  | nil => simp [Node.write, writeElement, Frame.source_tag]
  | cons child children => simp [Node.write, writeElement, Frame.source_tag]

/-- `writeNodes nodes = nodes.flatMap Node.write`. -/
theorem writeNodes_eq_flatMap (nodes : List Node) : writeNodes nodes = nodes.flatMap Node.write := by
  induction nodes with
  | nil => rfl
  | cons node nodes ih => rw [writeNodes, ih, List.flatMap_cons]

/-- Proper nodes may stand behind text. -/
theorem endsText_write {node : Node} (h : node.IsProper) {rest : List Char}
    (ends : Assembly.EndsText rest) : Assembly.EndsText (node.write ++ rest) := by
  cases h with
  | text => exact ends.append _
  | comment => exact Assembly.endsText_cons _
  | instruction => exact Assembly.endsText_cons _
  | element =>
      rw [Node.write_element]
      split <;> exact Assembly.endsText_cons _

/-- What is written for proper nodes ends a text if what is behind it does. -/
theorem endsText_writeNodes {nodes : List Node} (h : ∀ node ∈ nodes, node.IsProper)
    {rest : List Char} (ends : Assembly.EndsText rest) :
    Assembly.EndsText (writeNodes nodes ++ rest) := by
  induction nodes with
  | nil => exact ends
  | cons node nodes ih =>
      rw [writeNodes, List.append_assoc]
      exact endsText_write (h node List.mem_cons_self)
        (ih fun other member => h other (List.mem_cons_of_mem node member))

/-! ### Comments and instructions -/

/-- `text.map lineFeed = text` where there is no carriage return. -/
theorem map_lineFeed {text : List Char} (h : '\r' ∉ text) : text.map lineFeed = text := by
  conv_rhs => rw [← List.map_id text]
  refine List.map_congr_left fun c member => if_neg ?_
  rw [beq_iff_eq]
  exact fun same => h (same ▸ member)

/-- `Token.ofFrame? line (.comment content) = some (.comment content)`: a proper comment is read as
it is. -/
theorem IsProperComment.ofFrame? {content : List Char} (h : IsProperComment content)
    (line : Nat) : Token.ofFrame? line (.comment content) = some (.comment content) := by
  simp only [Token.ofFrame?, h.inside, if_true, map_lineFeed h.lines]

/-- It is one frame in front of the others. -/
theorem IsProperComment.splitFrom {content : List Char} (h : IsProperComment content)
    (rest : List Char) :
    Frame.splitFrom .text ((Frame.comment content).source ++ rest) =
      (Frame.splitFrom .text rest).map (Frame.behindFrame (.comment content)) := by
  have inside := h.inside
  simp only [isCommentText, Bool.and_eq_true, Bool.not_eq_true', bne_iff_ne] at inside
  refine Frame.splitFrom_comment (fun part => ?_) inside.2 rest
  rw [Text.contains_iff.2 part] at inside
  simp at inside

/-- What an instruction holds between its opening and its closing. -/
def instructionText (target data : List Char) : List Char :=
  if data.isEmpty then target else target ++ ' ' :: data

/-- A proper instruction is read as it is. -/
theorem IsProperInstruction.ofFrame? {target data : List Char} (h : IsProperInstruction target data)
    (line : Nat) :
    Token.ofFrame? line (.instruction (instructionText target data)) =
      some (.instruction target data) := by
  have ends : EndsName (if data.isEmpty then [] else ' ' :: data) := by
    split
    · exact endsName_nil
    · exact endsName_cons (by decide) _
  have split : instructionText target data =
      target ++ if data.isEmpty then [] else ' ' :: data := by
    unfold instructionText
    split <;> simp
  have notXml : (target == ['x', 'm', 'l']) = false := by simpa using h.notXml
  rw [split, Token.ofFrame?, readInstruction?, takeWhile_name h.name ends,
    dropWhile_name h.name ends]
  cases data with
  | nil => simp [h.name, notXml]
  | cons c data =>
      have first : isBlank c = false := h.trimmed c rfl
      have skipped : skipBlanks (' ' :: c :: data) = c :: data := by
        rw [skipBlanks, List.dropWhile_cons_of_pos (by decide),
          List.dropWhile_cons_of_neg (by simp [first])]
      simp [h.name, notXml, skipped, map_lineFeed h.lines, show isBlank ' ' from rfl]

/-- It is one frame in front of the others. -/
theorem IsProperInstruction.splitFrom {target data : List Char}
    (h : IsProperInstruction target data) (rest : List Char) :
    Frame.splitFrom .text ((Frame.instruction (instructionText target data)).source ++ rest) =
      (Frame.splitFrom .text rest).map
        (Frame.behindFrame (.instruction (instructionText target data))) := by
  refine Frame.splitFrom_instruction (fun part => ?_) rest
  have notName {c : Char} (other : isNameChar c = false) : c ∉ target :=
    fun member => ne_of_isNameChar (isNameChar_of_mem h.name member) other rfl
  -- a question mark is no character of the target, so what closes it would be in the data
  unfold instructionText at part
  split at part
  · exact notName (by decide) (part.subset List.mem_cons_self)
  · rw [infix_append_iff (notName (by decide)), List.infix_cons_iff, List.cons_prefix_cons] at part
    exact h.inside (part.resolve_left (by simp))

/-! ### Tags -/

/-- A tag in front is found. -/
theorem IsTagText.splitFrom {raw : List Char} (h : IsTagText raw)
    (first : ∃ c ∈ raw.head?, isNameStart c ∨ c = '/') (rest : List Char) :
    Frame.splitFrom .text ((Frame.tag raw).source ++ rest) =
      (Frame.splitFrom .text rest).map (Frame.behindFrame (.tag raw)) := by
  obtain ⟨c, begins, first⟩ := first
  obtain ⟨more, rfl⟩ := List.head?_eq_some_iff.1 begins
  have other : c ≠ '!' ∧ c ≠ '?' := by
    rcases first with start | rfl
    · have name := isNameChar_of_isNameStart start
      exact ⟨ne_of_isNameChar name (by decide), ne_of_isNameChar name (by decide)⟩
    · decide
  have found := Frame.splitFrom_tag other (fun member => (h.inside '>' member).2.1 rfl) h.shut rest
  rw [Frame.source_tag, List.append_assoc]
  exact found

/-- `(Frame.tag raw).source.count '\n' = 0`: a tag stands on one line. -/
theorem IsTagText.count_source {raw : List Char} (h : IsTagText raw) :
    (Frame.tag raw).source.count '\n' = 0 := by
  rw [Frame.source_tag, List.count_eq_zero]
  simp only [List.cons_append, List.mem_cons, List.mem_append, List.not_mem_nil, or_false, not_or]
  exact ⟨by decide, fun member => (h.inside '\n' member).2.2.1 rfl, by decide⟩

/-- A slash can stand in a tag. -/
theorem isTagText_slash : IsTagText ['/'] := ⟨by decide, by decide, by decide⟩

/-- `ofFrame? line (.tag raw) = readStart? line raw`: a tag that opens with a name is read as a
start tag. -/
theorem Token.ofFrame?_tag {raw : List Char} (h : ∃ c ∈ raw.head?, isNameStart c) (line : Nat) :
    ofFrame? line (.tag raw) = readStart? line raw := by
  obtain ⟨c, begins, start⟩ := h
  obtain ⟨more, rfl⟩ := List.head?_eq_some_iff.1 begins
  have other : c ≠ '/' := ne_of_isNameChar (isNameChar_of_isNameStart start) (by decide)
  rw [ofFrame?]
  simpa using other

namespace Head.IsProper

variable {head : Head} (h : head.IsProper)
include h

/-- The start of an element without content is read. -/
theorem ofFrame?_closed (line : Nat) :
    Token.ofFrame? line (.tag (head.write ++ ['/'])) = some (.start head.tag true line) := by
  rw [Token.ofFrame?_tag (h.head?_write _), readStart?, List.getLast?_concat, List.dropLast_concat,
    h.read?_write]
  rfl

/-- The start of an element with content is read. -/
theorem ofFrame?_open (line : Nat) :
    Token.ofFrame? line (.tag head.write) = some (.start head.tag false line) := by
  have begins := h.head?_write []
  rw [List.append_nil] at begins
  rw [Token.ofFrame?_tag begins, readStart?, if_neg (by simpa using h.getLast?_write),
    h.read?_write]
  rfl

/-- The end of an element is read. -/
theorem ofFrame?_finish (line : Nat) :
    Token.ofFrame? line (.tag ('/' :: head.name.text)) = some (.finish head.name.text) := by
  have name := h.name.isName
  have taken := takeWhile_name name endsName_nil
  have dropped := dropWhile_name name endsName_nil
  rw [List.append_nil] at taken dropped
  rw [Token.ofFrame?, readFinish?]
  simp [taken, dropped, name]

/-- The tag of an element without content is one frame. -/
theorem splitFrom_closed (rest : List Char) :
    Frame.splitFrom .text ((Frame.tag (head.write ++ ['/'])).source ++ rest) =
      (Frame.splitFrom .text rest).map (Frame.behindFrame (.tag (head.write ++ ['/']))) := by
  obtain ⟨c, begins, start⟩ := h.head?_write ['/']
  exact (h.isTagText.append isTagText_slash).splitFrom ⟨c, begins, .inl start⟩ rest

/-- So is a start tag. -/
theorem splitFrom_open (rest : List Char) :
    Frame.splitFrom .text ((Frame.tag head.write).source ++ rest) =
      (Frame.splitFrom .text rest).map (Frame.behindFrame (.tag head.write)) := by
  obtain ⟨c, begins, start⟩ := h.head?_write []
  rw [List.append_nil] at begins
  exact h.isTagText.splitFrom ⟨c, begins, .inl start⟩ rest

/-- So is an end tag. -/
theorem splitFrom_finish (rest : List Char) :
    Frame.splitFrom .text ((Frame.tag ('/' :: head.name.text)).source ++ rest) =
      (Frame.splitFrom .text rest).map (Frame.behindFrame (.tag ('/' :: head.name.text))) :=
  (isTagText_slash.append (isTagText_name h.name.isName)).splitFrom ⟨'/', rfl, .inr rfl⟩ rest

end Head.IsProper

/-! ## Nodes as they come back -/

mutual

/-- **A node as it comes back,** with the remarks on it, given the bindings in scope and the line on
which it begins. There is no result where two attributes of an element are written alike. -/
def Node.again? (context : Context) (scope : List Binding) (line : Nat) :
    Node → Option (Node × List Remark)
  | .element head children =>
      match head.tag.head? context scope line with
      | none => none
      | some (found, remarks) =>
          (againAll? context (found.bindings ++ scope) line children).map fun (nodes, more) =>
            (.element found (joined nodes), remarks ++ more)
  | .instruction target data =>
      some (.instruction target data, Assembly.targetRemarks target)
  | node => some (node, [])

/-- Nodes as they come back one after another. -/
def againAll? (context : Context) (scope : List Binding) (line : Nat) :
    List Node → Option (List Node × List Remark)
  | [] => some ([], [])
  | node :: rest =>
      match node.again? context scope line with
      | none => none
      | some (first, remarks) =>
          (againAll? context scope (line + node.write.count '\n') rest).map fun (others, more) =>
            (first :: others, remarks ++ more)

end

/-- `head.name = tag.name`: the element has the name of its tag. -/
theorem Tag.name_of_head? {context : Context} {scope : List Binding} {line : Nat} {tag : Tag}
    {head : Head} {remarks : List Remark}
    (h : tag.head? context scope line = some (head, remarks)) : head.name = tag.name := by
  -- the name is settled before the attributes are sorted
  cases sorted : Sorted.all? context tag.name.text ⟨[], [], []⟩ tag.attributes with
  | none => simp [Tag.head?, sorted] at h
  | some sorted' =>
      simp only [Tag.head?, sorted] at h
      split at h
      · contradiction
      · cases h
        rfl

namespace Assembly

variable (context : Context) (check? : List Char → Assembly → Option Assembly)

mutual

/-- **Reading a node that was written comes to the node as it comes back.** -/
theorem follow?_write (node : Node) (h : node.IsProper) {rest : List Char} (ends : EndsText rest)
    (assembly : Assembly) (line : Nat) :
    assembly.follow? context check? line (node.write ++ rest) =
      (node.again? context assembly.scope line).bind fun found =>
        (assembly.received [found.1] found.2).follow? context check?
          (line + node.write.count '\n') rest := by
  match node with
  | .text content =>
      have read := follow?_text context check? assembly line content ends
      rw [← count_escapeText] at read
      exact read
  | .comment content =>
      cases h with
      | comment proper =>
          have added : assembly.add? context check? (.comment content) =
              some (assembly.received [.comment content] []) :=
            congrArg some (addNode_eq_received assembly [] (by simp))
          have read := follow?_source context check? assembly line (proper.splitFrom rest)
          rw [proper.ofFrame?, Option.bind_some, added, Option.bind_some] at read
          exact read
  | .instruction target data =>
      cases h with
      | instruction proper =>
          have added : assembly.add? context check? (.instruction target data) =
              some (assembly.received [.instruction target data] (targetRemarks target)) :=
            congrArg some (addNode_eq_received assembly (targetRemarks target) (by simp))
          have read := follow?_source context check? assembly line (proper.splitFrom rest)
          rw [proper.ofFrame?, Option.bind_some, added, Option.bind_some] at read
          exact read
  | .reference name => cases h
  | .element head children =>
      have proper := h.head
      have noLines := proper.isTagText.count_source
      have noLinesClosed := (proper.isTagText.append isTagText_slash).count_source
      have noLinesFinish :=
        (isTagText_slash.append (isTagText_name proper.name.isName)).count_source
      rw [List.singleton_append] at noLinesFinish
      rw [Node.write_element]
      split
      -- an element without content is one tag; with content its nodes are read between two of them
      · next empty =>
        subst empty
        rw [follow?_source context check? assembly line (proper.splitFrom_closed rest),
          proper.ofFrame?_closed, noLinesClosed, Option.bind_some, add?, Node.again?, Nat.add_zero]
        cases head.tag.head? context assembly.scope line with
        | none => rfl
        | some found =>
            simp only [if_true, againAll?, Option.map_some, Option.bind_some, List.append_nil]
            rw [addNode_eq_received assembly found.2 (by simp)]
            rfl
      · rw [List.append_assoc, List.append_assoc,
          follow?_source context check? assembly line (proper.splitFrom_open _),
          proper.ofFrame?_open, noLines, Option.bind_some, add?, Node.again?, Nat.add_zero,
          List.count_append, List.count_append, noLines, noLinesFinish, Nat.add_zero, Nat.zero_add]
        cases read : head.tag.head? context assembly.scope line with
        | none => rfl
        | some found =>
            have scope : ((assembly.remarked found.2).openElement found.1).scope =
                found.1.bindings ++ assembly.scope := rfl
            have name : found.1.name.text = head.name.text := by
              rw [Tag.name_of_head? read]
              exact Name.text_ofText _
            simp only [Bool.false_eq_true, if_false, Option.bind_some]
            rw [follow?_writeNodes children h.children (endsText_tag _ _), scope]
            cases againAll? context (found.1.bindings ++ assembly.scope) line children with
            | none => rfl
            | some inner =>
                -- the end tag has the name of the element that is open
                rw [Option.bind_some, follow?_source context check? _ _ (proper.splitFrom_finish _),
                  proper.ofFrame?_finish, noLinesFinish, Option.bind_some, add?, ← name,
                  close?_received]
                rfl

/-- **Reading nodes that were written comes to the nodes as they come back.** -/
theorem follow?_writeNodes (nodes : List Node) (h : ∀ node ∈ nodes, node.IsProper)
    {rest : List Char} (ends : EndsText rest) (assembly : Assembly) (line : Nat) :
    assembly.follow? context check? line (writeNodes nodes ++ rest) =
      (againAll? context assembly.scope line nodes).bind fun found =>
        (assembly.received found.1 found.2).follow? context check?
          (line + (writeNodes nodes).count '\n') rest := by
  match nodes with
  | [] => simp [writeNodes, againAll?]
  | node :: nodes =>
      have others : ∀ other ∈ nodes, other.IsProper :=
        fun other member => h other (List.mem_cons_of_mem node member)
      rw [writeNodes, List.append_assoc,
        follow?_write node (h node List.mem_cons_self) (endsText_writeNodes others ends), againAll?]
      cases node.again? context assembly.scope line with
      | none => rfl
      | some first =>
          rw [Option.bind_some, follow?_writeNodes nodes others ends, scope_received, Option.bind_map]
          simp only [received_received, List.count_append, Nat.add_assoc]
          rfl

end

end Assembly

end StringCatalog.Xml
