import StringCatalog.Proofs.Xml.Parsed
import StringCatalog.Xml.Document

/-! # Written documents are read back

* **`Xml.Document.wellFormed?_root`** — a document without a type is read from its root on.
* **`Xml.Document.ofRoot?_write`** — a root that was written comes back.
* **`Xml.Document.isProper_of_ofRoot?`** — what is read from a root on can be written. -/

namespace StringCatalog.Xml

/-! ## Characters -/

/-- `joinLineEnds text = text` where there is no carriage return. -/
theorem joinLineEnds_eq {text : List Char} (h : '\r' ∉ text) : joinLineEnds text = text := by
  fun_induction joinLineEnds text with
  | case1 => rfl
  | case2 rest => simp at h
  | case3 c rest _ ih => rw [ih fun member => h (List.mem_cons_of_mem c member)]

/-- `joinLineEnds (text ++ rest) = joinLineEnds text ++ joinLineEnds rest`: line ends are joined
part by part where no line end stands across two parts. -/
theorem joinLineEnds_append {text rest : List Char}
    (h : text.getLast? = some '\r' → rest.head? ≠ some '\n') :
    joinLineEnds (text ++ rest) = joinLineEnds text ++ joinLineEnds rest := by
  fun_induction joinLineEnds text with
  | case1 => rfl
  | case2 text ih =>
      have last : text.getLast? = some '\r' → rest.head? ≠ some '\n' := by
        intro last
        refine h ?_
        rw [List.getLast?_cons_cons, List.getLast?_cons, last]
        rfl
      rw [List.cons_append, List.cons_append, joinLineEnds, ih last, List.cons_append]
  | case3 c text single ih =>
      have last : text.getLast? = some '\r' → rest.head? ≠ some '\n' := by
        intro last
        refine h ?_
        rw [List.getLast?_cons, last]
        rfl
      rw [List.cons_append, List.cons_append, ← ih last]
      conv_lhs => unfold joinLineEnds
      split
      · next equal => cases equal
      · next more equal =>
        -- the line end would stand across the two parts
        obtain ⟨rfl, behind⟩ := List.cons.inj equal
        cases text with
        | nil =>
            rw [List.nil_append] at behind
            rw [behind] at h
            exact absurd rfl (h rfl)
        | cons d text =>
            obtain ⟨rfl, -⟩ := List.cons.inj behind
            exact (single text rfl rfl).elim
      · next equal =>
        obtain ⟨rfl, rfl⟩ := List.cons.inj equal
        rfl

/-- `joinLineEnds text ⊆ text`: no character comes in. -/
theorem joinLineEnds_subset (text : List Char) : joinLineEnds text ⊆ text := by
  fun_induction joinLineEnds text with
  | case1 => simp
  | case2 text ih =>
      exact List.cons_subset.2 ⟨by simp, fun c member =>
        List.mem_cons_of_mem _ (List.mem_cons_of_mem _ (ih member))⟩
  | case3 c text _ ih =>
      exact List.cons_subset.2 ⟨by simp, fun d member => List.mem_cons_of_mem _ (ih member)⟩

/-- Whether a text is made of legal characters, and no line ends with a carriage return:
`∀ c ∈ text, isChar c ∧ c ≠ '\r'`. -/
def IsClean (text : List Char) : Prop := ∀ c ∈ text, isChar c ∧ c ≠ '\r'

instance (text : List Char) : Decidable (IsClean text) :=
  inferInstanceAs (Decidable (∀ c ∈ text, isChar c ∧ c ≠ '\r'))

/-- A legal text without carriage returns is clean. -/
theorem isClean_of {text : List Char} (legal : text.all isChar) (lines : '\r' ∉ text) :
    IsClean text :=
  fun c member => ⟨List.all_eq_true.1 legal c member, fun same => lines (same ▸ member)⟩

/-- A clean text is legal. -/
theorem IsClean.legal {text : List Char} (h : IsClean text) : text.all isChar :=
  List.all_eq_true.2 fun c member => (h c member).1

/-- `Xml.joinLineEnds text = text`: the line ends of a clean text stay as they are. -/
theorem IsClean.joinLineEnds {text : List Char} (h : IsClean text) :
    Xml.joinLineEnds text = text :=
  joinLineEnds_eq fun member => (h '\r' member).2 rfl

/-- `IsClean (text ++ more) ↔ IsClean text ∧ IsClean more`. -/
theorem isClean_append {text more : List Char} :
    IsClean (text ++ more) ↔ IsClean text ∧ IsClean more := by
  simp only [IsClean, List.forall_mem_append]

/-- What is written for a legal text is clean: a carriage return is written as a reference. -/
theorem isClean_escapeText {text : List Char} (h : text.all isChar) : IsClean (escapeText text) := by
  intro c member
  obtain ⟨-, -, line, legal⟩ := of_mem_escapeText member
  exact ⟨legal.elim (List.all_eq_true.1 h c) id, line⟩

/-- So is a tag. -/
theorem isClean_source_tag {raw : List Char} (h : IsTagText raw) : IsClean (Frame.tag raw).source := by
  have inner : IsClean raw := fun c member => ⟨h.legal c member, (h.inside c member).2.2.2⟩
  rw [Frame.source_tag, ← List.singleton_append]
  exact isClean_append.2 ⟨isClean_append.2 ⟨by decide, inner⟩, by decide⟩

mutual

/-- What is written for a proper node is clean. -/
theorem isClean_write (node : Node) (h : node.IsProper) : IsClean node.write := by
  match node with
  | .text content =>
      cases h with
      | text legal => exact isClean_escapeText legal
  | .comment content =>
      cases h with
      | comment proper =>
          have inner := isClean_of proper.legal proper.lines
          exact isClean_append.2 ⟨isClean_append.2 ⟨by decide, inner⟩, by decide⟩
  | .instruction target data =>
      cases h with
      | instruction proper =>
          have name : IsClean target := fun c member =>
            ⟨(isTagText_name proper.name).legal c member,
              ((isTagText_name proper.name).inside c member).2.2.2⟩
          have inner : IsClean (instructionText target data) := by
            unfold instructionText
            split
            · exact name
            · refine isClean_append.2 ⟨name, List.forall_mem_cons.2 ⟨by decide, ?_⟩⟩
              exact isClean_of proper.legal proper.lines
          exact isClean_append.2 ⟨isClean_append.2 ⟨by decide, inner⟩, by decide⟩
  | .reference name => cases h
  | .element head children =>
      have start := h.head.isTagText
      have finish := isTagText_slash.append (isTagText_name h.head.name.isName)
      rw [Node.write_element]
      split
      · exact isClean_source_tag (start.append isTagText_slash)
      · exact isClean_append.2 ⟨isClean_source_tag start, isClean_append.2
          ⟨isClean_writeNodes children h.children, isClean_source_tag finish⟩⟩

/-- What is written for proper nodes is clean. -/
theorem isClean_writeNodes (nodes : List Node) (h : ∀ node ∈ nodes, node.IsProper) :
    IsClean (writeNodes nodes) := by
  match nodes with
  | [] => simp [writeNodes, IsClean]
  | node :: nodes =>
      rw [List.forall_mem_cons] at h
      rw [writeNodes]
      exact isClean_append.2 ⟨isClean_write node h.1, isClean_writeNodes nodes h.2⟩

end

/-! ## In front of the root -/

/-- `skipBlanks (blanks ++ text) = text` if the text opens with no blank. -/
theorem skipBlanks_append {blanks text : List Char} (h : blanks.all isBlank)
    (first : ∀ c ∈ text.head?, isBlank c = false) : skipBlanks (blanks ++ text) = text := by
  rw [skipBlanks, List.dropWhile_append_of_pos (List.all_eq_true.1 h)]
  cases text with
  | nil => rfl
  | cons c text => rw [List.dropWhile_cons_of_neg (by simp [first c rfl])]

/-- `scan >>= next` goes on with what the scan has left. -/
theorem Scan.bind_apply {α β : Type} (scan : Scan α) (next : α → Scan β) (text : List Char) :
    (scan >>= next) text = (scan text).bind fun found => next found.1 found.2 := rfl

/-- `pure value` leaves the whole text. -/
theorem Scan.pure_apply {α : Type} (value : α) (text : List Char) :
    (pure value : Scan α) text = some (value, text) := rfl

/-- Nothing but blanks stands in front of the root. -/
theorem skipMisc?_root {blanks : List Char} (h : blanks.all isBlank) {c : Char}
    (start : isNameStart c) (rest : List Char) (bound : Nat) (remark : Option Remark) :
    skipMisc? (bound + 1) remark (blanks ++ '<' :: c :: rest) = some (remark, '<' :: c :: rest) := by
  have name := isNameChar_of_isNameStart start
  -- behind the angle bracket there is a name: no comment and no instruction is to be skipped
  have notComment : '!' ≠ c := (ne_of_isNameChar name (by decide)).symm
  have notInstruction : '?' ≠ c := (ne_of_isNameChar name (by decide)).symm
  rw [skipMisc?, skipBlanks_append h (by simp; decide)]
  simp [Scan.accept, Scan.bind_apply, Scan.pure_apply, notComment, notInstruction]

/-- There is no document type in front of the root. -/
theorem readProlog?_root {blanks : List Char} (h : blanks.all isBlank) {c : Char}
    (start : isNameStart c) (rest : List Char) (header : Header) :
    readProlog? header (blanks ++ '<' :: c :: rest) =
      some ({ Doctype.none with remark := header.remark }, '<' :: c :: rest) := by
  have notType : '!' ≠ c := (ne_of_isNameChar (isNameChar_of_isNameStart start) (by decide)).symm
  rw [readProlog?, skipMisc?_root h start]
  simp [notType]

/-- **A document without a type is read from its root on.** -/
theorem Document.wellFormed?_root {raw text blanks rest : List Char} {c : Char} {header : Header}
    (lines : joinLineEnds raw = text) (legal : text.all isChar)
    (read : readHeader? text = some (header, blanks ++ '<' :: c :: rest))
    (h : blanks.all isBlank) (start : isNameStart c) :
    Document.wellFormed? raw =
      Document.ofRoot? ⟨{ Doctype.none with remark := header.remark }, header.isStandalone⟩
        (1 + (text.count '\n' - ('<' :: c :: rest).count '\n')) ('<' :: c :: rest) := by
  rw [Document.wellFormed?]
  simp only [lines, legal, read, readProlog?_root h start]
  rfl

/-! ## From the root on -/

/-- `withText raw frames` ends in `frames`. -/
theorem suffix_withText (raw : List Char) (frames : List Frame) :
    frames <:+ Frame.withText raw frames := by
  unfold Frame.withText
  split
  · exact List.suffix_rfl
  · exact List.suffix_cons _ _

/-- The frames behind a frame are at the end of all frames. -/
theorem exists_splitFrom_source {frame : Frame} {rest : List Char}
    {found : List Char × List Frame} (behind : Frame.splitFrom .text rest = some found)
    (split : Frame.splitFrom .text (frame.source ++ rest) =
      (Frame.splitFrom .text rest).map (Frame.behindFrame frame)) :
    ∃ all, Frame.splitFrom .text (frame.source ++ rest) = some all ∧
      frame :: Frame.withText found.1 found.2 <:+ all.2 :=
  ⟨_, by rw [split, behind]; rfl, List.suffix_rfl⟩

/-- `found.2 <:+ frames`: what stands behind a frame at the end of all frames stands there too. -/
theorem suffix_of_cons {frame : Frame} {found : List Char × List Frame} {frames : List Frame}
    (h : frame :: Frame.withText found.1 found.2 <:+ frames) : found.2 <:+ frames :=
  (suffix_withText _ _).trans ((List.suffix_cons _ _).trans h)

mutual

/-- The frames behind a node that was written are at the end of all frames. -/
theorem exists_splitFrom_write (node : Node) (h : node.IsProper) {rest : List Char}
    {found : List Char × List Frame} (behind : Frame.splitFrom .text rest = some found) :
    ∃ all, Frame.splitFrom .text (node.write ++ rest) = some all ∧ found.2 <:+ all.2 := by
  match node with
  | .text content =>
      have split := Frame.splitFrom_text
        (fun member => (@of_mem_escapeText content '<' member).1 rfl) rest
      rw [behind] at split
      exact ⟨_, split, List.suffix_rfl⟩
  | .comment content =>
      cases h with
      | comment proper =>
          obtain ⟨all, split, part⟩ := exists_splitFrom_source behind (proper.splitFrom rest)
          exact ⟨all, split, suffix_of_cons part⟩
  | .instruction target data =>
      cases h with
      | instruction proper =>
          obtain ⟨all, split, part⟩ := exists_splitFrom_source behind (proper.splitFrom rest)
          exact ⟨all, split, suffix_of_cons part⟩
  | .reference name => cases h
  | .element head children =>
      obtain ⟨all, split, last⟩ := exists_splitFrom_element head children h behind
      exact ⟨all, split, suffix_of_cons last.choose_spec⟩

/-- For an element a tag is among the frames, and all that is behind it is behind the element. -/
theorem exists_splitFrom_element (head : Head) (children : List Node)
    (h : (Node.element head children).IsProper) {rest : List Char}
    {found : List Char × List Frame} (behind : Frame.splitFrom .text rest = some found) :
    ∃ all, Frame.splitFrom .text ((Node.element head children).write ++ rest) = some all ∧
      ∃ raw, .tag raw :: Frame.withText found.1 found.2 <:+ all.2 := by
  rw [Node.write_element]
  split
  · obtain ⟨all, split, part⟩ := exists_splitFrom_source behind (h.head.splitFrom_closed rest)
    exact ⟨all, split, _, part⟩
  -- from the end tag backwards, as each part needs to know what is behind it
  · obtain ⟨last, ending, part⟩ := exists_splitFrom_source behind (h.head.splitFrom_finish rest)
    obtain ⟨inner, content, more⟩ := exists_splitFrom_writeNodes children h.children ending
    obtain ⟨all, split, first⟩ := exists_splitFrom_source content (h.head.splitFrom_open _)
    rw [List.append_assoc, List.append_assoc]
    exact ⟨all, split, _, part.trans (more.trans (suffix_of_cons first))⟩

/-- The frames behind some nodes that were written are at the end of all frames. -/
theorem exists_splitFrom_writeNodes (nodes : List Node) (h : ∀ node ∈ nodes, node.IsProper)
    {rest : List Char} {found : List Char × List Frame}
    (behind : Frame.splitFrom .text rest = some found) :
    ∃ all, Frame.splitFrom .text (writeNodes nodes ++ rest) = some all ∧ found.2 <:+ all.2 := by
  match nodes with
  | [] => exact ⟨found, behind, List.suffix_rfl⟩
  | node :: nodes =>
      rw [List.forall_mem_cons] at h
      obtain ⟨others, split, part⟩ := exists_splitFrom_writeNodes nodes h.2 behind
      obtain ⟨all, first, more⟩ := exists_splitFrom_write node h.1 split
      rw [writeNodes, List.append_assoc]
      exact ⟨all, first, part.trans more⟩

end

/-- **Behind a root that was written there is nothing but blanks,** if blanks follow it. -/
theorem isEpilog_write {head : Head} {children : List Node}
    (h : (Node.element head children).IsProper) {blanks : List Char} (blank : blanks.all isBlank) :
    ∃ frames, Frame.split? ((Node.element head children).write ++ blanks) = some frames ∧
      isEpilog (frames.reverse.takeWhile (!·.isTag)) := by
  -- blanks open no frame, so the last tag of the document is that of the root
  have noTag : '<' ∉ blanks := fun member =>
    absurd (List.all_eq_true.1 blank '<' member) (by decide)
  have behind : Frame.splitFrom .text blanks = some (blanks, []) := by
    have split := Frame.splitFrom_text noTag []
    rw [List.append_nil] at split
    rw [split, Frame.splitFrom]
    simp [Frame.behindText]
  obtain ⟨all, split, raw, part⟩ := exists_splitFrom_element head children h behind
  obtain ⟨front, equal⟩ := part.trans (suffix_withText all.1 all.2)
  refine ⟨_, congrArg (Option.map _) split, ?_⟩
  show isEpilog ((Frame.withText all.1 all.2).reverse.takeWhile (!·.isTag))
  rw [← equal, List.reverse_append, List.reverse_cons, List.append_assoc]
  unfold Frame.withText
  split
  · simp [isEpilog, Frame.isTag]
  · simpa [isEpilog, Frame.isTag] using blank

/-! ## The root -/

/-- What comes of the tokens of a document. -/
theorem bind_ofTokens? (context : Context) (remark : Option Remark) (line : Nat)
    (text : List Char) :
    (Token.read? line text).bind (Assembly.ofTokens? context remark) =
      ((Assembly.start remark).follow? context
          (Assembly.check? context (context.doctype.entities.length + 1)) line text).bind
        fun assembly => if assembly.opened.isEmpty then some assembly else none := by
  unfold Assembly.follow?
  rw [Option.bind_assoc]
  congr 1
  funext tokens
  rw [Assembly.ofTokens?]
  cases (Assembly.start remark).addAll? context _ tokens <;> rfl

/-- `escapeText blanks = blanks`: blanks stand for themselves. -/
theorem escapeText_blanks {blanks : List Char} (blank : blanks.all isBlank) (lines : '\r' ∉ blanks) :
    escapeText blanks = blanks := by
  conv_rhs => rw [← List.flatMap_singleton' blanks]
  refine List.flatMap_congr fun c member => ?_
  have line : c ≠ '\r' := fun same => lines (same ▸ member)
  have known := List.all_eq_true.1 blank c member
  simp only [isBlank, Bool.or_eq_true, beq_iff_eq, line, or_false] at known
  rcases known with (rfl | rfl) | rfl <;> rfl

/-- Blanks behind the root are taken in. -/
theorem follow?_blanks (context : Context) (check? : List Char → Assembly → Option Assembly)
    (assembly : Assembly) (line : Nat) {blanks : List Char} (plain : escapeText blanks = blanks) :
    assembly.follow? context check? line blanks = some (assembly.received [.text blanks] []) := by
  have read := Assembly.follow?_text context check? assembly line blanks Assembly.endsText_nil
  rw [List.append_nil, plain] at read
  rw [read]
  simp [Assembly.follow?, Token.read?, Token.ofFrames?, Assembly.addAll?]

/-- **A root that was written comes back.** -/
theorem Document.ofRoot?_write (context : Context) (line : Nat) {head : Head} {children : List Node}
    (h : (Node.element head children).IsProper) {blanks : List Char} (blank : blanks.all isBlank)
    (lines : '\r' ∉ blanks) :
    Document.ofRoot? context line ((Node.element head children).write ++ blanks) =
      match head.tag.head? context [] line with
      | none => none
      | some (found, remarks) =>
          (againAll? context found.bindings line children).map fun (nodes, more) =>
            (⟨found, joined nodes, context.doctype⟩,
              lastRemark context.doctype.remark (remarks ++ more)) := by
  -- the reader looks at the frames behind the root first, and then follows the tokens
  obtain ⟨frames, split, epilog⟩ := isEpilog_write h blank
  have begins : ∃ rest, (Node.element head children).write ++ blanks = '<' :: rest := by
    rw [Node.write_element]
    split <;> exact ⟨_, rfl⟩
  obtain ⟨rest, begins⟩ := begins
  have plain := escapeText_blanks blank lines
  have ends : Assembly.EndsText blanks := by
    have ends := Assembly.endsText_nil.append blanks
    rwa [List.append_nil, plain] at ends
  have read := Assembly.follow?_write context
    (Assembly.check? context (context.doctype.entities.length + 1)) _ h ends
    (Assembly.start context.doctype.remark) line
  have tokens := bind_ofTokens? context context.doctype.remark line
    ((Node.element head children).write ++ blanks)
  rw [Token.read?, split, Option.bind_some, read] at tokens
  rw [begins] at split ⊢
  simp only [Document.ofRoot?, split, epilog, tokens, Bool.not_true, Bool.false_eq_true, if_false,
    Node.again?, follow?_blanks context _ _ _ plain]
  have scope : (Assembly.start context.doctype.remark).scope = [] := rfl
  rw [scope]
  cases head.tag.head? context [] line with
  | none => rfl
  | some found =>
      dsimp only
      rw [List.append_nil]
      cases againAll? context found.1.bindings line children with
      | none => rfl
      | some inner =>
          -- all that is done outside of elements is the root, and the blanks behind it
          have all : (Assembly.start context.doctype.remark).received
              ([Node.element found.1 (joined inner.1)] ++ [.text blanks])
                (found.2 ++ inner.2 ++ []) =
              ⟨[], pushKept [.element found.1 (joined inner.1)] (.text blanks),
                lastRemark context.doctype.remark (found.2 ++ inner.2), []⟩ := by
            rw [List.append_nil]
            rfl
          simp only [Option.map_some, Option.bind_some, Assembly.received_received, all]
          cases blanks <;> rfl

/-- What has been found where a document is read from its root on. -/
theorem Document.exists_of_ofRoot? {context : Context} {line : Nat} {text : List Char}
    {document : Document} {remark : Option Remark}
    (h : Document.ofRoot? context line text = some (document, remark)) :
    ∃ frames tokens assembly, Frame.split? text = some frames ∧
      isEpilog (frames.reverse.takeWhile (!·.isTag)) ∧
      Token.ofFrames? line frames = some tokens ∧
      Assembly.ofTokens? context context.doctype.remark tokens = some assembly ∧
      onlyElement? assembly.done = some (document.head, document.children) ∧
      assembly.remark = remark ∧ document.doctype = context.doctype := by
  unfold Document.ofRoot? at h
  split at h
  · next rest frames split =>
    split at h
    · cases h
    · next epilog =>
      split at h
      · cases h
      · next assembly made =>
        obtain ⟨tokens, read, made⟩ := Option.bind_eq_some_iff.1 made
        obtain ⟨⟨head, children⟩, only, equal⟩ := Option.map_eq_some_iff.1 h
        cases equal
        exact ⟨frames, tokens, assembly, split, by simpa using epilog, read, made, only, rfl, rfl⟩
  · cases h

/-- An assembly has taken in all tokens, and no element is open. -/
theorem Assembly.exists_of_ofTokens? {context : Context} {remark : Option Remark}
    {tokens : List Token} {assembly : Assembly}
    (h : ofTokens? context remark tokens = some assembly) :
    addAll? context (check? context (context.doctype.entities.length + 1)) (start remark) tokens =
      some assembly ∧ assembly.opened = [] := by
  unfold ofTokens? at h
  split at h
  · cases h
  · next added =>
    split at h
    · next shut =>
      cases h
      exact ⟨added, List.isEmpty_iff.1 shut⟩
    · cases h

/-- The only element of some nodes is one of them. -/
theorem mem_of_onlyElement? {nodes children : List Node} {head : Head}
    (h : onlyElement? nodes = some (head, children)) : .element head children ∈ nodes := by
  unfold onlyElement? at h
  split at h
  · next found =>
    cases h
    exact List.mem_of_mem_filter (found ▸ List.mem_singleton_self _)
  · cases h

/-- **What is read from a root on can be written,** where nothing has been declared. -/
theorem Document.isProper_of_ofRoot? {context : Context} (closed : context.IsClosed) {line : Nat}
    {text : List Char} (legal : text.all isChar) {document : Document} {remark : Option Remark}
    (h : Document.ofRoot? context line text = some (document, remark)) :
    (Node.element document.head document.children).IsProper := by
  obtain ⟨frames, tokens, assembly, split, -, read, made, only, -⟩ := exists_of_ofRoot? h
  have proper := Token.isProper_of_read? legal
    (show Token.read? line text = some tokens by rw [Token.read?, split]; exact read)
  -- the start is proper and each token keeps it, so every node at the end can be written
  have good : assembly.IsProper :=
    (Assembly.isProper_start _).addAll? closed (Assembly.check?_closed closed _) proper
      (Assembly.exists_of_ofTokens? made).1
  exact good.done _ (mem_of_onlyElement? only)

/-- The context of a document that begins with its root. -/
theorem isClosed_none (isStandalone : Bool) :
    Context.IsClosed ⟨{ Doctype.none with remark := none }, isStandalone⟩ :=
  ⟨rfl, by simp [Context.mustDeclare, Doctype.none]⟩

/-- A text that is well formed is legal. -/
theorem Document.legal_of_wellFormed? {raw : List Char} {found : Document × Option Remark}
    (h : Document.wellFormed? raw = some found) : (joinLineEnds raw).all isChar := by
  unfold Document.wellFormed? at h
  dsimp only at h
  split at h
  · simp at h
  · next legal => simpa using legal

/-- `readHeader? ('<' :: c :: rest) = some (.none, '<' :: c :: rest)`: a document that begins with
its root says nothing about itself. -/
theorem readHeader?_root {c : Char} (start : isNameStart c) (rest : List Char) :
    readHeader? ('<' :: c :: rest) = some (.none, '<' :: c :: rest) := by
  have other : c ≠ '?' := ne_of_isNameChar (isNameChar_of_isNameStart start) (by decide)
  unfold readHeader?
  split
  · simp_all
  · rfl

/-- **A text that begins with a root** is read from the root on. -/
theorem Document.ofText?_root {raw rest : List Char} {c : Char}
    (begins : joinLineEnds raw = '<' :: c :: rest) (legal : ('<' :: c :: rest).all isChar)
    (start : isNameStart c) :
    Document.ofText? raw =
      (Document.ofRoot? ⟨{ Doctype.none with remark := none }, false⟩ 1 ('<' :: c :: rest)).bind
        fun found => if found.2 == some .error then none else some found.1 := by
  have whole : Document.wellFormed? raw =
      Document.ofRoot? ⟨{ Doctype.none with remark := none }, false⟩ 1 ('<' :: c :: rest) := by
    have read := @Document.wellFormed?_root _ _ [] rest c Header.none begins legal
      (readHeader?_root start rest) rfl start
    rw [Nat.sub_self] at read
    exact read
  rw [Document.ofText?, whole]
  generalize Document.ofRoot? _ 1 ('<' :: c :: rest) = found
  cases found <;> rfl

/-- **What is read from a document that begins with its root can be written.** -/
theorem Document.isProper_of_wellFormed? {raw rest : List Char} {c : Char}
    (begins : joinLineEnds raw = '<' :: c :: rest) (start : isNameStart c) {document : Document}
    {remark : Option Remark} (h : Document.wellFormed? raw = some (document, remark)) :
    (Node.element document.head document.children).IsProper := by
  have legal := Document.legal_of_wellFormed? h
  rw [begins] at legal
  rw [@Document.wellFormed?_root raw _ [] rest c Header.none begins legal
    (readHeader?_root start rest) rfl start] at h
  exact Document.isProper_of_ofRoot? (isClosed_none false) legal h

end StringCatalog.Xml
