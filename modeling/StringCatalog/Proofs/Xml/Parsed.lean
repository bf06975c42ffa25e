import StringCatalog.Proofs.Xml.Sketch

/-! # What is read can be written

* **`Xml.Token.IsProper`** — a token from which nodes come that can be written.
* **`Xml.Token.isProper_of_ofFrame?`** — a legal frame says such a token.
* **`Xml.Assembly.IsProper`** — an assembly whose nodes can be written.
* **`Xml.Assembly.IsProper.add?`** — one more token keeps it. -/

namespace StringCatalog.Xml

/-! ## Tokens -/

/-- Whether a name is that of some text that is one: `∃ raw, isName raw ∧ name = ofText raw`. -/
def Name.IsRead (name : Name) : Prop := ∃ raw, isName raw ∧ name = ofText raw

/-- **An attribute as it is read:** a name with legal characters for its value. -/
structure Tag.Attribute.IsProper (entry : Tag.Attribute) : Prop where
  /-- The name is one. -/
  name : entry.name.IsRead
  /-- The characters of the value are legal. -/
  legal : ∀ c, .char c ∈ entry.value → isChar c

/-- **A token from which nodes come that can be written.** -/
def Token.IsProper : Token → Prop
  | .text pieces => ∀ c, .char c ∈ pieces → isChar c
  | .literal raw => raw.all isChar
  | .comment raw => IsProperComment raw
  | .instruction target data => IsProperInstruction target data
  | .start tag _ _ => tag.name.IsRead ∧ ∀ entry ∈ tag.attributes, entry.IsProper
  | .finish _ => True

/-! ### Line ends -/

/-- `lineFeed c = d ↔ c = d` for all characters `d` that end no line. -/
theorem lineFeed_eq_iff {c d : Char} (h : d ≠ '\n') (other : d ≠ '\r') :
    lineFeed c = d ↔ c = d := by
  unfold lineFeed
  split
  · next same =>
    obtain rfl : c = '\r' := by simpa using same
    exact ⟨fun equal => absurd equal.symm h, fun equal => absurd equal.symm other⟩
  · rfl

/-- After `lineFeed` no carriage return is left. -/
theorem notMem_map_lineFeed (text : List Char) : '\r' ∉ text.map lineFeed := by
  intro member
  obtain ⟨c, -, same⟩ := List.mem_map.1 member
  unfold lineFeed at same
  split at same
  · simp at same
  · next other => exact other (by simpa using same)

/-- `lineFeed` keeps a text legal. -/
theorem all_isChar_map_lineFeed {text : List Char} (h : text.all isChar) :
    (text.map lineFeed).all isChar := by
  rw [List.all_map, List.all_eq_true]
  exact fun c member => isChar_lineFeed (List.all_eq_true.1 h c member)

/-- `part <:+: text`: marks without line ends are where they were. -/
theorem infix_map_lineFeed {part text : List Char} (h : ∀ c ∈ part, c ≠ '\n' ∧ c ≠ '\r')
    (found : part <:+: text.map lineFeed) : part <:+: text := by
  obtain ⟨front, back, equal⟩ := found
  -- the mark is the image of some run, and a character of it is no line end, so it is itself
  obtain ⟨start, rest, rfl, starts, rfl⟩ := List.map_eq_append_iff.1 equal.symm
  obtain ⟨first, middle, rfl, rfl, inner⟩ := List.map_eq_append_iff.1 starts
  have same : middle.map lineFeed = middle.map id := by
    refine List.map_congr_left fun c member => ?_
    have other := h (lineFeed c) (inner ▸ List.mem_map_of_mem member)
    exact ((lineFeed_eq_iff other.1 other.2).1 rfl).symm
  rw [List.map_id] at same
  exact ⟨first, rest, by rw [← inner, same]⟩

/-- Behind skipped blanks there is none. -/
theorem head?_map_lineFeed_skipBlanks (text : List Char) :
    ∀ c ∈ ((skipBlanks text).map lineFeed).head?, isBlank c = false := by
  intro c begins
  rw [List.head?_map] at begins
  obtain ⟨d, first, rfl⟩ := Option.map_eq_some_iff.1 begins
  have other : isBlank d = false := by
    have known := List.head?_dropWhile_not isBlank text
    rw [show (text.dropWhile isBlank).head? = some d from first] at known
    exact known
  rwa [lineFeed, if_neg]
  intro same
  simp [isBlank, same] at other

/-! ### Frames -/

/-- A comment that is read is proper. -/
theorem isProper_comment {raw : List Char} (legal : raw.all isChar) (h : isCommentText raw) :
    IsProperComment (raw.map lineFeed) := by
  refine ⟨all_isChar_map_lineFeed legal, notMem_map_lineFeed raw, ?_⟩
  simp only [isCommentText, Bool.and_eq_true, Bool.not_eq_true', bne_iff_ne] at h ⊢
  refine ⟨?_, fun last => h.2 ?_⟩
  · rw [Bool.eq_false_iff, Ne, Text.contains_iff]
    intro part
    have part := infix_map_lineFeed (by decide) part
    rw [Text.contains_iff.2 part] at h
    simp at h
  · rw [List.getLast?_map, Option.map_eq_some_iff] at last
    obtain ⟨c, last, same⟩ := last
    rw [last, (lineFeed_eq_iff (by decide) (by decide)).1 same]

/-- So is an instruction. -/
theorem isProper_of_readInstruction? {raw : List Char} {token : Token} (legal : raw.all isChar)
    (inside : ¬['?', '>'] <:+: raw) (h : readInstruction? raw = some token) : token.IsProper := by
  unfold readInstruction? at h
  dsimp only at h
  split at h
  · simp at h
  · next known =>
    simp only [Bool.or_eq_true, Bool.not_eq_true', not_or, Bool.not_eq_false, beq_iff_eq] at known
    split at h
    · cases h
      exact ⟨known.1, known.2, rfl, by simp, by simp, by simp⟩
    · next c rest behind =>
      split at h
      · cases h
        -- the data is what is left of the frame behind the target and the blanks
        have part : skipBlanks (raw.dropWhile isNameChar) <:+ raw :=
          (List.dropWhile_suffix _).trans (List.dropWhile_suffix _)
        refine ⟨known.1, known.2, all_isChar_map_lineFeed ?_, notMem_map_lineFeed _,
          fun found => ?_, head?_map_lineFeed_skipBlanks _⟩
        · exact List.all_eq_true.2 fun d member => List.all_eq_true.1 legal d (part.subset member)
        · exact inside ((infix_map_lineFeed (by decide) found).trans part.isInfix)
      · simp at h

/-! ### Tags -/

/-- `rest <:+ text`: what is behind an equals sign is the end of the text. -/
theorem suffix_of_skipEquals? {text rest : List Char} (h : skipEquals? text = some rest) :
    rest <:+ text := by
  unfold skipEquals? at h
  split at h
  · next after found =>
    cases h
    have inner : '=' :: after <:+ text := found ▸ List.dropWhile_suffix _
    exact (List.dropWhile_suffix _).trans ((List.suffix_cons _ _).trans inner)
  · simp at h

/-- `readQuoted?` takes what stands between two quotes that are the same. -/
theorem exists_of_readQuoted? {text raw after : List Char}
    (h : readQuoted? text = some (raw, after)) : ∃ quote, text = quote :: (raw ++ quote :: after) := by
  unfold readQuoted? at h
  split at h
  · exact ⟨_, by rw [(Text.cutAt?_eq_some h).1]⟩
  · exact ⟨_, by rw [(Text.cutAt?_eq_some h).1]⟩
  · simp at h

/-- The attributes that are read are proper. -/
theorem isProper_of_readAttributes? {text : List Char} {attributes : List Tag.Attribute}
    (legal : text.all isChar) (h : readAttributes? text = some attributes) :
    ∀ entry ∈ attributes, entry.IsProper := by
  fun_induction readAttributes? text generalizing attributes with
  | case1 => cases h; simp
  | case2 => simp at h
  | case3 => cases h; simp
  | case4 => simp at h
  | case5 => simp at h
  | case6 => simp at h
  | case7 => simp at h
  | case8 => simp at h
  -- the only case in which an attribute is read: name, equals sign, quotes, and the others
  | case9 c rest _ d more there start name value equals raw after quoted _ _ pieces read =>
      rename_i ih
      obtain ⟨others, found, rfl⟩ := Option.map_eq_some_iff.1 h
      obtain ⟨quote, split⟩ := exists_of_readQuoted? quoted
      have part : quote :: (raw ++ quote :: after) <:+ c :: rest := by
        have first : d :: more <:+ c :: rest := by
          rw [← there]
          exact (List.dropWhile_suffix _).trans (List.suffix_cons _ _)
        exact split ▸ (suffix_of_skipEquals? equals).trans ((List.dropWhile_suffix _).trans first)
      have chars := fun e member => List.all_eq_true.1 legal e (part.subset member)
      intro entry member
      rcases List.mem_cons.1 member with rfl | member
      · refine ⟨⟨_, isName_takeWhile (by simpa using start) more, rfl⟩, ?_⟩
        exact isLegal_of_readPieces? (fun _ => isChar_plainValueChar)
          (List.all_eq_true.2 fun e member => chars e (by simp [member])) read
      · exact ih (List.all_eq_true.2 fun e member => chars e (by simp [member])) found entry member

/-- A tag that is read has a name that was read, and proper attributes. -/
theorem Tag.isProper_of_read? {raw : List Char} {tag : Tag} (legal : raw.all isChar)
    (h : Tag.read? raw = some tag) : tag.name.IsRead ∧ ∀ entry ∈ tag.attributes, entry.IsProper := by
  unfold Tag.read? at h
  split at h
  · simp at h
  · next name rest found =>
    obtain ⟨attributes, read, rfl⟩ := Option.map_eq_some_iff.1 h
    unfold Name.read? at found
    split at found
    · simp at found
    · next c more =>
      split at found
      · next start =>
        cases found
        refine ⟨⟨_, isName_takeWhile start more, rfl⟩, isProper_of_readAttributes? ?_ read⟩
        exact List.all_eq_true.2 fun d member =>
          List.all_eq_true.1 legal d ((List.dropWhile_suffix _).subset member)
      · simp at found

/-- **A legal frame says a token from which nodes come that can be written.** -/
theorem Token.isProper_of_ofFrame? {line : Nat} {frame : Frame} {token : Token}
    (legal : frame.IsLegal) (h : ofFrame? line frame = some token) : token.IsProper := by
  have chars : frame.raw.all isChar := legal.legal
  cases frame with
  | text raw =>
      rw [ofFrame?] at h
      split at h
      · simp at h
      · obtain ⟨pieces, read, rfl⟩ := Option.map_eq_some_iff.1 h
        exact isLegal_of_readPieces? (fun _ => isChar_lineFeed) chars read
  | literal raw =>
      cases h
      exact all_isChar_map_lineFeed chars
  | comment raw =>
      rw [ofFrame?] at h
      split at h
      · next inside =>
        cases h
        exact isProper_comment chars inside
      · simp at h
  | instruction raw => exact isProper_of_readInstruction? chars (legal.inside raw rfl) h
  | tag raw =>
      rcases raw with _ | ⟨c, raw⟩
      · cases h
      -- an end tag says its name alone, and any other tag is a start tag
      · by_cases slash : c = '/'
        · subst slash
          rw [ofFrame?, readFinish?] at h
          simp only [Option.ite_none_right_eq_some, Option.some.injEq] at h
          exact h.2 ▸ trivial
        · have start : ofFrame? line (.tag (c :: raw)) = readStart? line (c :: raw) := by
            rw [ofFrame?]
            simpa using slash
          rw [start, readStart?] at h
          split at h
          · obtain ⟨tag, read, rfl⟩ := Option.map_eq_some_iff.1 h
            exact Tag.isProper_of_read? (List.all_eq_true.2 fun d member =>
              List.all_eq_true.1 chars d ((List.dropLast_subset _) member)) read
          · obtain ⟨tag, read, rfl⟩ := Option.map_eq_some_iff.1 h
            exact Tag.isProper_of_read? chars read

/-- The tokens of legal frames are proper. -/
theorem Token.isProper_of_ofFrames? {line : Nat} {frames : List Frame} {tokens : List Token}
    (legal : ∀ frame ∈ frames, frame.IsLegal) (h : ofFrames? line frames = some tokens) :
    ∀ token ∈ tokens, token.IsProper := by
  induction frames generalizing line tokens with
  | nil => cases h; simp
  | cons frame frames ih =>
      rw [ofFrames?] at h
      split at h
      · simp at h
      · next first read =>
        obtain ⟨others, found, rfl⟩ := Option.map_eq_some_iff.1 h
        intro token member
        rcases List.mem_cons.1 member with rfl | member
        · exact isProper_of_ofFrame? (legal frame List.mem_cons_self) read
        · exact ih (fun other inside => legal other (List.mem_cons_of_mem frame inside)) found token
            member

/-- **A legal text comes to tokens from which nodes come that can be written.** -/
theorem Token.isProper_of_read? {line : Nat} {text : List Char} {tokens : List Token}
    (legal : text.all isChar) (h : Token.read? line text = some tokens) :
    ∀ token ∈ tokens, token.IsProper := by
  obtain ⟨frames, split, read⟩ := Option.bind_eq_some_iff.1 h
  obtain ⟨⟨raw, behind⟩, cut, rfl⟩ := Option.map_eq_some_iff.1 split
  have known := Frame.isSplit legal cut
  refine isProper_of_ofFrames? (Frame.isLegal_withText ?_ known.frames) read
  exact List.all_eq_true.2 fun c member => List.all_eq_true.1 legal c (known.isPart.subset member)

/-! ## Start tags -/

/-- **Whether a document can make no use of references.** -/
structure Context.IsClosed (context : Context) : Prop where
  /-- Nothing has been declared. -/
  bare : context.IsBare
  /-- Nothing may have been declared elsewhere. -/
  mustDeclare : context.mustDeclare

/-- A name that was read is proper. -/
theorem Name.IsRead.isProper {name : Name} (h : name.IsRead) : name.IsProper := by
  obtain ⟨raw, isName, rfl⟩ := h
  exact isProper_ofText isName

/-- `ofText name.text = name` for a name that was read. -/
theorem Name.IsRead.ofText_text {name : Name} (h : name.IsRead) : ofText name.text = name := by
  obtain ⟨raw, -, rfl⟩ := h
  rw [text_ofText]

/-- `context.doctype.entities = []`: where no document type was declared there are no entities. -/
theorem Context.IsBare.entities {context : Context} (bare : context.IsBare) :
    context.doctype.entities = [] := by
  rw [bare]
  rfl

/-- Without declarations a reference cannot be checked. -/
theorem Context.IsClosed.checkValue?_concat {context : Context} (closed : context.IsClosed)
    (depth : Nat) (pieces : List Piece) (piece : Piece) :
    context.checkValue? (depth + 1) (pieces ++ [piece]) =
      (context.checkValue? (depth + 1) pieces).bind fun remarks =>
        match piece with
        | .char _ => some remarks
        | .reference _ => none := by
  simp only [checkValue?, List.foldl_concat, closed.bare.entities, closed.mustDeclare]
  generalize pieces.foldl _ _ = before
  cases before <;> cases piece <;> rfl

/-- Without declarations a value has no references. -/
theorem Context.IsClosed.isPlain {context : Context} (closed : context.IsClosed) {depth : Nat}
    {pieces : List Piece} {remarks : List Remark} (legal : ∀ c, .char c ∈ pieces → isChar c)
    (h : context.checkValue? depth pieces = some remarks) : IsPlain pieces := by
  cases depth with
  | zero => cases h
  | succ depth =>
      -- the check goes from left to right, so the last piece is the one to take away
      induction pieces using List.reverseRecOn generalizing remarks with
      | nil => exact ⟨[], by simp, rfl⟩
      | append_singleton pieces piece ih =>
          rw [closed.checkValue?_concat, Option.bind_eq_some_iff] at h
          obtain ⟨before, found, last⟩ := h
          obtain ⟨text, plain, rfl⟩ :=
            ih (fun c member => legal c (List.mem_append_left _ member)) found
          cases piece with
          | char c =>
              refine ⟨text ++ [c], ?_, by simp⟩
              rw [List.all_append, plain, List.all_cons, legal c (by simp)]
              rfl
          | reference name => cases last

/-- A binding that is declared is proper. -/
theorem Binding.isProper_of_declare {lead : Option (List Char)} {uri : List Char}
    {binding : Binding} (legal : uri.all isChar) (plain : ∀ l ∈ lead, isPlainName l)
    (h : (Binding.declare lead uri).1 = some binding) : binding.IsProper := by
  unfold Binding.declare at h
  cases lead with
  | none =>
      by_cases empty : uri = []
      · subst empty
        cases h
        exact ⟨rfl, by decide, by decide, by simp⟩
      · simp only [List.isEmpty_iff, empty, if_false] at h
        split at h
        · simp at h
        · next other =>
          cases h
          simp only [Bool.or_eq_true, beq_iff_eq, not_or] at other
          exact ⟨legal, other.1, other.2, by simp⟩
  | some lead =>
      dsimp only at h
      split at h
      · simp at h
      · next notXml =>
        split at h
        · simp at h
        · next other =>
          cases h
          simp only [Bool.or_eq_true, beq_iff_eq, List.isEmpty_iff, not_or] at other notXml
          refine ⟨legal, other.1.1.1, other.1.2, fun l same => ?_⟩
          obtain rfl : lead = l := by simpa using same
          exact ⟨⟨plain lead rfl, notXml, other.1.1.2⟩, other.2⟩

/-- What has been made of attributes can be written. -/
structure Sorted.IsProper (sorted : Sorted) : Prop where
  /-- The bindings are proper. -/
  bindings : ∀ binding ∈ sorted.bindings, binding.IsProper
  /-- No prefix is bound twice. -/
  nodup : (sorted.bindings.map Binding.lead).Nodup
  /-- The others declare nothing and have no references. -/
  plain : ∀ entry ∈ sorted.plain,
    entry.name.IsRead ∧ entry.name.declaredLead? = none ∧ IsPlain entry.value

/-- A prefix that is declared has no colon. -/
theorem Name.IsRead.isPlainName_of_declaredLead? {name : Name} (h : name.IsRead)
    {lead : Option (List Char)} (declared : name.declaredLead? = some lead) :
    ∀ l ∈ lead, isPlainName l := by
  obtain ⟨raw, -, rfl⟩ := h
  intro l same
  subst same
  unfold declaredLead? at declared
  split at declared
  · split at declared <;> simp at declared
  · next first found =>
    split at declared
    · cases declared
      exact (@isPlainName_of_ofText raw first _ (by rw [← found])).2
    · simp at declared

/-- A prefix in a namespace is one that is bound. -/
theorem of_spaceOfLead {scope : List Binding} (proper : ∀ binding ∈ scope, binding.IsProper)
    {lead uri : List Char} (found : (spaceOfLead scope lead).1 = some uri)
    (other : lead ≠ "xml".toList) : IsBindable lead ∧ IsDeclarable uri := by
  unfold spaceOfLead at found
  rw [if_neg (by simpa using other)] at found
  split at found
  · next binding bound =>
    cases found
    have known := proper binding (List.mem_of_find?_eq_some bound)
    have same : binding.lead = some lead := by simpa using List.find?_some bound
    obtain ⟨bindable, nonempty⟩ := known.lead lead same
    exact ⟨bindable, known.legal, nonempty, known.notXml, known.notDeclaration⟩
  · simp at found

section

variable {context : Context} (closed : context.IsClosed)
include closed

/-- Sorted attributes stay proper with one more. -/
theorem Sorted.IsProper.add? {element : List Char} {sorted next : Sorted} {entry : Tag.Attribute}
    (h : sorted.IsProper) (proper : entry.IsProper)
    (added : sorted.add? context element entry = some next) : next.IsProper := by
  simp only [Sorted.add?, closed.bare.trims, Bool.false_eq_true, if_false] at added
  -- a declaration that is bound or is none, or an attribute that stays
  split at added
  · simp at added
  · next found checked =>
    have plain := closed.isPlain proper.legal checked
    obtain ⟨text, legal, value⟩ := plain
    split at added
    · next lead declared =>
      rw [value, Doctype.valueText_map] at added
      split at added
      · cases added
        exact ⟨h.bindings, h.nodup, h.plain⟩
      · next binding bound =>
        split at added
        · simp at added
        · next new =>
          cases added
          have known := Binding.isProper_of_declare legal
            (proper.name.isPlainName_of_declaredLead? declared) bound
          refine ⟨?_, ?_, h.plain⟩
          · simpa [or_imp, forall_and] using ⟨h.bindings, known⟩
          · rw [List.map_append, List.map_singleton, List.nodup_append]
            refine ⟨h.nodup, by simp, ?_⟩
            simpa using new
    · next undeclared =>
      cases added
      refine ⟨h.bindings, h.nodup, ?_⟩
      intro other member
      rcases List.mem_append.1 member with member | member
      · exact h.plain other member
      · obtain rfl := List.mem_singleton.1 member
        exact ⟨proper.name, undeclared, text, legal, value⟩

/-- They stay proper with all attributes of a tag. -/
theorem Sorted.IsProper.all? {element : List Char} {sorted last : Sorted}
    {attributes : List Tag.Attribute} (h : sorted.IsProper)
    (proper : ∀ entry ∈ attributes, entry.IsProper)
    (added : Sorted.all? context element sorted attributes = some last) : last.IsProper := by
  induction attributes generalizing sorted with
  | nil =>
      cases added
      exact h
  | cons entry attributes ih =>
      rw [Sorted.all?] at added
      split at added
      · simp at added
      · next next one =>
        exact ih (h.add? closed (proper entry List.mem_cons_self) one)
          (fun other member => proper other (List.mem_cons_of_mem entry member)) added

/-- **The start of an element that is read can be written,** and the bindings inside of it too. -/
theorem Tag.isProper_of_head? {scope : List Binding} {line : Nat} {tag : Tag} {head : Head}
    {remarks : List Remark} (proper : ∀ binding ∈ scope, binding.IsProper)
    (known : tag.name.IsRead ∧ ∀ entry ∈ tag.attributes, entry.IsProper)
    (h : tag.head? context scope line = some (head, remarks)) : head.IsProper := by
  have undeclared : context.doctype.bindingsOf tag.name.text = [] := by
    rw [closed.bare]
    rfl
  cases read : Sorted.all? context tag.name.text ⟨[], [], []⟩ tag.attributes with
  | none => simp [Tag.head?, read] at h
  | some sorted =>
      have start : Sorted.IsProper ⟨[], [], []⟩ := ⟨by simp, by simp, by simp⟩
      have good := start.all? closed known.2 read
      have inner : ∀ binding ∈ sorted.bindings ++ scope, binding.IsProper := fun binding member =>
        (List.mem_append.1 member).elim (good.bindings binding) (proper binding)
      simp only [Tag.head?, read, undeclared, List.foldl_nil] at h
      split at h
      · simp at h
      · cases h
        -- a prefix of the name or of an attribute is bound in the tag itself or around it
        refine ⟨known.1.isProper, fun bound lead same => ?_, good.bindings, good.nodup,
          fun entry member => ?_⟩
        · have same : tag.name.lead = some lead := same
          simp only [isBound, elementSpace, same, Bool.and_eq_true, bne_iff_ne] at bound
          obtain ⟨uri, found⟩ := Option.isSome_iff_exists.1 bound.1
          exact (of_spaceOfLead inner found (by simpa using bound.2)).1
        · obtain ⟨_, paired, rfl⟩ := List.mem_map.1 member
          obtain ⟨other, there, rfl⟩ := List.mem_map.1 paired
          obtain ⟨name, undeclared, value⟩ := good.plain other there
          refine ⟨name.isProper, ?_, value, fun uri found lead same notXml => ?_⟩
          · rw [name.ofText_text]
            exact undeclared
          · have same : other.name.lead = some lead := same
            have found : (attributeSpace (sorted.bindings ++ scope) other.name).1 = some uri := found
            rw [attributeSpace, same] at found
            exact of_spaceOfLead inner found notXml

end

/-! ## Assemblies -/

namespace Assembly

/-- **An open element that can be written.** -/
structure Open.IsProper (element : Open) : Prop where
  /-- Its start. -/
  head : element.head.IsProper
  /-- The bindings inside of it. -/
  scope : ∀ binding ∈ element.scope, binding.IsProper
  /-- Its nodes. -/
  before : ∀ node ∈ element.before, node.IsProper

/-- **An assembly whose nodes can be written.** -/
structure IsProper (assembly : Assembly) : Prop where
  /-- The open elements. -/
  opened : ∀ element ∈ assembly.opened, element.IsProper
  /-- The nodes outside of them. -/
  done : ∀ node ∈ assembly.done, node.IsProper

/-- The assembly that a document starts with is proper. -/
theorem isProper_start (remark : Option Remark) : (start remark).IsProper :=
  ⟨by simp [start], by simp [start]⟩

/-- Proper nodes with one more are proper, also where it is joined with the last one. -/
theorem isProper_push {node : Node} (h : node.IsProper) {before : List Node}
    (known : ∀ other ∈ before, other.IsProper) : ∀ other ∈ push node before, other.IsProper := by
  unfold push
  split
  · next more content rest =>
    intro other member
    rcases List.mem_cons.1 member with rfl | member
    · have first := known (.text content) List.mem_cons_self
      cases first with
      | text legal =>
          cases h with
          | text more => exact .text (by rw [List.all_append, legal, more]; rfl)
    · exact known other (List.mem_cons_of_mem _ member)
  · exact List.forall_mem_cons.2 ⟨h, known⟩

/-- Pieces without references are characters. -/
theorem exists_of_referenceNames {pieces : List Piece} (h : referenceNames pieces = []) :
    ∃ text : List Char, pieces = text.map .char := by
  induction pieces with
  | nil => exact ⟨[], rfl⟩
  | cons piece pieces ih =>
      cases piece with
      | char c =>
          obtain ⟨text, rfl⟩ := ih h
          exact ⟨c :: text, rfl⟩
      | reference name => simp [referenceNames] at h

namespace IsProper

variable {assembly : Assembly} (h : assembly.IsProper)
include h

/-- The bindings in scope are proper. -/
theorem scope : ∀ binding ∈ assembly.scope, binding.IsProper := by
  unfold Assembly.scope
  split
  · simp
  · next element outer found =>
    exact (h.opened element (found ▸ List.mem_cons_self)).scope

/-- Remarks keep an assembly proper. -/
theorem remarked (remarks : List Remark) : (assembly.remarked remarks).IsProper :=
  ⟨h.opened, h.done⟩

/-- A proper node keeps an assembly proper. -/
theorem addNode {node : Node} (proper : node.IsProper) : (assembly.addNode node).IsProper := by
  unfold Assembly.addNode
  split
  · next found => exact ⟨by simp [found], isProper_push proper h.done⟩
  · next element outer found =>
    have known := h.opened
    rw [found, List.forall_mem_cons] at known
    refine ⟨List.forall_mem_cons.2 ⟨?_, known.2⟩, h.done⟩
    exact ⟨known.1.head, known.1.scope, isProper_push proper known.1.before⟩

/-- So does an element that is opened. -/
theorem openElement {head : Head} (proper : head.IsProper) :
    (assembly.openElement head).IsProper := by
  refine ⟨List.forall_mem_cons.2 ⟨⟨proper, fun binding member => ?_, by simp⟩, h.opened⟩, h.done⟩
  exact (List.mem_append.1 member).elim (proper.bindings binding) (h.scope binding)

/-- So does one that is closed. -/
theorem close? {name : List Char} {next : Assembly} (closed : assembly.close? name = some next) :
    next.IsProper := by
  unfold Assembly.close? at closed
  split at closed
  · simp at closed
  · next element outer found =>
    have known := h.opened
    rw [found, List.forall_mem_cons] at known
    split at closed
    · cases closed
      have inner : (Node.element element.head element.before.reverse).IsProper :=
        .element known.1.head fun node member => known.1.before node (List.mem_reverse.1 member)
      have outside : IsProper { assembly with opened := outer } := ⟨known.2, h.done⟩
      exact outside.addNode inner
    · simp at closed

/-- **One more token keeps it,** where no reference can be checked. -/
theorem add? {context : Context} (closed : context.IsClosed)
    {check? : List Char → Assembly → Option Assembly} (refuses : ∀ name state, check? name state = none)
    {token : Token} (proper : token.IsProper) {next : Assembly}
    (added : assembly.add? context check? token = some next) : next.IsProper := by
  -- each token adds a node, opens an element or closes one; text without references is one node
  cases token with
  | literal text =>
      cases added
      exact h.addNode (.text proper)
  | comment text =>
      cases added
      exact h.addNode (.comment proper)
  | instruction target data =>
      cases added
      exact (h.remarked _).addNode (.instruction proper)
  | text pieces =>
      rw [Assembly.add?] at added
      cases names : referenceNames pieces with
      | cons name names' => simp [names, refuses] at added
      | nil =>
          obtain ⟨text, rfl⟩ := exists_of_referenceNames names
          have legal : text.all isChar :=
            List.all_eq_true.2 fun c member => proper c (List.mem_map_of_mem member)
          rw [names] at added
          cases added
          by_cases empty : text = []
          · subst empty
            exact h
          · rw [nodesOf_map empty]
            exact h.addNode (.text legal)
  | start tag isClosed line =>
      rw [Assembly.add?] at added
      split at added
      · simp at added
      · next head remarks found =>
        have good := Tag.isProper_of_head? closed h.scope proper found
        split at added
        · cases added
          exact (h.remarked _).addNode (.element good (by simp))
        · cases added
          exact (h.remarked _).openElement good
  | finish name => exact h.close? added

/-- **All tokens keep an assembly proper,** one after another. -/
theorem addAll? {context : Context} (closed : context.IsClosed)
    {check? : List Char → Assembly → Option Assembly} (refuses : ∀ name state, check? name state = none)
    {tokens : List Token} (proper : ∀ token ∈ tokens, token.IsProper) {last : Assembly}
    (added : assembly.addAll? context check? tokens = some last) : last.IsProper := by
  induction tokens generalizing assembly with
  | nil =>
      cases added
      exact h
  | cons token tokens ih =>
      rw [Assembly.addAll?] at added
      split at added
      · simp at added
      · next next one =>
        exact ih (h.add? closed refuses (proper token List.mem_cons_self) one)
          (fun other member => proper other (List.mem_cons_of_mem token member)) added

end IsProper

/-- `check? context depth name assembly = none`: without declarations no reference can be
checked. -/
theorem check?_closed {context : Context} (closed : context.IsClosed) (depth : Nat)
    (name : List Char) (assembly : Assembly) : check? context depth name assembly = none := by
  cases depth with
  | zero => rfl
  | succ depth =>
      rw [check?, closed.bare.entities]
      simp [closed.mustDeclare]

end Assembly

end StringCatalog.Xml
