import StringCatalog.Proofs.Resource.Quote
import StringCatalog.Proofs.Xml.SoundText

/-! # Markup as it is written again

The text of a string is read from markup without its escapes, and its quotes are escaped again:

* **`Resource.respellChars`** — a text as it is written again.
* **`Resource.respell`** — a node as it is written again.
* **`Resource.respellChars_writeNodes`** — the markup of nodes is written again as the markup of the
  nodes that are written again.
* **`Resource.isSound_respell`** — sound nodes are sound when they are written again. -/

namespace StringCatalog.Resource

/-! ## Texts -/

/-- **A text as it is written again:** the escapes in it are read, and then its single quotes are
escaped. -/
def respellChars (text : List Char) : List Char :=
  escapeChars (unescapeChars text)

/-- `respellChars [] = []`. -/
@[simp] theorem respellChars_nil : respellChars [] = [] := rfl

/-- `respellChars (text ++ rest) = respellChars text ++ respellChars rest`: a text is written again
part by part, unless a backslash ends a part and a quote follows. -/
theorem respellChars_append {text rest : List Char}
    (h : text.getLast? = some '\\' → ∀ d ∈ rest.head?, isQuote d = false) :
    respellChars (text ++ rest) = respellChars text ++ respellChars rest := by
  rw [respellChars, unescapeChars_append h, escapeChars_append]
  rfl

/-- `respellChars (c :: rest) = c :: respellChars rest` for a character that is neither a single
quote nor a backslash. -/
theorem respellChars_cons {c : Char} (h : c ≠ '\'' ∧ c ≠ '\\') (rest : List Char) :
    respellChars (c :: rest) = c :: respellChars rest := by
  rw [respellChars, unescapeChars_cons fun same => absurd same h.2, escapeChars_cons h.1]
  rfl

/-- `respellChars (text ++ rest) = text ++ respellChars rest`: characters other than single quotes
and backslashes stay as they are. -/
theorem respellChars_plain {text : List Char} (h : ∀ c ∈ text, c ≠ '\'' ∧ c ≠ '\\')
    (rest : List Char) : respellChars (text ++ rest) = text ++ respellChars rest := by
  induction text with
  | nil => rfl
  | cons c text ih =>
      rw [List.forall_mem_cons] at h
      rw [List.cons_append, respellChars_cons h.1, ih h.2, List.cons_append]

/-- `respellChars ('\'' :: rest) = '\\' :: '\'' :: respellChars rest`: a single quote is escaped. -/
theorem respellChars_single (rest : List Char) :
    respellChars ('\'' :: rest) = '\\' :: '\'' :: respellChars rest := by
  rw [respellChars, unescapeChars_cons (by simp), escapeChars, if_pos (by rfl)]
  rfl

/-- `respellChars ('\\' :: '\'' :: rest) = '\\' :: '\'' :: respellChars rest`: an escaped one stays
so. -/
theorem respellChars_escaped (rest : List Char) :
    respellChars ('\\' :: '\'' :: rest) = '\\' :: '\'' :: respellChars rest := by
  rw [respellChars, unescapeChars_quote (by decide), escapeChars, if_pos (by rfl)]
  rfl

/-- `respellChars ('\\' :: '"' :: rest) = '"' :: respellChars rest`: a double quote loses its
backslash. -/
theorem respellChars_double (rest : List Char) :
    respellChars ('\\' :: '"' :: rest) = '"' :: respellChars rest := by
  rw [respellChars, unescapeChars_quote (by decide), escapeChars_cons (by decide)]
  rfl

/-- `respellChars ('\\' :: rest) = '\\' :: respellChars rest`: any other backslash stays as it
is. -/
theorem respellChars_backslash {rest : List Char} (h : ∀ d ∈ rest.head?, isQuote d = false) :
    respellChars ('\\' :: rest) = '\\' :: respellChars rest := by
  rw [respellChars, unescapeChars_cons fun _ => h, escapeChars_cons (by decide)]
  rfl

/-- `c = '\\' ∨ c ∈ text`: the characters of a text that is written again are those of the text and
backslashes. -/
theorem of_mem_respellChars {text : List Char} {c : Char} (h : c ∈ respellChars text) :
    c = '\\' ∨ c ∈ text :=
  (of_mem_escapeChars h).imp_right mem_of_mem_unescapeChars

/-- What is written again of a legal text is legal. -/
theorem all_isChar_respellChars {text : List Char} (h : text.all Xml.isChar) :
    (respellChars text).all Xml.isChar :=
  all_isChar_escapeChars (all_isChar_unescapeChars h)

/-- `'\r' ∉ respellChars text`: no carriage return comes in. -/
theorem carriageReturn_notMem_respellChars {text : List Char} (h : '\r' ∉ text) :
    '\r' ∉ respellChars text := fun member =>
  (of_mem_respellChars member).elim (by decide) h

/-! ## What does not occur -/

/-- Whether a character is no quote and no backslash. -/
def isOrdinary (c : Char) : Bool := !isQuote c && c != '\\'

/-- `text.head? = some c`: an ordinary character in front of an unescaped text was there before. -/
theorem head?_unescapeChars {text : List Char} {c : Char} (ordinary : isOrdinary c)
    (h : (unescapeChars text).head? = some c) : text.head? = some c := by
  fun_induction unescapeChars text with
  | case1 => cases h
  | case2 text ih =>
      cases h
      cases ordinary
  | case3 text ih =>
      cases h
      cases ordinary
  | case4 d text single double ih => exact h

/-- `text.head? = some c`: so was one in front of an escaped text. -/
theorem head?_escapeChars {text : List Char} {c : Char} (ordinary : isOrdinary c)
    (h : (escapeChars text).head? = some c) : text.head? = some c := by
  cases text with
  | nil => cases h
  | cons d text =>
      rw [escapeChars] at h
      split at h
      · cases h
        cases ordinary
      · exact h

section

variable {first second : Char} (one : isOrdinary first) (two : isOrdinary second)
include one two

/-- `[first, second] <:+: text`: two characters that follow each other when escapes are read do so
in the text. -/
theorem infix_of_infix_unescapeChars {text : List Char}
    (h : [first, second] <:+: unescapeChars text) :
    [first, second] <:+: text := by
  fun_induction unescapeChars text with
  | case1 => exact h
  | case2 text ih =>
      rw [List.infix_cons_iff, List.cons_prefix_cons] at h
      rcases h with ⟨rfl, -⟩ | h
      · cases one
      · exact (ih h).trans (List.suffix_append ['\\', '\''] text).isInfix
  | case3 text ih =>
      rw [List.infix_cons_iff, List.cons_prefix_cons] at h
      rcases h with ⟨rfl, -⟩ | h
      · cases one
      · exact (ih h).trans (List.suffix_append ['\\', '"'] text).isInfix
  | case4 c text single double ih =>
      rw [List.infix_cons_iff, List.cons_prefix_cons] at h ⊢
      refine h.imp (fun begins => ⟨begins.1, ?_⟩) ih
      obtain ⟨more, equal⟩ := begins.2
      have there : (unescapeChars text).head? = some second := by rw [← equal]; rfl
      obtain ⟨behind, rfl⟩ := List.head?_eq_some_iff.1 (head?_unescapeChars two there)
      exact ⟨behind, rfl⟩

/-- `[first, second] <:+: text`: two ordinary characters side by side in an escaped text were so
before. -/
theorem infix_of_infix_escapeChars {text : List Char} (h : [first, second] <:+: escapeChars text) :
    [first, second] <:+: text := by
  induction text with
  | nil => exact h
  | cons c text ih =>
      have later := List.suffix_cons c text
      rw [escapeChars] at h
      split at h
      · next single =>
        obtain rfl : c = '\'' := by simpa using single
        simp only [List.infix_cons_iff, List.cons_prefix_cons] at h
        rcases h with ⟨rfl, -⟩ | ⟨rfl, -⟩ | h
        · cases one
        · cases one
        · exact (ih h).trans later.isInfix
      · rw [List.infix_cons_iff, List.cons_prefix_cons] at h
        rcases h with ⟨same, more, equal⟩ | h
        · have there : (escapeChars text).head? = some second := by rw [← equal]; rfl
          obtain ⟨behind, rfl⟩ := List.head?_eq_some_iff.1 (head?_escapeChars two there)
          exact ⟨[], behind, by rw [same]; rfl⟩
        · exact (ih h).trans later.isInfix

/-- **Two characters that follow each other when a text is written again** do so in the text:
`[first, second] <:+: text`. -/
theorem infix_of_infix_respellChars {text : List Char}
    (h : [first, second] <:+: respellChars text) :
    [first, second] <:+: text :=
  infix_of_infix_unescapeChars one two (infix_of_infix_escapeChars one two h)

end

/-! ## Comments and instructions -/

/-- `Xml.isCommentText content ↔ ¬['-', '-'] <:+: content ++ ['-']`: two hyphens do not follow each
other in a comment with a hyphen behind it. -/
theorem isCommentText_iff {content : List Char} :
    Xml.isCommentText content ↔ ¬['-', '-'] <:+: content ++ ['-'] := by
  have parts : ['-', '-'] <:+: content ++ ['-'] ↔
      ['-', '-'] <:+: content ∨ content.getLast? = some '-' := by
    induction content with
    | nil => decide
    | cons c content ih =>
        rw [List.cons_append, List.infix_cons_iff, ih, List.infix_cons_iff, or_assoc]
        cases content with
        | nil =>
            simp only [List.nil_append, List.cons_prefix_cons, List.infix_nil, List.prefix_nil,
              and_true, List.cons_ne_nil, and_false, false_or, or_false, List.getLast?_nil,
              reduceCtorEq, List.getLast?_singleton, Option.some.injEq]
            exact eq_comm
        | cons d content =>
            simp only [List.getLast?_cons_cons, List.cons_append, List.cons_prefix_cons,
              List.nil_prefix]
  rw [parts, not_or, ← Text.contains_iff]
  simp [Xml.isCommentText]

/-- A proper comment is proper when it is written again. -/
theorem isProperComment_respellChars {content : List Char} (h : Xml.IsProperComment content) :
    Xml.IsProperComment (respellChars content) where
  legal := all_isChar_respellChars h.legal
  lines := carriageReturn_notMem_respellChars h.lines
  inside := by
    have inside := isCommentText_iff.1 h.inside
    rw [isCommentText_iff]
    intro part
    have hyphen : respellChars content ++ ['-'] = respellChars (content ++ ['-']) := by
      rw [respellChars_append (by simp [isQuote])]
      rfl
    rw [hyphen] at part
    exact inside (infix_of_infix_respellChars (by decide) (by decide) part)

/-- A text begins with a blank when it is written again only if it does so itself. -/
theorem isBlank_head?_respellChars {text : List Char}
    (h : ∀ c ∈ text.head?, Xml.isBlank c = false) :
    ∀ c ∈ (respellChars text).head?, Xml.isBlank c = false := by
  intro c first
  by_cases ordinary : isOrdinary c
  · exact h c (head?_unescapeChars ordinary (head?_escapeChars ordinary first))
  · have known : c = '\\' ∨ c = '\'' ∨ c = '"' := by
      simp only [isOrdinary, isQuote] at ordinary
      grind
    rcases known with rfl | rfl | rfl <;> rfl

/-- So is a proper instruction. -/
theorem isProperInstruction_respellChars {target data : List Char}
    (h : Xml.IsProperInstruction target data) :
    Xml.IsProperInstruction target (respellChars data) where
  name := h.name
  notXml := h.notXml
  legal := all_isChar_respellChars h.legal
  lines := carriageReturn_notMem_respellChars h.lines
  inside part := h.inside (infix_of_infix_respellChars (by decide) (by decide) part)
  trimmed := isBlank_head?_respellChars h.trimmed

/-! ## Values -/

/-- **The value of an attribute as it is written again.** A double quote stands behind it, so a
backslash at its end is lost. -/
def respellValue : List Xml.Piece → List Xml.Piece
  | [] => []
  | [.char '\\'] => []
  | .char '\\' :: .char '\'' :: rest => .char '\\' :: .char '\'' :: respellValue rest
  | .char '\'' :: rest => .char '\\' :: .char '\'' :: respellValue rest
  | piece :: rest => piece :: respellValue rest

/-- `piece = .char '\\' ∨ piece ∈ value`: the pieces of a value that is written again are those of
the value and backslashes. -/
theorem of_mem_respellValue {value : List Xml.Piece} {piece : Xml.Piece}
    (h : piece ∈ respellValue value) : piece = .char '\\' ∨ piece ∈ value := by
  fun_induction respellValue value with
  | case1 => cases h
  | case2 => cases h
  | case3 more ih =>
      simp only [List.mem_cons] at h ⊢
      tauto
  | case4 more ih =>
      simp only [List.mem_cons] at h ⊢
      tauto
  | case5 other more notLast notEscape notSingle ih =>
      simp only [List.mem_cons] at h ⊢
      tauto

/-- Names have no quotes and no backslashes. -/
theorem plain_of_isName {name : List Char} (h : Xml.isName name) :
    ∀ c ∈ name, c ≠ '\'' ∧ c ≠ '\\' := by
  intro c member
  have known := Xml.isNameChar_of_mem h member
  exact ⟨Xml.ne_of_isNameChar known (by decide), Xml.ne_of_isNameChar known (by decide)⟩

/-- What is written for other pieces than a single quote begins with no quote. -/
theorem isQuote_head?_writeValue {piece : Xml.Piece} (h : piece ≠ .char '\'') (rest : List Char) :
    ∀ d ∈ (piece.writeValue ++ rest).head?, isQuote d = false := by
  cases piece with
  | reference name => simp [Xml.Piece.writeValue, Xml.referenceText, isQuote]
  | char c =>
      have single : c ≠ '\'' := fun same => h (by rw [same])
      show ∀ d ∈ (Xml.escapeValueChar c ++ rest).head?, isQuote d = false
      unfold Xml.escapeValueChar
      split
      iterate 7 simp [isQuote]
      simp_all [isQuote]

/-- What is written for other pieces than a single quote and a backslash has none of them. -/
theorem plain_writeValue {piece : Xml.Piece} (h : piece.IsSound) (single : piece ≠ .char '\'')
    (backslash : piece ≠ .char '\\') : ∀ c ∈ piece.writeValue, c ≠ '\'' ∧ c ≠ '\\' := by
  cases piece with
  | reference name =>
      have known : Xml.IsEntityName name := h
      intro c member
      simp only [Xml.Piece.writeValue, Xml.referenceText, List.cons_append, List.mem_cons,
        List.mem_append, List.not_mem_nil, or_false] at member
      rcases member with rfl | member | rfl
      · decide
      · exact plain_of_isName known.isName c member
      · decide
  | char c =>
      have one : c ≠ '\'' := fun same => single (by rw [same])
      have two : c ≠ '\\' := fun same => backslash (by rw [same])
      show ∀ d ∈ Xml.escapeValueChar c, d ≠ '\'' ∧ d ≠ '\\'
      unfold Xml.escapeValueChar
      split
      iterate 7 decide
      simpa using ⟨one, two⟩

/-- **A value is written again,** given the double quote behind it. -/
theorem respellChars_value {value : List Xml.Piece} (h : ∀ piece ∈ value, piece.IsSound)
    (rest : List Char) :
    respellChars (value.flatMap Xml.Piece.writeValue ++ '"' :: rest) =
      (respellValue value).flatMap Xml.Piece.writeValue ++ '"' :: respellChars rest := by
  have single : (Xml.Piece.char '\'').writeValue = ['\''] := rfl
  have backslash : (Xml.Piece.char '\\').writeValue = ['\\'] := rfl
  fun_induction respellValue value with
  | case1 => exact respellChars_cons (by decide) rest
  | case2 => exact respellChars_double rest
  | case3 more ih =>
      simp only [List.forall_mem_cons] at h
      simp only [List.flatMap_cons, single, backslash, List.cons_append, List.nil_append,
        respellChars_escaped, ih h.2.2]
  | case4 more ih =>
      simp only [List.forall_mem_cons] at h
      simp only [List.flatMap_cons, single, backslash, List.cons_append, List.nil_append,
        respellChars_single, ih h.2]
  | case5 piece more notLast notEscape notSingle ih =>
      rw [List.forall_mem_cons] at h
      rw [List.flatMap_cons, List.flatMap_cons, List.append_assoc, List.append_assoc, ← ih h.2]
      by_cases same : piece = .char '\\'
      · subst same
        rw [backslash, List.singleton_append, List.singleton_append, respellChars_backslash]
        -- the piece behind the backslash is there, and it is no single quote
        cases more with
        | nil => exact absurd rfl (notLast rfl)
        | cons next more =>
            rw [List.flatMap_cons, List.append_assoc]
            exact isQuote_head?_writeValue (fun equal => notEscape more rfl (by rw [equal])) _
      · exact respellChars_plain (plain_writeValue h.1 notSingle same) _

/-- **A namespace as it is written again.** -/
def respellUri (uri : List Char) : List Char :=
  Xml.plainText (respellValue (uri.map .char))

/-- `(plainText pieces).map .char = pieces` where all pieces are characters. -/
theorem map_plainText {pieces : List Xml.Piece} (h : ∀ piece ∈ pieces, ∃ c, piece = .char c) :
    (Xml.plainText pieces).map .char = pieces := by
  induction pieces with
  | nil => rfl
  | cons piece pieces ih =>
      rw [List.forall_mem_cons] at h
      obtain ⟨c, rfl⟩ := h.1
      exact congrArg (Xml.Piece.char c :: ·) (ih h.2)

/-- `respellValue (text.map .char) = (respellUri text).map .char`: a value without references is
written again as a text. -/
theorem respellValue_map (text : List Char) :
    respellValue (text.map .char) = (respellUri text).map .char := by
  refine (map_plainText fun piece member => ?_).symm
  rcases of_mem_respellValue member with rfl | member
  · exact ⟨_, rfl⟩
  · obtain ⟨c, -, rfl⟩ := List.mem_map.1 member
    exact ⟨c, rfl⟩

/-- `c = '\\' ∨ c ∈ uri`: what is written again of a namespace has no new characters but
backslashes. -/
theorem of_mem_respellUri {uri : List Char} {c : Char} (h : c ∈ respellUri uri) :
    c = '\\' ∨ c ∈ uri := by
  have member : .char c ∈ respellValue (uri.map .char) := by
    rw [respellValue_map]
    exact List.mem_map_of_mem h
  simpa using of_mem_respellValue member

/-! ## Nodes -/

/-- A binding as it is written again. -/
def respellBinding (binding : Xml.Binding) : Xml.Binding :=
  { binding with uri := respellUri binding.uri }

/-- An attribute as it is written again. -/
def respellAttribute (entry : Xml.Attribute) : Xml.Attribute :=
  ⟨entry.name, none, respellValue entry.value⟩

/-- The start of an element as it is written again. -/
def respellHead (head : Xml.Head) : Xml.Head :=
  ⟨head.name, none, head.bindings.map respellBinding, head.attributes.map respellAttribute,
    head.line⟩

mutual

/-- **A node as it is written again.** -/
def respell : Xml.Node → Xml.Node
  | .text content => .text (respellChars content)
  | .comment content => .comment (respellChars content)
  | .instruction target data => .instruction target (respellChars data)
  | .reference name => .reference name
  | .element head children => .element (respellHead head) (respellAll children)

/-- Nodes as they are written again. -/
def respellAll : List Xml.Node → List Xml.Node
  | [] => []
  | node :: rest => respell node :: respellAll rest

end

/-- `respellAll nodes = nodes.map respell`. -/
theorem respellAll_eq_map (nodes : List Xml.Node) : respellAll nodes = nodes.map respell := by
  induction nodes with
  | nil => rfl
  | cons node nodes ih => rw [respellAll, ih, List.map_cons]

/-- `(respell node).isText = node.isText`. -/
theorem isText_respell (node : Xml.Node) : (respell node).isText = node.isText := by
  cases node <;> rfl

/-! ## What is written for them -/

/-- A key and a value are written again. -/
theorem respellChars_entry {key : List Char} (plain : ∀ c ∈ key, c ≠ '\'' ∧ c ≠ '\\')
    {value : List Xml.Piece} (h : ∀ piece ∈ value, piece.IsSound) (rest : List Char) :
    respellChars (' ' :: key ++ "=\"".toList ++ value.flatMap Xml.Piece.writeValue ++ ['"'] ++ rest) =
      ' ' :: key ++ "=\"".toList ++ (respellValue value).flatMap Xml.Piece.writeValue ++ ['"'] ++
        respellChars rest := by
  have front : ∀ c ∈ ' ' :: key ++ "=\"".toList, c ≠ '\'' ∧ c ≠ '\\' :=
    List.forall_mem_append.2 ⟨List.forall_mem_cons.2 ⟨by decide, plain⟩, by decide⟩
  have written := respellChars_plain front (value.flatMap Xml.Piece.writeValue ++ '"' :: rest)
  rw [respellChars_value h] at written
  simpa only [List.append_assoc, List.singleton_append] using written

/-- What is written for a binding is, written again, what is written for it respelled. -/
theorem respellChars_binding {binding : Xml.Binding} (h : binding.IsSound) (rest : List Char) :
    respellChars (binding.write ++ rest) =
      (respellBinding binding).write ++ respellChars rest := by
  have plain : ∀ c ∈ binding.key, c ≠ '\'' ∧ c ≠ '\\' := by
    unfold Xml.Binding.key
    split
    · decide
    · next lead found =>
      have name := (Xml.isPlainName_iff.1 (h.lead lead found)).1
      exact List.forall_mem_append.2 ⟨by decide, plain_of_isName name⟩
  have sound : ∀ piece ∈ binding.uri.map Xml.Piece.char, piece.IsSound := by
    rw [List.forall_mem_map]
    exact fun c member => List.all_eq_true.1 h.legal c member
  have value (uri : List Char) : Xml.escapeValue uri =
      (uri.map Xml.Piece.char).flatMap Xml.Piece.writeValue := by
    rw [List.flatMap_map]
    rfl
  have written := respellChars_entry plain sound rest
  rw [respellValue_map, ← value, ← value] at written
  rw [Xml.Binding.write_eq, Xml.Binding.write_eq]
  exact written

/-- The same for an attribute. -/
theorem respellChars_attribute {entry : Xml.Attribute} (h : entry.IsSound) (rest : List Char) :
    respellChars (entry.write ++ rest) =
      (respellAttribute entry).write ++ respellChars rest :=
  respellChars_entry (plain_of_isName h.name.isProper.isName) h.value rest

/-- What is written one after another is written again so. -/
theorem respellChars_flatMap {α : Type} {values : List α} {write : α → List Char} {again : α → α}
    (h : ∀ value ∈ values, ∀ rest,
      respellChars (write value ++ rest) = write (again value) ++ respellChars rest)
    (rest : List Char) :
    respellChars (values.flatMap write ++ rest) =
      (values.map again).flatMap write ++ respellChars rest := by
  induction values with
  | nil => rfl
  | cons value values ih =>
      rw [List.forall_mem_cons] at h
      rw [List.flatMap_cons, List.append_assoc, h.1, ih h.2, List.map_cons, List.flatMap_cons,
        List.append_assoc]

/-- The same for a start tag. -/
theorem respellChars_head {head : Xml.Head} (h : head.IsSound) (rest : List Char) :
    respellChars (head.write ++ rest) = (respellHead head).write ++ respellChars rest := by
  have bindings : ∀ binding ∈ head.bindings, ∀ rest, respellChars (binding.write ++ rest) =
      (respellBinding binding).write ++ respellChars rest :=
    fun binding member => respellChars_binding (h.bindings binding member)
  have attributes : ∀ entry ∈ head.attributes, ∀ rest, respellChars (entry.write ++ rest) =
      (respellAttribute entry).write ++ respellChars rest :=
    fun entry member => respellChars_attribute (h.attributes entry member)
  rw [Xml.Head.write, List.append_assoc, List.append_assoc,
    respellChars_plain (plain_of_isName h.name.isProper.isName), respellChars_flatMap bindings,
    respellChars_flatMap attributes, Xml.Head.write, List.append_assoc, List.append_assoc]
  rfl

/-- What is written for a character of text begins with a quote only if it is one. -/
theorem isQuote_head?_escapeText {text : List Char} (h : ∀ d ∈ text.head?, isQuote d = false) :
    ∀ d ∈ (Xml.escapeText text).head?, isQuote d = false := by
  cases text with
  | nil => simp
  | cons c text =>
      have other := h c rfl
      show ∀ d ∈ (Xml.escapeTextChar c ++ Xml.escapeText text).head?, isQuote d = false
      unfold Xml.escapeTextChar
      split
      iterate 4 simp [isQuote]
      simpa using other

/-- `escapeText (c :: text) = escapeTextChar c ++ escapeText text`. -/
theorem escapeText_cons (c : Char) (text : List Char) :
    Xml.escapeText (c :: text) = Xml.escapeTextChar c ++ Xml.escapeText text :=
  List.flatMap_cons

/-- What is written for a character of text other than a single quote and a backslash has none of
them. -/
theorem plain_escapeTextChar {c : Char} (h : c ≠ '\'' ∧ c ≠ '\\') :
    ∀ d ∈ Xml.escapeTextChar c, d ≠ '\'' ∧ d ≠ '\\' := by
  unfold Xml.escapeTextChar
  split
  iterate 4 decide
  simpa using h

/-- **Text is written again as the text that is written again:**
`respellChars (Xml.escapeText text) = Xml.escapeText (respellChars text)`. -/
theorem respellChars_escapeText (text : List Char) :
    respellChars (Xml.escapeText text) = Xml.escapeText (respellChars text) := by
  have single : Xml.escapeTextChar '\'' = ['\''] := rfl
  have double : Xml.escapeTextChar '"' = ['"'] := rfl
  have backslash : Xml.escapeTextChar '\\' = ['\\'] := rfl
  induction text using unescapeChars.induct with
  | case1 => rfl
  | case2 text ih =>
      simp only [respellChars_escaped, escapeText_cons, single, backslash, List.cons_append,
        List.nil_append, ih]
  | case3 text ih =>
      simp only [respellChars_double, escapeText_cons, double, backslash, List.cons_append,
        List.nil_append, ih]
  | case4 c text notSingle notDouble ih =>
      by_cases quote : c = '\''
      · subst quote
        simp only [respellChars_single, escapeText_cons, single, backslash, List.cons_append,
          List.nil_append, ih]
      by_cases slash : c = '\\'
      · subst slash
        have other : ∀ d ∈ text.head?, isQuote d = false := by
          intro d first
          obtain ⟨more, rfl⟩ := List.head?_eq_some_iff.1 first
          have one : d ≠ '\'' := fun same => notSingle more rfl (by rw [same])
          have two : d ≠ '"' := fun same => notDouble more rfl (by rw [same])
          simp [isQuote, one, two]
        rw [respellChars_backslash other, escapeText_cons, escapeText_cons, backslash,
          List.singleton_append, respellChars_backslash (isQuote_head?_escapeText other), ih]
        rfl
      · rw [respellChars_cons ⟨quote, slash⟩, escapeText_cons, escapeText_cons,
          respellChars_plain (plain_escapeTextChar ⟨quote, slash⟩), ih]

/-- Markup begins with one of its characters. -/
theorem exists_write_eq_cons {node : Xml.Node} (h : node.isText = false) :
    ∃ c rest, node.write = c :: rest ∧ (c = '<' ∨ c = '&') := by
  cases node with
  | text content => cases h
  | reference name => exact ⟨_, _, rfl, .inr rfl⟩
  | comment content => exact ⟨_, _, rfl, .inl rfl⟩
  | instruction target data => exact ⟨_, _, rfl, .inl rfl⟩
  | element head children =>
      rw [Xml.Node.write_element]
      split <;> exact ⟨_, _, rfl, .inl rfl⟩

/-- What is written for a node that is no text opens with no quote. -/
theorem isQuote_head?_write {node : Xml.Node} (h : node.isText = false) (rest : List Char) :
    ∀ d ∈ (node.write ++ rest).head?, isQuote d = false := by
  obtain ⟨c, written, begins, rfl | rfl⟩ := exists_write_eq_cons h
  all_goals
    rw [begins]
    simp only [List.cons_append, List.head?_cons, Option.mem_some_iff, forall_eq']
    decide

/-- Nor does what is written for nodes, the first of which is no text. -/
theorem isQuote_head?_writeNodes {nodes : List Xml.Node}
    (h : ∀ node ∈ nodes.head?, node.isText = false) {rest : List Char}
    (ends : ∀ d ∈ rest.head?, isQuote d = false) :
    ∀ d ∈ (Xml.writeNodes nodes ++ rest).head?, isQuote d = false := by
  cases nodes with
  | nil => exact ends
  | cons node nodes =>
      rw [Xml.writeNodes, List.append_assoc]
      exact isQuote_head?_write (h node rfl) _

/-- What is written for a comment, written again. -/
theorem respellChars_comment (content rest : List Char) :
    respellChars (Xml.writeComment content ++ rest) =
      Xml.writeComment (respellChars content) ++ respellChars rest := by
  have front : ∀ c ∈ "<!--".toList, c ≠ '\'' ∧ c ≠ '\\' := by decide
  have behind : ∀ c ∈ "-->".toList, c ≠ '\'' ∧ c ≠ '\\' := by decide
  have inner : respellChars (content ++ ("-->".toList ++ rest)) =
      respellChars content ++ respellChars ("-->".toList ++ rest) :=
    respellChars_append fun _ => by simp [isQuote]
  rw [Xml.writeComment, List.append_assoc, List.append_assoc, respellChars_plain front, inner,
    respellChars_plain behind, Xml.writeComment, List.append_assoc, List.append_assoc]

/-- The markup of an element is written again if its content is. -/
theorem respellChars_element {head : Xml.Head} (h : head.IsSound) {children : List Xml.Node}
    (content : ∀ rest : List Char, (∀ d ∈ rest.head?, isQuote d = false) →
      respellChars (Xml.writeNodes children ++ rest) =
        Xml.writeNodes (respellAll children) ++ respellChars rest) (rest : List Char) :
    respellChars ((Xml.Node.element head children).write ++ rest) =
      (Xml.Node.element (respellHead head) (respellAll children)).write ++ respellChars rest := by
  have closing : ∀ c ∈ "/>".toList, c ≠ '\'' ∧ c ≠ '\\' := by decide
  have finish : ∀ c ∈ "</".toList ++ head.name.text ++ ['>'], c ≠ '\'' ∧ c ≠ '\\' :=
    List.forall_mem_append.2 ⟨List.forall_mem_append.2
      ⟨by decide, plain_of_isName h.name.isProper.isName⟩, by decide⟩
  cases children with
  | nil =>
      have written : (Xml.Node.element head []).write = '<' :: (head.write ++ "/>".toList) := rfl
      have again : (Xml.Node.element (respellHead head) (respellAll [])).write =
          '<' :: ((respellHead head).write ++ "/>".toList) := rfl
      rw [written, again, List.cons_append, respellChars_cons (by decide), List.append_assoc,
        respellChars_head h, respellChars_plain closing, List.cons_append, List.append_assoc]
  | cons child children =>
      have shape (head : Xml.Head) (child : Xml.Node) (children : List Xml.Node) (rest : List Char) :
          (Xml.Node.element head (child :: children)).write ++ rest =
            '<' :: (head.write ++ '>' :: (Xml.writeNodes (child :: children) ++
              (("</".toList ++ head.name.text ++ ['>']) ++ rest))) := by
        simp [Xml.Node.write, Xml.writeElement]
      have inner := content (("</".toList ++ head.name.text ++ ['>']) ++ rest) (by simp [isQuote])
      rw [shape, respellChars_cons (by decide), respellChars_head h, respellChars_cons (by decide),
        inner, respellChars_plain finish, respellAll, shape]
      rfl

/-- `respellChars text = [] ↔ text = []`. -/
theorem respellChars_eq_nil {text : List Char} : respellChars text = [] ↔ text = [] := by
  refine ⟨fun empty => ?_, fun empty => by rw [empty]; rfl⟩
  fun_cases unescapeChars text with
  | case1 => rfl
  | case2 text => simp [respellChars_escaped] at empty
  | case3 text => simp [respellChars_double] at empty
  | case4 c text single double =>
      rw [respellChars, unescapeChars, escapeChars] at empty
      · split at empty <;> cases empty
      · exact single
      · exact double

/-- What is written for an instruction, written again: its target has neither quotes nor
backslashes. -/
theorem respellChars_instruction {target data : List Char} (h : Xml.IsProperInstruction target data)
    (rest : List Char) :
    respellChars (Xml.writeInstruction target data ++ rest) =
      Xml.writeInstruction target (respellChars data) ++ respellChars rest := by
  have front : ∀ c ∈ "<?".toList ++ target, c ≠ '\'' ∧ c ≠ '\\' :=
    List.forall_mem_append.2 ⟨by decide, plain_of_isName h.name⟩
  have behind : ∀ c ∈ "?>".toList, c ≠ '\'' ∧ c ≠ '\\' := by decide
  unfold Xml.writeInstruction
  simp only [List.isEmpty_iff, respellChars_eq_nil]
  split
  · rw [List.append_assoc, respellChars_plain front, respellChars_plain behind,
      List.append_assoc ("<?".toList ++ target)]
  · have inner : respellChars (data ++ ("?>".toList ++ rest)) =
        respellChars data ++ respellChars ("?>".toList ++ rest) :=
      respellChars_append fun _ => by simp [isQuote]
    rw [← List.append_assoc, List.append_assoc, List.append_assoc, respellChars_plain front,
      List.cons_append, respellChars_cons (by decide), inner, respellChars_plain behind]
    simp only [List.append_assoc, List.cons_append]

mutual

/-- **The markup of a node is written again as the markup of the node that is written again.** -/
theorem respellChars_write (node : Xml.Node) (h : node.IsSound) {rest : List Char}
    (ends : node.isText → ∀ d ∈ rest.head?, isQuote d = false) :
    respellChars (node.write ++ rest) = (respell node).write ++ respellChars rest := by
  match node with
  | .text content =>
      rw [respellChars_append fun _ => ends rfl]
      exact congrArg (· ++ respellChars rest) (respellChars_escapeText content)
  | .comment content => exact respellChars_comment content rest
  | .instruction target data =>
      cases h with
      | instruction proper => exact respellChars_instruction proper rest
  | .reference name =>
      cases h with
      | reference known =>
          refine respellChars_plain ?_ rest
          refine List.forall_mem_cons.2 ⟨by decide, List.forall_mem_append.2 ⟨?_, by decide⟩⟩
          exact plain_of_isName known.isName
  | .element head children =>
      exact respellChars_element h.head
        (fun _ => respellChars_writeNodes children h.children h.apart) rest

/-- **The markup of nodes is written again as the markup of the nodes that are written again.** -/
theorem respellChars_writeNodes (nodes : List Xml.Node) (h : ∀ node ∈ nodes, node.IsSound)
    (apart : Xml.AreApart nodes) {rest : List Char} (ends : ∀ d ∈ rest.head?, isQuote d = false) :
    respellChars (Xml.writeNodes nodes ++ rest) =
      Xml.writeNodes (respellAll nodes) ++ respellChars rest := by
  match nodes with
  | [] => rfl
  | node :: nodes =>
      rw [List.forall_mem_cons] at h
      have next : node.isText → ∀ other ∈ nodes.head?, other.isText = false := by
        intro isText other first
        obtain ⟨more, rfl⟩ := List.head?_eq_some_iff.1 first
        have both := (List.isChain_cons_cons.1 apart).1
        simpa [isText] using both
      have rest' := respellChars_writeNodes nodes h.2 apart.tail ends
      rw [Xml.writeNodes, List.append_assoc,
        respellChars_write node h.1 fun isText => isQuote_head?_writeNodes (next isText) ends,
        rest', respellAll, Xml.writeNodes, List.append_assoc]

end

/-! ## Sound nodes -/

/-- `respellBinding binding` is sound. -/
theorem isSound_respellBinding {binding : Xml.Binding} (h : binding.IsSound) :
    (respellBinding binding).IsSound where
  legal := by
    rw [List.all_eq_true]
    intro c member
    rcases of_mem_respellUri member with rfl | member
    · decide
    · exact List.all_eq_true.1 h.legal c member
  lead := h.lead

/-- `respellAttribute entry` is sound. -/
theorem isSound_respellAttribute {entry : Xml.Attribute} (h : entry.IsSound) :
    (respellAttribute entry).IsSound where
  name := h.name
  undeclared := h.undeclared
  value piece member := by
    rcases of_mem_respellValue member with rfl | member
    · show Xml.isChar '\\'
      decide
    · exact h.value piece member

/-- `respellHead head` is sound. -/
theorem isSound_respellHead {head : Xml.Head} (h : head.IsSound) : (respellHead head).IsSound where
  name := h.name
  bindings := List.forall_mem_map.2 fun binding member =>
    isSound_respellBinding (h.bindings binding member)
  nodup := by
    rw [respellHead, List.map_map]
    exact h.nodup
  attributes := List.forall_mem_map.2 fun entry member =>
    isSound_respellAttribute (h.attributes entry member)

/-- Texts stand apart as before. -/
theorem areApart_respellAll {nodes : List Xml.Node} (h : Xml.AreApart nodes) :
    Xml.AreApart (respellAll nodes) := by
  rw [respellAll_eq_map]
  refine List.isChain_map_of_isChain respell (fun node next apart => ?_) h
  rwa [isText_respell, isText_respell]

mutual

/-- **A sound node is sound when it is written again.** -/
theorem isSound_respell (node : Xml.Node) (h : node.IsSound) : (respell node).IsSound := by
  match node with
  | .text content =>
      cases h with
      | text legal => exact .text (all_isChar_respellChars legal)
  | .comment content =>
      cases h with
      | comment proper => exact .comment (isProperComment_respellChars proper)
  | .instruction target data =>
      cases h with
      | instruction proper => exact .instruction (isProperInstruction_respellChars proper)
  | .reference name => exact h
  | .element head children =>
      exact .element (isSound_respellHead h.head) (isSound_respellAll children h.children)
        (areApart_respellAll h.apart)

/-- All nodes of `respellAll nodes` are sound. -/
theorem isSound_respellAll (nodes : List Xml.Node) (h : ∀ node ∈ nodes, node.IsSound) :
    ∀ node ∈ respellAll nodes, node.IsSound := by
  match nodes with
  | [] => simp [respellAll]
  | node :: nodes =>
      rw [List.forall_mem_cons] at h
      exact List.forall_mem_cons.2 ⟨isSound_respell node h.1, isSound_respellAll nodes h.2⟩

end

mutual

/-- `(respell node).within = node.within.map respell`: what is in a node that is written again is
what is written again of what is in it. -/
theorem within_respell (node : Xml.Node) : (respell node).within = node.within.map respell := by
  match node with
  | .text content => rfl
  | .comment content => rfl
  | .instruction target data => rfl
  | .reference name => rfl
  | .element head children =>
      rw [respell, Xml.Node.within, withinAll_respellAll children, Xml.Node.within, List.map_cons,
        respell]

/-- `withinAll (respellAll nodes) = (withinAll nodes).map respell`. -/
theorem withinAll_respellAll (nodes : List Xml.Node) :
    Xml.withinAll (respellAll nodes) = (Xml.withinAll nodes).map respell := by
  match nodes with
  | [] => rfl
  | node :: nodes =>
      rw [respellAll, Xml.withinAll, within_respell node, withinAll_respellAll nodes, Xml.withinAll,
        List.map_append]

end

/-- **Nodes that are written again are proper** if the bindings in them are, and if they have no
references, be it in an attribute. -/
theorem isProper_respellAll {nodes : List Xml.Node} (h : ∀ node ∈ nodes, node.IsSound)
    (references : ∀ node ∈ Xml.withinAll nodes, node.isReference = false)
    (heads : ∀ head children, .element head children ∈ Xml.withinAll (respellAll nodes) →
      (∀ binding ∈ head.bindings, binding.IsProper) ∧
        ∀ entry ∈ head.attributes, Xml.IsPlain entry.value) :
    ∀ node ∈ respellAll nodes, node.IsProper := by
  have sound := isSound_respellAll nodes h
  refine Xml.isProper_of_isSound _ sound ?_ fun head children member => ?_
  · rw [withinAll_respellAll, List.forall_mem_map]
    intro node member
    have known := references node member
    cases node with
    | reference name => cases known
    | _ => rfl
  · obtain ⟨bindings, plain⟩ := heads head children member
    have known := (Xml.isSound_of_mem_withinAll sound member).head
    rw [withinAll_respellAll] at member
    obtain ⟨node, there, same⟩ := List.mem_map.1 member
    cases node with
    | element start inner =>
        cases same
        refine known.isProper rfl bindings fun entry member => ⟨?_, plain entry member⟩
        obtain ⟨other, -, rfl⟩ := List.mem_map.1 member
        rfl
    | _ => cases same

end StringCatalog.Resource
