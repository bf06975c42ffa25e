import StringCatalog.Proofs.Resource.Kept
import StringCatalog.Proofs.Resource.Refused

/-! # Plain text in resource documents

* **`Resource.IsTextual`** — a text that is no markup, or has none of the characters of markup.
* **`Resource.IsTextual.embed_eq`** — its content is the escaped text.
* **`Resource.readBytes_render`** — it comes back from a rendered document. -/

namespace StringCatalog

namespace Xml

/-! ## A text inside an element -/

/-- A text inside an element. -/
def wrapped (text : List Char) : List Char :=
  "<string>".toList ++ text ++ "</string>".toList

/-- `wrapped text` is the text between `<string>` and `</string>`. -/
theorem wrapped_eq (text : List Char) :
    wrapped text = "<string>".toList ++ text ++ "</string>".toList :=
  rfl

/-- `joinLineEnds (wrapped text) = wrapped (joinLineEnds text)`: the wrapper has no line ends. -/
theorem joinLineEnds_wrapped (text : List Char) :
    joinLineEnds (wrapped text) = wrapped (joinLineEnds text) := by
  have start : "<string>".toList.getLast? ≠ some '\r' := by decide
  have finish : "</string>".toList.head? ≠ some '\n' := by decide
  rw [wrapped_eq, wrapped_eq, joinLineEnds_append fun _ => finish,
    joinLineEnds_append fun same => absurd same start]
  rfl

/-- A legal text inside an element is read from the element on. -/
theorem Document.ofText?_wrapped {text : List Char} (legal : text.all isChar) :
    Document.ofText? (wrapped text) =
      (Document.ofRoot? Resource.bareContext 1 (wrapped (joinLineEnds text))).bind fun found =>
        if found.2 == some .error then none else some found.1 := by
  have inner : (joinLineEnds text).all isChar :=
    List.all_eq_true.2 fun c member => List.all_eq_true.1 legal c (joinLineEnds_subset text member)
  have whole : (wrapped (joinLineEnds text)).all isChar := by
    rw [wrapped_eq, List.all_append, List.all_append, inner]
    decide
  obtain ⟨rest, begins⟩ : ∃ rest, wrapped (joinLineEnds text) = '<' :: 's' :: rest := ⟨_, rfl⟩
  have joined := joinLineEnds_wrapped text
  rw [begins] at joined whole ⊢
  exact Document.ofText?_root joined whole (by decide)

section

variable {text : List Char} {document : Document}
  (read : Document.ofText? (wrapped text) = some document)
include read

/-- A text that is well formed inside an element is legal. -/
theorem Document.legal_of_wrapped : text.all isChar := by
  have found : Resource.markup? text = some (transplant document.children) := by
    rw [Resource.markup?, ← wrapped_eq, read, Option.map_some]
  exact Resource.all_isChar_of_markup? found

/-- A text that is well formed inside an element is read from the element on, without an error. -/
theorem Document.exists_ofRoot?_of_wrapped :
    ∃ remark, remark ≠ some .error ∧
      Document.ofRoot? Resource.bareContext 1 (wrapped (joinLineEnds text)) =
        some (document, remark) := by
  rw [Document.ofText?_wrapped (Document.legal_of_wrapped read)] at read
  obtain ⟨⟨found, remark⟩, root, accepted⟩ := Option.bind_eq_some_iff.1 read
  dsimp only at accepted
  split at accepted
  · cases accepted
  · next quiet =>
    cases accepted
    exact ⟨remark, by simpa using quiet, root⟩

end

/-! ## Text alone in an element -/

/-- The start of the element that is put around a text. -/
def wrapperHead : Head := ⟨⟨none, "string".toList⟩, none, [], [], 0⟩

/-- The start tag of the wrapper is proper. -/
theorem isProper_wrapperHead : wrapperHead.IsProper :=
  ⟨⟨by decide, by simp [wrapperHead]⟩, by simp [wrapperHead, isBound], by simp [wrapperHead],
    by simp [wrapperHead], by simp [wrapperHead]⟩

/-- The start of the element around a text comes back without a remark. -/
theorem head?_tag_wrapperHead (line : Nat) :
    wrapperHead.tag.head? ⟨{ Doctype.none with remark := none }, false⟩ [] line =
      some ({ wrapperHead with line }, []) :=
  rfl

/-- The frames of an element with text alone in it. -/
def wrapperFrames (text : List Char) : List Frame :=
  .tag wrapperHead.write :: Frame.withText text [.tag ('/' :: wrapperHead.name.text)]

/-- An element with text alone in it is cut into its frames. -/
theorem Frame.split?_wrapper {text : List Char} (h : '<' ∉ text) :
    Frame.split? ("<string>".toList ++ text ++ "</string>".toList) = some (wrapperFrames text) := by
  have first := isProper_wrapperHead.splitFrom_open (text ++ "</string>".toList)
  have last := isProper_wrapperHead.splitFrom_finish []
  have whole : "<string>".toList ++ text ++ "</string>".toList =
      (Frame.tag wrapperHead.write).source ++ (text ++ "</string>".toList) := by
    rw [List.append_assoc]
    rfl
  have closing : "</string>".toList = (Frame.tag ('/' :: wrapperHead.name.text)).source ++ [] := rfl
  rw [Frame.split?, whole, first, Frame.splitFrom_text h, closing, last, Frame.splitFrom]
  simp [behindFrame, behindText, withText, wrapperFrames]

/-- `readPieces? lineFeed text = some ((text.map lineFeed).map .char)`: without references,
characters are read as they are, line ends apart. -/
theorem readPieces?_of_forall {text : List Char} (h : ∀ c ∈ text, c ≠ '&') :
    readPieces? lineFeed text = some ((text.map lineFeed).map .char) := by
  induction text with
  | nil => exact readPieces?_nil lineFeed
  | cons c text ih =>
      rw [List.forall_mem_cons] at h
      rw [readPieces?_cons h.1, ih h.2]
      rfl

/-- The tokens of an element with text alone in it. -/
def wrapperTokens (line : Nat) (text : List Char) : List Token :=
  .start wrapperHead.tag false line ::
    ((if text = [] then [] else [.text (text.map .char)]) ++ [.finish wrapperHead.name.text])

/-- The frames of text alone in an element say its tokens, or do not say anything. -/
theorem Token.ofFrames?_wrapper {text : List Char} (h : ∀ c ∈ text, c ≠ '&') (line : Nat) :
    ofFrames? line (wrapperFrames text) = none ∨
      ofFrames? line (wrapperFrames text) = some (wrapperTokens line (text.map lineFeed)) := by
  have start := isProper_wrapperHead.ofFrame?_open
  have finish := isProper_wrapperHead.ofFrame?_finish
  have noLines : (Frame.tag wrapperHead.write).source.count '\n' = 0 := by decide
  rw [wrapperFrames, wrapperTokens]
  by_cases empty : text = []
  · subst empty
    right
    simp only [Frame.withText, List.isEmpty_nil, if_true, ofFrames?, start, finish, noLines,
      Nat.add_zero, Option.map_some, List.map_nil, List.nil_append]
  · have there : Frame.withText text [.tag ('/' :: wrapperHead.name.text)] =
        [.text text, .tag ('/' :: wrapperHead.name.text)] := if_neg (by simpa using empty)
    have pieces := readPieces?_of_forall h
    -- only what closes a literal section has no place in text
    by_cases shut : Text.contains [']', ']', '>'] text = true
    · left
      have none (line : Nat) : ofFrame? line (.text text) = Option.none := if_pos shut
      simp only [there, ofFrames?, start, none, Option.map_none]
    · right
      have read (line : Nat) : ofFrame? line (.text text) =
          some (.text ((text.map lineFeed).map .char)) := by
        rw [ofFrame?, if_neg shut, pieces, Option.map_some]
      simp only [there, ofFrames?, start, finish, read, noLines, Nat.add_zero, Option.map_some,
        List.map_eq_nil_iff, empty, if_false, List.singleton_append]

/-- The node of a text, if there is any text. -/
def textNodes (text : List Char) : List Node :=
  if text = [] then [] else [.text text]

/-- The tokens of text alone in an element come to the element. -/
theorem Assembly.ofTokens?_wrapper (line : Nat) (text : List Char) :
    ofTokens? ⟨{ Doctype.none with remark := none }, false⟩ none (wrapperTokens line text) =
      some ⟨[], [.element { wrapperHead with line } (textNodes text)], none, []⟩ := by
  rw [ofTokens?, wrapperTokens, textNodes]
  by_cases empty : text = []
  · subst empty
    rfl
  · have received : add? ⟨{ Doctype.none with remark := none }, false⟩
        (check? ⟨{ Doctype.none with remark := none }, false⟩ 1)
        ⟨[⟨{ wrapperHead with line }, [], []⟩], [], none, []⟩ (.text (text.map .char)) =
          some ⟨[⟨{ wrapperHead with line }, [], [.text text]⟩], [], none, []⟩ := by
      rw [add?, referenceNames_map, nodesOf_map empty]
      rfl
    have opened : add? ⟨{ Doctype.none with remark := none }, false⟩
        (check? ⟨{ Doctype.none with remark := none }, false⟩ 1) (start none)
        (.start wrapperHead.tag false line) =
          some ⟨[⟨{ wrapperHead with line }, [], []⟩], [], none, []⟩ := rfl
    have depth : ({ Doctype.none with remark := none } : Doctype).entities.length + 1 = 1 := rfl
    simp only [empty, if_false, List.singleton_append, addAll?, depth, opened, received]
    rfl

/-- A document whose frames are known is read by what they say. -/
theorem Document.ofRoot?_of_split? {context : Context} {line : Nat} {rest : List Char}
    {frames : List Frame} (split : Frame.split? ('<' :: rest) = some frames)
    (epilog : isEpilog (frames.reverse.takeWhile (!·.isTag)) = true) :
    Document.ofRoot? context line ('<' :: rest) =
      ((Token.ofFrames? line frames).bind
        (Assembly.ofTokens? context context.doctype.remark)).bind fun assembly =>
          (onlyElement? assembly.done).map fun (head, children) =>
            (⟨head, children, context.doctype⟩, assembly.remark) := by
  simp only [Document.ofRoot?, split, epilog, Bool.not_true, Bool.false_eq_true, if_false]
  cases (Token.ofFrames? line frames).bind
    (Assembly.ofTokens? context context.doctype.remark) with
  | none => rfl
  | some assembly => cases onlyElement? assembly.done <;> rfl

/-- **Text alone in an element** is read as it is, line ends apart, or not at all. -/
theorem Document.ofText?_wrapper {text : List Char} (legal : text.all isChar)
    (h : ∀ c ∈ text, c ≠ '<' ∧ c ≠ '&') :
    Document.ofText? ("<string>".toList ++ text ++ "</string>".toList) = none ∨
      ∃ document, Document.ofText? ("<string>".toList ++ text ++ "</string>".toList) =
        some document ∧ document.children = textNodes ((joinLineEnds text).map lineFeed) := by
  -- there is nothing else in the text with its line ends joined
  have chars : ∀ c ∈ joinLineEnds text, c ≠ '<' ∧ c ≠ '&' := fun c member =>
    h c (joinLineEnds_subset text member)
  rw [← wrapped_eq, Document.ofText?_wrapped legal]
  generalize joinLineEnds text = inner at chars ⊢
  have split : Frame.split? (wrapped inner) = some (wrapperFrames inner) :=
    Frame.split?_wrapper fun member => (chars '<' member).1 rfl
  obtain ⟨rest, begins⟩ : ∃ rest, wrapped inner = '<' :: rest := ⟨_, rfl⟩
  rw [begins] at split ⊢
  have epilog : isEpilog ((wrapperFrames inner).reverse.takeWhile (!·.isTag)) := by
    unfold wrapperFrames Frame.withText
    split <;> simp [Frame.isTag, isEpilog]
  rw [Document.ofRoot?_of_split? split epilog]
  rcases Token.ofFrames?_wrapper (fun c member => (chars c member).2) 1 with none | tokens
  · left
    rw [none]
    rfl
  · right
    have come : Assembly.ofTokens? Resource.bareContext Resource.bareContext.doctype.remark
        (wrapperTokens 1 (inner.map lineFeed)) = some _ :=
      Assembly.ofTokens?_wrapper 1 (inner.map lineFeed)
    rw [tokens, Option.bind_some, come]
    exact ⟨_, rfl, rfl⟩

end Xml

namespace Resource

/-! ## Texts that are no markup -/

/-- **A text that is no markup,** or has none of the characters of markup. -/
def IsUnmarked (value : String) : Prop :=
  (∀ c ∈ value.toList, c ≠ '<' ∧ c ≠ '&') ∨
    Xml.Document.ofText?
      ("<string>".toList ++ escapeChars value.toList ++ "</string>".toList) = none

/-- **A text that is no markup,** or has none of the characters of markup and no carriage return. A
backslash before a double quote is lost in either case, so there is none. -/
structure IsTextual (value : String) : Prop where
  /-- No backslash stands before a double quote. -/
  quotes : ¬ ['\\', '"'] <:+: value.toList
  /-- The text has none of the characters of markup, or it is not read as markup. -/
  plain : (∀ c ∈ value.toList, c ≠ '<' ∧ c ≠ '&' ∧ c ≠ '\r') ∨
    Xml.Document.ofText?
      ("<string>".toList ++ escapeChars value.toList ++ "</string>".toList) = none

/-- `IsTextual value → IsUnmarked value`: what is plain text is embedded as such. -/
theorem IsTextual.isUnmarked {value : String} (h : IsTextual value) : IsUnmarked value :=
  h.plain.imp_left fun plain c member => ⟨(plain c member).1, (plain c member).2.1⟩

/-- `Xml.transplant (Xml.textNodes text) = ([], Xml.textNodes text)`: text stays as it is in its
new place. -/
theorem transplant_textNodes (text : List Char) :
    Xml.transplant (Xml.textNodes text) = ([], Xml.textNodes text) := by
  unfold Xml.textNodes
  split <;> rfl

/-- `embed value = .ok ([], Xml.textNodes (escapeChars value.toList))`: the content of a text that
is not read as markup is the escaped text. -/
theorem embed_eq_of_eq_none {value : String} (legal : value.toList.all Xml.isChar)
    (missing : Xml.Document.ofText?
      ("<string>".toList ++ escapeChars value.toList ++ "</string>".toList) = none) :
    embed value = .ok ([], Xml.textNodes (escapeChars value.toList)) := by
  -- no text at all is markup
  have nonempty : escapeChars value.toList ≠ [] := by
    intro empty
    rw [empty] at missing
    revert missing
    decide +kernel
  simp only [embed, markup?, missing, Option.map_none, all_isChar_escapeChars legal, if_true,
    Xml.textNodes, nonempty, if_false]

/-- The content of a text without the characters of markup is text, the escaped one if there is no
carriage return in it. -/
theorem exists_embed_eq_of_forall {value : String} (legal : value.toList.all Xml.isChar)
    (plain : ∀ c ∈ value.toList, c ≠ '<' ∧ c ≠ '&') :
    ∃ text, embed value = .ok ([], Xml.textNodes text) ∧
      ('\r' ∉ value.toList → text = escapeChars value.toList) := by
  have clean : ∀ c ∈ escapeChars value.toList, c ≠ '<' ∧ c ≠ '&' := by
    intro c member
    rcases of_mem_escapeChars member with rfl | member
    · decide
    · exact plain c member
  rcases Xml.Document.ofText?_wrapper (all_isChar_escapeChars legal) clean with
    missing | ⟨document, found, same⟩
  · exact ⟨_, embed_eq_of_eq_none legal missing, fun _ => rfl⟩
  · refine ⟨(Xml.joinLineEnds (escapeChars value.toList)).map Xml.lineFeed, ?_, fun lines => ?_⟩
    · simp only [embed, markup?, found, Option.map_some, same, transplant_textNodes]
    · have escaped : '\r' ∉ escapeChars value.toList := fun member =>
        (of_mem_escapeChars member).elim (by decide) lines
      rw [Xml.joinLineEnds_eq escaped, Xml.map_lineFeed escaped]

/-- **The content of a text that is no markup** is the escaped text:
`embed value = .ok ([], Xml.textNodes (escapeChars value.toList))`. -/
theorem IsTextual.embed_eq {value : String} (h : IsTextual value)
    (legal : value.toList.all Xml.isChar) :
    embed value = .ok ([], Xml.textNodes (escapeChars value.toList)) := by
  rcases h.plain with plain | missing
  · obtain ⟨text, embedded, same⟩ := exists_embed_eq_of_forall legal fun c member =>
      ⟨(plain c member).1, (plain c member).2.1⟩
    rw [embedded, same fun member => (plain '\r' member).2.2 rfl]
  · exact embed_eq_of_eq_none legal missing

/-- Text alone comes back as it is. -/
theorem againAll?_textNodes (line : Nat) (text : List Char) :
    Xml.againAll? bareContext [] line (Xml.textNodes text) = some (Xml.textNodes text, []) := by
  unfold Xml.textNodes
  split <;> rfl

/-- `joined (textNodes text) = textNodes text`: one text has nothing to be joined with. -/
theorem joined_textNodes (text : List Char) :
    Xml.joined (Xml.textNodes text) = Xml.textNodes text := by
  cases text <;> rfl

/-- **A text that is no markup is read,** whatever quotes and line ends are in it. -/
theorem IsUnmarked.isReadAlone {name value : String} (h : IsUnmarked value)
    (named : name.toList.all Xml.isChar) (legal : value.toList.all Xml.isChar) :
    IsReadAlone name value := by
  obtain ⟨text, embedded⟩ : ∃ text, embed value = .ok ([], Xml.textNodes text) := by
    rcases h with plain | missing
    · obtain ⟨text, embedded, -⟩ := exists_embed_eq_of_forall legal plain
      exact ⟨text, embedded⟩
    · exact ⟨_, embed_eq_of_eq_none legal missing⟩
  exact isReadAlone_of_embed named legal embedded fun line =>
    ⟨_, [], againAll?_textNodes line _, isQuiet_nil⟩

/-- **A text that is no markup is kept.** -/
theorem IsTextual.isKeptAs {value : String} (h : IsTextual value)
    (legal : value.toList.all Xml.isChar) :
    IsKeptAs value (Xml.textNodes (escapeChars value.toList)) := by
  refine ⟨h.embed_eq legal, fun line => ⟨_, [], againAll?_textNodes line _, isQuiet_nil, ?_⟩⟩
  have inner (text : List Char) : innerText [] (Xml.textNodes text) = text := by
    cases text <;> rfl
  rw [joined_textNodes, inner, unescapeChars_escapeChars h.quotes]

/-! ## Reading a rendered document -/

/-- **Texts that are no markup come back:** `render stem strings` succeeds for named strings whose
identifiers are distinct. The document is read if each text is `IsUnmarked` or `IsReadAlone`, that
is, read in a document of its own; and in any document that is read there is one string for each
slot, under its identifier, and a text that `IsTextual` is the same. -/
theorem readBytes_render (path : Path) {stem : String} {strings : List Translatable}
    (named : ∀ string ∈ strings, IsNamed string) (legal : ∀ string ∈ strings, string.IsLegal)
    (distinct : ((strings.flatMap (slots stem)).map Slot.id).Nodup) :
    ∃ written, render stem strings = .ok written ∧
      ((∀ slot ∈ strings.flatMap (slots stem),
          IsUnmarked slot.translated ∨ IsReadAlone slot.id slot.translated) →
        (Xml.Document.ofText? written.toList).isSome) ∧
      ((Xml.Document.ofText? written.toList).isSome →
        ∃ found, (readBytes path (Text.encode written)).all? = .ok found ∧
          List.Forall₂ (fun slot string => string.name = some slot.id ∧
            (IsTextual slot.translated → string.singular = slot.translated))
              (strings.flatMap (slots stem)) found) := by
  have chars : ∀ slot ∈ strings.flatMap (slots stem), slot.id.toList.all Xml.isChar ∧
      slot.translated.toList.all Xml.isChar := by
    intro slot member
    obtain ⟨string, there, member⟩ := List.mem_flatMap.1 member
    rw [(named string there).slots_eq stem ""] at member
    exact isLegal_of_mem_slots (by decide) (legal string there) member
  have kept : ∀ slot ∈ strings.flatMap (slots stem), IsTextual slot.translated →
      IsKept slot.translated :=
    fun slot member textual => ⟨_, textual.isKeptAs (chars slot member).2⟩
  obtain ⟨written, made, whole, parts⟩ := exists_render_of_isNamed named legal distinct
  refine ⟨written, made, fun kinds => whole fun slot member => ?_, fun isRead => ?_⟩
  · obtain ⟨name, text⟩ := chars slot member
    exact (kinds slot member).elim (fun plain => plain.isReadAlone name text) id
  obtain ⟨document, read⟩ := Option.isSome_iff_exists.1 isRead
  obtain ⟨root, bytes, elements⟩ := parts document read
  obtain ⟨found, all, strings⟩ := forall₂_stringElements path bytes root
  refine ⟨found, all, ?_⟩
  have related := (List.forall₂_and_left _ _).2 ⟨kept, forall₂_comp elements strings⟩
  refine related.imp ?_
  rintro slot string ⟨kept, element, again, known⟩
  refine ⟨by rw [known.name, again.name], fun textual => ?_⟩
  rw [known.singular, again.text (kept textual)]

/-- Texts with quotes, with blanks around them, with the end of a literal section, and with stray
characters of markup come back. -/
theorem readBytes_render_quotes :
    let strings : List Translatable :=
      [⟨"a", some "n", none, some [some "it's \\'so\\'", some "\n ]]> \u00E9 "], none, none, [], none, {}⟩,
        ⟨"b", some "m", none, some [some "1 < 2 & <b>"], none, none, [], none, {}⟩]
    ∃ written found, render "Str" strings = .ok written ∧
      (readBytes (.ofString "a.xml") (Text.encode written)).all? = .ok found ∧
      found.map Translatable.singular =
        ["it's \\'so\\'", "\n ]]> \u00E9 ", "1 < 2 & <b>"] := by
  intro strings
  have named : ∀ string ∈ strings, IsNamed string := by
    simp only [strings, List.forall_mem_cons]
    exact ⟨⟨"n", rfl, by decide⟩, ⟨"m", rfl, by decide⟩, by simp⟩
  have legal : ∀ string ∈ strings, string.IsLegal := by
    simp only [strings, List.forall_mem_cons]
    exact ⟨⟨by decide, by decide⟩, ⟨by decide, by decide⟩, by simp⟩
  have distinct : ((strings.flatMap (slots "Str")).map Slot.id).Nodup := by decide +kernel
  have all : (strings.flatMap (slots "Str")).map Slot.translated =
      ["it's \\'so\\'", "\n ]]> \u00E9 ", "1 < 2 & <b>"] := by decide +kernel
  obtain ⟨written, made, whole, parts⟩ :=
    readBytes_render (.ofString "a.xml") named legal distinct
  have textual : ∀ slot ∈ strings.flatMap (slots "Str"), IsTextual slot.translated := by
    rw [← List.forall_mem_map (P := IsTextual), all]
    simp only [List.forall_mem_cons]
    exact ⟨⟨by decide, .inl (by decide)⟩, ⟨by decide, .inl (by decide)⟩,
      ⟨by decide, .inr (Option.isNone_iff_eq_none.1 (by decide +kernel))⟩, by simp⟩
  obtain ⟨found, read, related⟩ := parts (whole fun slot member =>
    .inl (textual slot member).isUnmarked)
  refine ⟨written, found, made, read, ?_⟩
  have same := ((List.forall₂_and_left _ _).2 ⟨textual, related⟩).imp
    (S := fun slot string => string.singular = slot.translated) fun slot string known =>
      known.2.2 known.1
  rw [← all, ← List.forall₂_eq_eq_eq, List.forall₂_map_left_iff, List.forall₂_map_right_iff]
  exact same.flip

/-- A document with plain text in it and a text in which two prefixes come to be one is not read. -/
theorem readBytes_render_clash :
    let clash := "<o xmlns:r=\"u\"><a xmlns:p=\"u\" xmlns:r=\"w\" p:x=\"1\" r:x=\"2\"/></o>"
    let strings : List Translatable :=
      [⟨"hi", some "m", none, none, none, none, [], none, {}⟩,
        ⟨"a", some "n", none, some [some clash], none, none, [], none, {}⟩]
    (∀ string ∈ strings, IsNamed string) ∧ (∀ string ∈ strings, string.IsLegal) ∧
      ((strings.flatMap (slots "Str")).map Slot.id).Nodup ∧ IsTextual "hi" ∧
      ∃ written, render "Str" strings = .ok written ∧
        ¬ ∃ found, (readBytes (.ofString "a.xml") (Text.encode written)).all? = .ok found := by
  intro clash strings
  have named : ∀ string ∈ strings, IsNamed string := by
    simp only [strings, List.forall_mem_cons]
    exact ⟨⟨"m", rfl, by decide⟩, ⟨"n", rfl, by decide⟩, by simp⟩
  have legal : ∀ string ∈ strings, string.IsLegal := by
    simp only [strings, List.forall_mem_cons]
    exact ⟨⟨by decide, by decide⟩, ⟨by decide, by decide +kernel⟩, by simp⟩
  have unread : ∀ written ∈ (render "Str" strings).toOption,
      (Xml.Document.ofText? written.toList).isNone := by
    decide +kernel
  have distinct : ((strings.flatMap (slots "Str")).map Slot.id).Nodup := by decide +kernel
  obtain ⟨items, made, -⟩ := exists_items_of_isNamed named legal distinct
  refine ⟨named, legal, distinct, ⟨by decide, .inl (by decide)⟩, write items, made, ?_⟩
  rintro ⟨found, read⟩
  obtain ⟨document, there, -⟩ := exists_document read
  rw [made] at unread
  rw [ofBytes?_write, Option.isNone_iff_eq_none.1 (unread _ rfl)] at there
  cases there

end Resource

end StringCatalog
