import StringCatalog.Proofs.Resource.EscapedTag
import StringCatalog.Proofs.Resource.PlainText

/-! # Markup in strings

A text that is well formed inside an element comes into the element that is written for it with its
quotes escaped:

* **`Resource.exists_ofText?_escapeChars`** — it is still well formed, with elements of the same
  names, if its attributes can be read as before.
* **`Resource.ofText?_escapeChars_eq_none`** — it is not, if one of its values is in single quotes.
* **`Resource.render_markup`** — what follows for the elements of a rendered document. -/

namespace StringCatalog

namespace Resource

open Xml

/-! ## A text inside an element -/

/-- `wrapped (escapeChars text) = escapeChars (wrapped text)`: there is no quote in the wrapper. -/
theorem wrapped_escapeChars (text : List Char) :
    wrapped (escapeChars text) = escapeChars (wrapped text) := by
  rw [wrapped_eq, wrapped_eq, escapeChars_append, escapeChars_append,
    @escapeChars_plain "<string>".toList (by decide),
    @escapeChars_plain "</string>".toList (by decide)]

/-- What comes behind the last tag stays an epilog with its quotes escaped. -/
theorem isEpilog_takeWhile_escapeFrame {frames : List Frame}
    (h : isEpilog (frames.reverse.takeWhile (!·.isTag))) :
    isEpilog ((frames.map escapeFrame).reverse.takeWhile (!·.isTag)) := by
  rw [← List.map_reverse, List.takeWhile_map]
  have same : ((!·.isTag) ∘ escapeFrame : Frame → Bool) = (!·.isTag) :=
    funext fun frame => congrArg (!·) (isTag_escapeFrame frame)
  rw [same]
  exact isEpilog_escapeFrame h

/-- `spellingsIn (wrapped text) = frames.flatMap Frame.spellings`: the attributes in a wrapped text
are those of its frames. -/
theorem frames_of_spellings {text : List Char} {frames : List Frame}
    (split : Frame.split? (wrapped (joinLineEnds text)) = some frames) :
    spellingsIn (wrapped text) = frames.flatMap Frame.spellings := by
  rw [spellingsIn, joinLineEnds_wrapped, split]
  rfl

/-- A text with its quotes escaped is read by its frames with their quotes escaped. -/
theorem ofRoot?_escapeChars {text : List Char} {frames : List Frame}
    (split : Frame.split? (wrapped text) = some frames)
    (epilog : isEpilog (frames.reverse.takeWhile (!·.isTag))) :
    Document.ofRoot? bareContext 1 (wrapped (escapeChars text)) =
      ((Token.ofFrames? 1 (frames.map escapeFrame)).bind
        (Assembly.ofTokens? bareContext none)).bind fun assembly =>
          (onlyElement? assembly.done).map fun (head, children) =>
            (⟨head, children, bareContext.doctype⟩, assembly.remark) := by
  have again : Frame.split? (wrapped (escapeChars text)) = some (frames.map escapeFrame) := by
    rw [wrapped_escapeChars, split?_escapeChars, split, Option.map_some]
  obtain ⟨rest, begins⟩ : ∃ rest, wrapped (escapeChars text) = '<' :: rest := ⟨_, rfl⟩
  rw [begins] at again ⊢
  exact Document.ofRoot?_of_split? again (isEpilog_takeWhile_escapeFrame epilog)

section

variable {text : List Char} {document : Document}
  (read : Document.ofText? (wrapped text) = some document)
include read

/-- **A well-formed text stays well formed with its quotes escaped,** with elements of the same
names, if all attributes can be read as before. -/
theorem exists_ofText?_escapeChars
    (escapable : ∀ entry ∈ spellingsIn (wrapped text), IsEscapable entry) :
    ∃ other, Document.ofText? (wrapped (escapeChars text)) = some other ∧
      shapesOf other.children = shapesOf document.children := by
  obtain ⟨remark, quiet, root⟩ := Document.exists_ofRoot?_of_wrapped read
  obtain ⟨frames, tokens, assembly, split, epilog, said, made, only, last, -⟩ :=
    Document.exists_of_ofRoot? root
  rw [frames_of_spellings split] at escapable
  -- the same names come from each frame, so from the tokens, and so from the tree
  obtain ⟨others, again, alike⟩ := exists_ofFrames? said fun frame there entry member =>
    escapable entry (List.mem_flatMap.2 ⟨frame, there, member⟩)
  obtain ⟨assembled, come, shapes, remarks⟩ :=
    Assembly.exists_ofTokens? (isClosed_none false) alike made
  obtain ⟨head, inner, onlyAgain, same⟩ := exists_onlyElement? shapes only
  refine ⟨⟨head, inner, bareContext.doctype⟩, ?_, same⟩
  have come : Assembly.ofTokens? bareContext none others = some assembled := come
  have quiet : ¬(assembled.remark == some .error) = true := by
    rw [remarks, last]
    simpa using quiet
  rw [Document.ofText?_wrapped (all_isChar_escapeChars (Document.legal_of_wrapped read)),
    joinLineEnds_escapeChars, ofRoot?_escapeChars split epilog, again, Option.bind_some, come,
    Option.bind_some, onlyAgain]
  exact if_neg quiet

/-- **A well-formed text in which a single quote opens a value is not well formed with its quotes
escaped:** `Document.ofText? (wrapped (escapeChars text)) = none`. -/
theorem ofText?_escapeChars_eq_none
    (single : ∃ entry ∈ spellingsIn (wrapped text), entry.quote = '\'') :
    Document.ofText? (wrapped (escapeChars text)) = none := by
  obtain ⟨remark, -, root⟩ := Document.exists_ofRoot?_of_wrapped read
  obtain ⟨frames, tokens, assembly, split, epilog, -⟩ := Document.exists_of_ofRoot? root
  rw [frames_of_spellings split] at single
  obtain ⟨entry, member, quote⟩ := single
  obtain ⟨frame, there, member⟩ := List.mem_flatMap.1 member
  rw [Document.ofText?_wrapped (all_isChar_escapeChars (Document.legal_of_wrapped read)),
    joinLineEnds_escapeChars, ofRoot?_escapeChars split epilog,
    ofFrames?_eq_none ⟨frame, there, entry, member, quote⟩]
  rfl

end

/-! ## Strings -/

section

variable {value : String} {document : Document}
  (read : Document.ofText? (wrapped value.toList) = some document)
include read

/-- **Markup whose attributes can be read as before is embedded as markup,** with elements of the
same names. -/
theorem exists_embed_eq
    (escapable : ∀ entry ∈ spellingsIn (wrapped value.toList), IsEscapable entry) :
    ∃ bindings nodes, embed value = .ok (bindings, nodes) ∧
      shapesOf nodes = shapesOf document.children := by
  obtain ⟨other, again, same⟩ := exists_ofText?_escapeChars read escapable
  have content : markup? (escapeChars value.toList) = some (transplant other.children) := by
    rw [markup?, ← wrapped_eq, again]
    rfl
  refine ⟨(transplant other.children).1, (transplant other.children).2, ?_, ?_⟩
  · simp only [embed, content]
  · rw [shapesOf_transplant, same]

/-- **Markup in which a single quote opens a value is embedded as text:**
`embed value = .ok ([], textNodes (escapeChars value.toList))`. -/
theorem embed_eq_text (single : ∃ entry ∈ spellingsIn (wrapped value.toList), entry.quote = '\'') :
    embed value = .ok ([], textNodes (escapeChars value.toList)) :=
  embed_eq_of_eq_none (Document.legal_of_wrapped read) (ofText?_escapeChars_eq_none read single)

end

/-- **Markup in a rendered document.** The document of legal strings has one element for each
identifier, with the text of its first slot. If that text is well formed inside an element,
`shapesOf item.content = shapesOf document.children`: the element has the elements of the text
inside, by their names and those of their attributes, if all attributes are `IsEscapable`, so that
no single quote opens a value or is in a namespace that the text declares. If a single quote opens
a value, the element has no other inside: `item.content` is the text with its quotes escaped. -/
theorem render_markup {stem : String} (legal : stem.toList.all isChar)
    {strings : List Translatable} (h : ∀ string ∈ strings, string.IsLegal) :
    ∃ items, render stem strings = .ok (write items) ∧
      items.map (String.ofList ·.name) = ((strings.flatMap (slots stem)).map Slot.id).eraseDups ∧
      ∀ item ∈ items, ∃ slot,
        (strings.flatMap (slots stem)).find? (·.id == String.ofList item.name) = some slot ∧
        ∀ document, Document.ofText? (wrapped slot.translated.toList) = some document →
          ((∀ entry ∈ spellingsIn (wrapped slot.translated.toList), IsEscapable entry) →
            shapesOf item.content = shapesOf document.children) ∧
          ((∃ entry ∈ spellingsIn (wrapped slot.translated.toList), entry.quote = '\'') →
            item.bindings = [] ∧
              item.content = textNodes (escapeChars slot.translated.toList)) := by
  obtain ⟨items, rendered, made, -⟩ := render_cases legal h
  refine ⟨items, rendered, made.names, fun item member => ?_⟩
  obtain ⟨slot, first, content⟩ := made.first item member
  refine ⟨slot, first, fun document read => ⟨fun escapable => ?_, fun single => ?_⟩⟩
  · obtain ⟨bindings, nodes, embedded, same⟩ := exists_embed_eq read escapable
    rw [content] at embedded
    cases embedded
    exact same
  · have embedded := embed_eq_text read single
    rw [content, Except.ok.injEq, Prod.mk.injEq] at embedded
    exact embedded

/-- Two texts with markup: one with apostrophes in its text, in a value and in a comment, and one
with a value in single quotes. -/
theorem render_markup_two :
    let double := "it's <a href=\"who's\">Ann's</a><!-- it's -->"
    let single := "<a href='x'>b</a>"
    let strings : List Translatable :=
      [⟨"a", some "m", none, some [some double], none, none, [], none, {}⟩,
        ⟨"b", some "n", none, some [some single], none, none, [], none, {}⟩]
    ∃ first second, render "Str" strings = .ok (write [first, second]) ∧
      shapesOf first.content = [.element "a".toList ["href".toList] []] ∧
      second.content = [.text "<a href=\\'x\\'>b</a>".toList] := by
  intro double single strings
  have legal : ∀ string ∈ strings, string.IsLegal := by
    simp only [strings, List.forall_mem_cons]
    exact ⟨⟨by decide, by decide +kernel⟩, ⟨by decide, by decide +kernel⟩, by simp⟩
  obtain ⟨items, rendered, names, content⟩ := @render_markup "Str" (by decide) strings legal
  have ids : ((strings.flatMap (slots "Str")).map Slot.id).eraseDups = ["m", "n"] := by
    decide +kernel
  rw [ids] at names
  obtain ⟨first, rest, rfl, one, others⟩ := List.map_eq_cons_iff.1 names
  obtain ⟨second, rfl, two⟩ := List.map_eq_singleton_iff.1 others
  refine ⟨first, second, rendered, ?_, ?_⟩
  · obtain ⟨slot, found, inside⟩ := content first (by simp)
    have text : slot.translated.toList = double.toList := by
      have known : ((strings.flatMap (slots "Str")).find? (·.id == "m")).map
          (·.translated.toList) = some double.toList := by decide +kernel
      rw [one] at found
      rw [found] at known
      exact Option.some.inj known
    have read : (Document.ofText? (wrapped double.toList)).map (shapesOf ·.children) =
        some [.element "a".toList ["href".toList] []] := by decide +kernel
    obtain ⟨document, read, shapes⟩ := Option.map_eq_some_iff.1 read
    rw [text] at inside
    rw [(inside document read).1 (by decide +kernel), shapes]
  · obtain ⟨slot, found, inside⟩ := content second (by simp)
    have text : slot.translated.toList = single.toList := by
      have known : ((strings.flatMap (slots "Str")).find? (·.id == "n")).map
          (·.translated.toList) = some single.toList := by decide +kernel
      rw [two] at found
      rw [found] at known
      exact Option.some.inj known
    obtain ⟨document, read⟩ : ∃ document,
        Document.ofText? (wrapped single.toList) = some document :=
      Option.isSome_iff_exists.1 (by decide +kernel)
    rw [text] at inside
    have escaped : escapeChars single.toList = "<a href=\\'x\\'>b</a>".toList := by decide
    rw [((inside document read).2 (by decide +kernel)).2, escaped]
    rfl

/-- A link in single quotes: the text is well formed inside an element, with an element inside, and
the element that is written for it has none. -/
theorem render_markup_single :
    let value := "<a href='x'>b</a>"
    let string : Translatable := ⟨"a", some "n", none, some [some value], none, none, [], none, {}⟩
    let item : Item := ⟨"n".toList, [], [.text "<a href=\\'x\\'>b</a>".toList]⟩
    string.IsLegal ∧
      (∃ document, Document.ofText? (wrapped value.toList) = some document ∧
        shapesOf document.children = [.element "a".toList ["href".toList] []]) ∧
      render "Str" [string] = .ok (write [item]) ∧ shapesOf item.content = [] ∧
      write [item] = "<?xml version='1.0' encoding='utf-8'?>\n<resources>\n  <string name=\"n\">" ++
        "&lt;a href=\\'x\\'&gt;b&lt;/a&gt;</string>\n</resources>\n" := by
  intro value string item
  have read : (Document.ofText? (wrapped value.toList)).map (shapesOf ·.children) =
      some [.element "a".toList ["href".toList] []] := by decide +kernel
  exact ⟨⟨by decide, by decide +kernel⟩, Option.map_eq_some_iff.1 read, by decide +kernel,
    by decide, by decide +kernel⟩

end Resource

end StringCatalog
