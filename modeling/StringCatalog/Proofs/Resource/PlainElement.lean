import StringCatalog.Proofs.Resource.PlainText
import StringCatalog.Proofs.Resource.Regenerated

/-! # Elements with text alone

* **`Resource.IsPlainElement`** — an element with text alone in it, which is no markup.
* **`Resource.readBytes_render_plain`** — its text comes back, and there is text alone in it
  again. -/

namespace StringCatalog.Resource

/-! ## Text alone -/

/-- The characters of the texts among some nodes. -/
def textOf (nodes : List Xml.Node) : List Char :=
  nodes.flatMap fun
    | .text content => content
    | _ => []

/-- **An element with text alone in it,** whose string is no markup, or has none of the characters
of markup. -/
structure IsPlainElement (document : Xml.Document) (element : Xml.Head × List Xml.Node) : Prop where
  /-- There is nothing but text in the element. -/
  text : ∀ node ∈ element.2, node.isText
  /-- There is no carriage return in it. -/
  lines : '\r' ∉ textOf element.2
  /-- No backslash stands before a double quote in it. -/
  quotes : ¬ ['\\', '"'] <:+: textOf element.2
  /-- The string has none of the characters of markup, or it is not read as markup. -/
  plain : (∀ c ∈ (textIn document element).toList, c ≠ '<' ∧ c ≠ '&') ∨
    Xml.Document.ofText? ("<string>".toList ++ escapeChars (textIn document element).toList ++
      "</string>".toList) = none

/-- **The string of such an element is no markup.** -/
theorem IsPlainElement.isTextual {document : Xml.Document} (sound : document.IsSound)
    {element : Xml.Head × List Xml.Node} (member : element ∈ stringElements document)
    (h : IsPlainElement document element) : IsTextual (textIn document element) := by
  have node := sound.children _ (mem_children_of_mem_stringElements member)
  -- text that stands alone is one, and the string is what it comes to
  have value : (textIn document element).toList = unescapeChars (textOf element.2) := by
    rw [textIn, String.toList_ofList]
    rcases node.apart.eq_text h.text with none | ⟨text, one⟩
    · rw [none]
      rfl
    · rw [one, textOf, List.flatMap_singleton]
      rfl
  refine ⟨?_, h.plain.imp_left fun plain c there => ?_⟩
  · rw [value]
    exact not_infix_unescapeChars h.quotes
  · obtain ⟨first, second⟩ := plain c there
    rw [value] at there
    exact ⟨first, second, fun same => h.lines (same ▸ mem_of_mem_unescapeChars there)⟩

/-! ## Regenerating such elements -/

/-- The content of a text that is no markup is text. -/
theorem IsSlotAgain.isText {document : Xml.Document} {slot : Slot}
    {element : Xml.Head × List Xml.Node} (h : IsSlotAgain document slot element)
    (textual : IsTextual slot.translated) (legal : slot.translated.toList.all Xml.isChar) :
    ∀ node ∈ element.2, node.isText := by
  obtain ⟨line, found, remarks, read, inner⟩ := h.content _ (textual.embed_eq legal)
  rw [againAll?_textNodes] at read
  cases read
  rw [inner, joined_textNodes, Xml.textNodes]
  split
  · simp
  · simp [Xml.Node.isText]

/-- **Elements with text alone come back as such:** `render stem strings` succeeds for the strings
of a document, no two of one name. The new document is read if each string is `IsUnmarked` or
`IsReadAlone`, and if it is read as `again`, it has an element for each one that is not blank, in
their order and with their names. Where the old one `IsPlainElement`, with text alone in it that is
no markup, the new one has text alone in it, and
`textIn again regenerated = textIn document element`. -/
theorem readBytes_render_plain {path : Path} {bytes : List UInt8} {strings : List Translatable}
    (read : (readBytes path bytes).all? = .ok strings)
    (distinct : (strings.map Translatable.name).Nodup) (stem : String) (other : Path) :
    ∃ document written, Xml.Document.ofBytes? bytes = some document ∧
      List.Forall₂ (IsStringOf document) (stringElements document) strings ∧
      render stem strings = .ok written ∧
      ((∀ element ∈ (stringElements document).filter (!isBlankIn document ·),
          IsUnmarked (textIn document element) ∨
            IsReadAlone (nameIn document.doctype element.1) (textIn document element)) →
        (Xml.Document.ofText? written.toList).isSome) ∧
      ∀ again, Xml.Document.ofText? written.toList = some again →
        ∃ found, (readBytes other (Text.encode written)).all? = .ok found ∧
          List.Forall₂ (IsStringOf again) (stringElements again) found ∧
          List.Forall₂ (fun element regenerated =>
            nameIn again.doctype regenerated.1 = nameIn document.doctype element.1 ∧
              (IsPlainElement document element →
                textIn again regenerated = textIn document element ∧
                  ∀ node ∈ regenerated.2, node.isText))
            ((stringElements document).filter (!isBlankIn document ·)) (stringElements again) := by
  obtain ⟨document, written, found, elements, made, whole, parts⟩ :=
    exists_render_of_readBytes read distinct stem
  have sound := Xml.Document.isSound_of_ofBytes? found
  -- a string that is no markup is kept, in the elements that are not blank as in any other
  have kept : ∀ element ∈ (stringElements document).filter (!isBlankIn document ·),
      IsTextual (textIn document element) → IsKept (textIn document element) :=
    fun element member textual =>
      ⟨_, textual.isKeptAs (all_isChar_textIn sound (List.mem_of_mem_filter member))⟩
  refine ⟨document, written, found, elements, made, fun kinds => whole fun element member => ?_,
    fun again known => ?_⟩
  · have there := List.mem_of_mem_filter member
    exact (kinds element member).elim (fun unmarked => unmarked.isReadAlone
      (all_isChar_nameIn sound there) (all_isChar_textIn sound there)) id
  obtain ⟨root, bytes, related⟩ := parts again known
  obtain ⟨others, all, strings⟩ := forall₂_stringElements other bytes root
  refine ⟨others, all, strings, ?_⟩
  refine ((List.forall₂_and_left _ _).2 ⟨fun element member => member, related⟩).imp ?_
  rintro element regenerated ⟨member, again⟩
  have there := List.mem_of_mem_filter member
  refine ⟨again.name, fun plain => ?_⟩
  have textual := plain.isTextual sound there
  exact ⟨again.text (kept element member textual),
    again.isText textual (all_isChar_textIn sound there)⟩

/-- Elements with references to the characters of markup come back as such, as no markup comes of
them. -/
theorem readBytes_render_plain_stray :
    let bytes := Text.encode ("<resources><string name=\"a\">1 &lt; 2 &amp; it\\'s</string>" ++
      "<string name=\"b\"> ]]&gt; </string></resources>")
    ∃ strings document written again, (readBytes (.ofString "a.xml") bytes).all? = .ok strings ∧
      Xml.Document.ofBytes? bytes = some document ∧ render "Str" strings = .ok written ∧
      Xml.Document.ofText? written.toList = some again ∧
      List.Forall₂ (fun element regenerated => textIn again regenerated = textIn document element ∧
        ∀ node ∈ regenerated.2, node.isText)
        ((stringElements document).filter (!isBlankIn document ·)) (stringElements again) := by
  intro bytes
  have plain : ∀ document ∈ Xml.Document.ofBytes? bytes, ∀ element ∈ stringElements document,
      (∀ node ∈ element.2, node.isText) ∧ '\r' ∉ textOf element.2 ∧
        ¬ ['\\', '"'] <:+: textOf element.2 ∧
        ((∀ c ∈ (textIn document element).toList, c ≠ '<' ∧ c ≠ '&') ∨
          (Xml.Document.ofText? ("<string>".toList ++
            escapeChars (textIn document element).toList ++ "</string>".toList)).isNone) := by
    decide +kernel
  have accepted : ∃ strings ∈ (readBytes (.ofString "a.xml") bytes).all?.toOption,
      (strings.map Translatable.name).Nodup := by
    decide +kernel
  obtain ⟨strings, read, distinct⟩ := accepted
  obtain ⟨document, written, found, -, made, whole, parts⟩ :=
    readBytes_render_plain (eq_ok_of_mem_toOption read) distinct "Str" (.ofString "a.xml")
  have elements : ∀ element ∈ stringElements document, IsPlainElement document element := by
    intro element member
    obtain ⟨text, lines, quotes, known⟩ := plain document found element member
    exact ⟨text, lines, quotes, known.imp_right Option.isNone_iff_eq_none.1⟩
  have sound := Xml.Document.isSound_of_ofBytes? found
  obtain ⟨again, known⟩ := Option.isSome_iff_exists.1 (whole fun element member =>
    .inl ((elements element (List.mem_of_mem_filter member)).isTextual sound
      (List.mem_of_mem_filter member)).isUnmarked)
  obtain ⟨others, -, -, related⟩ := parts again known
  refine ⟨strings, document, written, again, eq_ok_of_mem_toOption read, found, made, known, ?_⟩
  refine ((List.forall₂_and_left _ _).2 ⟨fun element member => member, related⟩).imp ?_
  rintro element regenerated ⟨member, -, same⟩
  exact same (elements element (List.mem_of_mem_filter member))

/-- An element with text alone in it comes back with an element in it if its text is markup. -/
theorem readBytes_render_plain_markup :
    let bytes := Text.encode
      "<resources><string name=\"a\">&lt;b&gt;x&lt;/b&gt;</string></resources>"
    ((Xml.Document.ofBytes? bytes).map fun document =>
        (stringElements document).map fun element =>
          (textIn document element, element.2.all Xml.Node.isText)) = some [("<b>x</b>", true)] ∧
      (do
        let strings ← (readBytes (.ofString "a.xml") bytes).all?.toOption
        let written ← (render "Str" strings).toOption
        let again ← Xml.Document.ofText? written.toList
        return (stringElements again).map fun element =>
          (textIn again element, element.2.all Xml.Node.isText)) = some [("<b>x</b>", false)] := by
  decide +kernel

end StringCatalog.Resource
