import StringCatalog.Proofs.Resource.PlainText
import StringCatalog.Proofs.Resource.Regenerated
import StringCatalog.Proofs.Resource.Respell
import StringCatalog.Proofs.Xml.Reread

/-! # Elements with markup

* **`Resource.isKeptAs_of_areSettled`** — markup is kept, if all bindings in it are settled.
* **`Resource.IsMarkupElement`, `Resource.IsSettledElement`** — an element with something else than
  text in it, whose string is such markup.
* **`Resource.readBytes_render_markup`** — the string of such an element comes back. -/

namespace StringCatalog.Resource

/-! ## Content that is markup -/

/-- `text.flatMap escapeLeadingChar = Xml.escapeText text`: without carriage returns the text
before markup is written as any other text. -/
theorem flatMap_escapeLeadingChar {text : List Char} (h : '\r' ∉ text) :
    text.flatMap escapeLeadingChar = Xml.escapeText text := by
  refine List.flatMap_congr fun c member => ?_
  have line : c ≠ '\r' := fun same => h (same ▸ member)
  unfold escapeLeadingChar Xml.escapeTextChar
  split <;> simp_all

/-- **Content that is not text alone is written out as markup.** -/
theorem innerText_eq_writeNodes {scope : List Xml.Binding} {nodes : List Xml.Node}
    (markup : ∃ node ∈ nodes, node.isText = false)
    (lines : ∀ text, nodes.head? = some (.text text) → '\r' ∉ text) :
    innerText scope nodes = Xml.writeNodes (nodes.map (Xml.Node.alone scope)) := by
  have children (nodes : List Xml.Node) : nodes.flatMap (writeChild scope) =
      Xml.writeNodes (nodes.map (Xml.Node.alone scope)) := by
    rw [Xml.writeNodes_eq_flatMap, List.flatMap_map]
    exact List.flatMap_congr fun node _ => node.writeAlone_eq scope
  unfold innerText
  split
  · rfl
  · obtain ⟨node, member, other⟩ := markup
    cases List.mem_singleton.1 member
    cases other
  · rw [flatMap_escapeLeadingChar (lines _ rfl), children]
    rfl
  · exact children nodes

/-- A character stays when escapes are read, unless it is a backslash. -/
theorem mem_unescapeChars {text : List Char} {c : Char} (other : c ≠ '\\') (h : c ∈ text) :
    c ∈ unescapeChars text := by
  fun_induction unescapeChars text with
  | case1 => exact h
  | case2 text ih =>
      simp only [List.mem_cons, other, false_or] at h ⊢
      exact h.imp_right ih
  | case3 text ih =>
      simp only [List.mem_cons, other, false_or] at h ⊢
      exact h.imp_right ih
  | case4 d text single double ih =>
      rw [List.mem_cons] at h ⊢
      exact h.imp_right ih

/-- The text before markup has no carriage returns if the whole content has none. -/
theorem carriageReturn_notMem_of_head? {scope : List Xml.Binding} {nodes : List Xml.Node}
    (h : '\r' ∉ innerText scope nodes) :
    ∀ text, nodes.head? = some (.text text) → '\r' ∉ text := by
  rintro text first member
  obtain ⟨rest, rfl⟩ := List.head?_eq_some_iff.1 first
  refine h ?_
  unfold innerText
  split
  · next none => cases none
  · next one =>
    cases one
    exact member
  · next more =>
    cases more
    exact List.mem_append_left _ (List.mem_flatMap.2 ⟨'\r', member, by decide⟩)
  · next other => exact absurd rfl (other text rest)

/-! ## Markup is kept -/

/-- The start tag of the wrapper is sound. -/
theorem isSound_wrapperHead : Xml.wrapperHead.IsSound :=
  ⟨⟨"string".toList, by decide, by decide⟩, by simp [Xml.wrapperHead], by simp [Xml.wrapperHead],
    by simp [Xml.wrapperHead]⟩

/-- `nodes ≠ []`: where there is markup there are nodes. -/
theorem ne_nil_of_exists {nodes : List Xml.Node} (markup : ∃ node ∈ nodes, node.isText = false) :
    nodes ≠ [] := by
  rintro rfl
  obtain ⟨node, member, -⟩ := markup
  cases member

/-- Content in an element for texts is written between its tags. -/
theorem write_wrapper {nodes : List Xml.Node} (nonempty : nodes ≠ []) :
    (Xml.Node.element Xml.wrapperHead nodes).write =
      "<string>".toList ++ Xml.writeNodes nodes ++ "</string>".toList := by
  rw [Xml.Node.write_element, if_neg nonempty, ← List.append_assoc]
  rfl

/-- What is written for an element for texts is read with its content as it comes back. -/
theorem ofRoot?_wrapper {nodes : List Xml.Node} (proper : ∀ node ∈ nodes, node.IsProper)
    (line : Nat) :
    Xml.Document.ofRoot? bareContext line (Xml.Node.element Xml.wrapperHead nodes).write =
      (Xml.againAll? bareContext [] line nodes).map fun (found, remarks) =>
        (⟨{ Xml.wrapperHead with line }, Xml.joined found, bareContext.doctype⟩,
          Xml.lastRemark none remarks) := by
  have blank : ([] : List Char).all Xml.isBlank := rfl
  have read := Xml.Document.ofRoot?_write bareContext line
    (.element Xml.isProper_wrapperHead proper) blank (by simp)
  have context : bareContext = ⟨{ Xml.Doctype.none with remark := none }, false⟩ := rfl
  rw [List.append_nil, context, Xml.head?_tag_wrapperHead] at read
  exact read

/-- A clean text that is markup is read from its root on, without an error. -/
theorem exists_ofRoot?_of_ofText? {text : List Char} (clean : Xml.IsClean text)
    {document : Xml.Document}
    (read : Xml.Document.ofText? ("<string>".toList ++ text ++ "</string>".toList) =
      some document) :
    ∃ remark, remark ≠ some .error ∧ Xml.Document.ofRoot? bareContext 1
      ("<string>".toList ++ text ++ "</string>".toList) = some (document, remark) := by
  obtain ⟨remark, quiet, root⟩ := Xml.Document.exists_ofRoot?_of_wrapped read
  rw [clean.joinLineEnds] at root
  exact ⟨remark, quiet, root⟩

section

variable {nodes found : List Xml.Node} {line : Nat} {remarks : List Xml.Remark}
  (proper : ∀ node ∈ nodes, node.IsProper) (sound : ∀ node ∈ nodes, node.IsSound)
  (apart : Xml.AreApart nodes) (settled : Xml.areSettled [] nodes)
include proper sound apart settled

/-- **Settled content that comes back is written as before:**
`Xml.writeNodes (Xml.joined found) = Xml.writeNodes nodes`. -/
theorem writeNodes_joined_of_againAll?
    (content : Xml.againAll? bareContext [] line nodes = some (found, remarks)) :
    Xml.writeNodes (Xml.joined found) = Xml.writeNodes nodes := by
  rw [Xml.writeNodes_joined (apart.of_againAll? content),
    Xml.writeNodes_of_againAll? isBare_bareContext nodes proper sound settled content]

/-- **So it is as the text of a string,** if it is markup:
`innerText [] (Xml.joined found) = Xml.writeNodes nodes`. -/
theorem innerText_joined_of_againAll? (markup : ∃ node ∈ nodes, node.isText = false)
    (lines : ∀ text, nodes.head? = some (.text text) → '\r' ∉ text)
    (content : Xml.againAll? bareContext [] line nodes = some (found, remarks)) :
    innerText [] (Xml.joined found) = Xml.writeNodes nodes := by
  have first : ∀ text, (Xml.joined found).head? = some (.text text) → '\r' ∉ text :=
    fun text begins => lines text (Xml.head?_of_againAll? content
      ((apart.of_againAll? content).head?_joined begins))
  have alone : (Xml.joined found).map (Xml.Node.alone []) = Xml.joined found := by
    rw [List.map_congr_left fun node _ => node.alone_nil, List.map_id']
  rw [innerText_eq_writeNodes
    (Xml.exists_isText_joined (Xml.exists_isText_of_againAll? content markup)) first, alone,
    writeNodes_joined_of_againAll? proper sound apart settled content]

end

/-- **Markup is kept,** if it is proper and all bindings in it are settled. -/
theorem isKeptAs_of_areSettled {value : String} (quotes : ¬ ['\\', '"'] <:+: value.toList)
    {nodes : List Xml.Node} (written : escapeChars value.toList = Xml.writeNodes nodes)
    (proper : ∀ node ∈ nodes, node.IsProper) (sound : ∀ node ∈ nodes, node.IsSound)
    (apart : Xml.AreApart nodes) (settled : Xml.areSettled [] nodes)
    (markup : ∃ node ∈ nodes, node.isText = false)
    (lines : ∀ text, nodes.head? = some (.text text) → '\r' ∉ text) {document : Xml.Document}
    (read : Xml.Document.ofText?
      ("<string>".toList ++ escapeChars value.toList ++ "</string>".toList) = some document) :
    IsKeptAs value document.children := by
  have clean : Xml.IsClean (escapeChars value.toList) := by
    rw [written]
    exact Xml.isClean_writeNodes nodes proper
  have text := write_wrapper (ne_nil_of_exists markup)
  rw [← written] at text
  obtain ⟨remark, quiet, root⟩ := exists_ofRoot?_of_ofText? clean read
  -- the content that is read is proper, and it is written as before
  have again : ∀ node ∈ document.children, node.IsProper := by
    have legal : (Xml.Node.element Xml.wrapperHead nodes).write.all Xml.isChar :=
      (Xml.isClean_write _ (.element Xml.isProper_wrapperHead proper)).legal
    rw [text] at legal
    exact (Xml.Document.isProper_of_ofRoot? (Xml.isClosed_none false) legal root).children
  rw [← text, ofRoot?_wrapper proper] at root
  obtain ⟨⟨found, remarks⟩, content, equal⟩ := Option.map_eq_some_iff.1 root
  cases equal
  dsimp only at again ⊢
  have same : (Xml.Node.element Xml.wrapperHead (Xml.joined found)).write =
      (Xml.Node.element Xml.wrapperHead nodes).write := by
    have there := Xml.exists_isText_joined (Xml.exists_isText_of_againAll? content markup)
    rw [write_wrapper (ne_nil_of_exists there), write_wrapper (ne_nil_of_exists markup),
      writeNodes_joined_of_againAll? proper sound apart settled content]
  refine ⟨?_, fun line => ?_⟩
  · have moved := Xml.transplant_eq_self (Xml.forall_mem_joined (fun _ => .text)
      (Xml.isFresh_of_againAll? isBare_bareContext nodes proper settled content))
    simp only [embed, markup?, read, Option.map_some, moved]
  -- on any line the content is read from the same text, so it comes back as it has come back before
  · obtain ⟨others, there⟩ := Xml.exists_againAll?_line nodes content line
    have once := ofRoot?_wrapper again line
    rw [same, ofRoot?_wrapper proper, there] at once
    obtain ⟨⟨last, more⟩, twice, equal⟩ := Option.map_eq_some_iff.1 once.symm
    obtain ⟨nodesEqual, remarksEqual⟩ : Xml.joined last = Xml.joined others ∧
        Xml.lastRemark none more = Xml.lastRemark none remarks := by
      simpa using equal
    refine ⟨last, more, twice, isQuiet_of_lastRemark (by rw [remarksEqual]; exact quiet), ?_⟩
    rw [nodesEqual, innerText_joined_of_againAll? proper sound apart settled markup lines there,
      ← written, unescapeChars_escapeChars quotes]

/-! ## Elements with markup -/

/-- **An element with markup,** none of it a reference, whose string has no carriage return and no
backslash before a double quote. -/
structure IsMarkupElement (document : Xml.Document) (element : Xml.Head × List Xml.Node) :
    Prop where
  /-- There is something else than text in the element. -/
  markup : ∃ node ∈ element.2, node.isText = false
  /-- There is no reference in it, at whatever depth. -/
  references : ∀ node ∈ Xml.withinAll element.2, node.isReference = false
  /-- There is no carriage return in the string. -/
  lines : '\r' ∉ (textIn document element).toList
  /-- No backslash stands before a double quote in it. -/
  quotes : ¬ ['\\', '"'] <:+: (textIn document element).toList

/-- The content of an element on its own, with the declarations that it needs. -/
def contentIn (document : Xml.Document) (element : Xml.Head × List Xml.Node) : List Xml.Node :=
  element.2.map (Xml.Node.alone (element.1.bindings ++ document.head.bindings))

/-- **The markup of an element's string,** as its quotes are escaped again. -/
def markupIn (document : Xml.Document) (element : Xml.Head × List Xml.Node) : List Xml.Node :=
  respellAll (contentIn document element)

/-- **An element whose string is no markup when it is read again,** or whose markup is settled: each
namespace is declared where no prefix stands for it yet. -/
def IsSettledElement (document : Xml.Document) (element : Xml.Head × List Xml.Node) : Prop :=
  Xml.Document.ofText? ("<string>".toList ++ escapeChars (textIn document element).toList ++
    "</string>".toList) = none ∨ Xml.areSettled [] (markupIn document element)

section

variable {document : Xml.Document} {element : Xml.Head × List Xml.Node}

/-- What is written for a `<string>` of a sound document is sound. -/
theorem isSound_contentIn (sound : document.IsSound) (member : element ∈ stringElements document) :
    ∀ node ∈ contentIn document element, node.IsSound := by
  have node := sound.children _ (mem_children_of_mem_stringElements member)
  exact List.forall_mem_map.2 fun inner there =>
    (node.children inner there).alone (isSound_of_mem_scope sound member)

/-- And no two texts in it touch. -/
theorem areApart_contentIn (sound : document.IsSound) (member : element ∈ stringElements document) :
    Xml.AreApart (contentIn document element) :=
  (sound.children _ (mem_children_of_mem_stringElements member)).apart.map_alone _

/-- The text before markup has no carriage returns, as the string has none. -/
theorem IsMarkupElement.leading (h : IsMarkupElement document element) :
    ∀ text, element.2.head? = some (.text text) → '\r' ∉ text := by
  have value : (textIn document element).toList = unescapeChars
      (innerText (element.1.bindings ++ document.head.bindings) element.2) := by
    rw [textIn, String.toList_ofList]
  exact carriageReturn_notMem_of_head? fun member =>
    h.lines (value ▸ mem_unescapeChars (by decide) member)

/-- The markup has something else than text in it. -/
theorem IsMarkupElement.exists_isText (h : IsMarkupElement document element) :
    ∃ node ∈ markupIn document element, node.isText = false := by
  obtain ⟨node, member, other⟩ := h.markup
  refine ⟨respell (node.alone (element.1.bindings ++ document.head.bindings)), ?_,
    by rw [isText_respell, Xml.Node.isText_alone, other]⟩
  rw [markupIn, respellAll_eq_map]
  exact List.mem_map_of_mem (List.mem_map_of_mem member)

/-- The text that the markup begins with has no carriage returns either. -/
theorem IsMarkupElement.leading_markupIn (h : IsMarkupElement document element) :
    ∀ text, (markupIn document element).head? = some (.text text) → '\r' ∉ text := by
  intro text first
  have leading := h.leading
  rw [markupIn, contentIn] at first
  cases nodes : element.2 with
  | nil =>
      rw [nodes] at first
      cases first
  | cons node rest =>
      rw [nodes] at first leading
      cases node with
      | text content =>
          cases first
          exact carriageReturn_notMem_respellChars (leading content rfl)
      | _ => cases first

/-- **The string of an element with markup is written as the markup is.** -/
theorem IsMarkupElement.escapeChars_textIn (sound : document.IsSound)
    (member : element ∈ stringElements document) (h : IsMarkupElement document element) :
    escapeChars (textIn document element).toList = Xml.writeNodes (markupIn document element) := by
  have ends : ∀ d ∈ ([] : List Char).head?, isQuote d = false := by simp
  have again := respellChars_writeNodes _ (isSound_contentIn sound member)
    (areApart_contentIn sound member) ends
  rw [List.append_nil, respellChars_nil, List.append_nil] at again
  rw [textIn, String.toList_ofList, innerText_eq_writeNodes h.markup h.leading]
  exact again

/-- **Such a string is not blank,** as markup begins in it: `isBlankIn document element = false`. -/
theorem IsMarkupElement.isBlankIn_eq (h : IsMarkupElement document element) :
    isBlankIn document element = false := by
  obtain ⟨node, member, other⟩ := h.markup
  rw [← node.isText_alone (element.1.bindings ++ document.head.bindings)] at other
  obtain ⟨c, rest, begins, mark⟩ := exists_write_eq_cons other
  have visible : c ≠ '\\' ∧ Text.isBlank c = false := by
    rcases mark with rfl | rfl <;> decide
  have written : c ∈ Xml.writeNodes (contentIn document element) := by
    rw [Xml.writeNodes_eq_flatMap, contentIn, List.flatMap_map]
    exact List.mem_flatMap.2 ⟨node, member, by rw [begins]; exact List.mem_cons_self⟩
  rw [contentIn, ← innerText_eq_writeNodes h.markup h.leading] at written
  rw [isBlankIn, Text.isBlankText, List.all_eq_false, textIn, String.toList_ofList]
  exact ⟨c, mem_unescapeChars visible.1 written, by rw [visible.2]; decide⟩

/-- **The markup that is read again is proper,** if its bindings are settled. -/
theorem IsMarkupElement.isProper_markupIn (sound : document.IsSound)
    (member : element ∈ stringElements document) (h : IsMarkupElement document element)
    (settled : Xml.areSettled [] (markupIn document element)) {found : Xml.Document}
    (read : Xml.Document.ofText? ("<string>".toList ++
      escapeChars (textIn document element).toList ++ "</string>".toList) = some found) :
    ∀ node ∈ markupIn document element, node.IsProper := by
  have content := isSound_contentIn sound member
  have apart := areApart_respellAll (areApart_contentIn sound member)
  have clean : Xml.IsClean (escapeChars (textIn document element).toList) :=
    Xml.isClean_of (all_isChar_escapeChars (all_isChar_textIn sound member)) fun member =>
      (of_mem_escapeChars member).elim (by decide) h.lines
  obtain ⟨remark, -, root⟩ := exists_ofRoot?_of_ofText? clean read
  rw [h.escapeChars_textIn sound member, ← write_wrapper (ne_nil_of_exists h.exists_isText)] at root
  -- the text is read, so no attribute in it has a reference
  refine isProper_respellAll content (Xml.isReference_withinAll_alone h.references) ?_
  intro head children there
  exact ⟨Xml.isProper_of_areSettled _ settled head children there,
    Xml.Document.isPlain_of_ofRoot? (Xml.isClosed_none false)
      (.element isSound_wrapperHead (isSound_respellAll _ content) apart) root
      (List.mem_cons_of_mem _ there)⟩

/-- **The string of an element with markup is kept,** if the element is settled. -/
theorem IsMarkupElement.isKept (sound : document.IsSound)
    (member : element ∈ stringElements document) (h : IsMarkupElement document element)
    (settled : IsSettledElement document element) : IsKept (textIn document element) := by
  cases read : Xml.Document.ofText? ("<string>".toList ++
      escapeChars (textIn document element).toList ++ "</string>".toList) with
  | none => exact ⟨_, IsTextual.isKeptAs ⟨h.quotes, .inr read⟩ (all_isChar_textIn sound member)⟩
  | some found =>
      have settled : Xml.areSettled [] (markupIn document element) := by
        refine settled.resolve_left fun missing => ?_
        rw [missing] at read
        cases read
      exact ⟨_, isKeptAs_of_areSettled h.quotes (h.escapeChars_textIn sound member)
        (h.isProper_markupIn sound member settled read)
        (isSound_respellAll _ (isSound_contentIn sound member))
        (areApart_respellAll (areApart_contentIn sound member)) settled h.exists_isText
        h.leading_markupIn read⟩

end

/-! ## Regenerating such elements -/

/-- **Markup survives regeneration:** `render stem strings` succeeds for the strings of a document,
no two of one name. The new document is read if each string that is not blank is settled markup
(`IsMarkupElement`, `IsSettledElement`), no markup (`IsUnmarked`), or read in a document of its own
(`IsReadAlone`), and if it is read, there is one string for each of them, in their order and with
their names. None with markup is blank, and where the markup is settled, the string is the same:
`string.singular = textIn document element`. -/
theorem readBytes_render_markup {path : Path} {bytes : List UInt8} {strings : List Translatable}
    (read : (readBytes path bytes).all? = .ok strings)
    (distinct : (strings.map Translatable.name).Nodup) (stem : String) (other : Path) :
    ∃ document written, Xml.Document.ofBytes? bytes = some document ∧
      List.Forall₂ (IsStringOf document) (stringElements document) strings ∧
      render stem strings = .ok written ∧
      ((∀ element ∈ (stringElements document).filter (!isBlankIn document ·),
          (IsMarkupElement document element ∧ IsSettledElement document element) ∨
            IsUnmarked (textIn document element) ∨
              IsReadAlone (nameIn document.doctype element.1) (textIn document element)) →
        (Xml.Document.ofText? written.toList).isSome) ∧
      (∀ element ∈ stringElements document, IsMarkupElement document element →
        isBlankIn document element = false) ∧
      ((Xml.Document.ofText? written.toList).isSome →
        ∃ found, (readBytes other (Text.encode written)).all? = .ok found ∧
          List.Forall₂ (fun element string =>
            string.name = some (nameIn document.doctype element.1) ∧
              (IsMarkupElement document element → IsSettledElement document element →
                string.singular = textIn document element))
            ((stringElements document).filter (!isBlankIn document ·)) found) := by
  obtain ⟨document, written, found, elements, made, whole, parts⟩ :=
    exists_render_of_readBytes read distinct stem
  have sound := Xml.Document.isSound_of_ofBytes? found
  refine ⟨document, written, found, elements, made, fun kinds => whole ?_,
    fun element _ markup => markup.isBlankIn_eq, fun isRead => ?_⟩
  · intro element member
    have there := List.mem_of_mem_filter member
    have name := all_isChar_nameIn sound there
    have text := all_isChar_textIn sound there
    rcases kinds element member with ⟨markup, settled⟩ | unmarked | alone
    · exact (markup.isKept sound there settled).isReadAlone name text
    · exact unmarked.isReadAlone name text
    · exact alone
  · obtain ⟨again, known⟩ := Option.isSome_iff_exists.1 isRead
    obtain ⟨root, bytes, related⟩ := parts again known
    obtain ⟨others, all, strings⟩ := forall₂_stringElements other bytes root
    refine ⟨others, all, ?_⟩
    refine ((List.forall₂_and_left _ _).2
      ⟨fun element member => member, forall₂_comp related strings⟩).imp ?_
    rintro element string ⟨member, regenerated, again, known⟩
    refine ⟨by rw [known.name, again.name]; rfl, fun markup settled => ?_⟩
    have kept := markup.isKept sound (List.mem_of_mem_filter member) settled
    rw [known.singular, again.text kept]
    rfl

/-- Markup with a namespace of the root, with attributes, a comment, an instruction, references in
the text and apostrophes comes back. -/
theorem readBytes_render_markup_nested :
    let bytes := Text.encode ("<resources xmlns:x=\"urn:x\"><string name=\"a\">it\\'s " ++
      "<x:b k=\"it's\">1 &lt; <i>2</i></x:b> &amp;<!--so--> on</string>" ++
      "<string name=\"b\"><u xmlns=\"urn:y\"/><?go on?></string></resources>")
    ∃ strings written found, (readBytes (.ofString "a.xml") bytes).all? = .ok strings ∧
      render "Str" strings = .ok written ∧
      (readBytes (.ofString "a.xml") (Text.encode written)).all? = .ok found ∧
      found.map Translatable.singular =
        ["it's <x:b xmlns:x=\"urn:x\" k=\"it's\">1 &lt; <i>2</i></x:b> &amp;<!--so--> on",
          "<u xmlns=\"urn:y\" xmlns:x=\"urn:x\"/><?go on?>"] := by
  intro bytes
  have markup : ∀ document ∈ Xml.Document.ofBytes? bytes,
      (∀ element ∈ stringElements document, (∃ node ∈ element.2, node.isText = false) ∧
        (∀ node ∈ Xml.withinAll element.2, node.isReference = false) ∧
        '\r' ∉ (textIn document element).toList ∧
        ¬ ['\\', '"'] <:+: (textIn document element).toList ∧
        Xml.areSettled [] (markupIn document element)) ∧
      ((stringElements document).filter (!isBlankIn document ·)).map (textIn document) =
        ["it's <x:b xmlns:x=\"urn:x\" k=\"it's\">1 &lt; <i>2</i></x:b> &amp;<!--so--> on",
          "<u xmlns=\"urn:y\" xmlns:x=\"urn:x\"/><?go on?>"] := by
    decide +kernel
  have accepted : ∃ strings ∈ (readBytes (.ofString "a.xml") bytes).all?.toOption,
      (strings.map Translatable.name).Nodup := by
    decide +kernel
  obtain ⟨strings, read, distinct⟩ := accepted
  obtain ⟨document, written, there, -, made, whole, -, parts⟩ :=
    readBytes_render_markup (eq_ok_of_mem_toOption read) distinct "Str" (.ofString "a.xml")
  obtain ⟨markup, values⟩ := markup document there
  have elements : ∀ element ∈ stringElements document,
      IsMarkupElement document element ∧ IsSettledElement document element := by
    intro element member
    obtain ⟨other, references, lines, quotes, settled⟩ := markup element member
    exact ⟨⟨other, references, lines, quotes⟩, .inr settled⟩
  obtain ⟨found, all, related⟩ := parts (whole fun element member =>
    .inl (elements element (List.mem_of_mem_filter member)))
  refine ⟨strings, written, found, eq_ok_of_mem_toOption read, made, all, ?_⟩
  have same := ((List.forall₂_and_left _ _).2 ⟨fun element member => member, related⟩).imp
    (S := fun element string => string.singular = textIn document element) (by
      rintro element string ⟨member, -, same⟩
      obtain ⟨markup, settled⟩ := elements element (List.mem_of_mem_filter member)
      exact same markup settled)
  rw [← values, ← List.forall₂_eq_eq_eq, List.forall₂_map_left_iff, List.forall₂_map_right_iff]
  exact same.flip

/-- Markup in which two prefixes come to be one does not come back: no string of the new document is
read. -/
theorem readBytes_render_markup_clash :
    let bytes := Text.encode ("<resources><string name=\"a\"><o xmlns:r=\"u\">" ++
      "<a xmlns:p=\"u\" xmlns:r=\"w\" p:x=\"1\" r:x=\"2\"/></o></string></resources>")
    ∃ strings document written, (readBytes (.ofString "a.xml") bytes).all? = .ok strings ∧
      (strings.map Translatable.name).Nodup ∧ Xml.Document.ofBytes? bytes = some document ∧
      stringElements document ≠ [] ∧
      (∀ element ∈ stringElements document, IsMarkupElement document element) ∧
      render "Str" strings = .ok written ∧
      ¬ ∃ found, (readBytes (.ofString "a.xml") (Text.encode written)).all? = .ok found := by
  intro bytes
  have markup : ∀ document ∈ Xml.Document.ofBytes? bytes, stringElements document ≠ [] ∧
      ∀ element ∈ stringElements document, (∃ node ∈ element.2, node.isText = false) ∧
        (∀ node ∈ Xml.withinAll element.2, node.isReference = false) ∧
        '\r' ∉ (textIn document element).toList ∧
        ¬ ['\\', '"'] <:+: (textIn document element).toList := by
    decide +kernel
  have unread : ∃ strings ∈ (readBytes (.ofString "a.xml") bytes).all?.toOption,
      (strings.map Translatable.name).Nodup ∧ ∃ written ∈ (render "Str" strings).toOption,
        (readBytes (.ofString "a.xml") (Text.encode written)).all?.toOption.isNone := by
    decide +kernel
  obtain ⟨strings, read, distinct, written, made, unread⟩ := unread
  obtain ⟨document, there, -⟩ := exists_document (eq_ok_of_mem_toOption read)
  obtain ⟨some, elements⟩ := markup document there
  refine ⟨strings, document, written, eq_ok_of_mem_toOption read, distinct, there, some,
    fun element member => ?_, eq_ok_of_mem_toOption made, ?_⟩
  · obtain ⟨other, references, lines, quotes⟩ := elements element member
    exact ⟨other, references, lines, quotes⟩
  · rintro ⟨found, again⟩
    rw [again] at unread
    cases unread

end StringCatalog.Resource
