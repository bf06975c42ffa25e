import StringCatalog.Proofs.Catalog.Reread
import StringCatalog.Proofs.Text.Word

/-! # References of a written catalog

A reference is written on a line of its own, and such a line is read word by word:

* **`Catalog.wordsOf`** — the words of some references.
* **`Catalog.Entry.Keeps`** — an entry that has the text of a string and the words of its references.
* **`Catalog.assembleFrom_keeps`** — the stanzas of some strings are read as entries that keep them,
  whatever forms the strings have.
* **`Catalog.readContent_references`** — the references that come back are the words of those that
  were written, so that exactly the references without blanks come back. -/

namespace StringCatalog.Catalog

/-! ## Words of references -/

/-- **The words of some references,** one after another. -/
def wordsOf (references : List String) : List String :=
  references.flatMap fun reference => (Text.words reference.toList).map String.ofList

/-- The words of the lines of a remark are its words. -/
theorem words_remarkLines (remark : String) :
    (remarkLines (some remark)).flatMap Text.words = Text.words remark.toList := by
  have blank (c : Char) (newline : (c == '\n') = true) : Text.isBlank c = true := by
    obtain rfl : c = '\n' := by simpa using newline
    decide
  rw [← Text.flatMap_words_split blank remark.toList, remarkLines, List.flatMap_map]
  induction Text.split (· == '\n') remark.toList with
  | nil => rfl
  | cons line lines ih =>
      rw [List.filter_cons, List.flatMap_cons, ← ih]
      -- a line of blanks alone is left out, and has no words
      by_cases empty : Text.isBlankText line = true
      · rw [if_neg (by simp [empty]), Text.words_of_isBlankText empty, List.nil_append]
      · rw [if_pos (by simp [empty]), List.flatMap_cons, Text.words_trimEnd]

/-- The words of the lines of references are the words of the references. -/
theorem words_referenceLines (references : List String) :
    ((referenceLines references).flatMap Text.words).map String.ofList = wordsOf references := by
  rw [referenceLines, List.flatMap_assoc, List.map_flatMap]
  exact List.flatMap_congr fun reference _ => by rw [words_remarkLines]

/-- **References are their own words** exactly if none of them is empty or has a blank. -/
theorem wordsOf_eq_self_iff {references : List String} :
    wordsOf references = references ↔ ∀ reference ∈ references, IsNormalReference reference := by
  constructor
  · intro same reference member
    rw [← same, wordsOf, List.mem_flatMap] at member
    obtain ⟨_, -, member⟩ := member
    obtain ⟨word, inside, rfl⟩ := List.mem_map.1 member
    obtain ⟨some, noBlank⟩ := Text.of_mem_words inside
    exact ⟨by simpa using some, by simpa using noBlank⟩
  · intro normal
    induction references with
    | nil => rfl
    | cons reference references ih =>
        rw [List.forall_mem_cons] at normal
        obtain ⟨⟨some, noBlank⟩, others⟩ := normal
        have one : Text.words reference.toList = [reference.toList] :=
          Text.words_of_noBlank (by simpa using some) noBlank
        rw [wordsOf, List.flatMap_cons, one, List.map_singleton, String.ofList_toList]
        exact congrArg (reference :: ·) (ih others)

/-! ## Entries -/

/-- **An entry that keeps a string,** as far as its text and its references go. -/
structure Entry.Keeps (entry : Entry) (string : Translatable) : Prop where
  /-- It has the untranslated text. -/
  id : entry.id = string.singular
  /-- Its references are the words of those of the string. -/
  references : entry.references = wordsOf string.references
  /-- It is in use. -/
  current : entry.obsolete = false

namespace Assembly

variable {assembly : Assembly}

/-- **What translations leave as it is:** the entries that are complete, and of the one under way all
but the translations. -/
structure GoesOn (assembly next : Assembly) : Prop where
  /-- The complete entries are the same. -/
  complete : next.complete = assembly.complete
  /-- So is the entry under way, its translations aside. -/
  entry : ∃ message forms, next.entry = { assembly.entry with message, forms }

/-- An assembly goes on from itself. -/
theorem GoesOn.refl (assembly : Assembly) : assembly.GoesOn assembly := ⟨rfl, _, _, rfl⟩

/-- `GoesOn` is transitive: the translations may change twice, and nothing else does. -/
theorem GoesOn.trans {next last : Assembly} (h : assembly.GoesOn next) (more : next.GoesOn last) :
    assembly.GoesOn last := by
  obtain ⟨_, _, first⟩ := h.entry
  obtain ⟨_, _, second⟩ := more.entry
  exact ⟨more.complete.trans h.complete, _, _, by rw [second, first]⟩

/-- Numbered translations, some of which may be open, one after another. -/
theorem exists_addAll?_numbered (forms : List (Option String)) (start : Nat)
    (may : assembly.place.allowsForm = true) :
    ∃ next, assembly.addAll? ((forms.zipIdx start).flatMap fun (form, index) =>
        toldOpenText (.form (some (leadingDigit index))) form) = some next ∧
      assembly.GoesOn next ∧
      (next.place = .form ∨ next.place = assembly.place ∧ ∀ text, some text ∉ forms) := by
  induction forms generalizing assembly start with
  | nil => exact ⟨assembly, rfl, .refl assembly, .inr ⟨rfl, by simp⟩⟩
  | cons form forms ih =>
      rw [List.zipIdx_cons, List.flatMap_cons]
      cases form with
      | none =>
          obtain ⟨next, added, goesOn, place⟩ := ih (start + 1) may
          exact ⟨next, added, goesOn, place.imp_right fun same => ⟨same.1, by simpa using same.2⟩⟩
      | some text =>
          -- the text is set under the first digit of its number, and further ones may follow
          have first := addAll?_toldForm may (leadingDigit start) text
          generalize shape : Assembly.mk assembly.complete { assembly.entry with
            forms := setForm assembly.entry.forms (leadingDigit start) text } .form
            (leadingDigit start) = middle at first
          have goesOn : assembly.GoesOn middle := shape ▸ ⟨rfl, _, _, rfl⟩
          have here : middle.place = .form := shape ▸ rfl
          obtain ⟨next, added, more, place⟩ := @ih middle (start + 1) (by rw [here]; rfl)
          refine ⟨next, ?_, goesOn.trans more, .inl (place.elim id fun same => same.1.trans here)⟩
          rw [addAll?_append]
          show (assembly.addAll? (toldText _ text)).bind _ = _
          rw [first, Option.bind_some, added]

/-- The translations of a stanza, some of which may be open. -/
theorem exists_addAll?_toldForms (forms : List (Option String))
    (mayMessage : assembly.place.allowsMessage = true) (mayForm : assembly.place.allowsForm = true) :
    ∃ next, assembly.addAll? (toldForms forms) = some next ∧ assembly.GoesOn next ∧
      ((∃ text, some text ∈ forms) → next.place.endsEntry = true) := by
  match forms with
  | [] => exact ⟨assembly, rfl, .refl assembly, by simp⟩
  | [none] => exact ⟨assembly, rfl, .refl assembly, by simp⟩
  | [some text] =>
      exact ⟨_, @addAll?_toldText _ .message mayMessage text, ⟨rfl, _, _, rfl⟩, fun _ => rfl⟩
  | first :: second :: more =>
      obtain ⟨next, added, goesOn, place⟩ :=
        exists_addAll?_numbered (first :: second :: more) 0 mayForm
      refine ⟨next, added, goesOn, ?_⟩
      rintro ⟨text, member⟩
      rcases place with form | ⟨-, none⟩
      · rw [form]
        rfl
      · exact absurd member (none text)

/-- The untranslated texts of a stanza. -/
theorem Awaits.exists_addAll?_texts {complete : List Entry} {entry : Entry}
    (h : assembly.Awaits complete entry) (string : Translatable) :
    ∃ next, assembly.addAll? (toldText (.keyword .id) string.singular ++
        toldOpenText (.keyword .plural) string.plural) = some next ∧
      next.complete = complete ∧
      (∃ plural, next.entry = { entry with id := string.singular, plural, obsolete := false }) ∧
      next.place.allowsMessage = true ∧ next.place.allowsForm = true := by
  have may : assembly.place.allowsKeyword .id = true := Place.allowsId_of_isFree h.free
  have first := addAll?_toldText may string.singular
  rw [addAll?_append, first, Option.bind_some]
  cases string.plural with
  | none =>
      refine ⟨_, rfl, h.complete, ⟨entry.plural, ?_⟩, rfl, rfl⟩
      rw [← h.entry]
      rfl
  | some plural =>
      refine ⟨_, @addAll?_toldText _ .plural rfl plural, h.complete, ⟨plural, ?_⟩, rfl, rfl⟩
      rw [← h.entry]
      rfl

/-- **A stanza adds an entry that keeps its string,** and a further one may follow if any form is
written. -/
theorem Awaits.exists_addAll?_toldStanza {complete : List Entry}
    (h : assembly.Awaits complete .empty) (string : Translatable) :
    ∃ next, assembly.addAll? (toldStanza string) = some next ∧ next.complete = complete ∧
      next.entry.Keeps string ∧
      ((∃ text, some text ∈ writtenForms string) → next.place.endsEntry = true) := by
  obtain ⟨remarked, addedRemarks, awaits⟩ := h.addAll?_remarks string
  obtain ⟨named, addedTexts, complete, ⟨plural, entry⟩, mayMessage, mayForm⟩ :=
    awaits.exists_addAll?_texts string
  obtain ⟨next, addedForms, ⟨same, message, forms, stated⟩, ends⟩ :=
    exists_addAll?_toldForms (writtenForms string) mayMessage mayForm
  refine ⟨next, ?_, same.trans complete, ?_, ends⟩
  · rw [toldStanza, List.append_assoc _ (toldText _ _), addAll?_append, addAll?_append, addedRemarks,
      Option.bind_some, addedTexts, Option.bind_some, addedForms]
  · rw [stated, entry]
    refine ⟨rfl, ?_, rfl⟩
    rw [← words_referenceLines]
    cases assembly.place.isHeading <;> rfl

end Assembly

/-! ## Stanzas -/

/-- `line.isRemark = false`: the lines of a text are no remarks, if a keyword with a piece is
none. -/
theorem isRemark_of_mem_toldText {say : List Char → Line}
    (other : ∀ piece, (say piece).isRemark = false) {text : String} {line : Line}
    (member : line ∈ toldText say text) : line.isRemark = false := by
  unfold toldText at member
  split at member
  · rcases List.mem_cons.1 member with rfl | member
    · exact other []
    · obtain ⟨chunk, -, rfl⟩ := List.mem_map.1 member
      rfl
  · obtain rfl := List.mem_singleton.1 member
    exact other text.toList

/-- `line.isRemark = false`: the lines of a text that may be open are no remarks either. -/
theorem isRemark_of_mem_toldOpenText {say : List Char → Line}
    (other : ∀ piece, (say piece).isRemark = false) {text : Option String} {line : Line}
    (member : line ∈ toldOpenText say text) : line.isRemark = false := by
  cases text with
  | none => exact absurd member List.not_mem_nil
  | some text => exact isRemark_of_mem_toldText other member

/-- `line.isRemark = false`: the lines of translations are no remarks. -/
theorem isRemark_of_mem_toldForms {forms : List (Option String)} {line : Line}
    (member : line ∈ toldForms forms) : line.isRemark = false := by
  unfold toldForms at member
  split at member
  · exact isRemark_of_mem_toldOpenText (fun _ => rfl) member
  · obtain ⟨⟨form, index⟩, -, member⟩ := List.mem_flatMap.1 member
    exact isRemark_of_mem_toldOpenText (fun _ => rfl) member

/-- **The last line of a stanza is no remark:** `endsOpen before (toldStanza string) = true`. -/
theorem endsOpen_toldStanza (before : Bool) (string : Translatable) :
    endsOpen before (toldStanza string) = true := by
  have some : toldText (.keyword .id) string.singular ≠ [] := by
    unfold toldText
    split <;> simp
  -- the remarks come first, and the text of the string is always behind them
  obtain ⟨front, last, shape⟩ := (List.eq_nil_or_concat'
    (toldText (.keyword .id) string.singular ++ (toldOpenText (.keyword .plural) string.plural ++
      toldForms (writtenForms string)))).resolve_left (by simp [some])
  have other : last.isRemark = false := by
    have member : last ∈ front ++ [last] := by simp
    rw [← shape, List.mem_append, List.mem_append] at member
    rcases member with member | member | member
    · exact isRemark_of_mem_toldText (fun _ => rfl) member
    · exact isRemark_of_mem_toldOpenText (fun _ => rfl) member
    · exact isRemark_of_mem_toldForms member
  rw [toldStanza, List.append_assoc, List.append_assoc, shape, ← List.append_assoc, endsOpen,
    List.getLast?_concat]
  simp [other]

/-- The entries that are complete, with the one under way if it counts. -/
def countedEntries (assembly : Assembly) (isOpen : Bool) : List Entry :=
  if isOpen then assembly.entry :: assembly.complete else assembly.complete

/-- **The stanzas of some strings are read as entries that keep them,** whatever forms the strings
have, as long as one is written for each of them but the last. -/
theorem assembleFrom_keeps {strings : List Translatable}
    (written : ∀ string ∈ strings.dropLast, ∃ text, some text ∈ writtenForms string)
    {assembly : Assembly} {complete : List Entry} (h : assembly.Awaits complete .empty)
    (isOpen : Bool) (ready : isOpen = assembly.place.endsEntry) (number : Nat) :
    ∃ last isOpen' entries,
      assembleFrom assembly isOpen number ((strings.flatMap stanza).map String.toList) =
        .ok (last, isOpen') ∧
      countedEntries last isOpen' = entries.reverse ++ complete ∧
      List.Forall₂ Entry.Keeps entries strings := by
  induction strings generalizing assembly complete isOpen number with
  | nil =>
      refine ⟨assembly, isOpen, [], rfl, ?_, .nil⟩
      rw [countedEntries, ready, ← Assembly.complete_opened, h.complete]
      rfl
  | cons string strings ih =>
      obtain ⟨next, added, same, keeps, ends⟩ := h.exists_addAll?_toldStanza string
      obtain ⟨lines, shape, tells⟩ := exists_tells_stanza string
      -- the empty line behind a stanza says nothing
      have read : assembleFrom assembly isOpen number
          (((string :: strings).flatMap stanza).map String.toList) =
          assembleFrom next true (number + lines.length + 1)
            ((strings.flatMap stanza).map String.toList) := by
        have whole := assembleFrom_append (List.forall₂_map_left_iff.2 tells) added isOpen number
          ("".toList :: (strings.flatMap stanza).map String.toList)
        rw [endsOpen_toldStanza, List.length_map] at whole
        rw [List.flatMap_cons, shape, List.map_append, List.map_append, List.append_assoc]
        exact whole
      rw [read]
      cases strings with
      | nil =>
          refine ⟨next, true, [next.entry], rfl, ?_, .cons keeps .nil⟩
          rw [countedEntries, if_pos rfl, same]
          rfl
      | cons second strings =>
          rw [List.dropLast_cons_cons, List.forall_mem_cons] at written
          have ends := ends written.1
          have awaits : next.Awaits (next.entry :: complete) .empty := by
            refine ⟨?_, ?_, ?_⟩
            · rw [Assembly.complete_opened, if_pos ends, same]
            · rw [Assembly.opened, if_pos ends]
            · revert ends
              cases next.place <;> simp [Place.endsEntry, Place.isFree]
              rintro rfl
              rfl
          obtain ⟨last, isOpen', entries, rest, shape, each⟩ :=
            ih written.2 awaits true ends.symm (number + lines.length + 1)
          exact ⟨last, isOpen', next.entry :: entries, rest, by simp [shape], .cons keeps each⟩

/-! ## Catalogs -/

/-- Entries that keep strings with texts count, one by one. -/
theorem counts_of_keeps {entries : List Entry} {strings : List Translatable}
    (keeps : List.Forall₂ Entry.Keeps entries strings)
    (texts : ∀ string ∈ strings, string.singular ≠ "") :
    ∀ entry ∈ entries, entry.counts = true := by
  induction keeps with
  | nil => simp
  | cons keep keeps ih =>
      rw [List.forall_mem_cons] at texts ⊢
      exact ⟨by simp [Entry.counts, keep.current, keep.id, texts.1], ih texts.2⟩

/-- The entries of a written catalog keep its strings. -/
theorem readEntries_keeps {strings : List Translatable}
    (texts : ∀ string ∈ strings, string.singular ≠ "")
    (lined : ∀ string ∈ strings, IsLined string)
    (written : ∀ string ∈ strings.dropLast, ∃ text, some text ∈ writtenForms string) :
    ∃ entries, readEntries (Text.splitLines (render strings).toList) = .ok entries ∧
      List.Forall₂ Entry.Keeps entries strings := by
  have start : Assembly.start.Awaits [] .empty := ⟨rfl, rfl, rfl⟩
  obtain ⟨last, isOpen, entries, read, counted, keeps⟩ :=
    assembleFrom_keeps written start false rfl 1
  refine ⟨entries, ?_, keeps⟩
  have named : ∀ entry ∈ entries, entry.id ≠ "" := by
    intro entry member
    have counts := counts_of_keeps keeps texts entry member
    simp only [Entry.counts, Bool.and_eq_true] at counts
    simpa using counts.2
  rw [List.append_nil] at counted
  rw [splitLines_render lined, readEntries, dropMark_stanzas, read]
  show Except.ok (withoutHeader (countedEntries last isOpen).reverse) = _
  rw [counted, List.reverse_reverse, withoutHeader_of_id_ne named]

/-- **The references that come back are the words of those that were written:**
`record.references = wordsOf string.references`, so that they are the same exactly if each
`IsNormalReference`: none of them is empty or has a blank. -/
theorem readContent_references (tree : FileTree) (path : String) {strings : List Translatable}
    (texts : ∀ string ∈ strings, string.singular ≠ "")
    (lined : ∀ string ∈ strings, IsLined string)
    (written : ∀ string ∈ strings.dropLast, ∃ text, some text ∈ writtenForms string)
    (noFile : tree.isFile (render strings) = false) :
    ∃ found, (readContent tree path (render strings).toList).all? = .ok found ∧
      List.Forall₂ (fun record string =>
        record.singular = string.singular ∧ record.references = wordsOf string.references ∧
          (record.references = string.references ↔
            ∀ reference ∈ string.references, IsNormalReference reference)) found strings := by
  obtain ⟨entries, read, keeps⟩ := readEntries_keeps texts lined written
  -- no entry is passed over: each has a text and is in use
  have kept : entries.filter Entry.counts = entries :=
    List.filter_eq_self.2 (counts_of_keeps keeps texts)
  refine ⟨entries.map Entry.toTranslatable, ?_, ?_⟩
  · rw [readContent, entriesOf, linesOf_of_not_isFile noFile]
    simp only [read]
    rw [all?_reading, kept]
  · refine List.forall₂_map_left_iff.2 (keeps.imp fun entry string keep => ?_)
    refine ⟨keep.id, keep.references, ?_⟩
    rw [← wordsOf_eq_self_iff]
    show entry.references = _ ↔ _
    rw [keep.references]

/-- A reference with a blank comes back as two, one with line ends in it as two more; `d:e:f` comes
back as it was. -/
theorem readContent_references_line :
    let strings : List Translatable :=
      [⟨"a", none, some "as", some [none, some "b"], some "first\n last ", none,
          ["/w/my app.py:1", "b.py:12\n\n c.py "], some "python-format", {}⟩,
        ⟨"c", none, none, some [], none, none, ["d:e:f"], none, {}⟩]
    ∃ found, (readContent .empty "a.po" (render strings).toList).all? = .ok found ∧
      List.Forall₂ (fun record string =>
        record.singular = string.singular ∧ record.references = wordsOf string.references ∧
          (record.references = string.references ↔
            ∀ reference ∈ string.references, IsNormalReference reference)) found strings := by
  refine readContent_references .empty "a.po" ?_ ?_ ?_ (FileTree.isFile_empty _)
  · decide
  · simp only [List.forall_mem_cons]
    exact ⟨⟨by decide, by decide⟩, ⟨by decide, by decide⟩, by simp⟩
  · simp only [List.dropLast_cons_cons, List.dropLast_singleton, List.forall_mem_singleton]
    exact ⟨"b", by decide⟩

/-- A reference with a space in it comes back as two. -/
theorem readContent_references_space :
    ∃ string : Translatable, string.singular ≠ "" ∧
      (∀ reference ∈ string.references, reference ≠ "" ∧
        (∀ c ∈ reference.toList, Text.isLineBoundary c = false) ∧
        Text.trim reference.toList = reference.toList) ∧
      ¬ ∃ found record, (readContent .empty "a.po" (render [string]).toList).all? = .ok found ∧
        found = [record] ∧ record.references = string.references := by
  refine ⟨⟨"a", none, none, none, none, none, ["/w/my app.py:1"], none, {}⟩, by decide, by decide, ?_⟩
  rintro ⟨found, record, read, rfl, same⟩
  have split : (readContent .empty "a.po" (render
      [⟨"a", none, none, none, none, none, ["/w/my app.py:1"], none, {}⟩]).toList).strings.map
      Translatable.references = [["/w/my", "app.py:1"]] := by
    decide +kernel
  rw [(Reading.all?_eq_ok.1 read).2, List.map_singleton, same] at split
  exact absurd split (by decide)

end StringCatalog.Catalog
