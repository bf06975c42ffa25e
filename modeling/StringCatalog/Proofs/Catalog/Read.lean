import StringCatalog.Proofs.Catalog.Again

/-! # What is read from a catalog

* **`Translatable.draft`** — the parts of a string, and **`Translatable.build_draft_iff`**, when they
  pass the check.
* **`Catalog.IsRead`** — a string as a catalog has it.
* **`Catalog.readContent_cases`** — a text is refused before anything is found in it, or all its strings
  are so. -/

namespace StringCatalog

/-! ## Parts that pass the check -/

namespace Translatable

/-- **The parts of a string.** -/
def draft (string : Translatable) : Draft :=
  ⟨some string.singular, string.name, string.plural, string.translations, string.translatorComments,
    string.developerComments, string.references, string.formatHint, string.halves⟩

/-- **The parts of a string make it** just where a plural has two translated forms, if any. -/
theorem build_draft_iff {string : Translatable} :
    string.draft.build = .ok string ↔
      (string.plural.isSome → ∀ forms ∈ string.translations, 2 ≤ forms.length) := by
  obtain ⟨singular, name, plural, translations, translators, developers, references, hint, halves⟩ :=
    string
  cases plural with
  | none => cases translations <;> simp [draft, Draft.build]
  | some plural =>
      cases translations with
      | none => simp [draft, Draft.build]
      | some forms =>
          simp only [draft, Draft.build]
          split
          · next few => simpa using few
          · next enough =>
            refine ⟨fun _ _ other same => ?_, fun _ => rfl⟩
            obtain rfl := Option.mem_some.1 same
            exact Nat.not_lt.1 enough

end Translatable

namespace Catalog

/-! ## Strings of a catalog -/

/-- **A remark without blanks around it,** which has a text:
`remark ≠ "" ∧ Text.trim remark.toList = remark.toList`. -/
def IsTrimmed (remark : String) : Prop :=
  remark ≠ "" ∧ Text.trim remark.toList = remark.toList

/-- **A string as a catalog has it.** -/
structure IsRead (string : Translatable) : Prop where
  /-- There is no name. -/
  name : string.name = none
  /-- There is an untranslated text. -/
  singular : string.singular ≠ ""
  /-- There is a plural text if there is a plural. -/
  plural : string.plural ≠ some ""
  /-- No translation is open, and one of them has a text; there are at most ten, and at least two for a
  plural. -/
  translations : ∀ forms ∈ string.translations, none ∉ forms ∧ (∃ form ∈ forms, form ≠ some "") ∧
    forms.length ≤ 10 ∧ (string.plural.isSome → 2 ≤ forms.length)
  /-- What translators remarked is trimmed. -/
  translators : ∀ remark ∈ string.translatorComments, IsTrimmed remark
  /-- So is what developers remarked. -/
  developers : ∀ remark ∈ string.developerComments, IsTrimmed remark
  /-- References have no blanks. -/
  references : ∀ reference ∈ string.references, IsNormalReference reference
  /-- There is a kind of placeholders if there are flags. -/
  hint : string.formatHint ≠ some ""

/-- `string.draft.build = .ok string`: the parts of a string of a catalog pass the check. -/
theorem IsRead.build_draft {string : Translatable} (h : IsRead string) :
    string.draft.build = .ok string :=
  Translatable.build_draft_iff.2 fun plural forms translated =>
    (h.translations forms translated).2.2.2 plural

/-- A remark that is trimmed from a text. -/
theorem isTrimmed_of_trimmed? {text : List Char} {remark : String}
    (found : Text.trimmed? text = some remark) : IsTrimmed remark := by
  obtain ⟨-, trimmed, some⟩ := of_trimmed? found
  exact ⟨fun empty => some (by rw [empty]; rfl), trimmed⟩

/-- **An entry that counts comes to such a string.** -/
theorem Entry.IsSound.isRead {entry : Entry} (h : entry.IsSound) (counts : entry.counts = true) :
    IsRead entry.toTranslatable where
  name := rfl
  singular := by
    rw [Entry.counts, Bool.and_eq_true, bne_iff_ne] at counts
    exact counts.2
  plural := nonEmpty?_ne entry.plural
  translations := by
    intro forms member
    obtain ⟨values, translated, rfl⟩ := Option.map_eq_some_iff.1 member
    obtain ⟨text, plural, few, -⟩ := h.of_translations translated
    obtain ⟨value, inside, other⟩ := List.all_eq_false.1 text
    refine ⟨by simp, ⟨some value, List.mem_map_of_mem inside, by simpa using other⟩, ?_, ?_⟩
    · rwa [List.length_map]
    · rwa [List.length_map]
  translators := fun _ found => isTrimmed_of_trimmed? found
  developers := fun _ found => isTrimmed_of_trimmed? found
  references := h.references
  hint := nonEmpty?_ne _

/-! ## Whole catalogs -/

/-- **A text is a catalog or none, as a whole.** Where a text is not the name of a file,
`readContent` is `.failed` before anything is found in it; or else all its `entriesOf` are read,
and the strings are those of the entries that are not obsolete and have a text. These strings are
such as catalogs have (`IsRead`), and their parts pass the check:
`string.draft.build = .ok string`. -/
theorem readContent_cases {tree : FileTree} {content : String} (path : String)
    (noFile : tree.isFile content = false) :
    (∃ fault, readContent tree path content.toList = .failed (.input path (.catalog fault))) ∨
    ∃ entries, entriesOf tree content.toList = .ok entries ∧
      (readContent tree path content.toList).all? = .ok ((entries.filter fun entry =>
        !entry.obsolete && entry.id != "").map Entry.toTranslatable) ∧
      ∀ entry ∈ entries, entry.obsolete = false → entry.id ≠ "" →
        IsRead entry.toTranslatable ∧ entry.toTranslatable.draft.build = .ok entry.toTranslatable := by
  have lines := linesOf_of_not_isFile noFile
  cases found : readEntries (Text.splitLines content.toList) with
  | error fault =>
      obtain ⟨line, cause⟩ := fault
      refine .inl ⟨⟨none, line, cause⟩, ?_⟩
      rw [readContent, entriesOf, lines]
      simp only [found]
  | ok entries =>
      have whole : entriesOf tree content.toList = .ok entries := by
        rw [entriesOf, lines]
        simp only [found]
      refine .inr ⟨entries, whole, ?_, fun entry member current text => ?_⟩
      · rw [readContent, whole]
        exact all?_reading path entries
      · have sound := isSound_of_readEntries (fun _ => Text.isLine_of_mem_splitLines) found entry member
        have counts : entry.counts = true := by simp [Entry.counts, current, text]
        exact ⟨sound.isRead counts, (sound.isRead counts).build_draft⟩

/-- An obsolete entry, a header, and a plural with one form in a file that names the same number
twice. -/
theorem readContent_cases_plural :
    let content := "#~ msgid \"old\"\n#~ msgstr \"alt\"\n\nmsgid \"\"\nmsgstr \"x\"\n\n" ++
      "#  note \n#: f:1\nmsgid \"a\"\nmsgid_plural \"as\"\nmsgstr[3] \"b\"\nmsgstr[3] \"c\"\n"
    let string : Translatable :=
      ⟨"a", none, some "as", some [some "c", some "c"], some "note", none, ["f:1"], none, {}⟩
    (readContent .empty "a.po" content.toList).all? = .ok [string] ∧ IsRead string ∧
      string.draft.build = .ok string := by
  intro content string
  have read : (readContent .empty "a.po" content.toList).all? = .ok [string] := by decide +kernel
  rcases readContent_cases "a.po" (FileTree.isFile_empty content) with ⟨fault, failed⟩ | ⟨entries, -, all, each⟩
  · rw [failed] at read
    cases read
  · obtain ⟨entry, member, same⟩ : ∃ entry ∈ entries.filter fun entry =>
        !entry.obsolete && entry.id != "", entry.toTranslatable = string := by
      rw [← List.mem_map, ← Except.ok.inj (read.symm.trans all)]
      exact List.mem_singleton_self string
    obtain ⟨inside, counts⟩ := List.mem_filter.1 member
    simp only [Bool.and_eq_true, Bool.not_eq_true', bne_iff_ne] at counts
    rw [← same]
    exact ⟨same ▸ read, each entry inside counts.1 counts.2⟩

end Catalog

end StringCatalog
