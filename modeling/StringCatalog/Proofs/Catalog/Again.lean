import Mathlib.Data.List.Perm.Subperm
import StringCatalog.Proofs.Catalog.Entry

/-! # Catalogs that are written again

A catalog that is read, written and read once more:

* **`Catalog.isWritable_toTranslatable`** — what is read can be written.
* **`Catalog.stanza_reread`** — what has been read is written as it is written after being read
  again.
* **`Catalog.render_again`** — only the remarks of translators on the first string are lost. -/

namespace StringCatalog.Catalog

/-! ## Translations that are read -/

/-- `entry.forms.length ≤ 10`: there are no more numbers than digits. -/
theorem Entry.IsSound.length_forms {entry : Entry} (h : entry.IsSound) : entry.forms.length ≤ 10 := by
  -- the numbers are different digits, and there are ten of those
  have digits : entry.forms.map Prod.fst ⊆ List.range 10 := by
    intro index member
    obtain ⟨form, inside, rfl⟩ := List.mem_map.1 member
    exact List.mem_range.2 (h.forms form inside).1
  simpa using (List.Nodup.subperm h.numbers digits).length_le

/-- `2 ≤ forms.length`: the translations of an entry with a plural are at least two. -/
theorem Entry.two_le_length_translations {entry : Entry} {forms : List String}
    (translated : entry.translations = some forms) (plural : (nonEmpty? entry.plural).isSome) :
    2 ≤ forms.length := by
  unfold translations at translated
  dsimp only at translated
  split at translated
  · simp at translated
  · next values _ =>
    split at translated
    · simp at translated
    · next text =>
      split at translated
      · obtain rfl := Option.some.inj translated
        -- one value is doubled, and none would count as no translation
        match values with
        | [] => simp at text
        | [value] => simp
        | first :: second :: more => simp
      · next enough =>
        obtain rfl := Option.some.inj translated
        rw [plural, Bool.true_and, decide_eq_true_eq, Nat.not_lt] at enough
        exact enough

/-- **What holds of the translations of an entry** that is sound. -/
theorem Entry.IsSound.of_translations {entry : Entry} (h : entry.IsSound) {forms : List String}
    (translated : entry.translations = some forms) :
    forms.all (· == "") = false ∧ ((Entry.nonEmpty? entry.plural).isSome → 2 ≤ forms.length) ∧
      forms.length ≤ 10 ∧ ∀ form ∈ forms, IsFolded form.toList := by
  have enough := Entry.two_le_length_translations translated
  unfold Entry.translations at translated
  dsimp only at translated
  split at translated
  · simp at translated
  · next values found =>
    -- the values come from the numbered translations, or else from the one without a number
    obtain ⟨few, folded⟩ : values.length ≤ 10 ∧ ∀ form ∈ values, IsFolded form.toList := by
      split at found
      · obtain rfl := Option.some.inj found
        refine ⟨by simpa using h.length_forms, fun form member => ?_⟩
        obtain ⟨numbered, inside, rfl⟩ := List.mem_map.1 member
        exact (h.forms numbered (List.mem_mergeSort.1 inside)).2
      split at found
      · obtain rfl := Option.some.inj found
        exact ⟨by simp, by simpa using h.message⟩
      · simp at found
    split at translated
    · simp at translated
    · next some =>
      have text : values.all (· == "") = false := by simpa using some
      split at translated
      · next short =>
        obtain rfl := Option.some.inj translated
        -- too few for a plural: there is one value, or there would be no translation
        match values with
        | [] => simp at text
        | [value] =>
            rw [List.forall_mem_singleton] at folded
            exact ⟨by simpa using text, enough, by simp, by simpa using folded⟩
        | first :: second :: more =>
            simp only [Bool.and_eq_true, decide_eq_true_eq, List.length_cons] at short
            omega
      · obtain rfl := Option.some.inj translated
        exact ⟨text, enough, few, folded⟩

/-! ## Strings that are read -/

/-- `Entry.nonEmpty? text ≠ some ""`: a text that may be absent is not empty. -/
theorem nonEmpty?_ne (text : String) : Entry.nonEmpty? text ≠ some "" := by
  unfold Entry.nonEmpty?
  split
  · simp
  · next other => simpa using other

/-- What is trimmed is a part of the text, is trimmed, and is not empty. -/
theorem of_trimmed? {text : List Char} {trimmed : String} (h : Text.trimmed? text = some trimmed) :
    trimmed.toList ⊆ text ∧ Text.trim trimmed.toList = trimmed.toList ∧ trimmed.toList ≠ [] := by
  unfold Text.trimmed? at h
  split at h
  · simp at h
  · next c rest shape =>
    obtain rfl := Option.some.inj h
    rw [String.toList_ofList, ← shape]
    exact ⟨Text.trim_subset text, Text.trim_trim text, by simp [shape]⟩

/-- A remark that is read has its lines behind line feeds, as far as it is trimmed from such a text. -/
theorem HasLines.of_trimmed? {text trimmed : String} (h : HasLines text)
    (found : Text.trimmed? text.toList = some trimmed) : HasLines trimmed := fun c member =>
  h c ((Catalog.of_trimmed? found).1 member)

/-- **The forms of a string that has been read** are its translations, or else its text. -/
theorem writtenForms_toTranslatable {entry : Entry} (h : entry.IsSound) :
    writtenForms entry.toTranslatable =
      (entry.translations.getD [entry.id]).map some := by
  cases translated : entry.translations with
  | none => simp [writtenForms, Entry.toTranslatable, translated]
  | some forms =>
      cases forms with
      | nil => exact absurd (h.of_translations translated).1 (by simp)
      | cons first more => simp [writtenForms, Entry.toTranslatable, translated]

/-- A text without vertical tabs and form feeds is plain if its line boundaries have letters. -/
theorem IsFolded.isPlain {text : List Char} (h : IsFolded text)
    (noFeed : '\x0b' ∉ text ∧ '\x0c' ∉ text) : Text.IsPlain text := by
  intro c member boundary
  have letters := h c member boundary
  simp only [List.mem_cons, List.not_mem_nil, or_false] at letters
  rcases letters with rfl | rfl | rfl | rfl
  · exact .inl rfl
  · exact .inr rfl
  · exact absurd member noFeed.1
  · exact absurd member noFeed.2

/-- The line boundaries of the texts of a string that has been read have letters. -/
theorem isFolded_of_mem_quotedTexts {entry : Entry} (h : entry.IsSound) {text : String}
    (member : text ∈ quotedTexts entry.toTranslatable) : IsFolded text.toList := by
  simp only [quotedTexts, writtenForms_toTranslatable h, List.cons_append, List.mem_cons,
    List.mem_append, Option.mem_toList, List.reduceOption_mem_iff, List.mem_map, Option.some.injEq,
    exists_eq_right] at member
  rcases member with rfl | member | member
  · exact h.id
  · have same : text = entry.plural := by
      simp only [Entry.toTranslatable, Entry.nonEmpty?] at member
      split at member
      · simp at member
      · exact (Option.some.inj member).symm
    exact same ▸ h.plural
  -- an untranslated string is written with its own text as the translation
  · cases translated : entry.translations with
    | none =>
        rw [translated, Option.getD_none, List.mem_singleton] at member
        exact member ▸ h.id
    | some forms =>
        rw [translated, Option.getD_some] at member
        exact (h.of_translations translated).2.2.2 text member

/-- `hint = Text.joined ", " entry.flags ∧ hint ≠ ""`: the flags of a string that has been read
make one line. -/
theorem exists_of_formatHint {entry : Entry} {hint : String}
    (found : entry.toTranslatable.formatHint = some hint) :
    hint = Text.joined ", " entry.flags ∧ hint ≠ "" := by
  simp only [Entry.toTranslatable, Entry.nonEmpty?] at found
  split at found
  · simp at found
  · next other =>
    obtain rfl := Option.some.inj found
    exact ⟨rfl, by simpa using other⟩

/-- The remarks of a string that has been read have their lines behind line feeds. -/
theorem hasLines_of_mem_remarkTexts {entry : Entry} (h : entry.IsSound) {text : String}
    (member : text ∈ remarkTexts entry.toTranslatable) : HasLines text := by
  simp only [remarkTexts, List.mem_append, Option.mem_toList] at member
  rcases member with ((member | member) | member) | member
  · exact h.comment.of_trimmed? member
  · exact h.extracted.of_trimmed? member
  · intro c inside boundary
    have blank := Text.isBlank_of_isLineBoundary boundary
    simp [(h.references text member).2 c inside] at blank
  · obtain ⟨rfl, -⟩ := exists_of_formatHint member
    intro c inside boundary
    simp [isLine_joined h.flags c inside] at boundary

/-- **What is read can be written,** where no text has a vertical tab or a form feed. -/
theorem isWritable_toTranslatable {entry : Entry} (h : entry.IsSound) (counts : entry.counts = true)
    (noFeed : ∀ text ∈ quotedTexts entry.toTranslatable,
      '\x0b' ∉ text.toList ∧ '\x0c' ∉ text.toList) :
    IsWritable entry.toTranslatable where
  singular := by
    simp only [Entry.counts, Bool.and_eq_true, bne_iff_ne] at counts
    exact counts.2
  plural := nonEmpty?_ne entry.plural
  closed := by simp [writtenForms_toTranslatable h]
  few := by
    rw [writtenForms_toTranslatable h, List.length_map]
    cases translated : entry.translations with
    | none => simp
    | some forms => exact (h.of_translations translated).2.2.1
  plain := fun text member => (isFolded_of_mem_quotedTexts h member).isPlain (noFeed text member)
  lined := fun _ member => hasLines_of_mem_remarkTexts h member

/-! ## Writing again -/

/-- **The lines of a trimmed remark make a remark.** -/
theorem isRemark_remarkLines {remark : String} (lines : HasLines remark)
    (trimmed : Text.trim remark.toList = remark.toList) (nonEmpty : remark.toList ≠ []) :
    IsRemark (remarkLines (some remark)) := by
  obtain ⟨c, rest, shape, ink⟩ := Text.exists_of_trim_eq_self trimmed nonEmpty
  have newline : (c == '\n') = false := by
    have other : c ≠ '\n' := by
      rintro rfl
      exact absurd ink (by decide)
    simpa using other
  -- the first line begins with the first character of the remark, so it is no blank one
  obtain ⟨first, more, written⟩ :
      ∃ first more, remarkLines (some remark) = (c :: first) :: more := by
    obtain ⟨piece, pieces, parts⟩ := List.exists_cons_of_ne_nil
      (@Text.split_ne_nil (· == '\n') rest)
    have whole : Text.split (· == '\n') remark.toList = (c :: piece) :: pieces := by
      simp [shape, Text.split, newline, parts]
    have kept : Text.isBlankText (c :: piece) = false := by simp [Text.isBlankText, ink]
    rw [remarkLines, whole, List.filter_cons_of_pos (by simp [kept]), List.map_cons,
      Text.trimEnd_cons ink]
    exact ⟨_, _, rfl⟩
  exact {
    some := by simp [written]
    ink := fun line member => (hasInk_of_mem_remarkLines member).1
    lined := fun line member => lines.isLine_of_mem_remarkLines member
    trimmed := fun line member => (hasInk_of_mem_remarkLines member).2
    start := by simp [written, Text.trimStart_cons ink] }

/-- A remark that has been read is written as before. -/
theorem remarkLines_trimmed? {text : String} (lines : HasLines text) :
    remarkLines (Text.trimmed? ((remarkLines (Text.trimmed? text.toList)).foldl
      Assembly.joinRemark "").toList) = remarkLines (Text.trimmed? text.toList) := by
  -- the lines that are written make a remark, and such lines come back as they are
  cases found : Text.trimmed? text.toList with
  | none => rfl
  | some remark =>
      obtain ⟨-, trimmed, nonEmpty⟩ := of_trimmed? found
      have lined := isRemark_remarkLines (lines.of_trimmed? found) trimmed nonEmpty
      rw [trimmed?_foldl_joinRemark lined, lined.remarkLines]

/-- The flags that have been read are read again. -/
theorem formatHint_reread {entry : Entry} (h : entry.IsSound) :
    (reread entry.toTranslatable).formatHint = entry.toTranslatable.formatHint := by
  rw [reread_formatHint]
  cases found : entry.toTranslatable.formatHint with
  | none => rfl
  | some hint =>
      obtain ⟨rfl, some⟩ := exists_of_formatHint found
      rw [flags_of_joined h.flags some]
      simp [Entry.nonEmpty?, some]

/-- The forms that have been read are read again. -/
theorem writtenForms_reread {entry : Entry} (h : entry.IsSound) :
    writtenForms (reread entry.toTranslatable) = writtenForms entry.toTranslatable := by
  have written := writtenForms_toTranslatable h
  have closed : none ∉ writtenForms entry.toTranslatable := by simp [written]
  have translations : (reread entry.toTranslatable).translations =
      foundTranslations entry.toTranslatable :=
    reread_translations closed (nonEmpty?_ne entry.plural)
  cases translated : entry.translations with
  | none =>
      rw [translated, Option.getD_none] at written
      unfold foundTranslations at translations
      dsimp only at translations
      -- whether or not its own text is read as a translation, it is what is written again
      split at translations
      · rw [writtenForms, translations, written]
        rfl
      · rw [writtenForms, translations, written]
        rfl
  | some forms =>
      rw [translated, Option.getD_some] at written
      obtain ⟨text, enough, -, -⟩ := h.of_translations translated
      have kept : foundTranslations entry.toTranslatable = some (forms.map some) := by
        refine foundTranslations_of_some (by simp [Entry.toTranslatable, translated]) ?_ ?_
        · rw [List.length_map]
          exact enough
        · rw [List.all_eq_false] at text
          obtain ⟨form, member, other⟩ := text
          exact ⟨some form, List.mem_map_of_mem member, by simpa using other⟩
      rw [writtenForms, translations, kept, written]
      cases forms with
      | nil => simp at text
      | cons first more => rfl

/-- **What has been read is written as it is written after being read again:**
`stanza (reread entry.toTranslatable) = stanza entry.toTranslatable`. -/
theorem stanza_reread {entry : Entry} (h : entry.IsSound) :
    stanza (reread entry.toTranslatable) = stanza entry.toTranslatable := by
  have translators : remarkLines (reread entry.toTranslatable).translatorComments =
      remarkLines entry.toTranslatable.translatorComments := by
    rw [reread_translatorComments]
    exact remarkLines_trimmed? h.comment
  have developers : remarkLines (reread entry.toTranslatable).developerComments =
      remarkLines entry.toTranslatable.developerComments := by
    rw [reread_developerComments]
    exact remarkLines_trimmed? h.extracted
  have references : (reread entry.toTranslatable).references = entry.toTranslatable.references := by
    rw [reread_references]
    exact references_of_lines h.references
  have plural : (reread entry.toTranslatable).plural = entry.toTranslatable.plural := by
    rw [reread_plural]
    exact nonEmpty?_getD (nonEmpty?_ne entry.plural)
  simp only [stanza, formLines, commentLines_eq_map, reread_singular, translators, developers,
    references, plural, formatHint_reread h, writtenForms_reread h]

/-! ## Catalogs -/

/-- **The strings of a catalog** are those of sound entries that count. -/
theorem exists_entries_of_readContent {tree : FileTree} {path content : String}
    {strings : List Translatable} (noFile : tree.isFile content = false)
    (read : (readContent tree path content.toList).all? = .ok strings) :
    ∃ entries : List Entry, (∀ entry ∈ entries, entry.IsSound ∧ entry.counts = true) ∧
      strings = entries.map Entry.toTranslatable := by
  rw [readContent, entriesOf, linesOf_of_not_isFile noFile] at read
  cases found : readEntries (Text.splitLines content.toList) with
  | error fault => simp [found, Reading.failed, Reading.all?] at read
  | ok entries =>
      simp only [found, all?_reading, Except.ok.injEq] at read
      refine ⟨entries.filter Entry.counts, fun entry member => ?_, read.symm⟩
      obtain ⟨inside, counts⟩ := List.mem_filter.1 member
      exact ⟨isSound_of_readEntries (fun _ => Text.isLine_of_mem_splitLines) found entry inside, counts⟩

/-- What has been read is written the same after being read again, line by line, without the remarks
of translators on the first string. -/
theorem stanza_reread_headedAll {entries : List Entry} (sound : ∀ entry ∈ entries, entry.IsSound) :
    ((headedAll true (entries.map Entry.toTranslatable)).map reread).flatMap stanza =
      (headedAll true (entries.map Entry.toTranslatable)).flatMap stanza := by
  cases entries with
  | nil => rfl
  | cons first entries =>
      rw [List.forall_mem_cons] at sound
      -- without its remarks of translators the first string is that of a sound entry as well
      have bare : headed true first.toTranslatable = { first with comment := "" }.toTranslatable := rfl
      have silent : Entry.IsSound { first with comment := "" } :=
        { sound.1 with comment := by simp [HasLines] }
      have others : ((entries.map Entry.toTranslatable).map reread).flatMap stanza =
          (entries.map Entry.toTranslatable).flatMap stanza := by
        simp only [List.flatMap_def, List.map_map]
        exact congrArg _ (List.map_congr_left fun entry member => stanza_reread (sound.2 entry member))
      simp only [headedAll, List.map_cons, List.flatMap_cons, bare, stanza_reread silent, others]

/-- The remarks of translators stand at the start of a stanza. -/
theorem stanza_headed (string : Translatable) :
    stanza string = commentLines "#" string.translatorComments ++ stanza (headed true string) := by
  simp [stanza, headed, commentLines, formLines, writtenForms]

/-- **Remarks of translators make a catalog longer.** -/
theorem render_headedAll_eq_iff {strings : List Translatable}
    (remarks : ∀ string ∈ strings, ∀ remark ∈ string.translatorComments,
      remarkLines (some remark) ≠ []) :
    render (headedAll true strings) = render strings ↔
      ∀ first ∈ strings.head?, first.translatorComments = none := by
  refine ⟨fun same => ?_, fun none => by rw [headedAll_eq_self none]⟩
  cases strings with
  | nil => simp
  | cons first strings =>
      rintro _ ⟨⟩
      rw [List.forall_mem_cons] at remarks
      cases found : first.translatorComments with
      | none => rfl
      | some remark =>
          -- the rest of both catalogs is the same, so the lines of the remark would have to be
          -- none; a remark that is read has one
          have longer := congrArg String.toList same
          rw [toList_render, toList_render, headedAll, List.flatMap_cons, List.flatMap_cons,
            stanza_headed first, List.append_assoc,
            @List.map_append _ _ String.toList (commentLines _ _),
            List.flatMap_append, List.self_eq_append_left, found, commentLines_eq_map] at longer
          obtain ⟨line, more, written⟩ := List.exists_cons_of_ne_nil (remarks.1 remark found)
          simp [written] at longer

/-- **Writing a catalog again loses the remarks of translators on the first string, and nothing
else:** `render again = render (headedAll true strings)` for the strings `again` that are read of
`render strings`, which is `render strings` itself just where the first string has no such
remark. -/
theorem render_again {tree : FileTree} {path content : String} {strings : List Translatable}
    (noFile : tree.isFile content = false)
    (read : (readContent tree path content.toList).all? = .ok strings)
    (noFeed : ∀ string ∈ strings, ∀ text ∈ quotedTexts string,
      '\x0b' ∉ text.toList ∧ '\x0c' ∉ text.toList)
    (stillNoFile : tree.isFile (render strings) = false) :
    ∃ again, (readContent tree path (render strings).toList).all? = .ok again ∧
      render again = render (headedAll true strings) ∧
      (render again = render strings ↔
        ∀ first ∈ strings.head?, first.translatorComments = none) := by
  obtain ⟨entries, sound, rfl⟩ := exists_entries_of_readContent noFile read
  rw [List.forall_mem_map] at noFeed
  have writable : ∀ string ∈ entries.map Entry.toTranslatable, IsWritable string := by
    rw [List.forall_mem_map]
    exact fun entry member =>
      isWritable_toTranslatable (sound entry member).1 (sound entry member).2 (noFeed entry member)
  have same := stanza_reread_headedAll fun entry member => (sound entry member).1
  refine ⟨_, readContent_stanzas writable stillNoFile, ?_, ?_⟩
  · rw [render, same, render]
  · rw [render, same, ← render]
    refine render_headedAll_eq_iff ?_
    rw [List.forall_mem_map]
    intro entry member remark found
    obtain ⟨-, trimmed, nonEmpty⟩ := of_trimmed? found
    have lines := (sound entry member).1.comment.of_trimmed? found
    exact (isRemark_remarkLines lines trimmed nonEmpty).some

/-- A catalog with a header and a remark of translators on its second string. -/
theorem render_again_second :
    let strings : List Translatable :=
      [⟨"a", none, none, some [some "b"], none, none, [], none, {}⟩,
        ⟨"c", none, some "cs", none, some "note", none, ["f:1"], some "fuzzy", {}⟩]
    ∃ again, (readContent .empty "a.po" (render strings).toList).all? = .ok again ∧
      render again = render (headedAll true strings) ∧
      (render again = render strings ↔
        ∀ first ∈ strings.head?, first.translatorComments = none) := by
  let content : String :=
    "msgid \"\"\nmsgstr \"x\"\n\nmsgid \"a\"\nmsgstr \"b\"\n\n" ++
      "#  note\n#: f:1\n#,  fuzzy\nmsgid \"c\"\nmsgid_plural \"cs\"\nmsgstr \"\"\n"
  have read : (readContent .empty "a.po" content.toList).all? =
      .ok [⟨"a", none, none, some [some "b"], none, none, [], none, {}⟩,
        ⟨"c", none, some "cs", none, some "note", none, ["f:1"], some "fuzzy", {}⟩] := by
    decide +kernel
  exact render_again (by decide +kernel) read (by decide +kernel) (by decide +kernel)

/-- A catalog with a header and a remark of translators on its first string is not written again as
it was. -/
theorem render_again_first :
    ∃ strings again : List Translatable,
      (readContent .empty "a.po" ("msgid \"\"\nmsgstr \"x\"\n\n# note\nmsgid \"a\"\n" ++
        "msgstr \"b\"\n").toList).all? = .ok strings ∧
      (∀ string ∈ strings, ∀ text ∈ quotedTexts string,
        '\x0b' ∉ text.toList ∧ '\x0c' ∉ text.toList) ∧
      (readContent .empty "a.po" (render strings).toList).all? = .ok again ∧
      render again ≠ render strings := by
  refine ⟨[⟨"a", none, none, some [some "b"], some "note", none, [], none, {}⟩],
    [⟨"a", none, none, some [some "b"], none, none, [], none, {}⟩], ?_, ?_, ?_, ?_⟩
  · decide +kernel
  · decide
  · decide +kernel
  · decide +kernel

end StringCatalog.Catalog
