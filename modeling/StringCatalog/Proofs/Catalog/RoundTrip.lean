import StringCatalog.Proofs.Catalog.Reread

/-! # Catalogs are read as they were written

* **`Catalog.IsNormal`** — a string whose remarks, references and flags are as a catalog keeps them.
* **`Catalog.readContent_render`** — a catalog of such strings is read as those strings, the names
  aside, where the first one has no remarks of translators. -/

namespace StringCatalog.Catalog

/-! ## Normal strings -/

/-- **A remark as a catalog keeps it:** lines with more than blanks and none at their ends, of
which the first begins with none. That is, `∃ lines, IsRemark lines ∧ remark = remarkOf lines`. -/
def IsNormalRemark (remark : String) : Prop :=
  ∃ lines, IsRemark lines ∧ remark = remarkOf lines

/-- **Flags as a catalog keeps them:** there is one, and none is empty. -/
def IsNormalHint (hint : String) : Prop :=
  ∃ flags : List String, flags ≠ [] ∧ (∀ flag ∈ flags, flag ≠ "" ∧ IsFlag flag.toList) ∧
    hint = Text.joined ", " flags

/-- **A string as a catalog keeps it.** -/
structure IsNormal (string : Translatable) : Prop where
  /-- There is an untranslated text. -/
  singular : string.singular ≠ ""
  /-- There is a plural text if there is a plural. -/
  plural : string.plural ≠ some ""
  /-- There are at most ten translations, and none is open. -/
  translations : ∀ forms ∈ string.translations, none ∉ forms ∧ forms.length ≤ 10
  /-- The untranslated text has no line boundaries beyond line feeds and carriage returns. -/
  plainSingular : Text.IsPlain string.singular.toList
  /-- Nor has the untranslated plural. -/
  plainPlural : ∀ plural ∈ string.plural, Text.IsPlain plural.toList
  /-- Nor has a translation. -/
  plainForms : ∀ forms ∈ string.translations, ∀ form ∈ forms, ∀ text ∈ form,
    Text.IsPlain text.toList
  /-- What translators remarked is normal. -/
  translators : ∀ remark ∈ string.translatorComments, IsNormalRemark remark
  /-- What developers remarked is normal. -/
  developers : ∀ remark ∈ string.developerComments, IsNormalRemark remark
  /-- The references are normal. -/
  references : ∀ reference ∈ string.references, IsNormalReference reference
  /-- The flags are normal. -/
  hint : ∀ hint ∈ string.formatHint, IsNormalHint hint

/-! ## Normal strings are writable -/

/-- A normal remark has its lines behind line feeds. -/
theorem IsNormalRemark.hasLines {remark : String} (h : IsNormalRemark remark) : HasLines remark := by
  obtain ⟨lines, lined, rfl⟩ := h
  intro c member boundary
  obtain ⟨first, more, rfl⟩ := List.exists_cons_of_ne_nil lined.some
  rw [remarkOf, String.toList_ofList, intercalate_newline, List.mem_append, List.mem_flatMap] at member
  -- the line feeds are those between the lines, which have none of their own
  rcases member with member | ⟨line, inside, member⟩
  · exact absurd boundary (by simp [lined.lined first List.mem_cons_self c member])
  · rcases List.mem_cons.1 member with rfl | member
    · rfl
    · exact absurd boundary (by simp [lined.lined line (List.mem_cons_of_mem _ inside) c member])

/-- The forms of a normal string that are written. -/
theorem IsNormal.of_mem_writtenForms {string : Translatable} (h : IsNormal string)
    {form : Option String} (member : form ∈ writtenForms string) :
    ∃ text, form = some text ∧ Text.IsPlain text.toList := by
  unfold writtenForms at member
  split at member
  · next first forms found =>
    have closed := (h.translations _ found).1
    cases form with
    | none => exact absurd member closed
    | some text => exact ⟨text, rfl, h.plainForms _ found _ member text rfl⟩
  · obtain rfl := List.mem_singleton.1 member
    exact ⟨_, rfl, h.plainSingular⟩

/-- **A normal string has a stanza that can be read.** -/
theorem IsNormal.isWritable {string : Translatable} (h : IsNormal string) : IsWritable string where
  singular := h.singular
  plural := h.plural
  closed := fun member => by
    obtain ⟨text, equal, -⟩ := h.of_mem_writtenForms member
    simp at equal
  few := by
    unfold writtenForms
    split
    · next found => exact (h.translations _ found).2
    · simp
  plain := by
    intro text member
    simp only [quotedTexts, List.cons_append, List.mem_cons, List.mem_append, Option.mem_toList,
      List.reduceOption_mem_iff] at member
    rcases member with rfl | member | member
    · exact h.plainSingular
    · exact h.plainPlural text member
    · obtain ⟨found, equal, plain⟩ := h.of_mem_writtenForms member
      exact Option.some.inj equal ▸ plain
  lined := by
    intro text member
    simp only [remarkTexts, List.mem_append, Option.mem_toList] at member
    -- references have no blanks and flags no boundaries, remarks have their lines behind line feeds
    rcases member with ((member | member) | member) | member
    · exact (h.translators text member).hasLines
    · exact (h.developers text member).hasLines
    · intro c inside boundary
      have blank := Text.isBlank_of_isLineBoundary boundary
      simp [(h.references text member).2 c inside] at blank
    · obtain ⟨flags, -, each, rfl⟩ := h.hint text member
      intro c inside boundary
      simp [isLine_joined (fun flag member => (each flag member).2) c inside] at boundary

/-! ## Normal strings come back -/

/-- A normal remark comes back. -/
theorem trimmed?_remarkLines {remark : Option String} (h : ∀ text ∈ remark, IsNormalRemark text) :
    Text.trimmed? ((remarkLines remark).foldl Assembly.joinRemark "").toList = remark := by
  cases remark with
  | none => rfl
  | some remark =>
      obtain ⟨lines, lined, rfl⟩ := h remark rfl
      rw [lined.remarkLines, trimmed?_foldl_joinRemark lined]

/-- Normal flags come back. -/
theorem nonEmpty?_flags {hint : Option String} (h : ∀ text ∈ hint, IsNormalHint text) :
    Entry.nonEmpty? (Text.joined ", " (((remarkLines hint).flatMap fun line =>
      (Text.split (· == ',') line).map Text.trim).map String.ofList)) = hint := by
  cases hint with
  | none => rfl
  | some hint =>
      obtain ⟨flags, some, each, rfl⟩ := h hint rfl
      have text : Text.joined ", " flags ≠ "" := by
        obtain ⟨first, more, rfl⟩ := List.exists_cons_of_ne_nil some
        intro empty
        have none : (Text.joined ", " (first :: more)).toList = [] := by simp [empty]
        rw [toList_joined, List.append_eq_nil_iff] at none
        exact (each first List.mem_cons_self).1 (by simpa using none.1)
      rw [flags_of_joined (fun flag member => (each flag member).2) text]
      simp [Entry.nonEmpty?, text]

/-- The string that is read where a normal one has been written: the name is lost, translations are
those found, and what stands in for halves of pairs is read as it is. -/
def found (string : Translatable) : Translatable :=
  { string with name := none, translations := foundTranslations string, halves := {} }

/-- **A normal string comes back:** `reread string = found string`. -/
theorem reread_eq_found {string : Translatable} (h : IsNormal string) :
    reread string = found string := by
  have parts : reread string = ⟨(reread string).singular, (reread string).name,
      (reread string).plural, (reread string).translations, (reread string).translatorComments,
      (reread string).developerComments, (reread string).references,
      (reread string).formatHint, {}⟩ := rfl
  -- field by field: each is what has been written, read again
  refine parts.trans ?_
  rw [reread_singular, reread_plural, nonEmpty?_getD h.plural,
    reread_translations h.isWritable.closed h.plural, reread_translatorComments,
    trimmed?_remarkLines h.translators, reread_developerComments,
    trimmed?_remarkLines h.developers, reread_references, references_of_lines h.references,
    reread_formatHint, nonEmpty?_flags h.hint]
  rfl

/-- **A catalog is read as it was written.** Of strings that are `IsNormal`, the first of which has
no remarks of translators, `readContent tree path (render strings).toList` gives
`strings.map found`: every one comes back in its place, without its name; its translations are the
written ones, unless it is read as untranslated. -/
theorem readContent_render (tree : FileTree) (path : String) {strings : List Translatable}
    (normal : ∀ string ∈ strings, IsNormal string)
    (first : ∀ string ∈ strings.head?, string.translatorComments = none)
    (noFile : tree.isFile (render strings) = false) :
    (readContent tree path (render strings).toList).all? = .ok (strings.map found) := by
  rw [readContent_stanzas (fun s member => (normal s member).isWritable) noFile,
    headedAll_eq_self first]
  exact congrArg Except.ok (List.map_congr_left fun s member => reread_eq_found (normal s member))

/-- A plural with flags and remarks of developers before a text with remarks of translators. -/
theorem readContent_render_two :
    let strings : List Translatable :=
      [⟨"%d day", some "days", some "%d \"days\"\n", some [some "%d Tag", some "%d\\Tage"], none,
        some "In\n the list", ["app.py:3"], some "c-format, fuzzy", {}⟩,
        ⟨"week", none, none, none, some "checked", none, [], none, {}⟩]
    (readContent .empty "a.po" (render strings).toList).all? = .ok (strings.map found) := by
  have twoLines : IsRemark ["In".toList, " the list".toList] :=
    ⟨by decide, by decide, by decide, by decide, by decide⟩
  have oneLine : IsRemark ["checked".toList] :=
    ⟨by decide, by decide, by decide, by decide, by decide⟩
  have flags : ∀ flag ∈ ["c-format", "fuzzy"], flag ≠ "" ∧ IsFlag flag.toList := by
    simpa using ⟨⟨by decide, by decide, by decide⟩, ⟨by decide, by decide, by decide⟩⟩
  refine readContent_render .empty "a.po" ?_ (by decide) (by decide +kernel)
  simp only [List.forall_mem_cons]
  refine ⟨⟨by decide, by decide, by decide, by decide, by decide, by decide, by simp, ?_, ?_, ?_⟩,
    ⟨by decide, by decide, by decide, by decide, by decide, by decide, ?_, by simp, by simp, by simp⟩,
    by simp⟩
  · rintro _ ⟨⟩
    exact ⟨_, twoLines, rfl⟩
  · simp [IsNormalReference]
    decide
  · rintro _ ⟨⟩
    exact ⟨_, by simp, flags, rfl⟩
  · rintro _ ⟨⟩
    exact ⟨_, oneLine, rfl⟩

end StringCatalog.Catalog
