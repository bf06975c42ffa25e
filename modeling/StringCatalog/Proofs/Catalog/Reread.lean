import StringCatalog.Catalog.Source
import StringCatalog.Proofs.Catalog.Assembly
import StringCatalog.Proofs.Extraction.Reading
import StringCatalog.Proofs.FileTree.Write

/-! # What comes back of a written string

* **`Catalog.IsRemark`** — the lines of a remark as it is written.
* **`Catalog.flags_of_joined`** — flags that are written on one line are read one by one.
* **`Catalog.foundTranslations`** — the translations that are read where a string has been written.
* **`Catalog.reread`** — the string that is read where one has been written. -/

namespace StringCatalog.Catalog

/-! ## Remarks -/

/-- **The lines of a remark as it is written:** there is one, each has more than blanks and none at
its end, and the first begins with none. -/
structure IsRemark (lines : List (List Char)) : Prop where
  /-- There is a line. -/
  some : lines ≠ []
  /-- Each line has more than blanks. -/
  ink : ∀ line ∈ lines, Text.HasInk line
  /-- No line has boundaries inside. -/
  lined : ∀ line ∈ lines, Text.IsLine line
  /-- No line ends with blanks. -/
  trimmed : ∀ line ∈ lines, Text.trimEnd line = line
  /-- The first line begins with no blank. -/
  start : ∀ first ∈ lines.head?, Text.trimStart first = first

/-- The remark that some lines make. -/
def remarkOf (lines : List (List Char)) : String :=
  String.ofList (['\n'].intercalate lines)

/-- The lines behind the first one are joined to it. -/
theorem foldl_joinRemark_of_ne {before : String} (h : before ≠ "") (lines : List (List Char)) :
    lines.foldl Assembly.joinRemark before =
      before ++ String.ofList (lines.flatMap ('\n' :: ·)) := by
  induction lines generalizing before with
  | nil => simp
  | cons line lines ih =>
      have step : Assembly.joinRemark before line = before ++ String.ofList ('\n' :: line) := by
        apply String.toList_injective
        simp [Assembly.joinRemark, h]
      -- what has been joined stays non-empty, so the next line goes behind a line feed as well
      have some : before ++ String.ofList ('\n' :: line) ≠ "" := by
        intro empty
        simpa using congrArg String.toList empty
      rw [List.foldl_cons, step, ih some, List.flatMap_cons, String.ofList_append,
        String.append_assoc]

/-- `['\n'].intercalate (first :: lines) = first ++ lines.flatMap ('\n' :: ·)`: lines with a line
feed before each but the first. -/
theorem intercalate_newline (first : List Char) (lines : List (List Char)) :
    ['\n'].intercalate (first :: lines) = first ++ lines.flatMap ('\n' :: ·) := by
  induction lines generalizing first with
  | nil => simp
  | cons second lines ih => simp [ih second]

/-- **Lines that have more than blanks are joined** to the remark that they make:
`lines.foldl Assembly.joinRemark "" = remarkOf lines`. -/
theorem foldl_joinRemark {lines : List (List Char)} (ink : ∀ line ∈ lines, Text.HasInk line) :
    lines.foldl Assembly.joinRemark "" = remarkOf lines := by
  cases lines with
  | nil => rfl
  | cons first lines =>
      have some : String.ofList first ≠ "" := fun empty =>
        (ink first List.mem_cons_self).ne_nil (by simpa using congrArg String.toList empty)
      have start : Assembly.joinRemark "" first = String.ofList first := by
        simp [Assembly.joinRemark]
      rw [List.foldl_cons, start, foldl_joinRemark_of_ne some, remarkOf, intercalate_newline,
        String.ofList_append]

/-- `Text.trimEnd (['\n'].intercalate lines) = ['\n'].intercalate lines`: where no line ends with
blanks, the remark does not. -/
theorem trimEnd_intercalate {lines : List (List Char)} (ink : ∀ line ∈ lines, Text.HasInk line)
    (trimmed : ∀ line ∈ lines, Text.trimEnd line = line) :
    Text.trimEnd (['\n'].intercalate lines) = ['\n'].intercalate lines := by
  induction lines with
  | nil => rfl
  | cons first lines ih =>
      rw [List.forall_mem_cons] at ink trimmed
      cases lines with
      | nil => simpa using trimmed.1
      | cons second lines =>
          have more : Text.HasInk (['\n'].intercalate (second :: lines)) := by
            rw [intercalate_newline]
            exact (ink.2 second List.mem_cons_self).append_left _
          rw [List.intercalate_cons_cons, Text.trimEnd_append more, ih ink.2 trimmed.2]

namespace IsRemark

variable {lines : List (List Char)}

/-- **The lines of a remark are those that it is made of:**
`remarkLines (Option.some (remarkOf lines)) = lines`. -/
theorem remarkLines (h : IsRemark lines) : remarkLines (Option.some (remarkOf lines)) = lines := by
  have pieces : Text.split (· == '\n') (remarkOf lines).toList = lines := by
    rw [remarkOf, String.toList_ofList]
    refine Text.split_intercalate h.some (fun line member c inside => ?_) (by decide)
    have other : c ≠ '\n' := by
      rintro rfl
      exact (h.lined line member).newline_not_mem inside
    simpa using other
  have kept : lines.filter (!Text.isBlankText ·) = lines :=
    List.filter_eq_self.2 fun line member => by simpa [Text.HasInk] using h.ink line member
  rw [Catalog.remarkLines, pieces, kept]
  exact (List.map_congr_left h.trimmed).trans (List.map_id lines)

/-- `Text.trim (remarkOf lines).toList = (remarkOf lines).toList`: a remark neither begins nor ends
with blanks. -/
theorem trim_remarkOf (h : IsRemark lines) :
    Text.trim (remarkOf lines).toList = (remarkOf lines).toList := by
  obtain ⟨first, more, rfl⟩ := List.exists_cons_of_ne_nil h.some
  have start : Text.trimStart first = first := h.start first rfl
  -- only the first line can begin with blanks, and it does not
  have begins : Text.trimStart (first ++ more.flatMap ('\n' :: ·)) =
      first ++ more.flatMap ('\n' :: ·) := by
    obtain ⟨c, rest, shape, ink⟩ := Text.exists_of_trimStart_ne_nil
      (start.symm ▸ (h.ink first List.mem_cons_self).ne_nil)
    rw [start] at shape
    rw [shape, List.cons_append, Text.trimStart_cons ink]
  rw [remarkOf, String.toList_ofList, Text.trim, intercalate_newline, begins, ← intercalate_newline,
    trimEnd_intercalate h.ink h.trimmed]

/-- `(remarkOf lines).toList ≠ []`: a remark is not empty. -/
theorem toList_ne_nil (h : IsRemark lines) : (remarkOf lines).toList ≠ [] := by
  obtain ⟨first, more, rfl⟩ := List.exists_cons_of_ne_nil h.some
  have some := (h.ink first List.mem_cons_self).ne_nil
  simp [remarkOf, intercalate_newline, some]

end IsRemark

/-- `Text.trimmed? text.toList = Option.some text`: a text that is trimmed and not empty is
found. -/
theorem trimmed?_eq_some {text : String} (some : text.toList ≠ [])
    (trimmed : Text.trim text.toList = text.toList) : Text.trimmed? text.toList = Option.some text := by
  obtain ⟨c, rest, shape⟩ := List.exists_cons_of_ne_nil some
  rw [Text.trimmed?, trimmed, shape]
  exact congrArg Option.some (by rw [← shape, String.ofList_toList])

/-- **A remark is read as it was,** given that its lines are as they are written. -/
theorem trimmed?_foldl_joinRemark {lines : List (List Char)} (h : IsRemark lines) :
    Text.trimmed? (lines.foldl Assembly.joinRemark "").toList = some (remarkOf lines) := by
  rw [foldl_joinRemark h.ink, trimmed?_eq_some h.toList_ne_nil h.trim_remarkOf]

/-! ## Flags -/

/-- **A flag as it is read:** without blanks at its ends, commas or line boundaries. -/
structure IsFlag (flag : List Char) : Prop where
  /-- The flag is trimmed. -/
  trimmed : Text.trim flag = flag
  /-- The flag has no comma. -/
  comma : ',' ∉ flag
  /-- The flag has no line boundary. -/
  lined : Text.IsLine flag

/-- The flags behind the first one of a line. -/
def moreFlags (flags : List (List Char)) : List Char :=
  flags.flatMap fun flag => ',' :: ' ' :: flag

/-- Flags on one line. -/
theorem toList_joined (first : String) (flags : List String) :
    (Text.joined ", " (first :: flags)).toList =
      first.toList ++ moreFlags (flags.map String.toList) := by
  rw [Text.joined, String.toList_intercalate, List.map_cons, moreFlags]
  generalize first.toList = front
  induction flags generalizing front with
  | nil => simp
  | cons second flags ih =>
      rw [List.map_cons, List.intercalate_cons_cons, ih second.toList]
      simp

/-- A flag with or without a blank before it. -/
theorem IsFlag.spaced {blanks flag : List Char} (h : IsFlag flag)
    (blank : blanks = [] ∨ blanks = [' ']) :
    (∀ c ∈ blanks ++ flag, (c == ',') = false) ∧ Text.trim (blanks ++ flag) = flag := by
  have noComma : ∀ c ∈ flag, (c == ',') = false := by
    intro c member
    have other : c ≠ ',' := by
      rintro rfl
      exact h.comma member
    simpa using other
  -- the first flag of a line has no blank before it, each other one has a single one
  rcases blank with rfl | rfl
  · exact ⟨noComma, h.trimmed⟩
  · refine ⟨List.forall_mem_cons.2 ⟨by decide, noComma⟩, ?_⟩
    rw [List.singleton_append, Text.trim, Text.trimStart_cons_blank (by decide)]
    exact h.trimmed

/-- **Flags on one line are read one by one,** also where the blank behind the last comma is gone. -/
theorem split_moreFlags {blanks first : List Char} {flags : List (List Char)}
    (blank : blanks = [] ∨ blanks = [' ']) (flag : IsFlag first)
    (others : ∀ flag ∈ flags, IsFlag flag) :
    (Text.split (· == ',') (Text.trimEnd (blanks ++ first ++ moreFlags flags))).map Text.trim =
      first :: flags := by
  induction flags generalizing blanks first with
  | nil =>
      obtain ⟨noComma, trimmed⟩ := flag.spaced blank
      -- the last flag may be empty: then the blank before it is the one that is trimmed away
      have part : ∀ c ∈ Text.trimEnd (blanks ++ first), (c == ',') = false :=
        fun c member => noComma c (Text.trimEnd_subset _ member)
      rw [moreFlags, List.flatMap_nil, List.append_nil, Text.split_of_forall part, List.map_singleton,
        Text.trim_trimEnd, trimmed]
  | cons second flags ih =>
      obtain ⟨noComma, trimmed⟩ := flag.spaced blank
      rw [List.forall_mem_cons] at others
      -- the comma is ink, so nothing before it is trimmed with the end of the line
      have ink : Text.HasInk (',' :: ' ' :: (second ++ moreFlags flags)) :=
        Text.hasInk_of_mem List.mem_cons_self (by decide)
      have line : blanks ++ first ++ moreFlags (second :: flags) =
          blanks ++ first ++ ',' :: ' ' :: (second ++ moreFlags flags) := by
        simp [moreFlags]
      rw [line, Text.trimEnd_append ink, Text.trimEnd_cons (by decide),
        Text.split_append_cons noComma (by decide), List.map_cons, trimmed]
      exact congrArg (first :: ·) (ih (.inr rfl) others.1 others.2)

/-- `remarkLines (some text) = [Text.trimEnd text.toList]`: a text on one line is a remark of one
line. -/
theorem remarkLines_of_isLine {text : String} (lined : Text.IsLine text.toList)
    (ink : Text.HasInk text.toList) : remarkLines (some text) = [Text.trimEnd text.toList] := by
  have whole : Text.split (· == '\n') text.toList = [text.toList] := by
    refine Text.split_of_forall fun c member => ?_
    have other : c ≠ '\n' := by
      rintro rfl
      exact lined.newline_not_mem member
    simpa using other
  have kept : Text.isBlankText text.toList = false := ink
  simp [remarkLines, whole, kept]

/-- Flags make one line. -/
theorem isLine_joined {flags : List String} (each : ∀ flag ∈ flags, IsFlag flag.toList) :
    Text.IsLine (Text.joined ", " flags).toList := by
  cases flags with
  | nil => decide
  | cons first flags =>
      rw [List.forall_mem_cons] at each
      rw [toList_joined, Text.isLine_append]
      refine ⟨each.1.lined, fun c member => ?_⟩
      simp only [moreFlags, List.mem_flatMap, List.mem_map, List.mem_cons] at member
      obtain ⟨_, ⟨flag, inside, rfl⟩, rfl | rfl | member⟩ := member
      · decide
      · decide
      · exact (each.2 flag inside).lined c member

/-- Flags that make some line make one with more than blanks. -/
theorem hasInk_joined {flags : List String} (each : ∀ flag ∈ flags, IsFlag flag.toList)
    (h : Text.joined ", " flags ≠ "") : Text.HasInk (Text.joined ", " flags).toList := by
  -- two flags have a comma between them, and a single one is not empty
  match flags with
  | [] => exact absurd rfl h
  | [flag] =>
      have trimmed := (each flag List.mem_cons_self).trimmed
      rw [toList_joined, moreFlags, List.map_nil, List.flatMap_nil, List.append_nil]
      refine Text.hasInk_of_trim_ne_nil fun none => h ?_
      apply String.toList_injective
      rw [toList_joined, ← trimmed, none]
      rfl
  | first :: second :: flags =>
      rw [toList_joined]
      exact Text.hasInk_of_mem (c := ',') (by simp [moreFlags]) (by decide)

/-- **The line of some flags tells them.** -/
theorem flags_of_joined {flags : List String} (each : ∀ flag ∈ flags, IsFlag flag.toList)
    (h : Text.joined ", " flags ≠ "") :
    ((remarkLines (some (Text.joined ", " flags))).flatMap fun line =>
      (Text.split (· == ',') line).map Text.trim).map String.ofList = flags := by
  rw [remarkLines_of_isLine (isLine_joined each) (hasInk_joined each h), List.flatMap_singleton]
  cases flags with
  | nil => exact absurd rfl h
  | cons first flags =>
      rw [List.forall_mem_cons] at each
      have others : ∀ flag ∈ flags.map String.toList, IsFlag flag := by simpa using each.2
      have read := split_moreFlags (.inl rfl) each.1 others
      rw [List.nil_append, ← toList_joined] at read
      rw [read]
      simp [Function.comp_def]

/-! ## References -/

/-- **A reference as a catalog keeps it:** it is not empty and has no blanks. That is,
`reference ≠ "" ∧ ∀ c ∈ reference.toList, Text.isBlank c = false`. -/
def IsNormalReference (reference : String) : Prop :=
  reference ≠ "" ∧ ∀ c ∈ reference.toList, Text.isBlank c = false

/-- **References without blanks are read one by one.** -/
theorem references_of_lines {references : List String}
    (normal : ∀ reference ∈ references, IsNormalReference reference) :
    ((referenceLines references).flatMap Text.words).map String.ofList = references := by
  induction references with
  | nil => rfl
  | cons reference references ih =>
      rw [List.forall_mem_cons] at normal
      obtain ⟨⟨some, noBlank⟩, others⟩ := normal
      have text : reference.toList ≠ [] := by simpa using some
      obtain ⟨c, rest, shape⟩ := List.exists_cons_of_ne_nil text
      have ink : Text.HasInk reference.toList :=
        Text.hasInk_of_mem (c := c) (by simp [shape]) (noBlank c (by simp [shape]))
      -- without blanks there are no line boundaries either: a reference is one line and one word
      have lined : Text.IsLine reference.toList := fun c member =>
        Text.isLineBoundary_of_not_isBlank (noBlank c member)
      have trimmed : Text.trimEnd reference.toList = reference.toList := by
        obtain ⟨front, last, shape⟩ := (List.eq_nil_or_concat' reference.toList).resolve_left text
        rw [shape, Text.trimEnd_append_singleton (noBlank last (by simp [shape]))]
      rw [referenceLines, List.flatMap_cons, remarkLines_of_isLine lined ink, trimmed,
        List.flatMap_append, List.flatMap_singleton, Text.words_of_noBlank text noBlank,
        List.map_append, List.map_singleton, String.ofList_toList]
      exact congrArg (reference :: ·) (ih others)

/-! ## Translations -/

/-- **The translations that are read where a string has been written.** A string whose written forms
are all empty is read as untranslated, and so is one with a plural and only its own text to
write. -/
def foundTranslations (string : Translatable) : Option (List (Option String)) :=
  let forms := writtenForms string
  if forms.all (· == some "") || (string.plural.isSome && forms.length < 2) then none
  else some forms

/-- `foundTranslations string = some forms`: the translations come back where one of them is not
empty and there are enough of them. -/
theorem foundTranslations_of_some {string : Translatable} {forms : List (Option String)}
    (translated : string.translations = some forms) (enough : string.plural.isSome → 2 ≤ forms.length)
    (text : ∃ form ∈ forms, form ≠ some "") : foundTranslations string = some forms := by
  obtain ⟨form, member, other⟩ := text
  -- some form is there, and so the written forms are the translations
  have written : writtenForms string = forms := by
    cases forms with
    | nil => simp at member
    | cons first more => simp [writtenForms, translated]
  have some : forms.all (· == some "") = false :=
    List.all_eq_false.2 ⟨form, member, by simpa using other⟩
  have plenty : (string.plural.isSome && decide (forms.length < 2)) = false := by
    cases plural : string.plural.isSome with
    | false => rfl
    | true => rw [Bool.true_and, decide_eq_false_iff_not, Nat.not_lt]; exact enough plural
  simp only [foundTranslations, written, some, plenty, Bool.or_self, Bool.false_eq_true, if_false]

/-- `Entry.nonEmpty? (text.getD "") = text`: a text that may be absent, but is not empty. -/
theorem nonEmpty?_getD {text : Option String} (h : text ≠ some "") :
    Entry.nonEmpty? (text.getD "") = text := by
  cases text with
  | none => rfl
  | some text =>
      have other : text ≠ "" := fun empty => h (empty ▸ rfl)
      simp [Entry.nonEmpty?, other]

/-- Numbered translations are in order. -/
theorem mergeSort_zipIdx (forms : List String) (start : Nat) :
    ((forms.zipIdx start).map Prod.swap).mergeSort (fun a b => decide (a.1 ≤ b.1)) =
      (forms.zipIdx start).map Prod.swap := by
  refine List.mergeSort_of_pairwise ?_
  induction forms generalizing start with
  | nil => simp
  | cons form forms ih =>
      rw [List.zipIdx_cons, List.map_cons, List.pairwise_cons]
      refine ⟨fun other member => ?_, ih (start + 1)⟩
      obtain ⟨⟨text, index⟩, inside, rfl⟩ := List.mem_map.1 member
      have later := List.le_snd_of_mem_zipIdx inside
      simp only [Prod.fst_swap, decide_eq_true_eq]
      omega

/-- The translations of an entry that has some forms as a stanza states them. -/
theorem translations_of_forms {entry : Entry} {forms : List String} (some : forms ≠ [])
    (message : entry.message = messageOf forms) (numbered : entry.forms = numberedOf forms) :
    entry.translations =
      if forms.all (· == "") || ((Entry.nonEmpty? entry.plural).isSome && forms.length < 2) then none
      else Option.some forms := by
  -- a single form is the message, and more of them are numbered: they are read by different rules
  match forms with
  | [form] =>
      cases plural : Entry.nonEmpty? entry.plural <;>
        simp [Entry.translations, message, numbered, messageOf, numberedOf, plural]
  | first :: second :: more =>
      have sorted := mergeSort_zipIdx (first :: second :: more) 0
      have texts : ((first :: second :: more).zipIdx.map Prod.swap).map Prod.snd =
          first :: second :: more := by
        rw [List.map_map]
        exact List.zipIdx_map_fst 0 _
      have many : ¬ more.length + 1 + 1 < 2 := by omega
      have forms : numberedOf (first :: second :: more) =
        (first :: second :: more).zipIdx.map Prod.swap := rfl
      rw [Entry.translations, numbered, forms, sorted, texts]
      simp [many]

/-! ## Strings -/

/-- **The string that is read where one has been written.** -/
def reread (string : Translatable) : Translatable :=
  (statedEntry string).toTranslatable

section

variable (string : Translatable)

/-- `(reread string).singular = string.singular`: the text itself comes back. -/
@[simp] theorem reread_singular : (reread string).singular = string.singular := rfl

/-- `(reread string).plural = Entry.nonEmpty? (string.plural.getD "")`: the plural comes back
unless it is empty. -/
theorem reread_plural : (reread string).plural = Entry.nonEmpty? (string.plural.getD "") := rfl

/-- What comes back of the translators' remark: its lines joined and trimmed. -/
theorem reread_translatorComments : (reread string).translatorComments =
    Text.trimmed? ((remarkLines string.translatorComments).foldl Assembly.joinRemark "").toList :=
  rfl

/-- What comes back of the developers' remark: its lines joined and trimmed. -/
theorem reread_developerComments : (reread string).developerComments =
    Text.trimmed? ((remarkLines string.developerComments).foldl Assembly.joinRemark "").toList :=
  rfl

/-- What comes back of the references: the words of their lines. -/
theorem reread_references : (reread string).references =
    ((referenceLines string.references).flatMap Text.words).map String.ofList := rfl

/-- What comes back of the format: the flags of its lines, between commas. -/
theorem reread_formatHint : (reread string).formatHint =
    Entry.nonEmpty? (Text.joined ", " (((remarkLines string.formatHint).flatMap fun line =>
      (Text.split (· == ',') line).map Text.trim).map String.ofList)) := rfl

end

/-- **The translations that are read again:**
`(reread string).translations = foundTranslations string`. -/
theorem reread_translations {string : Translatable} (closed : none ∉ writtenForms string)
    (plural : string.plural ≠ some "") :
    (reread string).translations = foundTranslations string := by
  have written := writtenForms_eq_map closed
  have entry := @translations_of_forms (statedEntry string) _ (closedForms_ne_nil closed) rfl rfl
  have kept : Entry.nonEmpty? (statedEntry string).plural = string.plural := nonEmpty?_getD plural
  rw [reread, Entry.toTranslatable, entry, kept, foundTranslations, written]
  simp only [List.all_map, List.length_map, Function.comp_def, Option.some_beq_some]
  split <;> rfl

/-- Whether an entry is the entry of a string. -/
def Entry.counts (entry : Entry) : Bool :=
  !entry.obsolete && entry.id != ""

/-- The reading of an entry gives its string if it counts. -/
theorem all?_entryReading (path : String) (entry : Entry) :
    (entryReading path entry).all? = .ok (([entry].filter Entry.counts).map Entry.toTranslatable) := by
  cases obsolete : entry.obsolete with
  | true =>
      simp [entryReading, Entry.counts, obsolete]
      rfl
  | false =>
      by_cases empty : entry.id = ""
      · simp [entryReading, Entry.counts, obsolete, empty]
        rfl
      · simp [entryReading, Entry.counts, obsolete, empty]
        rfl

/-- **The reading of entries** gives the strings of those that count. -/
theorem all?_reading (path : String) (entries : List Entry) :
    (reading path entries).all? = .ok ((entries.filter Entry.counts).map Entry.toTranslatable) := by
  have each : List.Forall₂ (fun reading part => reading.all? = .ok part)
      (entries.map (entryReading path))
      (entries.map fun entry => ([entry].filter Entry.counts).map Entry.toTranslatable) := by
    rw [List.forall₂_map_left_iff, List.forall₂_map_right_iff]
    exact List.forall₂_same.2 fun entry _ => all?_entryReading path entry
  -- one reading for each entry comes to one filter over all of them
  have whole : (entries.map fun entry => ([entry].filter Entry.counts).map
      Entry.toTranslatable).flatten = (entries.filter Entry.counts).map Entry.toTranslatable := by
    clear each
    induction entries with
    | nil => rfl
    | cons entry entries ih =>
        rw [List.map_cons, List.flatten_cons, ih, ← List.map_append, ← List.filter_append,
          List.singleton_append]
  rw [reading, Reading.all?_sequence each, whole]

/-- `linesOf tree content.toList = .ok (none, Text.splitLines content.toList)`: content that is not
the name of a file stands for its own lines. -/
theorem linesOf_of_not_isFile {tree : FileTree} {content : String}
    (noFile : tree.isFile content = false) :
    linesOf tree content.toList = .ok (none, Text.splitLines content.toList) := by
  rw [linesOf, String.ofList_toList]
  revert noFile
  unfold FileTree.isFile
  cases tree.resolve content with
  | error fault => simp
  | ok spot => cases spot <;> simp

/-- **The strings of a written catalog** are those that are heard in its stanzas, where no file has
its name. -/
theorem readContent_heard {tree : FileTree} {path : String} {strings : List Translatable}
    (readable : ∀ string ∈ strings, IsReadable string)
    (noFile : tree.isFile (render strings) = false) :
    (readContent tree path (render strings).toList).all? =
      .ok (((headedAll true strings).map heardEntry).map Entry.toTranslatable) := by
  -- no entry is passed over: the stanzas have texts and none of them is obsolete
  have kept : ((headedAll true strings).map heardEntry).filter Entry.counts =
      (headedAll true strings).map heardEntry := by
    refine List.filter_eq_self.2 fun entry member => ?_
    obtain ⟨string, inside, rfl⟩ := List.mem_map.1 member
    have text := singular_of_mem_headedAll (fun s member => (readable s member).singular) inside
    simpa [Entry.counts, heardEntry, statedEntry] using text
  rw [readContent, entriesOf, linesOf_of_not_isFile noFile]
  simp only [readEntries_render readable]
  rw [all?_reading, kept]

/-- **The strings of a written catalog** are those of its stanzas read again, where these tell all
texts apart. -/
theorem readContent_stanzas {tree : FileTree} {path : String} {strings : List Translatable}
    (writable : ∀ string ∈ strings, IsWritable string)
    (noFile : tree.isFile (render strings) = false) :
    (readContent tree path (render strings).toList).all? =
      .ok ((headedAll true strings).map reread) := by
  rw [readContent_heard (fun string member => (writable string member).isReadable) noFile,
    map_heardEntry writable, List.map_map]
  rfl

end StringCatalog.Catalog
