import StringCatalog.Proofs.Catalog.Stanza

/-! # Reading a stanza

* **`Catalog.Assembly.Awaits`** — an assembly that is ready for the remarks and the text of an entry.
* **`Catalog.statedEntry`** — the entry that a stanza states.
* **`Catalog.heardEntry`** — the entry that is heard in a stanza. With more than ten forms it is not
  the one that is stated: of the number of a form only the first digit is read.
* **`Catalog.Assembly.addAll?_toldStanza`** — a stanza adds the entry that is heard in it.
* **`Catalog.readEntries_render`** — the entries of a written catalog. The remarks of
  translators on the first of them are lost: at the start of a file they belong to the file. -/

namespace StringCatalog.Catalog

namespace Assembly

/-! ## Taking in lines -/

/-- The assembly with lines taken in one after another. -/
def addAll? (assembly : Assembly) (lines : List Line) : Option Assembly :=
  lines.foldlM (fun assembly line => assembly.add? false line) assembly

/-- `assembly.addAll? [] = some assembly`: no lines change nothing. -/
@[simp] theorem addAll?_nil (assembly : Assembly) : assembly.addAll? [] = some assembly := rfl

/-- The first line is added with `add?`, and the others to what that makes. -/
@[simp] theorem addAll?_cons (assembly : Assembly) (line : Line) (lines : List Line) :
    assembly.addAll? (line :: lines) = (assembly.add? false line).bind (·.addAll? lines) := rfl

/-- `assembly.addAll? (first ++ second) = (assembly.addAll? first).bind (·.addAll? second)`: lines
are added one part after another. -/
theorem addAll?_append (assembly : Assembly) (first second : List Line) :
    assembly.addAll? (first ++ second) = (assembly.addAll? first).bind (·.addAll? second) := by
  simp [addAll?]

end Assembly

/-- Whether the last of some lines is no remark, given the same about what came before. -/
def endsOpen (before : Bool) (lines : List Line) : Bool :=
  (lines.getLast?.map (!·.isRemark)).getD before

/-- **Lines that tell something are taken in** one after another. -/
theorem assembleFrom_append {texts : List (List Char)} {lines : List Line}
    (tells : List.Forall₂ Tells texts lines) {assembly next : Assembly}
    (added : assembly.addAll? lines = some next) (isOpen : Bool) (number : Nat)
    (rest : List (List Char)) :
    assembleFrom assembly isOpen number (texts ++ rest) =
      assembleFrom next (endsOpen isOpen lines) (number + texts.length) rest := by
  induction tells generalizing assembly isOpen number with
  | nil =>
      obtain rfl : assembly = next := by simpa using added
      rfl
  | @cons text line texts lines first others ih =>
      obtain ⟨word, read, isRemark⟩ := first
      rw [Assembly.addAll?_cons, Option.bind_eq_some_iff] at added
      obtain ⟨middle, step, added⟩ := added
      rw [List.cons_append, assembleFrom, read]
      simp only [step]
      rw [ih added, List.length_cons, Nat.add_right_comm, Nat.add_assoc]
      congr 1
      cases lines with
      | nil => simp [endsOpen, Line.Cut.isRemark, isRemark]
      | cons second lines => simp [endsOpen, List.getLast?_cons]

/-! ## Remarks -/

/-- Whether the remarks on an entry may stand behind a place. -/
def Place.isFree : Place → Bool
  | .keyword .context | .keyword .id | .keyword .plural => false
  | _ => true

/-- `place.allowsId = true`: where remarks may stand, a text may stand. -/
theorem Place.allowsId_of_isFree {place : Place} (free : place.isFree = true) :
    place.allowsId = true := by
  revert free
  cases place with
  | keyword keyword => cases keyword <;> decide
  | _ => simp [allowsId]

/-- Whether a place is before the first entry, where remarks of translators are none on an entry. -/
def Place.isHeading : Place → Bool
  | .start | .heading => true
  | _ => false

namespace Assembly

/-- **An assembly that is ready for remarks on an entry and for its text,** given the entries before
it and what has been said about it. -/
structure Awaits (assembly : Assembly) (complete : List Entry) (entry : Entry) : Prop where
  /-- The entries before are complete. -/
  complete : assembly.opened.complete = complete
  /-- What has been said. -/
  entry : assembly.opened.entry = entry
  /-- Remarks may follow. -/
  free : assembly.place.isFree = true

variable {assembly : Assembly} {complete : List Entry} {entry : Entry}

/-- A change behind which no translation came last goes on with the same entry. -/
theorem Awaits.moved (h : assembly.Awaits complete entry) {place : Place}
    (goesOn : place.endsEntry = false) (free : place.isFree = true) (change : Entry → Entry) :
    (assembly.opened.moved place change).Awaits complete (change entry) := by
  have same : (assembly.opened.moved place change).opened = assembly.opened.moved place change := by
    rw [opened]
    simp [Assembly.moved, goesOn]
  refine ⟨?_, ?_, free⟩
  · rw [same]
    exact h.complete
  · rw [same, ← h.entry]
    rfl

/-- **Remarks of one kind change the entry** one after another. -/
theorem Awaits.addAll?_map (say : List Char → Line) (place : Place)
    (change : List Char → Entry → Entry) (ready : Assembly → Prop)
    (step : ∀ assembly line, ready assembly → assembly.place.isFree = true →
      assembly.add? false (say line) = some (assembly.opened.moved place (change line)))
    (stays : ∀ assembly, assembly.place = place → ready assembly)
    (goesOn : place.endsEntry = false) (free : place.isFree = true)
    (h : assembly.Awaits complete entry) (first : ready assembly) (lines : List (List Char)) :
    ∃ next, assembly.addAll? (lines.map say) = some next ∧
      next.Awaits complete (lines.foldl (fun entry line => change line entry) entry) := by
  induction lines generalizing assembly entry with
  | nil => exact ⟨assembly, rfl, h⟩
  | cons line lines ih =>
      obtain ⟨next, added, awaits⟩ := ih (h.moved goesOn free (change line)) (stays _ rfl)
      refine ⟨next, ?_, awaits⟩
      rw [List.map_cons, addAll?_cons, step assembly line first h.free, Option.bind_some, added]

/-- Remarks of translators before the first entry are no remarks on it. -/
theorem Awaits.addAll?_heading (h : assembly.Awaits complete entry)
    (heading : assembly.place.isHeading = true) (lines : List (List Char)) :
    ∃ next, assembly.addAll? (lines.map .comment) = some next ∧ next.Awaits complete entry := by
  induction lines generalizing assembly with
  | nil => exact ⟨assembly, rfl, h⟩
  | cons line lines ih =>
      -- at the start of a file no entry is open that the remark could end
      have goesOn : assembly.place.endsEntry = false := by
        revert heading
        cases assembly.place <;> simp [Place.isHeading, Place.endsEntry]
      have same : assembly.opened = assembly := by simp [opened, goesOn]
      have next : Awaits { assembly with place := .heading } complete entry :=
        ⟨by rw [← h.complete, same]; rfl, by rw [← h.entry, same]; rfl, rfl⟩
      obtain ⟨last, added, awaits⟩ := ih next rfl
      refine ⟨last, ?_, awaits⟩
      have step : assembly.add? false (.comment line) = some { assembly with place := .heading } := by
        revert heading
        cases place : assembly.place <;> simp [Place.isHeading, add?, place]
      rw [List.map_cons, addAll?_cons, step, Option.bind_some, added]

/-- Changing one part of a value again and again is changing the part again and again. -/
theorem foldl_set {α β γ : Type} (get : α → β) (set : α → β → α)
    (get_set : ∀ a b, get (set a b) = b) (set_set : ∀ a b c, set (set a b) c = set a c)
    (set_get : ∀ a, set a (get a) = a) (change : β → γ → β) (a : α) (values : List γ) :
    values.foldl (fun a value => set a (change (get a) value)) a =
      set a (values.foldl change (get a)) := by
  induction values generalizing a with
  | nil => exact (set_get a).symm
  | cons value values ih => rw [List.foldl_cons, ih, get_set, set_set, List.foldl_cons]

/-- Remarks of translators behind the first entry. -/
theorem Awaits.addAll?_comments (h : assembly.Awaits complete entry)
    (behind : assembly.place.isHeading = false) (lines : List (List Char)) :
    ∃ next, assembly.addAll? (lines.map .comment) = some next ∧
      next.Awaits complete { entry with comment := lines.foldl joinRemark entry.comment } := by
  have step (assembly : Assembly) (line : List Char) (behind : assembly.place.isHeading = false)
      (free : assembly.place.isFree = true) : assembly.add? false (.comment line) =
        some (assembly.opened.moved .comment fun entry =>
          { entry with comment := joinRemark entry.comment line }) := by
    revert behind free
    cases place : assembly.place with
    | keyword keyword => cases keyword <;> simp [Place.isFree, add?, Place.allowsComment, place]
    | _ => simp [Place.isHeading, add?, Place.allowsComment, place]
  -- a remark does not lead back to the heading, so the step applies again
  obtain ⟨next, added, awaits⟩ := h.addAll?_map _ .comment _ (·.place.isHeading = false) step
    (by simp +contextual [Place.isHeading]) rfl rfl behind lines
  refine ⟨next, added, ?_⟩
  rwa [foldl_set Entry.comment (fun entry comment => { entry with comment })
    (fun _ _ => rfl) (fun _ _ _ => rfl) (fun _ => rfl) joinRemark] at awaits

/-- Remarks of developers. -/
theorem Awaits.addAll?_extracted (h : assembly.Awaits complete entry) (lines : List (List Char)) :
    ∃ next, assembly.addAll? (lines.map .extracted) = some next ∧
      next.Awaits complete { entry with extracted := lines.foldl joinRemark entry.extracted } := by
  obtain ⟨next, added, awaits⟩ := h.addAll?_map .extracted .extracted
    (fun line entry => { entry with extracted := joinRemark entry.extracted line })
    (fun _ => True) (fun _ _ _ _ => rfl) (fun _ _ => trivial) rfl rfl trivial lines
  refine ⟨next, added, ?_⟩
  rwa [foldl_set Entry.extracted (fun entry extracted => { entry with extracted })
    (fun _ _ => rfl) (fun _ _ _ => rfl) (fun _ => rfl) joinRemark] at awaits

/-- Places in the program, given what is made of each line. -/
theorem Awaits.addAll?_references (h : assembly.Awaits complete entry)
    (places : List Char → List (List Char)) (lines : List (List Char)) :
    ∃ next, assembly.addAll? (lines.map fun line => .references (places line)) = some next ∧
      next.Awaits complete { entry with
        references := entry.references ++ (lines.flatMap places).map String.ofList } := by
  obtain ⟨next, added, awaits⟩ := h.addAll?_map
    (fun line => .references (places line)) .references
    (fun line entry => { entry with references := entry.references ++ (places line).map String.ofList })
    (fun _ => True) (fun _ _ _ _ => rfl) (fun _ _ => trivial) rfl rfl trivial lines
  refine ⟨next, added, ?_⟩
  rwa [foldl_set Entry.references (fun entry references => { entry with references })
    (fun _ _ => rfl) (fun _ _ _ => rfl) (fun _ => rfl)
    (fun before line => before ++ (places line).map String.ofList),
    List.foldl_append_eq_append, ← List.flatMap_def, ← List.map_flatMap] at awaits

/-- Flags, given what is made of each line. -/
theorem Awaits.addAll?_flags (h : assembly.Awaits complete entry)
    (flags : List Char → List (List Char)) (lines : List (List Char)) :
    ∃ next, assembly.addAll? (lines.map fun line => .flags (flags line)) = some next ∧
      next.Awaits complete { entry with
        flags := entry.flags ++ (lines.flatMap flags).map String.ofList } := by
  obtain ⟨next, added, awaits⟩ := h.addAll?_map
    (fun line => .flags (flags line)) .flags
    (fun line entry => { entry with flags := entry.flags ++ (flags line).map String.ofList })
    (fun _ => True) (fun _ _ _ _ => rfl) (fun _ _ => trivial) rfl rfl trivial lines
  refine ⟨next, added, ?_⟩
  rwa [foldl_set Entry.flags (fun entry flags => { entry with flags })
    (fun _ _ => rfl) (fun _ _ _ => rfl) (fun _ => rfl)
    (fun before line => before ++ (flags line).map String.ofList),
    List.foldl_append_eq_append, ← List.flatMap_def, ← List.map_flatMap] at awaits

/-! ## Texts under keywords -/

/-- The assembly that a text under a keyword goes into. -/
def readied (assembly : Assembly) : Keyword → Assembly
  | .context | .id => assembly.opened
  | .plural | .message => assembly

/-- The first line of a text under a keyword. -/
theorem add?_keyword {keyword : Keyword} (may : assembly.place.allowsKeyword keyword = true)
    (text : List Char) : assembly.add? false (.keyword keyword text) =
      some ((assembly.readied keyword).moved (.keyword keyword)
        (setKeyword keyword false (String.ofList text))) := by
  cases keyword <;> simp [add?, may, readied]

/-- More of a text under a keyword. -/
theorem extend?_setKeyword (keyword : Keyword) (index : Nat) (text more : String) :
    extend? (.keyword keyword) index more (setKeyword keyword false text entry) =
      some (setKeyword keyword false (text ++ more) entry) := by
  cases keyword <;> rfl

/-- The further lines of a text under a keyword. -/
theorem addAll?_pieces (keyword : Keyword) (text : List Char) (index : Nat)
    (pieces : List (List Char)) :
    addAll? ⟨complete, setKeyword keyword false (String.ofList text) entry, .keyword keyword, index⟩
        (pieces.map .continuation) =
      some ⟨complete, setKeyword keyword false (String.ofList (text ++ pieces.flatten)) entry,
        .keyword keyword, index⟩ := by
  induction pieces generalizing text with
  | nil => simp
  | cons piece pieces ih =>
      rw [List.map_cons, addAll?_cons, add?, extend?_setKeyword, Option.map_some, Option.bind_some,
        ← String.ofList_append, ih, List.append_assoc, List.flatten_cons]

/-- **A text under a keyword.** -/
theorem addAll?_toldText {keyword : Keyword}
    (may : assembly.place.allowsKeyword keyword = true) (text : String) :
    assembly.addAll? (toldText (.keyword keyword) text) =
      some ((assembly.readied keyword).moved (.keyword keyword) (setKeyword keyword false text)) := by
  unfold toldText
  split
  · rw [addAll?_cons, add?_keyword may, Option.bind_some]
    exact (addAll?_pieces keyword [] _ _).trans (by simp [Text.flatten_chunks, moved])
  · rw [addAll?_cons, add?_keyword may, Option.bind_some, addAll?_nil, String.ofList_toList]

/-! ## Numbered translations -/

/-- `setForm forms index text = forms ++ [(index, text)]`: a number that is new is set behind the
others. -/
theorem setForm_of_forall_ne {forms : List (Nat × String)} {index : Nat}
    (new : ∀ form ∈ forms, form.1 ≠ index) (text : String) :
    setForm forms index text = forms ++ [(index, text)] := by
  have fresh : (forms.any fun form => form.1 == index) = false := by simpa using new
  simp [setForm, fresh]

/-- A number that is there gets the text. -/
theorem setForm_of_exists {forms : List (Nat × String)} {index : Nat}
    (present : ∃ form ∈ forms, form.1 = index) (text : String) :
    setForm forms index text =
      forms.map fun form => if form.1 = index then (index, text) else form := by
  have found : (forms.any fun form => form.1 == index) = true := by
    simpa only [List.any_eq_true, beq_iff_eq] using present
  simp [setForm, found]

/-- `(setForm forms index text).lookup index = some text`: a text that is set is found again. -/
theorem lookup_setForm (forms : List (Nat × String)) (index : Nat) (text : String) :
    (setForm forms index text).lookup index = some text := by
  by_cases present : ∃ form ∈ forms, form.1 = index
  · rw [setForm_of_exists present]
    induction forms with
    | nil => simp at present
    | cons form forms ih =>
        by_cases same : form.1 = index
        · simp [same]
        -- the number stands behind this one, which is passed
        · have rest : ∃ form ∈ forms, form.1 = index := by
            simpa only [List.exists_mem_cons_iff, same, false_or] using present
          have other : (index == form.1) = false := by simpa using Ne.symm same
          rw [List.map_cons, if_neg same, List.lookup_cons, other]
          exact ih rest
  · have new : ∀ form ∈ forms, form.1 ≠ index := fun form member same =>
      present ⟨form, member, same⟩
    have none : forms.lookup index = none := by
      rw [List.lookup_eq_none_iff]
      intro form member
      simpa using (new form member).symm
    simp [setForm_of_forall_ne new, List.lookup_append, none]

/-- Of two texts that are set under one number the second one stays. -/
theorem setForm_setForm (forms : List (Nat × String)) (index : Nat) (first second : String) :
    setForm (setForm forms index first) index second = setForm forms index second := by
  by_cases present : ∃ form ∈ forms, form.1 = index
  · have still : ∃ form ∈ setForm forms index first, form.1 = index := by
      obtain ⟨form, member, same⟩ := present
      rw [setForm_of_exists ⟨form, member, same⟩]
      exact ⟨_, List.mem_map_of_mem member, by simp [same]⟩
    rw [setForm_of_exists still, setForm_of_exists present, setForm_of_exists present, List.map_map]
    refine List.map_congr_left fun form _ => ?_
    by_cases same : form.1 = index <;> simp [same]
  · have new : ∀ form ∈ forms, form.1 ≠ index := fun form member same =>
      present ⟨form, member, same⟩
    have still : ∃ form ∈ setForm forms index first, form.1 = index := by
      rw [setForm_of_forall_ne new]
      exact ⟨(index, first), by simp, rfl⟩
    have kept : forms.map (fun form => if form.1 = index then (index, second) else form) = forms := by
      rw [List.map_congr_left fun form member => if_neg (new form member), List.map_id']
    rw [setForm_of_exists still, setForm_of_forall_ne new, setForm_of_forall_ne new, List.map_append,
      kept]
    simp

/-- The first line of a numbered translation. -/
theorem add?_form (may : assembly.place.allowsForm = true) (index : Nat) (text : List Char) :
    assembly.add? false (.form (some index) text) =
      some ⟨assembly.complete, { assembly.entry with
        forms := setForm assembly.entry.forms index (String.ofList text) }, .form, index⟩ := by
  simp [add?, may, moved]

/-- More of the last translation. -/
theorem extend?_form (forms : List (Nat × String)) (index : Nat) (text more : String) :
    extend? .form index more { entry with forms := setForm forms index text } =
      some { entry with forms := setForm forms index (text ++ more) } := by
  simp [extend?, lookup_setForm, setForm_setForm]

/-- The further lines of a numbered translation. -/
theorem addAll?_formPieces (forms : List (Nat × String)) (index : Nat) (text : List Char)
    (pieces : List (List Char)) :
    addAll? ⟨complete, { entry with forms := setForm forms index (String.ofList text) }, .form, index⟩
        (pieces.map .continuation) =
      some ⟨complete, { entry with
        forms := setForm forms index (String.ofList (text ++ pieces.flatten)) }, .form, index⟩ := by
  induction pieces generalizing text with
  | nil => simp
  | cons piece pieces ih =>
      rw [List.map_cons, addAll?_cons, add?, extend?_form, Option.map_some, Option.bind_some,
        ← String.ofList_append, ih, List.append_assoc, List.flatten_cons]

/-- **A numbered translation.** -/
theorem addAll?_toldForm (may : assembly.place.allowsForm = true) (index : Nat) (text : String) :
    assembly.addAll? (toldText (.form (some index)) text) =
      some ⟨assembly.complete, { assembly.entry with
        forms := setForm assembly.entry.forms index text }, .form, index⟩ := by
  unfold toldText
  split
  · rw [addAll?_cons, add?_form may, Option.bind_some]
    exact (addAll?_formPieces _ _ [] _).trans (by simp [Text.flatten_chunks])
  · rw [addAll?_cons, add?_form may, Option.bind_some, addAll?_nil, String.ofList_toList]

/-- **The translations that are heard,** on top of those that have been: each of them is set under
the first digit of its number. -/
def heardForms (found : List (Nat × String)) (start : Nat) : List String → List (Nat × String)
  | [] => found
  | text :: texts => heardForms (setForm found (leadingDigit start) text) (start + 1) texts

/-- **Numbered translations one after another.** -/
theorem addAll?_toldForms (texts : List String) (start : Nat)
    (may : assembly.place.allowsForm = true) :
    ∃ place index, assembly.addAll? (((texts.map some).zipIdx start).flatMap fun (form, index) =>
        toldOpenText (.form (some (leadingDigit index))) form) =
      some ⟨assembly.complete, { assembly.entry with
        forms := heardForms assembly.entry.forms start texts }, place, index⟩ ∧
      (texts ≠ [] → place = .form) := by
  induction texts generalizing assembly start with
  | nil => exact ⟨assembly.place, assembly.index, by simp [heardForms], by simp⟩
  | cons text texts ih =>
      let next : Assembly := ⟨assembly.complete, { assembly.entry with
        forms := setForm assembly.entry.forms (leadingDigit start) text }, .form, leadingDigit start⟩
      have first : assembly.addAll? (toldText (.form (some (leadingDigit start))) text) = some next :=
        addAll?_toldForm may _ text
      obtain ⟨place, index, others, last⟩ := @ih next (start + 1) rfl
      refine ⟨place, index, ?_, fun _ => ?_⟩
      · rw [List.map_cons, List.zipIdx_cons, List.flatMap_cons, addAll?_append]
        change (assembly.addAll? (toldText (.form (some (leadingDigit start))) text)).bind _ = _
        rw [first, Option.bind_some, others]
        rfl
      · cases texts with
        | nil => exact (congrArg Assembly.place (Option.some.inj others)).symm
        | cons second texts => exact last (by simp)

/-- **Of at most ten translations none is lost:** their numbers are digits. -/
theorem heardForms_of_le {texts : List String} {start : Nat} (few : start + texts.length ≤ 10)
    {found : List (Nat × String)} (below : ∀ form ∈ found, form.1 < start) :
    heardForms found start texts = found ++ (texts.zipIdx start).map Prod.swap := by
  induction texts generalizing found start with
  | nil => simp [heardForms]
  | cons text texts ih =>
      rw [List.length_cons] at few
      have new : ∀ form ∈ found, form.1 ≠ start := fun form member => (below form member).ne
      have next : ∀ form ∈ found ++ [(start, text)], form.1 < start + 1 := by grind
      rw [heardForms, leadingDigit_of_lt (by omega), setForm_of_forall_ne new,
        ih (by omega) next, List.zipIdx_cons, List.map_cons, List.append_assoc]
      rfl

end Assembly

/-! ## The entry of a stanza -/

/-- The forms that are written, where none is open. -/
def closedForms (string : Translatable) : List String :=
  (writtenForms string).reduceOption

/-- `writtenForms string = (closedForms string).map some`: where no form is open, the written forms
are the closed ones. -/
theorem writtenForms_eq_map {string : Translatable} (closed : none ∉ writtenForms string) :
    writtenForms string = (closedForms string).map some := by
  unfold closedForms
  generalize writtenForms string = forms at closed ⊢
  induction forms with
  | nil => rfl
  | cons form forms ih =>
      rw [List.mem_cons, not_or] at closed
      cases form with
      | none => exact absurd rfl closed.1
      | some form => rw [List.reduceOption_cons_of_some, List.map_cons, ← ih closed.2]

/-- `writtenForms string ≠ []`: there is always a form to write. -/
theorem writtenForms_ne_nil (string : Translatable) : writtenForms string ≠ [] := by
  unfold writtenForms
  split <;> simp

/-- `closedForms string ≠ []`: where no form is open, there is a closed form. -/
theorem closedForms_ne_nil {string : Translatable} (closed : none ∉ writtenForms string) :
    closedForms string ≠ [] := fun empty => by
  have written := writtenForms_eq_map closed
  rw [empty] at written
  exact writtenForms_ne_nil string written

/-- The only translation without a number. -/
def messageOf : List String → String
  | [form] => form
  | _ => ""

/-- The translations with numbers. -/
def numberedOf : List String → List (Nat × String)
  | [_] => []
  | forms => forms.zipIdx.map Prod.swap

/-- **The entry that a stanza states.** -/
def statedEntry (string : Translatable) : Entry where
  comment := (remarkLines string.translatorComments).foldl Assembly.joinRemark ""
  extracted := (remarkLines string.developerComments).foldl Assembly.joinRemark ""
  references := ((referenceLines string.references).flatMap Text.words).map String.ofList
  flags := ((remarkLines string.formatHint).flatMap fun line =>
    (Text.split (· == ',') line).map Text.trim).map String.ofList
  context := none
  id := string.singular
  plural := string.plural.getD ""
  message := messageOf (closedForms string)
  forms := numberedOf (closedForms string)
  obsolete := false

/-- The translations with numbers that are heard. -/
def heardNumbered : List String → List (Nat × String)
  | [_] => []
  | forms => Assembly.heardForms [] 0 forms

/-- **The entry that is heard in a stanza:** the one that it states, but for the translations beyond
the tenth, which take the places of others. -/
def heardEntry (string : Translatable) : Entry :=
  { statedEntry string with forms := heardNumbered (closedForms string) }

/-- `heardEntry string = statedEntry string`: of at most ten forms all are heard. -/
theorem heardEntry_of_le {string : Translatable} (few : (closedForms string).length ≤ 10) :
    heardEntry string = statedEntry string := by
  have same : heardNumbered (closedForms string) = numberedOf (closedForms string) := by
    match closedForms string, few with
    | [], _ => rfl
    | [_], _ => rfl
    | first :: second :: more, few =>
        exact Assembly.heardForms_of_le (by simpa using few) (by simp)
  rw [heardEntry, same]
  rfl

/-- A string without what is lost at the start of a file. -/
def headed (isFirst : Bool) (string : Translatable) : Translatable :=
  if isFirst then { string with translatorComments := none } else string

namespace Assembly

variable {assembly : Assembly} {complete : List Entry} {entry : Entry}

/-- The remarks of a stanza. -/
theorem Awaits.addAll?_remarks (h : assembly.Awaits complete .empty) (string : Translatable) :
    ∃ next, assembly.addAll? ((remarkLines string.translatorComments).map .comment ++
        toldRemarks string) = some next ∧
      next.Awaits complete { statedEntry (headed assembly.place.isHeading string) with
        id := "", plural := "", message := "", forms := [] } := by
  -- the remarks of translators are the ones that the start of a file does not keep
  obtain ⟨first, added, awaits⟩ : ∃ first,
      assembly.addAll? ((remarkLines string.translatorComments).map .comment) = some first ∧
        first.Awaits complete { Entry.empty with
          comment := (statedEntry (headed assembly.place.isHeading string)).comment } := by
    cases heading : assembly.place.isHeading with
    | true => simpa [headed, statedEntry, remarkLines, Entry.empty] using h.addAll?_heading heading _
    | false => simpa [headed, statedEntry, Entry.empty] using h.addAll?_comments heading _
  obtain ⟨second, addedExtracted, awaits⟩ :=
    awaits.addAll?_extracted (remarkLines string.developerComments)
  obtain ⟨third, addedReferences, awaits⟩ :=
    awaits.addAll?_references Text.words (referenceLines string.references)
  obtain ⟨next, addedFlags, awaits⟩ :=
    awaits.addAll?_flags (fun line => (Text.split (· == ',') line).map Text.trim)
      (remarkLines string.formatHint)
  refine ⟨next, ?_, ?_⟩
  · simp only [toldRemarks, addAll?_append, added, addedExtracted, addedReferences, addedFlags,
      Option.bind_some]
  · convert awaits using 2 <;> cases assembly.place.isHeading <;> simp [statedEntry, headed, Entry.empty]

/-- The translations of a stanza. -/
theorem addAll?_toldForms_closed (mayMessage : assembly.place.allowsMessage = true)
    (mayForm : assembly.place.allowsForm = true) (none : assembly.entry.forms = [])
    (silent : assembly.entry.message = "") {forms : List String} (some : forms ≠ []) :
    ∃ next, assembly.addAll? (toldForms (forms.map Option.some)) = Option.some next ∧
      next.complete = assembly.complete ∧
      next.entry = { assembly.entry with
        message := messageOf forms, forms := heardNumbered forms } ∧
      next.place.endsEntry = true := by
  -- a single form is the translation of the text, more of them have numbers
  match forms with
  | [form] =>
      refine ⟨_, @addAll?_toldText _ .message mayMessage form, rfl, ?_, rfl⟩
      simp [setKeyword, readied, moved, messageOf, heardNumbered, none]
  | first :: second :: more =>
      obtain ⟨place, index, added, last⟩ :=
        addAll?_toldForms (first :: second :: more) 0 mayForm
      refine ⟨_, added, rfl, ?_, ?_⟩
      · simp [messageOf, heardNumbered, none, silent]
      · rw [last (by simp)]
        rfl

/-- **A stanza adds the entry that is heard in it.** -/
theorem Awaits.addAll?_toldStanza (h : assembly.Awaits complete .empty) {string : Translatable}
    (closed : none ∉ writtenForms string) :
    ∃ next, assembly.addAll? (toldStanza string) = some next ∧ next.complete = complete ∧
      next.entry = heardEntry (headed assembly.place.isHeading string) ∧
      next.place.endsEntry = true := by
  obtain ⟨remarked, added, awaits⟩ := h.addAll?_remarks string
  have may : remarked.place.allowsKeyword .id = true := Place.allowsId_of_isFree awaits.free
  have addedId := addAll?_toldText may string.singular
  -- with a plural or without, translations may follow, and the rest of the entry stays
  obtain ⟨named, addedPlural, place, complete, entry⟩ : ∃ named : Assembly,
      ((remarked.readied .id).moved (.keyword .id) (setKeyword .id false string.singular)).addAll?
        (toldOpenText (.keyword .plural) string.plural) = some named ∧
      (named.place = .keyword .id ∨ named.place = .keyword .plural) ∧
      named.complete = remarked.opened.complete ∧
      named.entry = { remarked.opened.entry with
        id := string.singular, plural := string.plural.getD "", obsolete := false } := by
    cases string.plural with
    | none =>
        refine ⟨_, rfl, .inl rfl, rfl, ?_⟩
        simp [readied, Assembly.moved, setKeyword, awaits.entry]
    | some plural => exact ⟨_, addAll?_toldText rfl plural, .inr rfl, rfl, rfl⟩
  rw [awaits.entry] at entry
  obtain ⟨next, addedForms, same, stated, ends⟩ := addAll?_toldForms_closed
    (by rcases place with equal | equal <;> rw [equal] <;> rfl)
    (by rcases place with equal | equal <;> rw [equal] <;> rfl)
    (by rw [entry]) (by rw [entry]) (closedForms_ne_nil closed)
  refine ⟨next, ?_, (same.trans complete).trans awaits.complete, ?_, ends⟩
  · rw [toldStanza, addAll?_append, addAll?_append, addAll?_append, added, Option.bind_some,
      addedId, Option.bind_some, addedPlural, Option.bind_some, writtenForms_eq_map closed,
      addedForms]
  · rw [stated, entry]
    cases assembly.place.isHeading <;>
      simp [heardEntry, statedEntry, headed, closedForms, writtenForms]

/-- `line.isRemark = false`: only a line that is no remark leads to a place that ends an entry. -/
theorem isRemark_of_add? {next : Assembly} {obsolete : Bool} {line : Line}
    (added : assembly.add? obsolete line = some next) (ends : next.place.endsEntry = true) :
    line.isRemark = false := by
  -- every kind of remark leads to a place of its own, and none of these ends an entry
  cases line with
  | comment text =>
      simp only [add?] at added
      split at added
      · obtain rfl := Option.some.inj added
        exact absurd ends (by simp [Place.endsEntry])
      · split at added
        · obtain rfl := Option.some.inj added
          exact absurd ends (by simp [moved, Place.endsEntry])
        · exact absurd added (by simp)
  | extracted text | references places | flags flags =>
      obtain rfl := Option.some.inj added
      exact absurd ends (by simp [moved, Place.endsEntry])
  | _ => rfl

/-- `endsOpen before lines = true`: the last line behind which an entry ends is no remark. -/
theorem endsOpen_of_addAll? {next : Assembly} {lines : List Line} (some : lines ≠ [])
    (added : assembly.addAll? lines = Option.some next) (ends : next.place.endsEntry = true)
    (before : Bool) : endsOpen before lines = true := by
  obtain ⟨front, last, rfl⟩ := (List.eq_nil_or_concat' lines).resolve_left some
  rw [addAll?_append, Option.bind_eq_some_iff] at added
  obtain ⟨middle, -, added⟩ := added
  have last := isRemark_of_add? (by simpa [Option.bind_eq_some_iff] using added) ends
  simp [endsOpen, last]

/-- **A stanza is read as the entry that is heard in it,** and the next one may follow. -/
theorem Awaits.assembleFrom_stanza (h : assembly.Awaits complete .empty) {string : Translatable}
    (closed : none ∉ writtenForms string) (isOpen : Bool) (number : Nat) (rest : List (List Char)) :
    ∃ next later,
      next.Awaits (heardEntry (headed assembly.place.isHeading string) :: complete) .empty ∧
      next.place.endsEntry = true ∧
      assembleFrom assembly isOpen number ((stanza string).map String.toList ++ rest) =
        assembleFrom next true later rest := by
  obtain ⟨next, added, same, entry, ends⟩ := h.addAll?_toldStanza closed
  obtain ⟨lines, shape, tells⟩ := exists_tells_stanza string
  have some : toldStanza string ≠ [] := by
    simp only [toldStanza, toldText]
    split <;> simp
  -- the translations end the entry: what follows opens a new one
  refine ⟨next, number + lines.length + 1, ⟨?_, ?_, ?_⟩, ends, ?_⟩
  · simp [opened, ends, same, entry]
  · simp [opened, ends]
  · revert ends
    cases next.place <;> simp [Place.endsEntry, Place.isFree]
    rintro rfl
    rfl
  · have read := assembleFrom_append (List.forall₂_map_left_iff.2 tells) added isOpen number
      ("".toList :: rest)
    rw [shape, List.map_append, List.append_assoc]
    refine read.trans ?_
    rw [endsOpen_of_addAll? some added ends, List.length_map]
    rfl

end Assembly

/-! ## All stanzas -/

/-- Strings without what is lost at the start of a file. -/
def headedAll (isFirst : Bool) : List Translatable → List Translatable
  | [] => []
  | first :: rest => headed isFirst first :: rest

/-- `headedAll false strings = strings`: only at the top of a catalog a remark is taken for the
heading. -/
@[simp] theorem headedAll_false (strings : List Translatable) : headedAll false strings = strings := by
  cases strings <;> rfl

/-- `headedAll true strings = strings`: nothing is lost where the first string has no remarks of
translators. -/
theorem headedAll_eq_self {strings : List Translatable}
    (first : ∀ string ∈ strings.head?, string.translatorComments = none) :
    headedAll true strings = strings := by
  cases strings with
  | nil => rfl
  | cons string strings =>
      have none := first string rfl
      simp [headedAll, headed, ← none]

/-- What is lost at the start of a file is no form. -/
theorem exists_of_mem_headedAll {strings : List Translatable} {isFirst : Bool}
    {string : Translatable} (member : string ∈ headedAll isFirst strings) :
    ∃ original ∈ strings, writtenForms original = writtenForms string := by
  cases strings with
  | nil => simp [headedAll] at member
  | cons first rest =>
      rcases List.mem_cons.1 member with rfl | member
      · refine ⟨first, List.mem_cons_self, ?_⟩
        unfold headed
        split <;> rfl
      · exact ⟨string, List.mem_cons_of_mem _ member, rfl⟩

/-- `string.singular ≠ ""`: what is lost at the start of a file is not the text. -/
theorem singular_of_mem_headedAll {strings : List Translatable}
    (texts : ∀ string ∈ strings, string.singular ≠ "") {isFirst : Bool} {string : Translatable}
    (member : string ∈ headedAll isFirst strings) : string.singular ≠ "" := by
  cases strings with
  | nil => simp [headedAll] at member
  | cons first rest =>
      rw [List.forall_mem_cons] at texts
      rcases List.mem_cons.1 member with rfl | member
      · unfold headed
        split <;> exact texts.1
      · exact texts.2 string member

/-- **Stanzas are read as the entries that are heard in them.** -/
theorem assembleFrom_stanzas {strings : List Translatable}
    (closed : ∀ string ∈ strings, none ∉ writtenForms string) {assembly : Assembly}
    {complete : List Entry} (h : assembly.Awaits complete .empty) (isOpen : Bool)
    (ready : isOpen = assembly.place.endsEntry) (number : Nat) :
    ∃ last, assembleFrom assembly isOpen number ((strings.flatMap stanza).map String.toList) =
        .ok (last, last.place.endsEntry) ∧
      last.Awaits (((headedAll assembly.place.isHeading strings).map heardEntry).reverse ++ complete)
        .empty := by
  induction strings generalizing assembly complete isOpen number with
  | nil => exact ⟨assembly, by simp [assembleFrom, ready], h⟩
  | cons string strings ih =>
      obtain ⟨next, later, awaits, ends, read⟩ := h.assembleFrom_stanza
        (closed string List.mem_cons_self) isOpen number ((strings.flatMap stanza).map String.toList)
      -- behind the first stanza no heading is left, so nothing is lost from the others
      have behind : next.place.isHeading = false := by
        revert ends
        cases next.place <;> simp [Place.endsEntry, Place.isHeading]
      obtain ⟨last, others, done⟩ :=
        ih (fun s member => closed s (List.mem_cons_of_mem _ member)) awaits true ends.symm later
      refine ⟨last, ?_, ?_⟩
      · rw [List.flatMap_cons, List.map_append, read, others]
      · rw [behind, headedAll_false] at done
        simpa [headedAll] using done

/-- The entry at the end of a file is complete, whether or not another one has been opened. -/
theorem Assembly.complete_opened (assembly : Assembly) : assembly.opened.complete =
    if assembly.place.endsEntry then assembly.entry :: assembly.complete else assembly.complete := by
  rw [opened]
  split <;> rfl

/-- A line that tells something does not begin with the mark that may begin a file. -/
theorem not_tells_mark (rest : List Char) (line : Line) : ¬ Tells ('\uFEFF' :: rest) line := by
  rintro ⟨word, read, -⟩
  have ink : Text.isBlank '\uFEFF' = false := by decide
  -- the mark is no blank and no keyword begins with it
  obtain ⟨back, trimmed⟩ := Text.exists_trim_cons ink rest
  have first := head?_pieces_cons ink back
  have none := Keyword.ofWord?_cons (show '\uFEFF' ≠ 'm' by decide)
  simp [Line.read, trimmed, first, Line.readWords, none, Line.isCommentWord] at read

/-- Each line of a catalog is written with a line feed behind it. -/
theorem toList_render (strings : List Translatable) : (render strings).toList =
    ((strings.flatMap stanza).map String.toList).flatMap (· ++ ['\n']) := by
  simp [render, List.flatMap_map]

/-- The lines of a written catalog. -/
theorem splitLines_render {strings : List Translatable}
    (lined : ∀ string ∈ strings, IsLined string) :
    Text.splitLines (render strings).toList = (strings.flatMap stanza).map String.toList := by
  rw [toList_render, Text.splitLines_flatMap]
  simp only [List.mem_map, List.mem_flatMap]
  rintro _ ⟨line, ⟨string, member, inside⟩, rfl⟩
  exact isLine_of_mem_stanza (lined string member) inside

/-- A written catalog has no mark at its start. -/
theorem dropMark_stanzas (strings : List Translatable) :
    dropMark ((strings.flatMap stanza).map String.toList) =
      (strings.flatMap stanza).map String.toList := by
  unfold dropMark
  split
  · next rest more first =>
    exfalso
    cases strings with
    | nil => simp at first
    | cons string strings =>
        obtain ⟨lines, shape, tells⟩ := exists_tells_stanza string
        rw [List.flatMap_cons, shape] at first
        generalize toldStanza string = told at tells
        cases tells with
        | nil => simp at first
        | cons tell others =>
            simp only [List.cons_append, List.map_cons, List.cons.injEq] at first
            rw [first.1] at tell
            exact not_tells_mark _ _ tell
  · rfl

/-- `withoutHeader entries = entries`: where every entry has a text, there is no header. -/
theorem withoutHeader_of_id_ne {entries : List Entry} (h : ∀ entry ∈ entries, entry.id ≠ "") :
    withoutHeader entries = entries := by
  have none : (entries.filter fun entry => !entry.obsolete && entry.id == "") = [] := by
    simpa [List.filter_eq_nil_iff] using fun entry member _ => h entry member
  simp [withoutHeader, header?, none]

/-- **The entries of a written catalog** are those that are heard in its stanzas. -/
theorem readEntries_render {strings : List Translatable}
    (readable : ∀ string ∈ strings, IsReadable string) :
    readEntries (Text.splitLines (render strings).toList) =
      .ok ((headedAll true strings).map heardEntry) := by
  have start : Assembly.start.Awaits [] .empty := ⟨rfl, rfl, rfl⟩
  obtain ⟨last, read, awaits⟩ :=
    assembleFrom_stanzas (fun string member => (readable string member).closed) start false rfl 1
  have texts : ∀ entry ∈ (headedAll true strings).map heardEntry, entry.id ≠ "" := by
    intro entry member
    obtain ⟨string, inside, rfl⟩ := List.mem_map.1 member
    exact singular_of_mem_headedAll (fun s member => (readable s member).singular) inside
  rw [splitLines_render fun string member => (readable string member).isLined, readEntries,
    dropMark_stanzas, read]
  simp only [← Assembly.complete_opened, awaits.complete, List.append_nil, List.reverse_reverse]
  exact congrArg Except.ok (withoutHeader_of_id_ne texts)

/-- Where stanzas tell all texts apart, the entries that are heard are those that are stated. -/
theorem map_heardEntry {strings : List Translatable}
    (writable : ∀ string ∈ strings, IsWritable string) (isFirst : Bool) :
    (headedAll isFirst strings).map heardEntry = (headedAll isFirst strings).map statedEntry := by
  refine List.map_congr_left fun string member => heardEntry_of_le ?_
  -- the forms of the first string are its own, with or without remarks on it
  obtain ⟨original, inside, same⟩ := exists_of_mem_headedAll member
  have written : (writtenForms string).length ≤ 10 := same ▸ (writable original inside).few
  exact (List.reduceOption_length_le _).trans written

end StringCatalog.Catalog
