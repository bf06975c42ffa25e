import StringCatalog.Proofs.Catalog.Reread

/-! # What holds of the entries that are read

* **`Catalog.Line.IsSound`** — what holds of a line that is read from a text without line boundaries.
* **`Catalog.Entry.IsSound`** — what holds of an entry of such lines.
* **`Catalog.Assembly.IsSound.add?`** — taking in a line keeps it.
* **`Catalog.isSound_of_readEntries`** — it holds of all entries that are read. -/

namespace StringCatalog.Catalog

/-! ## Texts -/

/-- **A text whose line boundaries have letters for them:** line feeds, carriage returns, vertical
tabs and form feeds. That is, `∀ c ∈ text, Text.isLineBoundary c = true → c ∈ ['\n', '\r', '\x0b',
'\x0c']`. -/
def IsFolded (text : List Char) : Prop :=
  ∀ c ∈ text, Text.isLineBoundary c = true → c ∈ ['\n', '\r', '\x0b', '\x0c']

/-- The empty text is folded. -/
@[simp] theorem isFolded_nil : IsFolded [] := by simp [IsFolded]

/-- Folded texts one behind the other are folded. -/
theorem IsFolded.append {first second : List Char} (h : IsFolded first) (k : IsFolded second) :
    IsFolded (first ++ second) := fun c member =>
  (List.mem_append.1 member).elim (h c) (k c)

/-- The character that a letter stands for is no line boundary without a letter. -/
theorem isFolded_of_escaped? {letter c : Char} (h : escaped? letter = some c)
    (boundary : Text.isLineBoundary c = true) : c ∈ ['\n', '\r', '\x0b', '\x0c'] := by
  revert boundary
  unfold escaped? at h
  split at h <;> simp only [Option.some.injEq, reduceCtorEq] at h <;> subst h <;> decide

/-- **The text inside quotes** has no line boundaries without a letter, if it stands on a line. -/
theorem isFolded_unescape {text : List Char} (lined : Text.IsLine text) :
    IsFolded (unescape text) := by
  induction text using unescape.induct with
  -- one case for each equation of `unescape`: only a letter that stands for a character can
  -- bring in a line boundary
  | case1 => simp
  | case2 letter rest c escape ih =>
      rw [unescape_backslash escape]
      rw [Text.isLine_cons, Text.isLine_cons] at lined
      intro d member boundary
      rcases List.mem_cons.1 member with rfl | member
      · exact isFolded_of_escaped? escape boundary
      · exact ih lined.2.2 d member boundary
  | case3 letter rest escape ih =>
      rw [Text.isLine_cons] at lined
      rw [unescape]
      simp only [escape]
      intro d member boundary
      rcases List.mem_cons.1 member with rfl | member
      · exact absurd boundary (by decide)
      · exact ih lined.2 d member boundary
  | case4 c rest other ih =>
      rw [Text.isLine_cons] at lined
      rw [unescape]
      · intro d member boundary
        rcases List.mem_cons.1 member with rfl | member
        · exact absurd boundary (by simp [lined.1])
        · exact ih lined.2 d member boundary
      · exact other

/-! ## Lines -/

/-- **What holds of a line** that is read from a text without line boundaries. -/
def Line.IsSound : Line → Prop
  | .keyword _ text | .continuation text => IsFolded text
  | .form index? text => (∀ index ∈ index?, index < 10) ∧ IsFolded text
  | .comment text | .extracted text => Text.IsLine text
  | .references places => ∀ place ∈ places, place ≠ [] ∧ ∀ c ∈ place, Text.isBlank c = false
  | .flags texts => ∀ flag ∈ texts, IsFlag flag
  | .former _ => True

/-- `Line.commentText line ⊆ line`: what a remark of translators says is a part of its line. -/
theorem commentText_subset (line : List Char) : Line.commentText line ⊆ line := by
  have signs : line.dropWhile (· == '#') ⊆ line := (List.dropWhile_suffix _).subset
  unfold Line.commentText
  split
  · next rest shape =>
    rw [shape] at signs
    exact fun c member => signs (List.mem_cons_of_mem _ member)
  · exact signs

/-- `inner text ⊆ text`: without its first and its last character a text is a part of what it
was. -/
theorem inner_subset (text : List Char) : inner text ⊆ text :=
  List.Subset.trans (List.dropLast_subset _) (List.drop_subset 1 text)

/-- A numbered translation is sound. -/
theorem isSound_readForm {line : List Char} (lined : Text.IsLine line) :
    (Line.readForm line).IsSound := by
  have part : (Text.cutAt? '"' line).elim line Prod.snd ⊆ line := by
    cases cut : Text.cutAt? '"' line with
    | none => exact List.Subset.refl line
    | some halves => exact Text.cutAt?_subset cut
  refine ⟨fun index found => ?_, isFolded_unescape (lined.of_subset fun c member =>
    part (List.dropLast_subset _ member))⟩
  obtain ⟨c, -, value⟩ := Option.bind_eq_some_iff.1 found
  exact Text.decimalValue?_lt value

/-- A text under a keyword is sound. -/
theorem isSound_of_readKeyword {keyword : Keyword} {text : List Char} {line : Line}
    (lined : Text.IsLine text) (read : Line.readKeyword keyword text = .ok (some line)) :
    line.IsSound := by
  unfold Line.readKeyword at read
  split at read
  · simp at read
  · simp only [Except.ok.injEq, Option.some.injEq] at read
    subst read
    exact isFolded_unescape (lined.of_subset (inner_subset text))

/-- A former text is sound. -/
theorem isSound_of_readFormer {text : List Char} {words : List (List Char)} {line : Line}
    (lined : Text.IsLine text) (read : Line.readFormer text words = .ok (some line)) :
    line.IsSound := by
  have kept : Text.IsLine (inner (Text.trimStart (text.drop 2))) := lined.of_subset
    (List.Subset.trans (inner_subset _)
      (List.Subset.trans (Text.trimStart_subset _) (List.drop_subset 2 text)))
  unfold Line.readFormer at read
  split at read
  · simp at read
  · simp at read
  split at read
  -- of the lines about former texts only the one in bare quotes goes on a text
  · simp only [Except.ok.injEq, Option.some.injEq] at read
    exact read ▸ isFolded_unescape kept
  split at read
  · simp at read
  split at read
  · simp at read
  · simp only [Except.ok.injEq, Option.some.injEq] at read
    exact read ▸ trivial
  · simp at read

/-- Flags are sound. -/
theorem isSound_flags {text : List Char} (lined : Text.IsLine text) :
    (Line.flags ((Text.split (· == ',') text).map Text.trim)).IsSound := by
  intro flag member
  obtain ⟨piece, inside, rfl⟩ := List.mem_map.1 member
  refine ⟨Text.trim_trim piece, fun comma => ?_, ?_⟩
  · simpa using Text.separates_of_mem_split inside ',' (Text.trim_subset piece comma)
  · exact lined.of_subset
      (List.Subset.trans (Text.trim_subset piece) (Text.subset_of_mem_split inside))

/-- `told = line`: a mark that says nothing alone says the line that it is made to say. -/
theorem eq_of_unlessAlone {alone : Bool} {told line : Line}
    (read : (.ok (if alone then none else some told) : Except Cause (Option Line)) =
      .ok (some line)) : told = line := by
  cases alone <;> simp_all

/-- **A line that is neither blank nor obsolete is sound.** -/
theorem isSound_of_readWords {text : List Char} {words : List (List Char)} {line : Line}
    (lined : Text.IsLine text) (read : Line.readWords text words = .ok (some line)) :
    line.IsSound := by
  have behind (count : Nat) : Text.IsLine (text.drop count) :=
    lined.of_subset (List.drop_subset count text)
  -- one split for each kind of line, in the order in which the reader tells them apart
  unfold Line.readWords at read
  dsimp only at read
  split at read
  · exact isSound_of_readKeyword ((behind _).of_subset (Text.trimStart_subset _)) read
  split at read
  · exact eq_of_unlessAlone read ▸ fun place member => Text.of_mem_words member
  split at read
  · split at read
    · simp at read
    · simp only [Except.ok.injEq, Option.some.injEq] at read
      exact read ▸ isFolded_unescape (lined.of_subset (inner_subset text))
  split at read
  · simp only [Except.ok.injEq, Option.some.injEq] at read
    exact read ▸ isSound_readForm lined
  split at read
  · exact eq_of_unlessAlone read ▸ isSound_flags (behind 3)
  split at read
  · simp only [Except.ok.injEq, Option.some.injEq] at read
    exact read ▸ lined.of_subset (commentText_subset text)
  split at read
  · exact eq_of_unlessAlone read ▸ behind 3
  split at read
  · exact isSound_of_readFormer lined read
  · simp at read

/-- **A line is sound** if its text has no line boundaries. -/
theorem isSound_of_read {text : List Char} {cut : Line.Cut} {line : Line}
    (lined : Text.IsLine text) (read : Line.read text = some cut)
    (content : cut.content = .ok (some line)) : line.IsSound := by
  have trimmed : Text.IsLine (Text.trim text) := lined.of_subset (Text.trim_subset text)
  have inside : Text.IsLine (Text.trim ((Text.trim text).drop 3)) :=
    trimmed.of_subset (List.Subset.trans (Text.trim_subset _) (List.drop_subset 3 _))
  unfold Line.read at read
  dsimp only at read
  split at read
  · simp at read
  split at read
  · obtain rfl := Option.some.inj read
    simp at content
  split at read
  · obtain rfl := Option.some.inj read
    exact isSound_of_readWords inside content
  · obtain rfl := Option.some.inj read
    exact isSound_of_readWords trimmed content

/-! ## Entries -/

/-- **What holds of an entry** that is read from lines without line boundaries. -/
structure Entry.IsSound (entry : Entry) : Prop where
  /-- What translators remarked has its lines behind line feeds. -/
  comment : HasLines entry.comment
  /-- So has what developers remarked. -/
  extracted : HasLines entry.extracted
  /-- References have no blanks. -/
  references : ∀ reference ∈ entry.references, IsNormalReference reference
  /-- Flags are trimmed and have no commas. -/
  flags : ∀ flag ∈ entry.flags, IsFlag flag.toList
  /-- The line boundaries of the text have letters. -/
  id : IsFolded entry.id.toList
  /-- So have those of the plural. -/
  plural : IsFolded entry.plural.toList
  /-- So have those of the only translation. -/
  message : IsFolded entry.message.toList
  /-- The numbers of translations have one digit, and the line boundaries of the texts letters. -/
  forms : ∀ form ∈ entry.forms, form.1 < 10 ∧ IsFolded form.2.toList
  /-- No number occurs twice. -/
  numbers : (entry.forms.map Prod.fst).Nodup

namespace Entry

variable {entry : Entry}

/-- `Entry.empty` is sound: it has no texts at all. -/
theorem isSound_empty : Entry.empty.IsSound :=
  ⟨by decide, by decide, by simp [empty], by simp [empty], by simp [empty], by simp [empty],
    by simp [empty], by simp [empty], by simp [empty]⟩

end Entry

namespace Assembly

/-- A further line of a remark. -/
theorem hasLines_joinRemark {before : String} {line : List Char} (lines : HasLines before)
    (lined : Text.IsLine line) : HasLines (joinRemark before line) := by
  unfold joinRemark
  split
  · intro c member boundary
    rw [String.toList_ofList] at member
    simp [lined c member] at boundary
  · intro c member boundary
    rw [String.toList_append, String.toList_append, List.mem_append, List.mem_append]
      at member
    rcases member with (member | member) | member
    · exact lines c member boundary
    · simpa using member
    · rw [String.toList_ofList] at member
      simp [lined c member] at boundary

/-- The numbers of translations stay apart. -/
theorem nodup_setForm {forms : List (Nat × String)} (h : (forms.map Prod.fst).Nodup) (index : Nat)
    (text : String) : ((setForm forms index text).map Prod.fst).Nodup := by
  unfold setForm
  split
  -- setting a number that is there changes its text alone
  · have same : (forms.map fun form => if form.1 == index then (index, text) else form).map Prod.fst =
        forms.map Prod.fst := by
      rw [List.map_map]
      refine List.map_congr_left fun form _ => ?_
      by_cases equal : form.1 = index <;> simp [equal]
    exact same ▸ h
  · next new =>
    rw [List.map_append, List.nodup_append]
    refine ⟨h, by simp, ?_⟩
    simp only [List.mem_map, List.map_cons, List.map_nil, List.mem_singleton]
    rintro _ ⟨form, member, rfl⟩ _ rfl equal
    exact new (List.any_eq_true.2 ⟨form, member, by simpa using equal⟩)

/-- `form = (index, text) ∨ form ∈ forms`: a translation that is set. -/
theorem of_mem_setForm {forms : List (Nat × String)} {index : Nat} {text : String}
    {form : Nat × String} (member : form ∈ setForm forms index text) :
    form = (index, text) ∨ form ∈ forms := by
  unfold setForm at member
  split at member
  · obtain ⟨old, inside, rfl⟩ := List.mem_map.1 member
    split
    · exact .inl rfl
    · exact .inr inside
  · rcases List.mem_append.1 member with member | member
    · exact .inr member
    · exact .inl (List.mem_singleton.1 member)

/-- **A text under a keyword keeps an entry sound.** -/
theorem isSound_setKeyword {entry : Entry} (h : entry.IsSound) (keyword : Keyword) (obsolete : Bool)
    {text : String} (folded : IsFolded text.toList) :
    (setKeyword keyword obsolete text entry).IsSound := by
  cases keyword with
  | context => exact { h with }
  | id => exact { h with id := folded }
  | plural => exact { h with plural := folded }
  | message => exact { h with message := folded }

/-- A numbered translation keeps an entry sound. -/
theorem isSound_setForm {entry : Entry} (h : entry.IsSound) {index : Nat} (digit : index < 10)
    {text : String} (folded : IsFolded text.toList) :
    Entry.IsSound { entry with forms := setForm entry.forms index text } :=
  { h with
    forms := fun form member => (of_mem_setForm member).elim (fun equal => equal ▸ ⟨digit, folded⟩)
      (h.forms form)
    numbers := nodup_setForm h.numbers index text }

/-- **More of a text keeps an entry sound.** -/
theorem isSound_of_extend? {entry next : Entry} (h : entry.IsSound) {place : Place} {index : Nat}
    (digit : index < 10) {more : String} (folded : IsFolded more.toList)
    (extended : extend? place index more entry = some next) : next.IsSound := by
  unfold extend? at extended
  split at extended
  · obtain rfl := Option.some.inj extended
    exact { h with }
  · obtain rfl := Option.some.inj extended
    exact { h with id := by simpa using h.id.append folded }
  · obtain rfl := Option.some.inj extended
    exact { h with plural := by simpa using h.plural.append folded }
  · obtain rfl := Option.some.inj extended
    exact { h with message := by simpa using h.message.append folded }
  · obtain rfl := Option.some.inj extended
    -- what the number had so far is a text of the entry, or nothing
    have before : IsFolded ((entry.forms.lookup index).getD "").toList := by
      cases found : entry.forms.lookup index with
      | none => simp
      | some text =>
          obtain ⟨front, back, parts, -⟩ := List.lookup_eq_some_iff.1 found
          exact (h.forms (index, text) (by simp [parts])).2
    exact isSound_setForm h digit (by simpa using before.append folded)
  · obtain rfl := Option.some.inj extended
    exact h
  · simp at extended

/-- **An assembly of sound entries.** -/
structure IsSound (assembly : Assembly) : Prop where
  /-- The complete entries are sound. -/
  complete : ∀ entry ∈ assembly.complete, entry.IsSound
  /-- The entry under way is sound. -/
  entry : assembly.entry.IsSound
  /-- The last number has one digit. -/
  index : assembly.index < 10

/-- `Assembly.start` is sound: no entry has been read, and the one in work is empty. -/
theorem isSound_start : start.IsSound := ⟨by simp [start], Entry.isSound_empty, by decide⟩

variable {assembly : Assembly}

/-- Opening an entry keeps an assembly sound. -/
theorem IsSound.opened (h : assembly.IsSound) : assembly.opened.IsSound := by
  unfold Assembly.opened
  split
  · exact ⟨List.forall_mem_cons.2 ⟨h.entry, h.complete⟩, Entry.isSound_empty, h.index⟩
  · exact h

/-- A change of the entry keeps an assembly sound if it keeps the entry sound. -/
theorem IsSound.moved (h : assembly.IsSound) (place : Place) {change : Entry → Entry}
    (kept : assembly.entry.IsSound → (change assembly.entry).IsSound) :
    (assembly.moved place change).IsSound :=
  ⟨h.complete, kept h.entry, h.index⟩

/-- **Taking in a sound line keeps an assembly sound.** -/
theorem IsSound.add? (h : assembly.IsSound) {obsolete : Bool} {line : Line} (sound : line.IsSound)
    {next : Assembly} (added : assembly.add? obsolete line = some next) : next.IsSound := by
  -- each kind of line opens an entry or stays in it, and changes one part of it
  cases line with
  | keyword keyword text =>
      have folded : IsFolded (String.ofList text).toList := by rwa [String.toList_ofList]
      simp only [Assembly.add?] at added
      split at added
      · simp at added
      · obtain rfl := Option.some.inj added
        refine IsSound.moved ?_ _ fun entry => isSound_setKeyword entry _ _ folded
        cases keyword
        · exact h.opened
        · exact h.opened
        · exact h
        · exact h
  | form index? text =>
      have folded : IsFolded (String.ofList text).toList := by
        rw [String.toList_ofList]
        exact sound.2
      simp only [Assembly.add?] at added
      split at added
      · simp at added
      · next index =>
        split at added
        · obtain rfl := Option.some.inj added
          have digit := sound.1 index rfl
          exact ⟨h.complete, isSound_setForm h.entry digit folded, digit⟩
        · simp at added
  | continuation text =>
      have folded : IsFolded (String.ofList text).toList := by rwa [String.toList_ofList]
      obtain ⟨entry, extended, rfl⟩ := Option.map_eq_some_iff.1 added
      exact { h with entry := isSound_of_extend? h.entry h.index folded extended }
  | comment text =>
      simp only [Assembly.add?] at added
      split at added
      · obtain rfl := Option.some.inj added
        exact { h with }
      split at added
      · obtain rfl := Option.some.inj added
        exact h.opened.moved _ fun entry =>
          { entry with comment := hasLines_joinRemark entry.comment sound }
      · simp at added
  | extracted text =>
      obtain rfl := Option.some.inj added
      exact h.opened.moved _ fun entry =>
        { entry with extracted := hasLines_joinRemark entry.extracted sound }
  | references places =>
      obtain rfl := Option.some.inj added
      refine h.opened.moved _ fun entry => { entry with references := fun reference member => ?_ }
      rcases List.mem_append.1 member with member | member
      · exact entry.references reference member
      · obtain ⟨place, inside, rfl⟩ := List.mem_map.1 member
        obtain ⟨some, noBlank⟩ := sound place inside
        exact ⟨by simpa using some, by simpa using noBlank⟩
  | flags flags =>
      obtain rfl := Option.some.inj added
      refine h.opened.moved _ fun entry => { entry with flags := fun flag member => ?_ }
      rcases List.mem_append.1 member with member | member
      · exact entry.flags flag member
      · obtain ⟨text, inside, rfl⟩ := List.mem_map.1 member
        rw [String.toList_ofList]
        exact sound text inside
  | former keyword =>
      obtain rfl := Option.some.inj added
      exact h.opened.moved _ fun entry => entry

end Assembly

/-! ## All entries -/

/-- Lines keep an assembly sound. -/
theorem Assembly.IsSound.assembleFrom {assembly : Assembly} (h : assembly.IsSound)
    {lines : List (List Char)} (lined : ∀ line ∈ lines, Text.IsLine line) {isOpen : Bool} {number : Nat}
    {last : Assembly} {lastOpen : Bool}
    (read : assembleFrom assembly isOpen number lines = .ok (last, lastOpen)) : last.IsSound := by
  -- an empty line and one that says nothing leave the assembly as it is
  induction lines generalizing assembly isOpen number with
  | nil =>
      simp only [Catalog.assembleFrom, Except.ok.injEq, Prod.mk.injEq] at read
      exact read.1 ▸ h
  | cons text rest ih =>
      rw [List.forall_mem_cons] at lined
      unfold Catalog.assembleFrom at read
      split at read
      · exact ih h lined.2 read
      · next cut found =>
        split at read
        · simp at read
        · exact ih h lined.2 read
        · next line content =>
          split at read
          · simp at read
          · next next added =>
            exact ih (h.add? (isSound_of_read lined.1 found content) added) lined.2 read

/-- Without the mark at their start lines have no line boundaries. -/
theorem isLine_of_mem_dropMark {lines : List (List Char)} (lined : ∀ line ∈ lines, Text.IsLine line) :
    ∀ line ∈ dropMark lines, Text.IsLine line := by
  unfold dropMark
  split
  · next line rest =>
    rw [List.forall_mem_cons, Text.isLine_cons] at lined
    exact List.forall_mem_cons.2 ⟨lined.1.2, lined.2⟩
  · exact lined

/-- `withoutHeader entries ⊆ entries`: without the header there are no other entries. -/
theorem withoutHeader_subset (entries : List Entry) : withoutHeader entries ⊆ entries := by
  unfold withoutHeader
  split
  · exact List.Subset.refl entries
  · exact List.eraseP_subset

/-- **The entries that are read are sound,** given that the lines have no line boundaries. -/
theorem isSound_of_readEntries {lines : List (List Char)} (lined : ∀ line ∈ lines, Text.IsLine line)
    {entries : List Entry} (read : readEntries lines = .ok entries) :
    ∀ entry ∈ entries, entry.IsSound := by
  unfold readEntries at read
  split at read
  · simp at read
  · next last isOpen assembled =>
    have sound := Assembly.isSound_start.assembleFrom (isLine_of_mem_dropMark lined) assembled
    obtain rfl := Except.ok.inj read
    intro entry member
    have among := List.mem_reverse.1 (withoutHeader_subset _ member)
    -- the entry under way counts only if the file ended inside it
    cases isOpen with
    | true => exact (List.forall_mem_cons.2 ⟨sound.entry, sound.complete⟩) entry among
    | false => exact sound.complete entry among

end StringCatalog.Catalog
