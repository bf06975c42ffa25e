import Mathlib.Data.List.Nodup
import StringCatalog.Proofs.Xml.Proper

/-! # Start tags are read back

* **`Xml.Head.tag`** — the start tag that is written for the start of an element.
* **`Xml.Head.read?_write`** — it is what is read.
* **`Xml.Head.again`** — the start of an element as it comes back.
* **`Xml.Head.head?_tag`** — how it comes back: unless two attributes are written alike. -/

namespace StringCatalog.Xml

/-! ## Entries of a tag -/

/-- The characters among some pieces. -/
def plainText (pieces : List Piece) : List Char :=
  pieces.filterMap fun
    | .char c => some c
    | .reference _ => none

/-- `plainText (text.map .char) = text`. -/
@[simp] theorem plainText_map (text : List Char) : plainText (text.map .char) = text := by
  induction text with
  | nil => rfl
  | cons c text ih => simp [plainText]

/-- The key under which a binding is written. -/
def Binding.key (binding : Binding) : List Char :=
  match binding.lead with
  | none => "xmlns".toList
  | some lead => "xmlns:".toList ++ lead

/-- A key with a text in quotes behind it. -/
def writeQuoted (key raw : List Char) : List Char :=
  ' ' :: key ++ "=\"".toList ++ raw ++ ['"']

/-- A key with a value as they are written in a tag. -/
def writeEntry (entry : List Char × List Char) : List Char :=
  writeQuoted entry.1 (escapeValue entry.2)

/-- The keys and values of a tag. -/
def Head.entries (head : Head) : List (List Char × List Char) :=
  (head.bindings.map fun binding => (binding.key, binding.uri)) ++
    head.attributes.map fun entry => (entry.name.text, plainText entry.value)

/-- **The start tag that is written for the start of an element.** -/
def Head.tag (head : Head) : Tag :=
  ⟨Name.ofText head.name.text,
    head.entries.map fun entry => ⟨Name.ofText entry.1, entry.2.map .char⟩⟩

/-- `binding.write = writeEntry (binding.key, binding.uri)`. -/
theorem Binding.write_eq (binding : Binding) :
    binding.write = writeEntry (binding.key, binding.uri) := by
  unfold Binding.write Binding.key writeEntry writeQuoted
  cases binding.lead <;> rfl

/-- `entry.write = writeEntry (entry.name.text, plainText entry.value)`: a proper attribute is
written as its name and its text. -/
theorem Attribute.IsProper.write_eq {entry : Attribute} (h : entry.IsProper) :
    entry.write = writeEntry (entry.name.text, plainText entry.value) := by
  obtain ⟨text, -, equal⟩ := h.value
  simp only [Attribute.write, writeEntry, writeQuoted, equal, plainText_map, List.flatMap_map,
    Piece.writeValue, escapeValue]

section

variable {head : Head} (h : head.IsProper)
include h

/-- `head.write = head.name.text ++ head.entries.flatMap writeEntry`: a tag is a name with keys and
values behind it. -/
theorem Head.IsProper.write_eq :
    head.write = head.name.text ++ head.entries.flatMap writeEntry := by
  have bindings : head.bindings.flatMap Binding.write =
      head.bindings.flatMap fun binding => writeEntry (binding.key, binding.uri) :=
    List.flatMap_congr fun binding _ => binding.write_eq
  have attributes : head.attributes.flatMap Attribute.write =
      head.attributes.flatMap fun entry => writeEntry (entry.name.text, plainText entry.value) :=
    List.flatMap_congr fun entry member => (h.attributes entry member).write_eq
  rw [Head.write, bindings, attributes, Head.entries, List.flatMap_append, List.flatMap_map,
    List.flatMap_map, List.append_assoc]

/-- The keys are names, and the values are legal. -/
theorem Head.IsProper.entries {entry : List Char × List Char} (member : entry ∈ head.entries) :
    isName entry.1 ∧ entry.2.all isChar := by
  rcases List.mem_append.1 member with member | member
  · obtain ⟨binding, there, rfl⟩ := List.mem_map.1 member
    have proper := h.bindings binding there
    refine ⟨?_, proper.legal⟩
    show isName binding.key
    unfold Binding.key
    split
    · decide
    · next lead found =>
      have plain := (proper.lead lead found).1.plain
      exact isName_append (by decide) fun c => isNameChar_of_mem (isPlainName_iff.1 plain).1
  · obtain ⟨other, there, rfl⟩ := List.mem_map.1 member
    have proper := h.attributes other there
    obtain ⟨text, legal, equal⟩ := proper.value
    exact ⟨proper.name.isName, by rw [equal, plainText_map]; exact legal⟩

end

/-! ## What a tag is made of -/

/-- **A text that can stand inside a tag.** -/
structure IsTagText (text : List Char) : Prop where
  /-- The characters are legal. -/
  legal : ∀ c ∈ text, isChar c
  /-- No character opens or closes a tag, or ends a line. -/
  inside : ∀ c ∈ text, c ≠ '<' ∧ c ≠ '>' ∧ c ≠ '\n' ∧ c ≠ '\r'
  /-- Quotes that are opened are closed. -/
  shut : text.foldl Frame.quoteAfter none = none

/-- Nothing at all can stand in a tag. -/
theorem isTagText_nil : IsTagText [] := ⟨by simp, by simp, rfl⟩

/-- What can stand in a tag can stand there one behind the other. -/
theorem IsTagText.append {text more : List Char} (first : IsTagText text)
    (second : IsTagText more) : IsTagText (text ++ more) where
  legal c member := (List.mem_append.1 member).elim (first.legal c) (second.legal c)
  inside c member := (List.mem_append.1 member).elim (first.inside c) (second.inside c)
  shut := by rw [List.foldl_append, first.shut, second.shut]

/-- So can several texts. -/
theorem IsTagText.flatMap {α : Type} {values : List α} {write : α → List Char}
    (h : ∀ value ∈ values, IsTagText (write value)) : IsTagText (values.flatMap write) := by
  induction values with
  | nil => exact isTagText_nil
  | cons value values ih =>
      rw [List.flatMap_cons]
      exact (h value List.mem_cons_self).append
        (ih fun other member => h other (List.mem_cons_of_mem value member))

/-- `text.foldl Frame.quoteAfter none = none`: outside of quotes other characters open none. -/
theorem foldl_quoteAfter_none {text : List Char} (h : ∀ c ∈ text, c ≠ '"' ∧ c ≠ '\'') :
    text.foldl Frame.quoteAfter none = none := by
  induction text with
  | nil => rfl
  | cons c text ih =>
      rw [List.foldl_cons, Frame.quoteAfter, if_neg (by simpa using h c List.mem_cons_self)]
      exact ih fun d member => h d (List.mem_cons_of_mem c member)

/-- `text.foldl Frame.quoteAfter (some quote) = some quote`: inside quotes other characters do not
close them. -/
theorem foldl_quoteAfter_some {quote : Char} {text : List Char} (h : quote ∉ text) :
    text.foldl Frame.quoteAfter (some quote) = some quote := by
  induction text with
  | nil => rfl
  | cons c text ih =>
      simp only [List.mem_cons, not_or] at h
      rw [List.foldl_cons, Frame.quoteAfter, if_neg (by simpa using Ne.symm h.1), ih h.2]

/-- A name can stand in a tag. -/
theorem isTagText_name {text : List Char} (h : isName text) : IsTagText text where
  legal c member := isChar_of_isNameChar (isNameChar_of_mem h member)
  inside c member := by
    have name := isNameChar_of_mem h member
    exact ⟨ne_of_isNameChar name (by decide), ne_of_isNameChar name (by decide),
      ne_of_isNameChar name (by decide), ne_of_isNameChar name (by decide)⟩
  shut := foldl_quoteAfter_none fun c member => by
    have name := isNameChar_of_mem h member
    exact ⟨ne_of_isNameChar name (by decide), ne_of_isNameChar name (by decide)⟩

/-- **A text that can stand in quotes** inside a tag:
`∀ c ∈ raw, isChar c ∧ c ≠ '<' ∧ c ≠ '>' ∧ c ≠ '"' ∧ c ≠ '\n' ∧ c ≠ '\r'`. -/
def IsQuotable (raw : List Char) : Prop :=
  ∀ c ∈ raw, isChar c ∧ c ≠ '<' ∧ c ≠ '>' ∧ c ≠ '"' ∧ c ≠ '\n' ∧ c ≠ '\r'

/-- What is written for a legal value can stand in quotes. -/
theorem isQuotable_escapeValue {value : List Char} (h : value.all isChar) :
    IsQuotable (escapeValue value) := by
  intro c member
  obtain ⟨h1, h2, h3, h4, h5, legal⟩ := of_mem_escapeValue member
  exact ⟨legal.elim (List.all_eq_true.1 h c) id, h1, h2, h3, h4, h5⟩

/-- A text in quotes can stand inside a tag. -/
theorem IsQuotable.isTagText {raw : List Char} (h : IsQuotable raw) :
    IsTagText ('"' :: raw ++ ['"']) where
  legal c member := by
    simp only [List.cons_append, List.mem_cons, List.mem_append, List.not_mem_nil, or_false]
      at member
    rcases member with rfl | member | rfl
    · decide
    · exact (h c member).1
    · decide
  inside c member := by
    simp only [List.cons_append, List.mem_cons, List.mem_append, List.not_mem_nil, or_false]
      at member
    rcases member with rfl | member | rfl
    · decide
    · obtain ⟨-, h1, h2, -, h3, h4⟩ := h c member
      exact ⟨h1, h2, h3, h4⟩
    · decide
  shut := by
    have inside : ('"' :: raw).foldl Frame.quoteAfter none = some '"' :=
      foldl_quoteAfter_some fun member => (h '"' member).2.2.2.1 rfl
    rw [List.foldl_append, inside]
    rfl

/-- An attribute can stand in a tag. -/
theorem isTagText_writeQuoted {key raw : List Char} (name : isName key) (h : IsQuotable raw) :
    IsTagText (writeQuoted key raw) := by
  have blank : IsTagText [' '] := ⟨by decide, by decide, by decide⟩
  have equals : IsTagText ['='] := ⟨by decide, by decide, by decide⟩
  have all := ((blank.append (isTagText_name name)).append equals).append h.isTagText
  simpa [writeQuoted] using all

/-- **A tag is made of texts that can stand in one.** -/
theorem Head.IsProper.isTagText {head : Head} (h : head.IsProper) : IsTagText head.write := by
  rw [h.write_eq]
  refine (isTagText_name h.name.isName).append (.flatMap fun entry member => ?_)
  exact isTagText_writeQuoted (h.entries member).1 (isQuotable_escapeValue (h.entries member).2)

/-! ## Reading a tag -/

/-- `readAttributes? [] = some []`. -/
theorem readAttributes?_nil : readAttributes? [] = some [] := by rw [readAttributes?]

/-- `readAttributes?` reads one attribute behind a blank, and then the others. -/
theorem readAttributes?_cons {c d : Char} {rest more value raw after : List Char}
    {pieces : List Piece} (blank : isBlank c) (there : skipBlanks rest = d :: more)
    (start : isNameStart d)
    (equals : skipEquals? ((d :: more).dropWhile isNameChar) = some value)
    (quoted : readQuoted? value = some (raw, after)) (inside : '<' ∉ raw)
    (read : readPieces? plainValueChar raw = some pieces) :
    readAttributes? (c :: rest) = (readAttributes? after).map
      (⟨Name.ofText ((d :: more).takeWhile isNameChar), pieces⟩ :: ·) := by
  -- the matches of the reader one after another, each with what it is known to find
  rw [readAttributes?, if_neg (by simp [blank])]
  split
  · next missing => simp [there] at missing
  · next found =>
    obtain ⟨rfl, rfl⟩ : _ = d ∧ _ = more := by simpa [found] using there
    rw [if_neg (by simp [start])]
    split
    · next missing => simp [equals] at missing
    · next found =>
      obtain rfl : _ = value := by simpa [found] using equals
      split
      · next missing => simp [quoted] at missing
      · next found =>
        obtain ⟨rfl, rfl⟩ : _ = raw ∧ _ = after := by simpa [found] using quoted
        rw [if_neg (by simpa using inside)]
        simp only [read]

/-- An attribute is read, and then the others. -/
theorem readAttributes?_writeQuoted {key raw : List Char} (name : isName key)
    (shut : '"' ∉ raw) (inside : '<' ∉ raw) {pieces : List Piece}
    (read : readPieces? plainValueChar raw = some pieces) (rest : List Char) :
    readAttributes? (writeQuoted key raw ++ rest) =
      (readAttributes? rest).map (⟨Name.ofText key, pieces⟩ :: ·) := by
  obtain ⟨d, more, rfl, start, -⟩ := isName_iff.1 name
  have notBlank : isBlank d = false := by
    have other := fun e => @ne_of_isNameChar d e (isNameChar_of_isNameStart start)
    simp [isBlank, other ' ' (by decide), other '\t' (by decide), other '\n' (by decide),
      other '\r' (by decide)]
  have ends : EndsName ('=' :: '"' :: (raw ++ '"' :: rest)) := endsName_cons (by decide) _
  have taken := takeWhile_name name ends
  have dropped := dropWhile_name name ends
  rw [List.cons_append] at taken dropped
  have equals : skipEquals? ('=' :: '"' :: (raw ++ '"' :: rest)) =
      some ('"' :: (raw ++ '"' :: rest)) := rfl
  have quoted : readQuoted? ('"' :: (raw ++ '"' :: rest)) = some (raw, rest) :=
    Text.cutAt?_append shut rest
  -- a name does not begin with a blank, so the one before it is all that is passed
  have there : skipBlanks (d :: (more ++ '=' :: '"' :: (raw ++ '"' :: rest))) =
      d :: (more ++ '=' :: '"' :: (raw ++ '"' :: rest)) :=
    List.dropWhile_cons_of_neg (by simp [notBlank])
  have all := readAttributes?_cons (show isBlank ' ' from rfl) there start
    (by rw [dropped]; exact equals) quoted inside read
  rw [taken] at all
  simpa [writeQuoted] using all

/-- Attributes are read one after another. -/
theorem readAttributes?_entries {entries : List (List Char × List Char)}
    (names : ∀ entry ∈ entries, isName entry.1) :
    readAttributes? (entries.flatMap writeEntry) =
      some (entries.map fun entry => ⟨Name.ofText entry.1, entry.2.map .char⟩) := by
  induction entries with
  | nil => exact readAttributes?_nil
  | cons entry entries ih =>
      have first := readAttributes?_writeQuoted (names entry List.mem_cons_self)
        (fun member => (of_mem_escapeValue member).2.2.1 rfl)
        (fun member => (of_mem_escapeValue member).1 rfl) (readPieces?_escapeValue entry.2)
        (entries.flatMap writeEntry)
      rw [List.flatMap_cons, writeEntry, first,
        ih fun other member => names other (List.mem_cons_of_mem entry member)]
      rfl

/-- What comes behind the name of a tag ends it. -/
theorem endsName_entries (entries : List (List Char × List Char)) :
    EndsName (entries.flatMap writeEntry) := by
  cases entries with
  | nil => exact endsName_nil
  | cons entry entries =>
      rw [List.flatMap_cons, writeEntry, writeQuoted]
      exact endsName_cons (by decide) _

/-- **The start tag that is written is read:** `Tag.read? head.write = some head.tag`. -/
theorem Head.IsProper.read?_write {head : Head} (h : head.IsProper) :
    Tag.read? head.write = some head.tag := by
  rw [Tag.read?, h.write_eq, Name.read?_name h.name.isName (endsName_entries _)]
  simp only [readAttributes?_entries fun entry member => (h.entries member).1]
  rfl

/-- A tag begins with the name of its element. -/
theorem Head.IsProper.head?_write {head : Head} (h : head.IsProper) (rest : List Char) :
    ∃ c ∈ (head.write ++ rest).head?, isNameStart c := by
  obtain ⟨c, more, same, start, -⟩ := isName_iff.1 h.name.isName
  exact ⟨c, by simp [h.write_eq, same], start⟩

/-- `head.write.getLast? ≠ some '/'`: a tag does not end with the slash that closes an element at
once. -/
theorem Head.IsProper.getLast?_write {head : Head} (h : head.IsProper) :
    head.write.getLast? ≠ some '/' := by
  rw [h.write_eq]
  -- a tag ends with the last character of the name or with the quote behind the last value
  rcases List.eq_nil_or_concat' head.entries with empty | ⟨entries, entry, equal⟩
  · intro last
    rw [empty, List.flatMap_nil, List.append_nil] at last
    exact ne_of_isNameChar (isNameChar_of_mem h.name.isName (List.mem_of_getLast? last)) (by decide)
      rfl
  · rw [equal, List.flatMap_append, List.flatMap_singleton, writeEntry, writeQuoted,
      ← List.append_assoc, ← List.append_assoc, List.getLast?_concat]
    decide

/-! ## What a tag says -/

/-- **A context in which nothing has been declared:**
`context.doctype = { Doctype.none with remark := context.doctype.remark }`. -/
def Context.IsBare (context : Context) : Prop :=
  context.doctype = { Doctype.none with remark := context.doctype.remark }

/-- `context.checkValue? (depth + 1) (text.map .char) = some []`: characters need no declaration. -/
theorem Context.checkValue?_map (context : Context) (depth : Nat) (text : List Char) :
    context.checkValue? (depth + 1) (text.map .char) = some [] := by
  rw [Context.checkValue?]
  induction text with
  | nil => rfl
  | cons c text ih => exact ih

/-- `doctype.valueText (text.map .char) = text`: characters stand for themselves. -/
theorem Doctype.valueText_map (doctype : Doctype) (text : List Char) :
    doctype.valueText (text.map .char) = text := by
  rw [Doctype.valueText, Doctype.expand, List.flatMap_map]
  exact List.flatMap_singleton' text

/-- `(Binding.declare binding.lead binding.uri).1 = some binding`: a proper binding is bound when
it is declared. -/
theorem Binding.IsProper.declare {binding : Binding} (h : binding.IsProper) :
    (Binding.declare binding.lead binding.uri).1 = some binding := by
  obtain ⟨lead, uri⟩ := binding
  have notXml := h.notXml
  have notDeclaration := h.notDeclaration
  unfold Binding.declare
  cases lead with
  | none => by_cases empty : uri = [] <;> simp_all
  | some lead =>
      obtain ⟨bindable, nonempty⟩ := h.lead lead rfl
      have other := bindable.notXml
      have another := bindable.notDeclaration
      simp_all

/-- `(Name.ofText binding.key).declaredLead? = some binding.lead`: the key of a proper binding
declares its prefix. -/
theorem Binding.IsProper.declaredLead? {binding : Binding} (h : binding.IsProper) :
    (Name.ofText binding.key).declaredLead? = some binding.lead := by
  unfold Binding.key
  split
  · next found => rw [found]; decide
  · next lead found =>
    have parts : Name.ofText ("xmlns".toList ++ ':' :: lead) = ⟨some "xmlns".toList, lead⟩ :=
      Name.ofText_parts (by decide) (h.lead lead found).1.plain
    rw [found, show "xmlns:".toList ++ lead = "xmlns".toList ++ ':' :: lead from rfl, parts]
    simp [Name.declaredLead?]

/-- The attribute that a binding is written as. -/
def Binding.entry (binding : Binding) : Tag.Attribute :=
  ⟨Name.ofText binding.key, binding.uri.map .char⟩

/-- An attribute as it is read at first. -/
def Attribute.entry (entry : Attribute) : Tag.Attribute :=
  ⟨Name.ofText entry.name.text, entry.value⟩

/-- The attributes of a tag are the bindings and the attributes of the element. -/
theorem Head.IsProper.tag_attributes {head : Head} (h : head.IsProper) :
    head.tag.attributes = head.bindings.map Binding.entry ++ head.attributes.map Attribute.entry := by
  simp only [Head.tag, Head.entries, List.map_append, List.map_map]
  congr 1
  refine List.map_congr_left fun entry member => ?_
  obtain ⟨text, -, equal⟩ := (h.attributes entry member).value
  simp [Attribute.entry, equal]

section

variable {context : Context} (bare : context.IsBare) (element : List Char)
include bare

/-- `context.doctype.trims element name = false`: where no document type was declared no value is
trimmed. -/
theorem Context.IsBare.trims (name : List Char) : context.doctype.trims element name = false := by
  rw [bare]
  rfl

/-- A binding with a new prefix is declared. -/
theorem Sorted.add?_binding {binding : Binding} (proper : binding.IsProper) {sorted : Sorted}
    (new : binding.lead ∉ sorted.bindings.map Binding.lead) :
    ∃ remarks, sorted.add? context element binding.entry =
      some { sorted with bindings := sorted.bindings ++ [binding], remarks } := by
  have fresh : sorted.bindings.any (·.lead == binding.lead) = false := by
    simpa using new
  simp only [Sorted.add?, Binding.entry, bare.trims, Bool.false_eq_true, if_false,
    Context.checkValue?_map, proper.declaredLead?, Doctype.valueText_map]
  rw [proper.declare]
  simp [fresh]

/-- Bindings whose prefixes are new are declared. -/
theorem Sorted.all?_bindings {bindings : List Binding} (proper : ∀ b ∈ bindings, b.IsProper)
    {sorted : Sorted} (nodup : ((sorted.bindings ++ bindings).map Binding.lead).Nodup)
    (rest : List Tag.Attribute) :
    ∃ remarks, Sorted.all? context element sorted (bindings.map Binding.entry ++ rest) =
      Sorted.all? context element
        { sorted with bindings := sorted.bindings ++ bindings, remarks } rest := by
  induction bindings generalizing sorted with
  | nil => exact ⟨sorted.remarks, by simp⟩
  | cons binding bindings ih =>
      -- the prefix is none of those before it, which are bound by now
      have new : binding.lead ∉ sorted.bindings.map Binding.lead := by
        rw [List.map_append, List.map_cons, List.nodup_append] at nodup
        exact fun member => nodup.2.2 _ member _ List.mem_cons_self rfl
      obtain ⟨first, one⟩ := Sorted.add?_binding bare element (proper binding List.mem_cons_self) new
      obtain ⟨others, all⟩ := @ih (fun b member => proper b (List.mem_cons_of_mem binding member))
        { sorted with bindings := sorted.bindings ++ [binding], remarks := first }
        (by simpa using nodup)
      refine ⟨others, ?_⟩
      rw [List.map_cons, List.cons_append, Sorted.all?, one]
      simpa using all

/-- Attributes that declare no binding are kept. -/
theorem Sorted.all?_attributes {attributes : List Attribute}
    (proper : ∀ entry ∈ attributes, entry.IsProper) {sorted : Sorted} :
    ∃ remarks, Sorted.all? context element sorted (attributes.map Attribute.entry) =
      some { sorted with plain := sorted.plain ++ attributes.map Attribute.entry, remarks } := by
  induction attributes generalizing sorted with
  | nil => exact ⟨sorted.remarks, by simp [Sorted.all?]⟩
  | cons entry attributes ih =>
      have known := proper entry List.mem_cons_self
      obtain ⟨text, -, equal⟩ := known.value
      have one : ∃ remarks, sorted.add? context element entry.entry =
          some { sorted with plain := sorted.plain ++ [entry.entry], remarks } := by
        simp only [Sorted.add?, Attribute.entry, bare.trims, Bool.false_eq_true, if_false, equal,
          Context.checkValue?_map, known.undeclared]
        exact ⟨_, rfl⟩
      obtain ⟨first, one⟩ := one
      obtain ⟨others, all⟩ := @ih (fun other member => proper other (List.mem_cons_of_mem entry member))
        { sorted with plain := sorted.plain ++ [entry.entry], remarks := first }
      refine ⟨others, ?_⟩
      rw [List.map_cons, Sorted.all?, one]
      simpa using all

end

/-! ## The start of an element as it comes back -/

/-- An attribute as it comes back. -/
def Attribute.again (scope : List Binding) (entry : Attribute) : Attribute :=
  let name := Name.ofText entry.name.text
  ⟨name, (attributeSpace scope name).1, entry.value⟩

/-- **The start of an element as it comes back,** given the bindings in scope around it. -/
def Head.again (scope : List Binding) (line : Nat) (head : Head) : Head :=
  let name := Name.ofText head.name.text
  let inner := head.bindings ++ scope
  ⟨name, (elementSpace inner name).1, head.bindings, head.attributes.map (Attribute.again inner),
    line⟩

/-- `(clashes? entries).isSome ↔ (entries.map Attribute.name).Nodup`: attributes clash in a way
that is not well formed if two are spelled alike. -/
theorem isSome_clashes? (entries : List Attribute) :
    (clashes? entries).isSome ↔ (entries.map Attribute.name).Nodup := by
  induction entries with
  | nil => simp [clashes?]
  | cons entry entries ih =>
      rw [clashes?, List.map_cons, List.nodup_cons, ← ih]
      -- the first name comes again, or only the others count
      split
      · next same =>
        obtain ⟨other, member, equal⟩ := List.any_eq_true.1 same
        simp only [beq_iff_eq] at equal
        simpa [← equal] using fun absent => absurd rfl (absent other member)
      · next apart =>
        simp only [Bool.not_eq_true, List.any_eq_false, beq_iff_eq] at apart
        simpa [Option.isSome_map] using fun _ => apart

/-- **How the start of an element comes back:** not at all if two attributes are written alike. -/
theorem Head.IsProper.head?_tag {context : Context} (bare : context.IsBare) {head : Head}
    (h : head.IsProper) (scope : List Binding) (line : Nat) :
    (head.IsSpelledApart ∧
      ∃ remarks, head.tag.head? context scope line = some (head.again scope line, remarks)) ∨
    (¬head.IsSpelledApart ∧ head.tag.head? context scope line = none) := by
  -- names that are written differently are read as different names
  have apart : (clashes? (head.again scope line).attributes).isSome ↔ head.IsSpelledApart := by
    have names : (head.again scope line).attributes.map Attribute.name =
        (head.attributes.map fun entry => entry.name.text).map Name.ofText := by
      simp [Head.again, Attribute.again]
    rw [isSome_clashes?, names, List.nodup_map_iff Name.ofText_injective, Head.IsSpelledApart]
  have nodup : (([] ++ head.bindings).map Binding.lead).Nodup := h.nodup
  obtain ⟨first, bindings⟩ := @Sorted.all?_bindings _ bare head.tag.name.text _ h.bindings
    ⟨[], [], []⟩ nodup (head.attributes.map Attribute.entry)
  obtain ⟨second, attributes⟩ := @Sorted.all?_attributes _ bare head.tag.name.text _ h.attributes
    ⟨[] ++ head.bindings, [], first⟩
  have undeclared : context.doctype.bindingsOf head.tag.name.text = [] := by
    rw [bare]
    rfl
  rw [Tag.head?, h.tag_attributes, bindings, attributes]
  simp only [undeclared, List.foldl_nil, List.nil_append, List.map_map]
  cases clash : clashes? (head.again scope line).attributes with
  | none => exact .inr ⟨by simp [← apart, clash], by erw [clash]⟩
  | some clash =>
      refine .inl ⟨by simp [← apart, clash], ?_⟩
      erw [clash]
      exact ⟨_, rfl⟩

end StringCatalog.Xml
