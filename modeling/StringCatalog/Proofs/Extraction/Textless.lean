import StringCatalog.Proofs.Catalog.Assembly
import StringCatalog.Proofs.Extraction.Gathered
import StringCatalog.Proofs.Resource.Respell
import StringCatalog.Proofs.Resource.Source

/-! # Strings without a text

The entry of a catalog that has no text is its header, so a string without a text would be taken for
one:

* **`Catalog.idsOf?_stanzas`** — a written catalog has the texts of its strings, also where one is empty.
* **`Resource.textIn_eq_empty_iff`** — an element has no text if nothing is in it.
* **`Reader.singular_eq_empty_iff`** — a reader has a string without a text just where one of its
  documents has an element with nothing in it. -/

namespace StringCatalog

/-! ## The texts of a catalog -/

namespace Catalog

/-- **The untranslated texts that some lines have,** that of a header among them. -/
def idsOf? (lines : List (List Char)) : Option (List String) :=
  match assembleFrom .start false 1 lines with
  | .error _ => none
  | .ok (last, isOpen) =>
      let entries := if isOpen then last.entry :: last.complete else last.complete
      some (entries.reverse.map Entry.id)

/-- **The lines of a written catalog have the texts of its strings,** whether or not one is empty. -/
theorem idsOf?_stanzas {strings : List Translatable}
    (closed : ∀ string ∈ strings, none ∉ writtenForms string) :
    idsOf? ((strings.flatMap stanza).map String.toList) = some (strings.map Translatable.singular) := by
  have start : Assembly.start.Awaits [] .empty := ⟨rfl, rfl, rfl⟩
  obtain ⟨last, read, awaits⟩ := assembleFrom_stanzas closed start false rfl 1
  have texts (isFirst : Bool) : (headedAll isFirst strings).map (Entry.id ∘ heardEntry) =
      strings.map Translatable.singular := by
    cases strings with
    | nil => rfl
    | cons first rest =>
        have kept : (headed isFirst first).singular = first.singular := by
          unfold headed
          split <;> rfl
        exact congrArg (· :: rest.map Translatable.singular) kept
  rw [idsOf?, read]
  simp only [← Assembly.complete_opened, awaits.complete, List.append_nil, List.reverse_reverse,
    List.map_map, texts]

/-- `none ∉ writtenForms string`: closed strings have closed forms to be written. -/
theorem notMem_writtenForms {string : Translatable} (closed : string.IsClosed) :
    none ∉ writtenForms string := by
  unfold Translatable.IsClosed at closed
  unfold writtenForms
  split
  · next form forms known => simpa [known] using closed
  · simp

end Catalog

/-! ## Elements without a text -/

namespace Resource

/-- `unescapeChars text = [] ↔ text = []`: a text is empty where it is read as an empty one. -/
theorem unescapeChars_eq_nil_iff {text : List Char} : unescapeChars text = [] ↔ text = [] := by
  fun_cases unescapeChars text <;> simp

/-- `writeChild scope node = [] ↔ node = .text []`: a node is written as nothing if it is an empty
text. -/
theorem writeChild_eq_nil_iff {scope : List Xml.Binding} {node : Xml.Node} :
    writeChild scope node = [] ↔ node = .text [] := by
  rw [writeChild, Xml.Node.writeAlone_eq]
  cases node with
  | text content =>
      have written : content = [] ↔ Xml.escapeText content = [] :=
        ⟨fun none => by rw [none]; rfl, fun none => by_contra fun some => Xml.escapeText_ne_nil some none⟩
      simp [Xml.Node.alone, Xml.Node.write, ← written]
  | element head children =>
      obtain ⟨c, rest, begins, -⟩ :=
        exists_write_eq_cons (Xml.Node.isText_alone scope (.element head children))
      simp [begins]
  | comment content => simp [Xml.Node.alone, Xml.Node.write, Xml.writeComment]
  | instruction target data => simp [Xml.Node.alone, Xml.Node.write, Xml.writeInstruction]
  | reference name => simp [Xml.Node.alone, Xml.Node.write, Xml.referenceText]

/-- Some content stands for an empty text if nothing but empty texts are in it. -/
theorem innerText_eq_nil_iff {scope : List Xml.Binding} {nodes : List Xml.Node} :
    innerText scope nodes = [] ↔ ∀ node ∈ nodes, node = .text [] := by
  have children (nodes : List Xml.Node) :
      nodes.flatMap (writeChild scope) = [] ↔ ∀ node ∈ nodes, node = .text [] := by
    simp only [List.flatMap_eq_nil_iff, writeChild_eq_nil_iff]
  have leading (content : List Char) : content.flatMap escapeLeadingChar = [] ↔ content = [] := by
    cases content with
    | nil => simp
    | cons c content =>
        have one : escapeLeadingChar c ≠ [] := by
          unfold escapeLeadingChar
          split <;> simp
        simp [one]
  unfold innerText
  split
  · simp
  · simp
  · simp [leading, children]
  · exact children _

/-- **An element has no text if nothing is in it** but perhaps empty texts. -/
theorem textIn_eq_empty_iff {document : Xml.Document} {element : Xml.Head × List Xml.Node} :
    textIn document element = "" ↔ ∀ node ∈ element.2, node = .text [] := by
  rw [textIn, String.ofList_eq_empty_iff, unescapeChars_eq_nil_iff, innerText_eq_nil_iff]

end Resource

/-! ## Strings without a text -/

namespace Reader

variable {reader : Reader} {formats : List Format} {tree : FileTree}

/-- **A file that is read as a resource document** in which a string's element has nothing in it. -/
def HasTextless (formats : List Format) (tree : FileTree) (path : Path) : Prop :=
  Format.ofPath? formats path = some .resources ∧ ∃ bytes document,
    tree.read path.toString = .ok bytes ∧ Xml.Document.ofBytes? bytes = some document ∧
      ∃ element ∈ Resource.stringElements document, ∀ node ∈ element.2, node = .text []

/-- A file whose strings are read is there, and its bytes are those of its format. -/
theorem exists_bytes_of_read {format : Format} {keywords : List Program.Keyword} {path : Path}
    {part : List Translatable} (read : (format.read keywords tree path).all? = .ok part) :
    ∃ bytes, tree.read path.toString = .ok bytes ∧
      (format.readBytes keywords tree path bytes).all? = .ok part := by
  have noted : (Reading.ofNote (format.note path)).all? = .ok [] := rfl
  rw [Format.read, Reading.all?_append noted] at read
  cases found : tree.read path.toString with
  | error fault =>
      rw [found] at read
      cases read
  | ok bytes =>
      rw [found] at read
      obtain ⟨strings, all, rfl⟩ := exists_of_map_eq_ok read
      exact ⟨bytes, rfl, all⟩

/-- The strings of a document have one without a text just where an element has nothing in it. -/
theorem exists_textless_iff {path : Path} {bytes : List UInt8} {part : List Translatable}
    (read : (Resource.readBytes path bytes).all? = .ok part) :
    (∃ found ∈ part, found.singular = "") ↔ ∃ document, Xml.Document.ofBytes? bytes = some document ∧
      ∃ element ∈ Resource.stringElements document, ∀ node ∈ element.2, node = .text [] := by
  obtain ⟨document, made, root⟩ := Resource.exists_document read
  obtain ⟨strings, all, known⟩ := Resource.forall₂_stringElements path made root
  cases all.symm.trans read
  constructor
  · rintro ⟨found, member, none⟩
    obtain ⟨element, inside, same⟩ := exists_of_forall₂ known member
    exact ⟨document, made, element, inside, Resource.textIn_eq_empty_iff.1 (same.singular ▸ none)⟩
  · rintro ⟨other, also, element, inside, nothing⟩
    cases made.symm.trans also
    obtain ⟨found, member, same⟩ := exists_of_forall₂ known.flip inside
    exact ⟨found, member, same.singular.trans (Resource.textIn_eq_empty_iff.2 nothing)⟩

/-- The strings that are found in a file have one without a text just where the file has one. -/
theorem Finds.exists_singular_eq_empty_iff {path : Path} {part : List Translatable}
    (h : reader.Finds formats tree path part) :
    (∃ found ∈ part, found.singular = "") ↔ HasTextless formats tree path := by
  obtain ⟨format, known, read⟩ := h
  rw [read_forFile] at read
  obtain ⟨bytes, there, whole⟩ := exists_bytes_of_read read
  constructor
  · rintro ⟨found, member, none⟩
    obtain ⟨-, rfl⟩ := Reading.all?_eq_ok.1 read
    cases (Format.isFound_of_mem_read member).textless none
    obtain ⟨document, made, textless⟩ := (exists_textless_iff whole).1 ⟨found, member, none⟩
    exact ⟨known, bytes, document, there, made, textless⟩
  · rintro ⟨resources, others, document, also, made, textless⟩
    cases known.symm.trans resources
    cases there.symm.trans also
    exact (exists_textless_iff whole).2 ⟨document, made, textless⟩

/-- `sighting.singular = found.singular`: strings that are made relative keep their texts. -/
theorem singular_of_relativizeAll {root : Option String} {found sighting : Translatable}
    (made : Reference.relativizeAll root found = .ok sighting) :
    sighting.singular = found.singular := by
  unfold Reference.relativizeAll at made
  split at made
  · cases made
  · cases made
    rfl

/-- **No string is without a text but for those of empty elements.** A string with `singular = ""`
is among those of a reader just where one of its resource documents `HasTextless`, an element for a
string with nothing in it. The catalog that is written of the strings has their texts as
untranslated texts, stanza by stanza (`Catalog.idsOf?`), so it has one that is empty, like that of
a header, in just this case. -/
theorem singular_eq_empty_iff (kind : reader.kind = .any formats) {strings : List Translatable}
    (read : (reader.read tree).all? = .ok strings) :
    ((∃ string ∈ strings, string.singular = "") ↔
      ∃ path ∈ reader.paths, HasTextless formats tree path) ∧
    Catalog.idsOf? ((strings.flatMap Catalog.stanza).map String.toList) =
      some (strings.map Translatable.singular) := by
  have found := (Reading.all?_eq_ok.1 read).2
  refine ⟨?_, Catalog.idsOf?_stanzas fun string member =>
    Catalog.notMem_writtenForms (isClosed_of_mem_read (found ▸ member))⟩
  obtain ⟨parts, sightings, each, relative, merged⟩ := exists_sightings kind read
  have one := forall₂_of_mapM relative
  -- merging keeps the keys, making relative keeps the texts, and the parts are those of the files
  have keys (key : Translatable.Key) : (∃ string ∈ strings, string.key = key) ↔
      ∃ sighting ∈ sightings, sighting.key = key := by
    rw [← List.mem_map, ← List.mem_map, merged.keys, List.mem_eraseDups]
  constructor
  · rintro ⟨string, member, none⟩
    obtain ⟨sighting, inside, same⟩ := (keys string.key).1 ⟨string, member, rfl⟩
    have silent : sighting.singular = "" := (congrArg Translatable.Key.singular same).trans none
    obtain ⟨first, among, made⟩ := exists_of_forall₂ one inside
    obtain ⟨part, there, here⟩ := List.mem_flatten.1 among
    obtain ⟨path, input, finds⟩ := exists_of_forall₂ each there
    exact ⟨path, input, finds.exists_singular_eq_empty_iff.1
      ⟨first, here, (singular_of_relativizeAll made).symm.trans silent⟩⟩
  · rintro ⟨path, input, textless⟩
    obtain ⟨part, there, finds⟩ := exists_of_forall₂ each.flip input
    have finds : reader.Finds formats tree path part := finds
    obtain ⟨first, here, none⟩ := finds.exists_singular_eq_empty_iff.2 textless
    obtain ⟨sighting, inside, made⟩ :=
      exists_of_forall₂ one.flip (List.mem_flatten.2 ⟨part, there, here⟩)
    obtain ⟨string, member, same⟩ := (keys sighting.key).2 ⟨sighting, inside, rfl⟩
    have silent : sighting.singular = "" := (singular_of_relativizeAll made).trans none
    exact ⟨string, member, (congrArg Translatable.Key.singular same).trans silent⟩

/-- A catalog whose header has no text, and a document in which each element has one. -/
theorem singular_eq_empty_iff_texts :
    let tree : FileTree :=
      ⟨[(["w", "a.po"], .file (Text.encode "msgid \"\"\nmsgstr \"x\"\n\nmsgid \"a\"\nmsgstr \"\"\n")),
        (["w", "b.xml"], .file (Text.encode "<resources><string name=\"n\">b</string></resources>"))]⟩
    let reader : Reader := ⟨.any Format.all, none, 0, [], [.ofString "a.po", .ofString "b.xml"]⟩
    ∃ strings, (reader.read tree).all? = .ok strings ∧
      (¬∃ path ∈ reader.paths, HasTextless Format.all tree path) ∧
      Catalog.idsOf? ((strings.flatMap Catalog.stanza).map String.toList) = some ["a", "b"] := by
  intro tree reader
  have read : (reader.read tree).all? = .ok [⟨"a", none, none, none, none, none, [], none, {}⟩,
      ⟨"b", some "n", none, none, none, none, ["/w/b.xml:1"], none, {}⟩] := by
    decide +kernel
  obtain ⟨textless, ids⟩ := singular_eq_empty_iff rfl read
  refine ⟨_, read, fun found => ?_, ids⟩
  obtain ⟨string, member, none⟩ := textless.2 found
  simp only [List.mem_cons, List.not_mem_nil, or_false] at member
  rcases member with rfl | rfl <;> simp at none

/-- An element with nothing in it comes to a string without a text, and to a stanza like a header. -/
theorem singular_eq_empty_iff_nothing :
    let tree : FileTree :=
      ⟨[(["w", "a.xml"], .file (Text.encode "<resources><string name=\"n\"></string></resources>"))]⟩
    let reader : Reader := ⟨.any Format.all, none, 0, [], [.ofString "a.xml"]⟩
    ∃ strings, (reader.read tree).all? = .ok strings ∧ (∃ string ∈ strings, string.singular = "") ∧
      Catalog.idsOf? ((strings.flatMap Catalog.stanza).map String.toList) = some [""] := by
  intro tree reader
  have read : (reader.read tree).all? =
      .ok [⟨"", some "n", none, none, none, none, ["/w/a.xml:1"], none, {}⟩] := by
    decide +kernel
  exact ⟨_, read, ⟨_, List.mem_singleton_self _, rfl⟩, by decide +kernel⟩

end Reader

end StringCatalog
