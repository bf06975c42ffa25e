import StringCatalog.Proofs.Extraction.Textless
import StringCatalog.Proofs.Extraction.Whole
import StringCatalog.Proofs.FileTree.Destination
import StringCatalog.Proofs.Resource.CarryOver
import StringCatalog.Proofs.Resource.Regenerated
import StringCatalog.Workspace.Step

/-! # Carrying translations over from a buffer

* **`Reader.isLegal_of_mem_read`** — the strings of documents are legal, and have names.
* **`Writer.carryOver_cases`** — a document that can be read comes to items, and any other to its fault.
* **`Workspace.HandsOver`** — a step that hands over some content, or fails and changes no file.
* **`Workspace.run_carryOver`** — a document that is kept by hand gets the translations of a buffer. -/

namespace StringCatalog

/-! ## Reading -/

namespace Reader

variable {reader : Reader} {tree : FileTree}

/-- **The strings of documents are legal,** and have names. -/
theorem isLegal_of_mem_read (kind : reader.kind = .only .resources) {string : Translatable}
    (member : string ∈ (reader.read tree).strings) :
    string.IsLegal ∧ ∃ name, string.name = some name := by
  rw [read_eq_sequence (by simp [kind])] at member
  obtain ⟨reading, among, there⟩ := Reading.mem_strings_sequence member
  obtain ⟨path, -, rfl⟩ := List.mem_map.1 among
  -- a document that has strings is read as a whole
  have clean : (reader.readFile tree path).fault = none := by
    by_contra failed
    rw [isWhole_readFile reader tree path failed] at there
    cases there
  have read : (Format.resources.read reader.keywords tree path).all? =
      .ok (reader.readFile tree path).strings := by
    rw [readFile, kind] at clean ⊢
    exact Reading.all?_eq_ok.2 ⟨clean, rfl⟩
  obtain ⟨bytes, -, whole⟩ := exists_bytes_of_read read
  exact Resource.isLegal_of_readBytes whole there

/-- The one file of a reader that does not fail is there. -/
theorem exists_read_of_fault_eq_none (kind : reader.kind = .only .resources) {path : Path}
    (single : reader.paths = [path]) (clean : (reader.read tree).fault = none) :
    ∃ bytes, tree.read path.toString = .ok bytes := by
  rw [read_eq_sequence (by simp [kind]), single, List.map_singleton, Reading.sequence,
    Reading.sequence_nil, Reading.append_empty, readFile, kind] at clean
  obtain ⟨bytes, found, -⟩ := exists_bytes_of_read (Reading.all?_eq_ok.2 ⟨clean, rfl⟩)
  exact ⟨bytes, found⟩

end Reader

/-! ## Items -/

/-- **A document that can be read comes to items,** one for each string that has a translation, and
any other one to its fault. -/
theorem Writer.carryOver_cases {writer : Writer} (kind : writer.kind = .resources)
    {strings : List Translatable} (carriable : ∀ string ∈ strings, Resource.IsCarriable string)
    (tree : FileTree) (input destination : String) :
    let reader : Reader :=
      ⟨.only .resources, none, writer.logLevel, Program.Keyword.usual, [.ofString input]⟩
    let reading := reader.read tree
    let delivery := (writer.carryOver strings tree input destination).2
    (∀ fault, reading.fault = some fault → delivery = .none tree fault) ∧
    (reading.fault = none → ∃ items, delivery = deliver tree (Resource.write items) destination ∧
      List.Forall₂ (Resource.IsCarriedOver strings)
        (reading.strings.filter fun manual => manual.singular ∈ strings.map (·.singular)) items ∧
      ∀ item ∈ items, item.IsProper) := by
  intro reader reading delivery
  obtain ⟨items, made, all, proper⟩ := @Resource.exists_carryOver strings carriable reading.events
    fun manual member => Reader.isLegal_of_mem_read rfl member
  cases whole : Resource.carryOver strings reading.events with
  | mk notes result =>
    obtain rfl : result = .ok items := by rwa [whole] at made
    refine ⟨fun fault failed => ?_, fun clean => ⟨items, ?_, all, proper⟩⟩
    · simp only [delivery, Writer.carryOver, kind]
      rw [whole, failed]
    · simp only [delivery, Writer.carryOver, kind]
      rw [whole, clean]

/-! ## The step -/

namespace Workspace

variable {workspace : Workspace}

/-- **A step that hands over some content,** or fails and changes no file. What it answers where it
writes a file is what stands there then. -/
structure HandsOver (workspace : Workspace) (outcome : Outcome) (content destination : String) :
    Prop where
  /-- The step does nothing but hand over the content. -/
  delivered : outcome = workspace.ofDelivery destination outcome.console
    (deliver workspace.tree content destination)
  /-- To standard output all content can go, and no file is changed. -/
  shown : destination = standardOutput →
    outcome = ⟨workspace, .ok .done, outcome.console, some content⟩
  /-- Under a path the content stands and is answered, and other files are as before; or the answer is
  a fault, and no file is changed. -/
  written : destination ≠ standardOutput → outcome.output = none ∧
    (outcome.result = .ok (.content (Text.encode content)) ∧
        workspace.tree.IsWritten outcome.workspace.tree (Path.ofString destination).toString
          (Text.encode content) ∨
      outcome.workspace.tree.files = workspace.tree.files ∧ ∃ fault, outcome.result = .error fault)
  /-- Where the path leads to a file or to a free name in a folder, the content stands. -/
  placed : destination ≠ standardOutput → ∀ spot place,
    workspace.tree.resolve (Path.ofString destination).toString = .ok spot → spot.place? = some place →
      outcome.result = .ok (.content (Text.encode content)) ∧
      outcome.workspace.tree.read (Path.ofString destination).toString = .ok (Text.encode content)

/-- The outcome of handing over some content. -/
theorem handsOver_ofDelivery (workspace : Workspace) (content destination : String)
    (console : List ConsoleLine) :
    workspace.HandsOver
      (workspace.ofDelivery destination console (deliver workspace.tree content destination))
      content destination := by
  by_cases standard : destination = standardOutput
  · refine ⟨rfl, fun _ => ?_, fun other => absurd standard other, fun other => absurd standard other⟩
    simp [ofDelivery, deliver, standard]
  have other : (destination == standardOutput) = false := by simpa using standard
  have either := workspace.tree.write_cases (.ofString destination) (Text.encode content)
  refine ⟨rfl, fun same => absurd same standard, fun _ => ?_, fun _ spot place found here => ?_⟩
  · rw [deliver, other]
    cases wrote : workspace.tree.write (.ofString destination) (Text.encode content) with
    | mk later fault =>
        rw [wrote] at either
        cases fault with
        | none =>
            have written : workspace.tree.IsWritten later _ _ := either
            refine ⟨rfl, .inl ⟨?_, written⟩⟩
            simp only [ofDelivery, other, Option.map_none, Bool.false_eq_true, if_false,
              written.read_eq]
        | some fault => exact ⟨rfl, .inr ⟨either, _, rfl⟩⟩
  · obtain ⟨later, wrote, stands⟩ := FileTree.exists_write_of_resolve
      (fun name member => (Path.of_mem_parts member).2) found here (Text.encode content)
    rw [deliver, other]
    simp only [ofDelivery, wrote, stands, other, Option.map_none, Bool.false_eq_true, if_false,
      and_self]

/-- **Translations carried over from a buffer.** The step `.carryOver id input destination` makes
of the document one item for each of its strings whose text some string of the buffer has, which
`IsCarriedOver`: under its own name, in the order of the document and also where a name or a text
comes again, with the first translation of the earliest such string of the buffer. So none is
missing if the buffer has the texts of all strings of the document, as it has with these strings in
it. The document of the items holds them and nothing else (`IsDocumentOf`); but it is not well
formed if two attributes of an element in them have come to be written alike in their new place.
The step `HandsOver` what is written, also in place of the document that was read. A document that
cannot be read leaves all as it is, and the buffer is never changed. -/
theorem run_carryOver {id : String} {buffer : Buffer} {writer : Writer}
    (held : workspace.buffer? id = some buffer) (use : buffer.use = .writer writer)
    (kind : writer.kind = .resources)
    (carriable : ∀ string ∈ workspace.content buffer, Resource.IsCarriable string)
    (input destination : String) :
    let strings := workspace.content buffer
    let outcome := workspace.run (.carryOver id input destination)
    let reader : Reader :=
      ⟨.only .resources, none, writer.logLevel, Program.Keyword.usual, [.ofString input]⟩
    let reading := reader.read workspace.tree
    (outcome.workspace.objects = workspace.objects ∧
      outcome.workspace.strings = workspace.strings) ∧
    (∀ fault, reading.fault = some fault →
      outcome = ⟨workspace, .error fault, outcome.console, none⟩) ∧
    (reading.fault = none → ∃ items,
      List.Forall₂ (Resource.IsCarriedOver strings)
        (reading.strings.filter fun manual => manual.singular ∈ strings.map (·.singular)) items ∧
      (reading.strings.map (·.singular) ⊆ strings.map (·.singular) →
        List.Forall₂ (Resource.IsCarriedOver strings) reading.strings items) ∧
      (((∀ item ∈ items, ∀ node ∈ item.content, node.IsSpelledApart) ∧ ∃ document remark,
          Xml.Document.wellFormed? (Resource.write items).toList = some (document, remark) ∧
            Resource.IsDocumentOf items document) ∨
        (¬(∀ item ∈ items, ∀ node ∈ item.content, node.IsSpelledApart) ∧
          Xml.Document.wellFormed? (Resource.write items).toList = none)) ∧
      workspace.HandsOver outcome (Resource.write items) destination ∧
      (destination = input → input ≠ standardOutput →
        outcome.result = .ok (.content (Text.encode (Resource.write items))))) := by
  intro strings outcome reader reading
  obtain ⟨failing, reads⟩ := Writer.carryOver_cases kind carriable workspace.tree input destination
  have step : outcome = workspace.ofDelivery destination
      (writer.carryOver strings workspace.tree input destination).1
      (writer.carryOver strings workspace.tree input destination).2 := by
    simp only [outcome, run, withWriter, withName, held, use, strings]
  refine ⟨by rw [step]; exact ⟨rfl, rfl⟩, fun fault failed => ?_, fun clean => ?_⟩
  · rw [step, failing fault failed]
    rfl
  · obtain ⟨items, delivered, all, proper⟩ := reads clean
    have hands : workspace.HandsOver outcome (Resource.write items) destination := by
      rw [step, delivered]
      exact handsOver_ofDelivery workspace _ destination _
    refine ⟨items, all, fun inside => ?_, Resource.wellFormed?_write_cases proper, hands,
      fun same path => ?_⟩
    · have kept : reading.strings.filter (fun manual => manual.singular ∈ strings.map (·.singular)) =
          reading.strings :=
        List.filter_eq_self.2 fun manual member =>
          decide_eq_true (inside (List.mem_map_of_mem member))
      exact kept ▸ all
    · obtain ⟨bytes, there⟩ := Reader.exists_read_of_fault_eq_none rfl rfl clean
      obtain ⟨place, found⟩ := FileTree.exists_resolve_of_read there
      subst same
      exact (hands.placed path _ place found rfl).1

/-- A document in whose place its translations are put: a name and a text come twice, one string has no
translation, and the buffer has two strings with one text. -/
theorem run_carryOver_again :
    let tree : FileTree := ⟨[(["w", "s.xml"], .file (Text.encode ("<resources><string name='n'>a</string>" ++
      "<string name='m'>b</string><string name='n'>c</string><string name='k'>a</string></resources>")))]⟩
    let strings : List Translatable := [⟨"c", none, none, none, none, none, [], none, {}⟩,
      ⟨"a", none, some "as", some [some "<i>1</i>", some "2"], none, none, [], none, {}⟩,
      ⟨"a", some "x", none, some [some "3"], none, none, [], none, {}⟩]
    let writer : Writer := ⟨.resources, 0, "Str"⟩
    let workspace : Workspace := ⟨tree, strings, [("g", .buffer ⟨.writer writer, [0, 1, 2]⟩)]⟩
    let manual (singular name : String) : Translatable :=
      ⟨singular, some name, none, none, none, none, ["/w/s.xml:1"], none, {}⟩
    ∃ items document remark,
      List.Forall₂ (Resource.IsCarriedOver strings)
        [manual "a" "n", manual "c" "n", manual "a" "k"] items ∧
      Xml.Document.wellFormed? (Resource.write items).toList = some (document, remark) ∧
      Resource.IsDocumentOf items document ∧
      (workspace.run (.carryOver "g" "s.xml" "s.xml")).result =
        .ok (.content (Text.encode (Resource.write items))) := by
  intro tree strings writer workspace manual
  let reader : Reader :=
    ⟨.only .resources, none, writer.logLevel, Program.Keyword.usual, [.ofString "s.xml"]⟩
  have held : workspace.buffer? "g" = some ⟨.writer writer, [0, 1, 2]⟩ := by decide
  have content : workspace.content ⟨.writer writer, [0, 1, 2]⟩ = strings := by decide
  have carriable : ∀ string ∈ strings, Resource.IsCarriable string := by
    simp only [strings, List.forall_mem_cons]
    exact ⟨⟨⟨by decide, by decide⟩, by simp [Translatable.IsClosed], by simp⟩,
      ⟨⟨by decide, by decide⟩, by simp [Translatable.IsClosed], by simp⟩,
      ⟨⟨by decide, by decide⟩, by simp [Translatable.IsClosed], by simp⟩, by simp⟩
  have found : (reader.read workspace.tree).all? = .ok
      [manual "a" "n", manual "b" "m", manual "c" "n", manual "a" "k"] := by decide +kernel
  obtain ⟨clean, known⟩ := Reading.all?_eq_ok.1 found
  have kept : [manual "a" "n", manual "b" "m", manual "c" "n", manual "a" "k"].filter
      (fun manual => manual.singular ∈ strings.map (·.singular)) =
      [manual "a" "n", manual "c" "n", manual "a" "k"] := by decide
  have reads : ((workspace.run (.carryOver "g" "s.xml" "s.xml")).workspace.tree.read
      "s.xml").toOption.any (fun bytes => (Text.decode bytes).toOption.any fun text =>
        (Xml.Document.wellFormed? text).isSome) = true := by decide +kernel
  have carried := (run_carryOver held rfl rfl (content.symm ▸ carriable) "s.xml" "s.xml").2.2 clean
  rw [content, known, kept] at carried
  obtain ⟨items, all, -, ⟨-, document, remark, read, held⟩ | ⟨-, missing⟩, hands, done⟩ := carried
  · exact ⟨items, document, remark, all, read, held, done rfl (by decide)⟩
  · have there : ((Path.ofString "s.xml").toString) = "s.xml" := by decide
    have file := (hands.placed (by decide) _ ["w", "s.xml"] (by rw [there]; rfl) rfl).2
    rw [there] at file
    rw [file] at reads
    simp [Text.decode_encode, Except.toOption, missing] at reads

/-- A translation in which two prefixes come to be one: what is written is not well formed. -/
theorem run_carryOver_clash :
    let value := "<o xmlns:r=\"u\"><a xmlns:p=\"u\" xmlns:r=\"w\" p:x=\"1\" r:x=\"2\"/></o>"
    let string : Translatable := ⟨"a", none, none, some [some value], none, none, [], none, {}⟩
    let tree : FileTree :=
      ⟨[(["w", "hand.xml"], .file (Text.encode "<resources><string name=\"n\">a</string></resources>"))]⟩
    let writer : Writer := ⟨.resources, 0, "Str"⟩
    let workspace : Workspace := ⟨tree, [string], [("g", .buffer ⟨.writer writer, [0]⟩)]⟩
    let written := "<?xml version='1.0' encoding='utf-8'?>\n<resources>\n  <string name=\"n\">" ++
      "<o xmlns:r=\"u\"><a xmlns:r=\"w\" r:x=\"1\" r:x=\"2\"/></o></string>\n</resources>\n"
    Resource.IsCarriable string ∧
      ((workspace.run (.carryOver "g" "hand.xml" "t.xml")).workspace.tree.read "t.xml").toOption =
        some (Text.encode written) ∧
      Xml.Document.wellFormed? written.toList = none := by
  refine ⟨⟨⟨by decide, ?_⟩, by simp [Translatable.IsClosed], by simp⟩, by decide +kernel,
    Option.isNone_iff_eq_none.1 (by decide +kernel)⟩
  simp only [Translatable.effective, Option.getD_some, List.forall_mem_singleton,
    Option.mem_some_iff, forall_eq']
  decide +kernel

end Workspace

end StringCatalog
