import StringCatalog.Proofs.Extraction.Reading
import StringCatalog.Proofs.Resource.Document
import StringCatalog.Proofs.Text.Utf8
import StringCatalog.Resource.Source

/-! # What is read from a resource document

* **`Resource.stringElements`** — the elements of a document that have strings.
* **`Resource.forall₂_stringElements`** — the strings that are read are those of these elements.
* **`Resource.ofBytes?_write`** — the bytes of a written document are read as its text.
* **`Resource.stringElements_write`** — the elements of a written document that have strings are those
  of its items. -/

namespace StringCatalog.Resource

/-! ## The elements with strings -/

/-- The value of an attribute of an element, given what the document type declares. -/
def valueIn (doctype : Xml.Doctype) (head : Xml.Head) (key : String) : Option String :=
  (head.attribute? key).map fun pieces => String.ofList (doctype.valueText pieces)

/-- The name of an element's string, empty if it has none. -/
def nameIn (doctype : Xml.Doctype) (head : Xml.Head) : String :=
  (valueIn doctype head "name").getD ""

/-- **Whether an element has a string:** it is one for strings, it has a name, and it is not taken
out of translation. -/
def hasString (doctype : Xml.Doctype) (head : Xml.Head) : Bool :=
  head.fullName == "string".toList && nameIn doctype head != "" &&
    Text.lower ((valueIn doctype head "translatable").getD "true") != "false"

/-- An element that has a string. -/
def stringElement? (doctype : Xml.Doctype) : Xml.Node → Option (Xml.Head × List Xml.Node)
  | .element head children => if hasString doctype head then some (head, children) else none
  | _ => none

/-- **The elements of a document that have strings,** each with its content. -/
def stringElements (document : Xml.Document) : List (Xml.Head × List Xml.Node) :=
  document.children.filterMap (stringElement? document.doctype)

/-- **The text of an element's string.** -/
def textIn (document : Xml.Document) (element : Xml.Head × List Xml.Node) : String :=
  String.ofList (unescapeChars
    (innerText (element.1.bindings ++ document.head.bindings) element.2))

/-- **A string that is the one of an element:** it has its name and its text, and nothing is
translated. -/
structure IsStringOf (document : Xml.Document) (element : Xml.Head × List Xml.Node)
    (string : Translatable) : Prop where
  /-- The name. -/
  name : string.name = some (nameIn document.doctype element.1)
  /-- There is a name. -/
  named : nameIn document.doctype element.1 ≠ ""
  /-- The text. -/
  singular : string.singular = textIn document element
  /-- There is no plural. -/
  plural : string.plural = none
  /-- There are no translations. -/
  translations : string.translations = none

/-- What the reader of a document needs besides its nodes. -/
def settingOf (path : Path) (document : Xml.Document) : Setting :=
  ⟨path.toString, path.absolute.toString, document.head.bindings, document.doctype⟩

/-- An element that has a string comes to it, and any other comes to none. -/
theorem all?_stringReading (path : Path) (document : Xml.Document) (comment : Option String)
    (head : Xml.Head) (children : List Xml.Node) (isString : head.fullName = "string".toList) :
    ∃ strings, (stringReading (settingOf path document) comment head children).all? = .ok strings ∧
      List.Forall₂ (IsStringOf document)
        (stringElement? document.doctype (.element head children)).toList strings := by
  have name : (settingOf path document).value? head "name" = valueIn document.doctype head "name" :=
    rfl
  have translatable : (settingOf path document).value? head "translatable" =
      valueIn document.doctype head "translatable" := rfl
  unfold stringReading
  rw [name, translatable]
  rw [stringElement?, hasString]
  dsimp only
  -- the reader asks for a name first, and then whether the string is to be translated
  split
  · next none =>
    have none : nameIn document.doctype head = "" := beq_iff_eq.1 none
    exact ⟨[], rfl, by simp [none]⟩
  · next named =>
    have named : nameIn document.doctype head ≠ "" := fun empty => named (beq_iff_eq.2 empty)
    split
    · next out => exact ⟨[], rfl, by simp [beq_iff_eq.1 out]⟩
    · next stays =>
      refine ⟨_, rfl, ?_⟩
      have kept : (head.fullName == "string".toList && nameIn document.doctype head != "" &&
          Text.lower ((valueIn document.doctype head "translatable").getD "true") != "false") =
            true := by
        simpa [isString, named] using stays
      rw [if_pos kept]
      exact .cons ⟨rfl, named, rfl, rfl, rfl⟩ .nil

/-- The nodes of a root come to the strings of the elements among them. -/
theorem all?_childReadings (path : Path) (document : Xml.Document) (comment : Option String)
    (nodes : List Xml.Node) :
    ∃ strings, (Reading.sequence (childReadings (settingOf path document) comment nodes)).all? =
        .ok strings ∧
      List.Forall₂ (IsStringOf document) (nodes.filterMap (stringElement? document.doctype))
        strings := by
  induction nodes generalizing comment with
  | nil => exact ⟨[], rfl, .nil⟩
  | cons node nodes ih =>
      -- a node that has no string is passed, or noted and passed
      have noted (note : Note) (comment : Option String) : ∃ strings,
          (Reading.sequence (.ofNote note ::
            childReadings (settingOf path document) comment nodes)).all? = .ok strings ∧
          List.Forall₂ (IsStringOf document) (nodes.filterMap (stringElement? document.doctype))
            strings := by
        obtain ⟨strings, read, known⟩ := ih comment
        refine ⟨strings, ?_, known⟩
        rw [Reading.sequence, Reading.all?_append rfl, read]
        rfl
      cases node with
      | text content => exact ih comment
      | comment content => exact ih (Text.trimmed? content)
      | instruction target data => exact noted _ none
      | reference name => exact noted _ none
      | element head children =>
          rw [childReadings]
          split
          · next isString =>
            obtain ⟨first, one, known⟩ :=
              all?_stringReading path document comment head children (by simpa using isString)
            obtain ⟨others, rest, all⟩ := ih none
            refine ⟨first ++ others, ?_, ?_⟩
            · rw [Reading.sequence, Reading.all?_append one, rest]
              rfl
            · have split : (Xml.Node.element head children :: nodes).filterMap
                    (stringElement? document.doctype) =
                  (stringElement? document.doctype (.element head children)).toList ++
                    nodes.filterMap (stringElement? document.doctype) := by
                rw [List.filterMap_cons]
                cases stringElement? document.doctype (.element head children) <;> rfl
              rw [split]
              exact List.rel_append known all
          · next other =>
            have none : stringElement? document.doctype (.element head children) = none := by
              rw [stringElement?, hasString, Bool.eq_false_iff.2 other]
              rfl
            rw [List.filterMap_cons_none none]
            exact noted _ Option.none

/-- **The strings of a document** are those of the elements that have one, in their order. -/
theorem forall₂_stringElements (path : Path) {bytes : List UInt8} {document : Xml.Document}
    (read : Xml.Document.ofBytes? bytes = some document)
    (root : document.head.fullName = "resources".toList) :
    ∃ strings, (readBytes path bytes).all? = .ok strings ∧
      List.Forall₂ (IsStringOf document) (stringElements document) strings := by
  obtain ⟨strings, all, known⟩ := all?_childReadings path document none document.children
  refine ⟨strings, ?_, known⟩
  rw [readBytes, read]
  simp only [root, beq_self_eq_true, if_true]
  exact all

/-- Bytes with strings are those of a document, whose root is the one of resources. -/
theorem exists_document {path : Path} {bytes : List UInt8} {strings : List Translatable}
    (read : (readBytes path bytes).all? = .ok strings) :
    ∃ document, Xml.Document.ofBytes? bytes = some document ∧
      document.head.fullName = "resources".toList := by
  unfold readBytes at read
  dsimp only at read
  split at read
  · cases read
  · next document found =>
    split at read
    · next root => exact ⟨document, found, by simpa using root⟩
    · cases read

/-! ## The bytes of a written document -/

/-- **The bytes of a written document are read as its text:** the first line names their form. -/
theorem ofBytes?_write (items : List Item) :
    Xml.Document.ofBytes? (Text.encode (write items)) =
      Xml.Document.ofText? (write items).toList := by
  obtain ⟨rest, split⟩ : ∃ rest, (write items).toList = firstLine ++ rest :=
    ⟨_, by rw [toList_write, List.append_assoc]⟩
  have bytes : Text.encode (write items) =
      firstLine.flatMap Text.encodeChar ++ rest.flatMap Text.encodeChar := by
    rw [Text.encode, split, List.flatMap_append]
  have unmarked : Xml.decodeMarked? (Text.encode (write items)) = none := by
    rw [bytes]
    rfl
  -- read byte by byte, the first line is the one that has been written
  have latin : Text.decodeLatin (Text.encode (write items)) =
      firstLine ++ Text.decodeLatin (rest.flatMap Text.encodeChar) := by
    have ascii : ∀ c ∈ firstLine, c.toNat < 0x80 := by decide
    have first := Text.decodeLatin_flatMap ascii
    rw [Text.decodeLatin] at first ⊢
    rw [bytes, List.map_append, first]
    rfl
  have header : Xml.readHeader? (Xml.joinLineEnds (Text.decodeLatin (Text.encode (write items)))) =
      some (⟨some "utf-8".toList, false, none⟩, ['\n'] ++
        Xml.joinLineEnds (Text.decodeLatin (rest.flatMap Text.encodeChar))) := by
    have last : firstLine.getLast? ≠ some '\r' := by decide
    rw [latin, Xml.joinLineEnds_append fun same => absurd same last]
    rfl
  have known : Text.Charset.ofName? "utf-8".toList = some .utf8 := by decide
  have decoded : Xml.decodeNamed? (Text.encode (write items)) = some (write items).toList := by
    rw [Xml.decodeNamed?, header]
    simp only [known, Text.Charset.decode, Text.decode_encode]
    rfl
  rw [Xml.Document.ofBytes?, unmarked, decoded]
  rfl

/-! ## The elements of a written document -/

/-- The context of a document without a type. -/
def bareContext : Xml.Context := ⟨{ Xml.Doctype.none with remark := none }, false⟩

/-- `bareContext` is bare: there is no document type in it. -/
theorem isBare_bareContext : bareContext.IsBare := (Xml.isClosed_none false).bare

/-- **An element that an item has come back as:** it has the item's name and declares its bindings,
and its content is that of the item as it comes back. -/
structure IsElementAgain (item : Item) (element : Xml.Head × List Xml.Node) : Prop where
  /-- The start of the element is that of the item. -/
  head : ∃ line, element.1 = { item.head with line }
  /-- The content has been read in the scope of the item. -/
  content : ∃ line found remarks, Xml.againAll? bareContext item.bindings line item.content =
    some (found, remarks) ∧ element.2 = Xml.joined found

/-- `nameIn doctype { item.head with line } = String.ofList item.name`: the name of an item's
element is the one of the item. -/
theorem nameIn_head (doctype : Xml.Doctype) (item : Item) (line : Nat) :
    nameIn doctype { item.head with line } = String.ofList item.name := by
  have found : Xml.Head.attribute? { item.head with line } "name" = some (item.name.map .char) := rfl
  rw [nameIn, valueIn, found, Option.map_some, Option.getD_some, Xml.Doctype.valueText_map]

/-- `hasString doctype { item.head with line } = true`: the element of a named item has a string. -/
theorem hasString_head (doctype : Xml.Doctype) {item : Item} (named : item.name ≠ []) (line : Nat) :
    hasString doctype { item.head with line } = true := by
  have full : Xml.Head.fullName { item.head with line } = "string".toList := rfl
  have translatable : valueIn doctype { item.head with line } "translatable" = none := rfl
  have name : (nameIn doctype { item.head with line } != "") = true := by
    rw [nameIn_head]
    simpa using named
  rw [hasString, full, name, translatable]
  decide

/-- The start of a root comes back without a remark. -/
theorem head?_tag_rootHead :
    rootHead.tag.head? bareContext [] 2 = some ({ rootHead with line := 2 }, []) :=
  rfl

/-- What is read from the document of some items, as far as its elements go. The last remark on it is
no error. -/
theorem exists_againAll?_of_ofText? {items : List Item} (proper : ∀ item ∈ items, item.IsProper)
    {document : Xml.Document} (read : Xml.Document.ofText? (write items).toList = some document) :
    ∃ found remarks, Xml.againAll? bareContext [] 2 (rootChildren items) = some (found, remarks) ∧
      Xml.lastRemark none remarks ≠ some .error ∧
        document = ⟨{ rootHead with line := 2 }, Xml.joined found, bareContext.doctype⟩ := by
  have whole := wellFormed?_write proper
  rw [← bareContext, head?_tag_rootHead] at whole
  rw [Xml.Document.ofText?, whole] at read
  dsimp only at read
  cases again : Xml.againAll? bareContext [] 2 (rootChildren items) with
  | none =>
      rw [show rootHead.bindings = [] from rfl, again] at read
      cases read
  | some found =>
      obtain ⟨found, remarks⟩ := found
      rw [show rootHead.bindings = [] from rfl, again] at read
      refine ⟨found, remarks, rfl, ?_⟩
      simp only [Option.map_some, List.nil_append] at read
      split at read
      · cases read
      · next quiet => exact ⟨by simpa using quiet, (Option.some.inj read).symm⟩

/-- **The elements of a written document that have strings** are those of its items. -/
theorem stringElements_write {items : List Item} (proper : ∀ item ∈ items, item.IsProper)
    (named : ∀ item ∈ items, item.name ≠ []) {document : Xml.Document}
    (read : Xml.Document.ofText? (write items).toList = some document) :
    document.head.fullName = "resources".toList ∧ document.head.bindings = [] ∧
      List.Forall₂ IsElementAgain items (stringElements document) := by
  obtain ⟨found, remarks, again, -, rfl⟩ := exists_againAll?_of_ofText? proper read
  refine ⟨rfl, rfl, ?_⟩
  -- text has no string, so that only the elements of the items are looked at
  have elements : stringElements
      ⟨{ rootHead with line := 2 }, Xml.joined found, bareContext.doctype⟩ =
        (found.filter (!·.isText)).filterMap (stringElement? bareContext.doctype) := by
    rw [← Xml.filter_joined, List.filterMap_filter]
    refine List.filterMap_congr fun node _ => ?_
    cases node <;> rfl
  have all : List.Forall₂ (fun node other => ∃ line remarks,
      node.again? bareContext [] line = some (other, remarks)) (items.map Item.node)
        (found.filter (!·.isText)) := by
    rw [← filter_rootChildren]
    refine List.rel_filter (fun node other related => ?_) (Xml.forall₂_of_againAll? again)
    obtain ⟨line, more, one⟩ := related
    simp only [Xml.Node.isText_of_again? one]
  rw [elements]
  generalize found.filter (!·.isText) = others at all
  clear elements again read
  induction items generalizing others with
  | nil =>
      cases all
      exact .nil
  | cons item items ih =>
      rw [List.forall_mem_cons] at proper named
      cases all with
      | @cons _ other _ others one rest =>
          obtain ⟨line, remarks, one⟩ := one
          obtain ⟨inner, more, content, same⟩ :=
            @Xml.Head.IsProper.exists_of_again? bareContext isBare_bareContext item.head item.content
              proper.1.node _ _ _ _ one
          rw [Item.again_head proper.1] at same
          have element : stringElement? bareContext.doctype other =
              some ({ item.head with line }, Xml.joined inner) := by
            rw [same, stringElement?, if_pos (hasString_head _ named.1 line)]
          rw [List.append_nil] at content
          rw [List.filterMap_cons_some element]
          exact .cons ⟨⟨line, rfl⟩, ⟨line, inner, more, content, rfl⟩⟩
            (ih proper.2 named.2 others rest)

end StringCatalog.Resource
