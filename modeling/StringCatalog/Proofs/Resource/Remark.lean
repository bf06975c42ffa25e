import StringCatalog.Proofs.Resource.Source

/-! # The strings of a document and the remarks on them

* **`IsTranslatable`** — an element whose string is to be translated.
* **`IsJustBefore`** — a node with nothing but text between it and another one.
* **`IsStringAt`** — the string of the element with some number.
* **`exists_forall₂_isStringAt`** — what the nodes of a root come to, given those before them.
* **`readBytes_children`** — the strings of a document, each with the remark on it.

The last comment is carried along from node to node. What is carried to a node is told by the nodes before
it: it is the comment that the node stands behind with nothing but text between them, if there is one. -/

namespace StringCatalog.Resource

/-! ## Elements with strings -/

/-- **A value that says no,** in letters of either case. -/
def SaysNo (value : String) : Prop :=
  List.Forall₂ (fun c letter => c = letter ∨ c = letter.toUpper) value.toList "false".toList

/-- **An element whose string is to be translated:** it is one for strings, in no namespace, it has a
name that is not empty, and it does not say that it is not to be translated. -/
structure IsTranslatable (doctype : Xml.Doctype) (head : Xml.Head) : Prop where
  /-- There is no namespace. -/
  space : head.uri = none
  /-- The tag. -/
  tag : head.name.text = "string".toList
  /-- There is a name. -/
  named : ∃ name, valueIn doctype head "name" = some name ∧ name ≠ ""
  /-- It is not taken out of translation. -/
  stays : ∀ value, valueIn doctype head "translatable" = some value → ¬SaysNo value

/-- `head.fullName = tag ↔ head.uri = none ∧ head.name.text = tag`: the full name of an element in
a namespace starts with a brace, so it tells that there is none. -/
theorem fullName_eq_iff {head : Xml.Head} {tag : List Char} (h : tag.head? ≠ some '\x7b') :
    head.fullName = tag ↔ head.uri = none ∧ head.name.text = tag := by
  unfold Xml.Head.fullName
  split
  · next none => simp [none]
  · next uri some =>
    constructor
    · rintro rfl
      exact absurd rfl h
    · rintro ⟨none, -⟩
      cases some.symm.trans none

/-- `c.toLower = letter ↔ c = letter ∨ c = letter.toUpper`: a character is a letter in lower case
if it is this letter in either case. -/
theorem toLower_eq_iff {c letter : Char} (first : 'a' ≤ letter) (last : letter ≤ 'z') :
    c.toLower = letter ↔ c = letter ∨ c = letter.toUpper := by
  have above : 97 ≤ letter.toNat := first
  have below : letter.toNat ≤ 122 := last
  have capital : letter.toUpper.toNat = letter.toNat - 32 := by
    unfold Char.toUpper
    rw [dif_pos ⟨first, last⟩]
    change (letter.val + ('A'.val - 'a'.val)).toNat = letter.toNat - 32
    rw [UInt32.toNat_add, show ('A'.val - 'a'.val).toNat = 4294967264 by decide]
    change (letter.toNat + 4294967264) % 2 ^ 32 = letter.toNat - 32
    omega
  simp only [← Char.toNat_inj, capital]
  unfold Char.toLower
  split
  · next inside =>
    have inside : 65 ≤ c.toNat ∧ c.toNat ≤ 90 := inside
    change (c.val + ('a'.val - 'A'.val)).toNat = letter.toNat ↔ _
    rw [UInt32.toNat_add, show ('a'.val - 'A'.val).toNat = 32 by decide]
    change (c.toNat + 32) % 2 ^ 32 = letter.toNat ↔ _
    omega
  · next outside =>
    have outside : ¬(65 ≤ c.toNat ∧ c.toNat ≤ 90) := outside
    omega

/-- `Text.lower value = "false" ↔ SaysNo value`: a value that is compared in lower case says no in
letters of either case. -/
theorem lower_eq_false_iff {value : String} : Text.lower value = "false" ↔ SaysNo value := by
  have letters : ∀ letter ∈ "false".toList, 'a' ≤ letter ∧ letter ≤ 'z' := by decide
  rw [Text.lower, SaysNo, ← String.toList_inj, String.toList_ofList, ← List.forall₂_eq_eq_eq,
    List.forall₂_map_left_iff]
  generalize "false".toList = word at letters
  generalize value.toList = chars
  induction word generalizing chars with
  | nil => rw [List.forall₂_nil_right_iff, List.forall₂_nil_right_iff]
  | cons letter word ih =>
      rw [List.forall_mem_cons] at letters
      simp only [List.forall₂_cons_right_iff, toLower_eq_iff letters.1.1 letters.1.2, ih letters.2]

/-- **The elements that are read are those to be translated:**
`hasString doctype head = true ↔ IsTranslatable doctype head`. -/
theorem hasString_iff {doctype : Xml.Doctype} {head : Xml.Head} :
    hasString doctype head = true ↔ IsTranslatable doctype head := by
  have tag : head.fullName = "string".toList ↔ head.uri = none ∧ head.name.text = "string".toList :=
    fullName_eq_iff (by decide)
  have named : nameIn doctype head ≠ "" ↔ ∃ name, valueIn doctype head "name" = some name ∧ name ≠ "" := by
    rw [nameIn]
    cases valueIn doctype head "name" <;> simp
  have stays : Text.lower ((valueIn doctype head "translatable").getD "true") ≠ "false" ↔
      ∀ value, valueIn doctype head "translatable" = some value → ¬SaysNo value := by
    cases valueIn doctype head "translatable" with
    | none => simpa using show Text.lower "true" ≠ "false" by decide
    | some value => simp [lower_eq_false_iff]
  rw [hasString, Bool.and_eq_true, Bool.and_eq_true, beq_iff_eq, bne_iff_ne, bne_iff_ne, tag, named, stays]
  constructor
  · rintro ⟨⟨⟨space, tag⟩, named⟩, stays⟩
    exact ⟨space, tag, named, stays⟩
  · rintro ⟨space, tag, named, stays⟩
    exact ⟨⟨⟨space, tag⟩, named⟩, stays⟩

/-! ## Remarks -/

/-- **A node just before another one,** each given by its number: there is nothing but text between
them. -/
def IsJustBefore (nodes : List Xml.Node) (first second : Nat) : Prop :=
  first < second ∧ ∀ between, first < between → between < second →
    ∃ text, nodes[between]? = some (.text text)

/-- `place = other`: a node stands just before at most one element. -/
theorem IsJustBefore.eq {nodes : List Xml.Node} {first place other : Nat}
    (one : IsJustBefore nodes first place) (two : IsJustBefore nodes first other)
    {head head' : Xml.Head} {content content' : List Xml.Node}
    (element : nodes[place]? = some (.element head content))
    (second : nodes[other]? = some (.element head' content')) : place = other := by
  rcases Nat.lt_trichotomy place other with less | same | more
  · obtain ⟨text, found⟩ := two.2 place one.1 less
    cases element.symm.trans found
  · exact same
  · obtain ⟨text, found⟩ := one.2 other two.1 more
    cases second.symm.trans found

/-- **The remark behind a node,** given the one before it. -/
def remarkBehind (remark : Option String) : Xml.Node → Option String
  | .text _ => remark
  | .comment content => Text.trimmed? content
  | .instruction _ _ | .reference _ | .element _ _ => none

/-- **A comment that is a remark** on what stands at some place: it stands just before, and its text is
what is left of it without the blanks around it. -/
def IsRemarkAt (nodes : List Xml.Node) (place : Nat) (text : String) : Prop :=
  ∃ first content, IsJustBefore nodes first place ∧ nodes[first]? = some (.comment content) ∧
    Text.trimmed? content = some text

/-- What stands behind some place makes no difference to the remark there. -/
theorem isRemarkAt_append (before rest : List Xml.Node) (text : String) :
    IsRemarkAt (before ++ rest) before.length text ↔ IsRemarkAt before before.length text := by
  have same (place : Nat) (inside : place < before.length) :
      (before ++ rest)[place]? = before[place]? := List.getElem?_append_left inside
  constructor
  · rintro ⟨first, content, ⟨less, texts⟩, found, trimmed⟩
    exact ⟨first, content, ⟨less, fun k more inside => same k inside ▸ texts k more inside⟩,
      same first less ▸ found, trimmed⟩
  · rintro ⟨first, content, ⟨less, texts⟩, found, trimmed⟩
    exact ⟨first, content, ⟨less, fun k more inside => (same k inside).symm ▸ texts k more inside⟩,
      (same first less).symm ▸ found, trimmed⟩

/-- Behind text the remark is the one before it. -/
theorem isRemarkAt_concat_text (nodes : List Xml.Node) (content : List Char) (text : String) :
    IsRemarkAt (nodes ++ [.text content]) (nodes.length + 1) text ↔
      IsRemarkAt nodes nodes.length text := by
  have last : (nodes ++ [.text content])[nodes.length]? = some (.text content) := by simp
  rw [← isRemarkAt_append nodes [.text content]]
  constructor
  · rintro ⟨first, comment, ⟨less, texts⟩, found, trimmed⟩
    rcases Nat.lt_succ_iff_lt_or_eq.1 less with inside | rfl
    · exact ⟨first, comment, ⟨inside, fun k more below => texts k more (Nat.lt_succ_of_lt below)⟩, found,
        trimmed⟩
    · cases last.symm.trans found
  · rintro ⟨first, comment, ⟨less, texts⟩, found, trimmed⟩
    refine ⟨first, comment, ⟨Nat.lt_succ_of_lt less, fun k more below => ?_⟩, found, trimmed⟩
    rcases Nat.lt_succ_iff_lt_or_eq.1 below with inside | rfl
    · exact texts k more inside
    · exact ⟨content, last⟩

/-- Behind any other node the remark is that node's, if it is a comment. -/
theorem isRemarkAt_concat {node : Xml.Node} (other : ∀ text, node ≠ .text text)
    (nodes : List Xml.Node) (text : String) :
    IsRemarkAt (nodes ++ [node]) (nodes.length + 1) text ↔
      ∃ content, node = .comment content ∧ Text.trimmed? content = some text := by
  have last : (nodes ++ [node])[nodes.length]? = some node := by simp
  constructor
  · rintro ⟨first, content, ⟨less, texts⟩, found, trimmed⟩
    rcases Nat.lt_succ_iff_lt_or_eq.1 less with inside | rfl
    · obtain ⟨text, same⟩ := texts nodes.length inside (Nat.lt_succ_self _)
      exact absurd (Option.some.inj (last.symm.trans same)) (other text)
    · exact ⟨content, Option.some.inj (last.symm.trans found), trimmed⟩
  · rintro ⟨content, rfl, trimmed⟩
    exact ⟨nodes.length, content, ⟨Nat.lt_succ_self _, fun k more inside => by omega⟩, last, trimmed⟩

/-- **The remark that is carried to a place** is the comment just before it. -/
theorem foldl_remarkBehind_eq_some_iff (nodes : List Xml.Node) (text : String) :
    nodes.foldl remarkBehind none = some text ↔ IsRemarkAt nodes nodes.length text := by
  -- from the right: the last node is the one that decides, unless it is text
  induction nodes using List.reverseRecOn with
  | nil => simp [IsRemarkAt, IsJustBefore]
  | append_singleton nodes node ih =>
      rw [List.foldl_append, List.foldl_cons, List.foldl_nil, List.length_append, List.length_singleton]
      cases node with
      | text content => rw [isRemarkAt_concat_text, ← ih, remarkBehind]
      | comment content => simp [isRemarkAt_concat, remarkBehind]
      | instruction target data => simp [isRemarkAt_concat, remarkBehind]
      | reference name => simp [isRemarkAt_concat, remarkBehind]
      | element head children => simp [isRemarkAt_concat, remarkBehind]

/-! ## Strings -/

/-- The string of an element, given the remark before it. -/
def stringFor (path : Path) (document : Xml.Document) (remark : Option String)
    (element : Xml.Head × List Xml.Node) : Translatable :=
  { Translatable.ofText (textIn document element) with
    name := some (nameIn document.doctype element.1)
    developerComments := remark
    references := [path.absolute.toString ++ ":" ++ toString element.1.line] }

/-- The strings of a node: one, if it is an element that has a string. -/
def stringsFor (path : Path) (document : Xml.Document) (remark : Option String) (node : Xml.Node) :
    List Translatable :=
  (stringElement? document.doctype node).toList.map (stringFor path document remark)

/-- An element for strings comes to its string, or to none if it has none. -/
theorem all?_stringReading_eq (path : Path) (document : Xml.Document) (remark : Option String)
    {head : Xml.Head} (tag : head.fullName = "string".toList) (content : List Xml.Node) :
    (stringReading (settingOf path document) remark head content).all? =
      .ok (stringsFor path document remark (.element head content)) := by
  have name : (settingOf path document).value? head "name" = valueIn document.doctype head "name" :=
    rfl
  have translatable : (settingOf path document).value? head "translatable" =
      valueIn document.doctype head "translatable" := rfl
  have asked : hasString document.doctype head = (nameIn document.doctype head != "" &&
      Text.lower ((valueIn document.doctype head "translatable").getD "true") != "false") := by
    rw [hasString, tag, beq_self_eq_true, Bool.true_and]
  rw [stringReading, name, translatable, stringsFor, stringElement?, asked]
  dsimp only
  -- the reader asks for a name first, and then whether the string is to be translated
  split
  · next none =>
    rw [show nameIn document.doctype head = "" from beq_iff_eq.1 none]
    rfl
  · next named =>
    rw [show (nameIn document.doctype head != "") = true by simpa [nameIn] using named, Bool.true_and]
    split
    · next out =>
      rw [beq_iff_eq.1 out]
      rfl
    · next stays =>
      rw [if_pos (by simpa using stays)]
      rfl

/-- **One node of a root** comes to its strings, and leaves a remark for those that follow. -/
theorem all?_childReadings_cons (path : Path) (document : Xml.Document) (remark : Option String)
    (node : Xml.Node) (nodes : List Xml.Node) :
    (Reading.sequence (childReadings (settingOf path document) remark (node :: nodes))).all? =
      (Reading.sequence (childReadings (settingOf path document) (remarkBehind remark node)
        nodes)).all?.map (stringsFor path document remark node ++ ·) := by
  have silent (reading : Reading) : reading.all? = reading.all?.map ([] ++ ·) := by
    cases reading.all? <;> rfl
  cases node with
  | text content => exact silent _
  | comment content => exact silent _
  | instruction target data => exact Reading.all?_append rfl
  | reference name => exact Reading.all?_append rfl
  | element head content =>
      rw [childReadings]
      split
      · next tag =>
        exact Reading.all?_append (all?_stringReading_eq path document remark (by simpa using tag) content)
      · next other =>
        have none : stringsFor path document remark (.element head content) = [] := by
          rw [stringsFor, stringElement?, hasString, Bool.eq_false_iff.2 other]
          rfl
        rw [none]
        exact Reading.all?_append rfl

/-- **The string of the element with some number** among the nodes of a document. -/
structure IsStringAt (path : Path) (document : Xml.Document) (place : Nat) (string : Translatable) :
    Prop where
  /-- It has the name and the text of the element, and the line of its start tag is the one reference. -/
  element : ∃ head content, document.children[place]? = some (.element head content) ∧
    string.name = valueIn document.doctype head "name" ∧
    string.singular = textIn document (head, content) ∧
    string.references = [path.absolute.toString ++ ":" ++ toString head.line]
  /-- There is no plural. -/
  plural : string.plural = none
  /-- There are no translations. -/
  translations : string.translations = none
  /-- There are no remarks by translators. -/
  translatorComments : string.translatorComments = none
  /-- There is no format hint. -/
  formatHint : string.formatHint = none
  /-- The remark is the comment just before the element, if there is one that is not blank. -/
  remark : ∀ text, string.developerComments = some text ↔ IsRemarkAt document.children place text

/-- A node that has a string is an element. -/
theorem exists_of_stringElement? {doctype : Xml.Doctype} {node : Xml.Node}
    {element : Xml.Head × List Xml.Node} (h : stringElement? doctype node = some element) :
    ∃ head content, node = .element head content ∧ element = (head, content) ∧
      hasString doctype head = true := by
  unfold stringElement? at h
  split at h
  · next head content =>
    split at h
    · next some => exact ⟨head, content, rfl, (Option.some.inj h).symm, some⟩
    · cases h
  · cases h

/-- The numbers of the nodes that have a string, counted from some number on. -/
def placesFrom (doctype : Xml.Doctype) (number : Nat) (nodes : List Xml.Node) : List Nat :=
  ((nodes.zipIdx number).filter fun placed => (stringElement? doctype placed.1).isSome).map Prod.snd

/-- The numbers of more nodes. -/
theorem placesFrom_cons (doctype : Xml.Doctype) (number : Nat) (node : Xml.Node)
    (nodes : List Xml.Node) : placesFrom doctype number (node :: nodes) =
      (stringElement? doctype node).toList.map (fun _ => number) ++
        placesFrom doctype (number + 1) nodes := by
  cases found : stringElement? doctype node <;> simp [placesFrom, found]

/-- The string of an element behind some nodes, with the remark that is carried to it. -/
theorem isStringAt_stringFor (path : Path) {document : Xml.Document} {before nodes : List Xml.Node}
    {head : Xml.Head} {content : List Xml.Node}
    (whole : document.children = before ++ .element head content :: nodes)
    (h : hasString document.doctype head = true) :
    IsStringAt path document before.length
      (stringFor path document (before.foldl remarkBehind none) (head, content)) where
  element := by
    obtain ⟨name, found, -⟩ := (hasString_iff.1 h).named
    refine ⟨head, content, by simp [whole], ?_, rfl, rfl⟩
    rw [found, stringFor, nameIn, found]
    rfl
  plural := rfl
  translations := rfl
  translatorComments := rfl
  formatHint := rfl
  remark text := by
    rw [whole, isRemarkAt_append, ← foldl_remarkBehind_eq_some_iff]
    rfl

/-- **The strings of the nodes behind others,** with the remark that is carried to them, are those of the
elements among them. -/
theorem exists_forall₂_isStringAt (path : Path) (document : Xml.Document) {before nodes : List Xml.Node}
    (whole : document.children = before ++ nodes) :
    ∃ strings, (Reading.sequence (childReadings (settingOf path document)
        (before.foldl remarkBehind none) nodes)).all? = .ok strings ∧
      List.Forall₂ (IsStringAt path document) (placesFrom document.doctype before.length nodes)
        strings := by
  induction nodes generalizing before with
  | nil => exact ⟨[], rfl, .nil⟩
  | cons node nodes ih =>
      obtain ⟨strings, read, known⟩ := @ih (before ++ [node]) (by rw [whole, List.append_assoc]; rfl)
      rw [List.foldl_append, List.foldl_cons, List.foldl_nil] at read
      refine ⟨stringsFor path document (before.foldl remarkBehind none) node ++ strings, ?_, ?_⟩
      · rw [all?_childReadings_cons, read]
        rfl
      · rw [placesFrom_cons, stringsFor]
        rw [List.length_append, List.length_singleton] at known
        refine List.rel_append ?_ known
        cases found : stringElement? document.doctype node with
        | none => exact .nil
        | some element =>
            obtain ⟨head, content, rfl, rfl, h⟩ := exists_of_stringElement? found
            exact .cons (isStringAt_stringFor path whole h) .nil

/-- The numbers are those of the elements to be translated. -/
theorem mem_placesFrom_iff {doctype : Xml.Doctype} {nodes : List Xml.Node} {place : Nat} :
    place ∈ placesFrom doctype 0 nodes ↔
      ∃ head content, nodes[place]? = some (.element head content) ∧ IsTranslatable doctype head := by
  simp only [placesFrom, List.mem_map, List.mem_filter, Prod.exists, exists_eq_right,
    List.mem_zipIdx_iff_getElem?]
  constructor
  · rintro ⟨node, there, some⟩
    obtain ⟨element, found⟩ := Option.isSome_iff_exists.1 some
    obtain ⟨head, content, rfl, -, h⟩ := exists_of_stringElement? found
    exact ⟨head, content, there, hasString_iff.1 h⟩
  · rintro ⟨head, content, there, h⟩
    exact ⟨_, there, by rw [stringElement?, if_pos (hasString_iff.2 h)]; rfl⟩

/-- `(placesFrom doctype number nodes).Pairwise (· < ·)`: the numbers ascend. -/
theorem pairwise_placesFrom (doctype : Xml.Doctype) (number : Nat) (nodes : List Xml.Node) :
    (placesFrom doctype number nodes).Pairwise (· < ·) := by
  have all : ((nodes.zipIdx number).map Prod.snd).Pairwise (· < ·) := by
    rw [List.zipIdx_map_snd]
    exact List.pairwise_lt_range'
  exact all.sublist (List.filter_sublist.map _)

/-- **The strings of a document** whose root is the one of resources, in no namespace, are
`IsStringAt` the `places` of its elements to be translated (`IsTranslatable`), one for each of them
and in their order. The remark on a string is the comment just before its element (`IsJustBefore`),
if there is one that is not blank; no comment is just before two of them. -/
theorem readBytes_children (path : Path) {bytes : List UInt8} {document : Xml.Document}
    (read : Xml.Document.ofBytes? bytes = some document) (space : document.head.uri = none)
    (root : document.head.name.text = "resources".toList) :
    ∃ places strings, (readBytes path bytes).all? = .ok strings ∧
      (∀ place, place ∈ places ↔ ∃ head content,
        document.children[place]? = some (.element head content) ∧
          IsTranslatable document.doctype head) ∧
      places.Pairwise (· < ·) ∧
      List.Forall₂ (IsStringAt path document) places strings ∧
      ∀ first, ∀ place ∈ places, ∀ other ∈ places, IsJustBefore document.children first place →
        IsJustBefore document.children first other → place = other := by
  have full : document.head.fullName = "resources".toList := (fullName_eq_iff (by decide)).2 ⟨space, root⟩
  obtain ⟨strings, all, known⟩ :=
    @exists_forall₂_isStringAt path document [] document.children rfl
  refine ⟨_, strings, ?_, fun place => mem_placesFrom_iff, pairwise_placesFrom _ _ _, known, ?_⟩
  · rw [readBytes, read]
    simp only [full, beq_self_eq_true, if_true]
    exact all
  · intro first place one other two before behind
    obtain ⟨head, content, element, -⟩ := mem_placesFrom_iff.1 one
    obtain ⟨head', content', second, -⟩ := mem_placesFrom_iff.1 two
    exact before.eq behind element second

/-- Two comments before a string, and one before a string that is not to be translated: only the comment
just before a string that is read is kept. -/
theorem readBytes_children_two :
    let bytes := Text.encode ("<resources>\n<!-- one --><!-- two -->\n<string name='a'>it\\'s</string>" ++
      "<!-- three --><string name='b' translatable='FALSE'/>\n<string name='c'>&lt;<b/></string></resources>")
    ∃ document places, Xml.Document.ofBytes? bytes = some document ∧ document.head.uri = none ∧
      document.head.name.text = "resources".toList ∧
      List.Forall₂ (IsStringAt (.ofString "a.xml") document) places
        [⟨"it's", some "a", none, none, none, some "two", ["/w/a.xml:3"], none, {}⟩,
          ⟨"&lt;<b/>", some "c", none, none, none, none, ["/w/a.xml:4"], none, {}⟩] := by
  intro bytes
  have read : ((Xml.Document.ofBytes? bytes).map fun document =>
      (document.head.uri, document.head.name.text)) = some (none, "resources".toList) := by
    decide +kernel
  obtain ⟨document, found, root⟩ := Option.map_eq_some_iff.1 read
  obtain ⟨space, tag⟩ := Prod.mk.inj root
  obtain ⟨places, strings, all, -, -, known, -⟩ :=
    readBytes_children (.ofString "a.xml") found space tag
  have same : (readBytes (.ofString "a.xml") bytes).all? = .ok
      [⟨"it's", some "a", none, none, none, some "two", ["/w/a.xml:3"], none, {}⟩,
        ⟨"&lt;<b/>", some "c", none, none, none, none, ["/w/a.xml:4"], none, {}⟩] := by
    decide +kernel
  obtain rfl := Except.ok.inj (all.symm.trans same)
  exact ⟨document, places, found, space, tag, known⟩

end StringCatalog.Resource
