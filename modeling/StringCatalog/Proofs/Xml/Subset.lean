import StringCatalog.Proofs.Xml.Document

/-! # Document types of legal texts

* **`Xml.Scan.Gives`** — a reader that gives values of a kind and leaves legal characters.
* **`Xml.Doctype.IsLegal`** — a document type whose texts are legal.
* **`Xml.isLegal_of_readProlog?`** — the document type that stands before a root is one. -/

namespace StringCatalog.Xml

/-! ## Readers -/

namespace Scan

/-- **A reader that gives values of a kind:** from a legal text it gives such a value, and what it
leaves is legal too. -/
def Gives {α : Type} (scan : Scan α) (kind : α → Prop) : Prop :=
  ∀ text : List Char, text.all isChar → ∀ value rest, scan text = some (value, rest) →
    kind value ∧ rest.all isChar

section

variable {α β : Type} {scan other : Scan α} {kind : α → Prop} {next : α → Scan β} {good : β → Prop}

/-- `scan >>= next` gives what `next` gives for all that the scan gives. -/
theorem Gives.bind (first : scan.Gives kind) (second : ∀ value, kind value → (next value).Gives good) :
    Gives (scan >>= next) good := by
  intro text legal value rest read
  rw [bind_apply] at read
  obtain ⟨⟨before, after⟩, found, read⟩ := Option.bind_eq_some_iff.1 read
  obtain ⟨known, left⟩ := first text legal before after found
  exact second before known after left value rest read

/-- `pure value` gives the value. -/
theorem Gives.pure {value : α} (h : kind value) : Gives (pure value) kind := by
  intro text legal found rest read
  rw [pure_apply] at read
  cases read
  exact ⟨h, legal⟩

/-- What fails gives anything. -/
theorem gives_fail : Gives (fail : Scan α) kind := by
  intro text legal value rest read
  cases read

/-- Both branches have to give it. -/
theorem Gives.ite {condition : Prop} [Decidable condition] (yes : condition → scan.Gives kind)
    (no : ¬condition → other.Gives kind) : Gives (if condition then scan else other) kind := by
  split
  · exact yes ‹_›
  · exact no ‹_›

end

/-- Any value is of this kind. -/
def Any {α : Type} (_ : α) : Prop := True

/-- What is read first only in some case does not matter for what is read then. -/
theorem Gives.optional {β : Type} {condition : Prop} [Decidable condition] {first : Scan Unit}
    {next : Unit → Scan β} {good : β → Prop} (before : first.Gives Any) (h : (next ()).Gives good) :
    Gives (if condition then first >>= next else next ()) good :=
  .ite (fun _ => .bind before fun _ _ => h) fun _ => h

/-- The end of a legal text is legal. -/
theorem all_of_suffix {text rest : List Char} (legal : text.all isChar) (part : rest <:+ text) :
    rest.all isChar :=
  List.all_eq_true.2 fun c member => List.all_eq_true.1 legal c (part.subset member)

/-- So is what is behind blanks. -/
theorem all_isChar_skipBlanks {text : List Char} (legal : text.all isChar) :
    (skipBlanks text).all isChar :=
  all_of_suffix legal (List.dropWhile_suffix _)

/-- A word that may be there. -/
theorem gives_accept (word : String) : (accept word).Gives Any := by
  intro text legal value rest read
  unfold accept at read
  split at read
  · cases read
    exact ⟨trivial, all_of_suffix legal (List.drop_suffix _ _)⟩
  · cases read
    exact ⟨trivial, legal⟩

/-- A word that has to be there. -/
theorem gives_expect (word : String) : (expect word).Gives Any := by
  intro text legal value rest read
  unfold expect at read
  split at read
  · cases read
    exact ⟨trivial, all_of_suffix legal (List.drop_suffix _ _)⟩
  · cases read

/-- A word that is only looked for. -/
theorem gives_sees (word : String) : (sees word).Gives Any := by
  intro text legal value rest read
  cases read
  exact ⟨trivial, legal⟩

/-- What is left of a legal text is legal. -/
theorem gives_rest : rest.Gives (·.all isChar) := by
  intro text legal value rest read
  cases read
  exact ⟨legal, legal⟩

/-- The characters of a class. -/
theorem gives_takeWhile (belongs : Char → Bool) : (takeWhile belongs).Gives Any := by
  intro text legal value rest read
  cases read
  exact ⟨trivial, all_of_suffix legal (List.dropWhile_suffix _)⟩

/-- Blanks that may be there. -/
theorem gives_blanks : blanks.Gives Any := by
  intro text legal value rest read
  cases read
  exact ⟨trivial, all_of_suffix legal (List.dropWhile_suffix _)⟩

/-- Blanks that have to be there. -/
theorem gives_space : space.Gives Any := by
  intro text legal value rest read
  unfold space at read
  split at read
  · next c more =>
    split at read
    · cases read
      exact ⟨trivial, all_of_suffix legal ((List.dropWhile_suffix _).trans (List.suffix_cons c more))⟩
    · cases read
  · cases read

/-- `name` gives a name. -/
theorem gives_name : name.Gives (isName ·) := by
  intro text legal value rest read
  unfold name at read
  dsimp only at read
  split at read
  · next known =>
    cases read
    exact ⟨known, all_of_suffix legal (List.dropWhile_suffix _)⟩
  · cases read

/-- Characters of names. -/
theorem gives_nameToken : nameToken.Gives Any := by
  unfold nameToken
  exact .bind (gives_takeWhile _) fun found _ => .ite (fun _ => gives_fail) fun _ => .pure trivial

/-- What stands in quotes is legal. -/
theorem gives_quoted : quoted.Gives (·.all isChar) := by
  intro text legal value rest read
  obtain ⟨quote, rfl⟩ := exists_of_readQuoted? read
  rw [List.all_cons, List.all_append, List.all_cons] at legal
  simp only [Bool.and_eq_true] at legal
  exact ⟨legal.2.1, legal.2.2.2⟩

/-- What stands before a mark is legal. -/
theorem gives_before (mark : String) : (before mark).Gives (·.all isChar) := by
  intro text legal value rest read
  unfold before at read
  induction text generalizing value with
  | nil => cases read
  | cons c text ih =>
      rw [before.find] at read
      split at read
      · cases read
        exact ⟨rfl, all_of_suffix legal (List.drop_suffix _ _)⟩
      · obtain ⟨⟨inner, after⟩, found, equal⟩ := Option.map_eq_some_iff.1 read
        cases equal
        rw [List.all_cons, Bool.and_eq_true] at legal
        obtain ⟨known, left⟩ := ih legal.2 inner found
        refine ⟨?_, left⟩
        show (c :: inner).all isChar
        rw [List.all_cons, legal.1, show inner.all isChar from known]
        rfl

end Scan

open Scan

/-! ## Parts of declarations -/

/-- A public identifier. -/
theorem gives_publicLiteral : publicLiteral.Gives Any := by
  unfold publicLiteral
  exact .bind gives_quoted fun inner _ => .ite (fun _ => .pure trivial) fun _ => gives_fail

/-- An external identifier. -/
theorem gives_externalId (mayEnd : Bool) : (externalId mayEnd).Gives Any := by
  have literal : Gives (do let _ ← quoted; return true) Any :=
    .bind gives_quoted fun _ _ => .pure trivial
  unfold externalId
  refine .bind (gives_accept _) fun _ _ => .ite (fun _ => ?_) fun _ => ?_
  · exact .bind gives_space fun _ _ => literal
  · refine .bind (gives_accept _) fun _ _ => .ite (fun _ => ?_) fun _ => .pure trivial
    refine .bind gives_space fun _ _ => .bind gives_publicLiteral fun _ _ => .ite (fun _ => ?_)
      fun _ => .bind gives_space fun _ _ => literal
    -- behind a public identifier there is another one only if it looks like it
    refine .bind gives_rest fun text _ => ?_
    split
    · exact .ite (fun _ => .bind gives_blanks fun _ _ => literal) fun _ => .pure trivial
    · exact .pure trivial

/-- How often something may occur. -/
theorem gives_occurrence : occurrence.Gives Any := by
  unfold occurrence
  refine .bind (?_ : Gives _ Any) fun _ _ => .pure trivial
  refine .bind (gives_accept _) fun _ _ => .ite (fun _ => .pure trivial) fun _ => ?_
  exact .bind (gives_accept _) fun _ _ => .ite (fun _ => .pure trivial) fun _ => gives_accept _

/-- The content of an element; the induction is on the bound of nested brackets. -/
theorem gives_contentModel (bound : Nat) (separator : Option Char) :
    (contentModel bound separator).Gives Any := by
  induction bound generalizing separator with
  | zero => exact gives_fail
  | succ bound ih =>
      have separates : Gives (do if ← accept "," then return ',' else do expect "|"; return '|')
          Any :=
        .bind (gives_accept _) fun _ _ => .ite (fun _ => .pure trivial) fun _ =>
          .bind (gives_expect _) fun _ _ => .pure trivial
      have behind : Gives (do
          occurrence
          blanks
          if ← accept ")" then return ()
          else
            let found ← (do if ← accept "," then return ',' else do expect "|"; return '|')
            if separator.isSome && separator != some found then fail
            else contentModel bound (some found)) Any :=
        .bind gives_occurrence fun _ _ => .bind gives_blanks fun _ _ =>
          .bind (gives_accept _) fun _ _ => .ite (fun _ => .pure trivial) fun _ =>
            .bind separates fun found _ => .ite (fun _ => gives_fail) fun _ => ih (some found)
      unfold contentModel
      refine .bind gives_blanks fun _ _ => .bind (gives_accept _) fun _ _ => .ite (fun _ => ?_)
        fun _ => ?_
      · exact .bind (ih none) fun _ _ => behind
      · exact .bind gives_name fun _ _ => behind

/-- The names of mixed content. -/
theorem gives_mixedNames (bound : Nat) : (mixedNames bound).Gives Any := by
  induction bound with
  | zero => exact gives_fail
  | succ bound ih =>
      unfold mixedNames
      refine .bind gives_blanks fun _ _ => .bind (gives_accept _) fun _ _ => .ite (fun _ => ?_)
        fun _ => gives_expect _
      exact .bind gives_blanks fun _ _ => .bind gives_name fun _ _ => ih

/-- The content of an element, or the word for it. -/
theorem gives_contentSpec (bound : Nat) : (contentSpec bound).Gives Any := by
  unfold contentSpec
  refine .bind (gives_accept _) fun _ _ => .ite (fun _ => .pure trivial) fun _ => ?_
  refine .bind (gives_accept _) fun _ _ => .ite (fun _ => .pure trivial) fun _ => ?_
  refine .bind (gives_expect _) fun _ _ => .bind gives_blanks fun _ _ =>
    .bind (gives_accept _) fun _ _ => .ite (fun _ => ?_) fun _ => ?_
  · refine .bind gives_blanks fun _ _ => .bind (gives_accept _) fun _ _ => .ite (fun _ => ?_)
      fun _ => gives_mixedNames bound
    exact .bind (gives_accept _) fun _ _ => .pure trivial
  · exact .bind (gives_contentModel bound none) fun _ _ => gives_occurrence

/-- The values that an attribute may have. -/
theorem gives_enumeration {value : Scan (List Char)} (h : value.Gives Any) (bound : Nat) :
    (enumeration value bound).Gives Any := by
  induction bound with
  | zero => exact gives_fail
  | succ bound ih =>
      unfold enumeration
      refine .bind gives_blanks fun _ _ => .bind h fun _ _ => .bind gives_blanks fun _ _ => ?_
      exact .bind (gives_accept _) fun _ _ => .ite (fun _ => ih) fun _ => gives_expect _

/-- One of several words. -/
theorem gives_acceptAny (words : List String) : (acceptAny words).Gives Any := by
  induction words with
  | nil => exact .pure trivial
  | cons word words ih =>
      unfold acceptAny
      exact .bind (gives_accept _) fun _ _ => .ite (fun _ => .pure trivial) fun _ => ih

/-- The type of an attribute. -/
theorem gives_attributeType (bound : Nat) : (attributeType bound).Gives Any := by
  have any : name.Gives Any := fun text legal value rest read =>
    ⟨trivial, (gives_name text legal value rest read).2⟩
  unfold attributeType
  refine .bind (gives_accept _) fun _ _ => .ite (fun _ => .pure trivial) fun _ => ?_
  refine .bind (gives_acceptAny _) fun _ _ => .ite (fun _ => .pure trivial) fun _ => ?_
  refine .bind (gives_accept _) fun _ _ => .ite (fun _ => ?_) fun _ => ?_
  · exact .bind gives_space fun _ _ => .bind (gives_expect _) fun _ _ =>
      .bind (gives_enumeration any bound) fun _ _ => .pure trivial
  · exact .bind (gives_expect _) fun _ _ =>
      .bind (gives_enumeration gives_nameToken bound) fun _ _ => .pure trivial

/-- The default of an attribute is legal. -/
theorem gives_attributeDefault : attributeDefault.Gives (∀ raw ∈ ·, raw.all isChar) := by
  have value : Gives (do let value ← quoted; return some value) (∀ raw ∈ ·, raw.all isChar) :=
    .bind gives_quoted fun value legal => .pure (by simpa using legal)
  unfold attributeDefault
  refine .bind (gives_accept _) fun _ _ => .ite (fun _ => .pure (by simp)) fun _ => ?_
  refine .bind (gives_accept _) fun _ _ => .ite (fun _ => .pure (by simp)) fun _ => ?_
  refine .bind (gives_accept _) fun _ _ => .ite (fun _ => ?_) fun _ => ?_
  · exact .bind gives_space fun _ _ => value
  · exact value

/-! ## The text of an entity -/

/-- A name is legal. -/
theorem isChar_of_isName {text : List Char} (h : isName text) : text.all isChar :=
  List.all_eq_true.2 (isTagText_name h).legal

/-- A reference to a name is legal. -/
theorem all_isChar_referenceText {name : List Char} (h : isName name) :
    (referenceText name).all isChar := by
  rw [referenceText, List.all_append, List.all_cons, isChar_of_isName h]
  decide

/-- The text of an entity is legal. -/
theorem all_isChar_of_entityText? {raw text : List Char} (legal : raw.all isChar)
    (h : entityText? raw = some text) : text.all isChar := by
  fun_induction entityText? raw generalizing text with
  | case1 =>
      cases h
      rfl
  | case2 => cases h
  | case3 => cases h
  | case4 => cases h
  -- a reference in the text: it stays, or it is one to a character that is legal
  | case5 c rest _ _ inner after cut shorter word read ih =>
      obtain ⟨more, found, rfl⟩ := Option.map_eq_some_iff.1 h
      have behind : after.all isChar := by
        rw [List.all_cons, (Text.cutAt?_eq_some cut).1] at legal
        simp_all
      have first : word.all isChar := by
        unfold entityReference? at read
        split at read
        · split at read
          · next found =>
            cases read
            simpa using isChar_of_readReference? found
          · cases read
        · split at read
          · next known =>
            cases read
            exact all_isChar_referenceText known
          · cases read
      rw [List.all_append, first, ih behind found]
      rfl
  | case6 c rest _ _ ih =>
      obtain ⟨more, found, rfl⟩ := Option.map_eq_some_iff.1 h
      rw [List.all_cons, Bool.and_eq_true] at legal
      rw [List.all_cons, isChar_lineFeed legal.1, ih legal.2 found]
      rfl

/-! ## Declarations -/

/-- **An entity whose text is legal.** -/
def Entity.IsLegal : Entity → Prop
  | .internal content => content.all isChar
  | _ => True

/-- **A rule for an attribute with a name** and a legal default. -/
structure AttributeRule.IsLegal (rule : AttributeRule) : Prop where
  /-- The name is one. -/
  name : isName rule.name
  /-- The characters of the default are legal. -/
  fallback : ∀ raw ∈ rule.fallback, raw.all isChar

/-- **A declaration whose texts are legal.** -/
def Declaration.IsLegal : Declaration → Prop
  | .entity _ _ value => value.IsLegal
  | .attributes _ rules => ∀ rule ∈ rules, rule.IsLegal
  | _ => True

/-- The declaration of an entity is legal. -/
theorem gives_entityDeclaration : entityDeclaration.Gives Declaration.IsLegal := by
  have ends {found : Declaration} (h : found.IsLegal) :
      Gives (do expect ">"; return found) Declaration.IsLegal :=
    .bind (gives_expect _) fun _ _ => .pure h
  unfold entityDeclaration
  refine .bind gives_space fun _ _ => .bind (gives_accept _) fun isParameter _ =>
    .optional gives_space (.bind gives_name fun found _ => .bind gives_space fun _ _ =>
      .bind gives_rest fun text _ => ?_)
  split
  · refine .ite (fun _ => .bind gives_quoted fun raw legal => ?_) fun _ => ?_
    · split
      · exact gives_fail
      · next content read =>
        have known : Declaration.IsLegal (.entity isParameter found (.internal content)) :=
          all_isChar_of_entityText? legal read
        exact .bind gives_blanks fun _ _ => ends known
    -- the text is elsewhere, or there is none
    · refine .bind (gives_externalId false) fun _ _ => .optional gives_fail ?_
      refine .bind gives_rest fun after _ => .bind gives_blanks fun _ _ =>
        .ite (fun _ => ends trivial) fun _ => .bind (gives_sees _) fun _ _ =>
          .ite (fun _ => .optional gives_fail ?_) fun _ => ends trivial
      exact .bind (gives_expect _) fun _ _ => .bind gives_space fun _ _ =>
        .bind gives_name fun _ _ => .bind gives_blanks fun _ _ => ends trivial
  · exact gives_fail

/-- So are those of attributes. -/
theorem gives_attributeRules (bound : Nat) :
    (attributeRules bound).Gives (∀ rule ∈ ·, rule.IsLegal) := by
  induction bound with
  | zero => exact gives_fail
  | succ bound ih =>
      unfold attributeRules
      refine .bind (gives_accept _) fun _ _ => .ite (fun _ => .pure (by simp)) fun _ => ?_
      refine .bind gives_name fun found known => .bind gives_space fun _ _ =>
        .bind (gives_attributeType bound) fun isTrimmed _ => .bind gives_space fun _ _ =>
          .bind gives_attributeDefault fun fallback legal => .bind (gives_sees _) fun _ _ =>
            .optional gives_space (.bind ih fun more rest => .pure ?_)
      exact List.forall_mem_cons.2 ⟨⟨known, legal⟩, rest⟩

/-- **Any declaration is legal.** -/
theorem gives_declaration (bound : Nat) : (declaration bound).Gives Declaration.IsLegal := by
  unfold declaration
  refine .bind (gives_accept _) fun _ _ => .ite (fun _ => ?_) fun _ => ?_
  · exact .bind (gives_before _) fun _ _ => .ite (fun _ => .pure trivial) fun _ => gives_fail
  refine .bind (gives_accept _) fun _ _ => .ite (fun _ => ?_) fun _ => ?_
  · refine .bind (gives_before _) fun _ _ => ?_
    split
    · exact .pure trivial
    · exact gives_fail
  refine .bind (gives_accept _) fun _ _ => .ite (fun _ => gives_entityDeclaration) fun _ => ?_
  refine .bind (gives_accept _) fun _ _ => .ite (fun _ => ?_) fun _ => ?_
  · exact .bind gives_space fun _ _ => .bind gives_name fun _ _ => .bind gives_space fun _ _ =>
      .bind (gives_contentSpec bound) fun _ _ => .bind gives_blanks fun _ _ =>
        .bind (gives_expect _) fun _ _ => .pure trivial
  refine .bind (gives_accept _) fun _ _ => .ite (fun _ => ?_) fun _ => ?_
  · exact .bind gives_space fun _ _ => .bind gives_name fun _ _ => .bind (gives_sees _) fun _ _ =>
      .optional gives_space (.bind (gives_attributeRules bound) fun _ rules => .pure rules)
  · exact .bind (gives_expect _) fun _ _ => .bind gives_space fun _ _ =>
      .bind gives_name fun _ _ => .bind gives_space fun _ _ =>
        .bind (gives_externalId true) fun _ _ => .optional gives_fail
          (.bind gives_blanks fun _ _ => .bind (gives_expect _) fun _ _ => .pure trivial)

/-! ## Document types -/

/-- **A binding of a prefix without a colon** to a legal text. -/
structure Binding.IsSound (binding : Binding) : Prop where
  /-- The characters of the namespace are legal. -/
  legal : binding.uri.all isChar
  /-- The prefix is a name without a colon. -/
  lead : ∀ lead ∈ binding.lead, isPlainName lead

namespace Doctype

/-- **A document type whose texts are legal.** -/
structure IsLegal (doctype : Doctype) : Prop where
  /-- The entities. -/
  entities : ∀ entry ∈ doctype.entities, entry.2.IsLegal
  /-- The entities that only declarations refer to. -/
  parameters : ∀ entry ∈ doctype.parameters, entry.2.IsLegal
  /-- The bindings that elements declare without writing them. -/
  bindings : ∀ entry ∈ doctype.bindings, entry.2.IsSound

/-- A document type in which nothing is declared is legal. -/
theorem isLegal_none (remark : Option Remark) (isOpen : Bool) :
    IsLegal { none with isOpen, remark } :=
  ⟨by simp [none], by simp [none], by simp [none]⟩

/-- Remarks keep a document type legal. -/
theorem IsLegal.remarked {doctype : Doctype} (h : doctype.IsLegal) (remarks : List Remark) :
    (doctype.remarked remarks).IsLegal :=
  ⟨h.entities, h.parameters, h.bindings⟩

/-- The entity of a name is legal. -/
theorem isLegal_of_lookup {entries : List (List Char × Entity)} {name : List Char} {entity : Entity}
    (h : ∀ entry ∈ entries, entry.2.IsLegal) (found : entries.lookup name = some entity) :
    entity.IsLegal := by
  obtain ⟨front, back, rfl, -⟩ := List.lookup_eq_some_iff.1 found
  exact h (name, entity) (by simp)

/-- **The characters of a value are legal.** -/
theorem IsLegal.all_isChar_valueText {doctype : Doctype} (h : doctype.IsLegal)
    {pieces : List Piece} (legal : ∀ c, .char c ∈ pieces → isChar c) :
    (doctype.valueText pieces).all isChar := by
  unfold valueText
  generalize doctype.entities.length + 1 = depth
  induction depth generalizing pieces with
  | zero => rfl
  | succ depth ih =>
      rw [expand, List.all_flatMap, List.all_eq_true]
      intro piece member
      cases piece with
      | char c => simpa using legal c member
      | reference name =>
          dsimp only
          -- a reference gives the characters of the entity's text, if it has one
          split
          · next content found =>
            have known : content.all isChar := isLegal_of_lookup h.entities found
            split
            · next inner read =>
              exact ih (isLegal_of_readPieces? (fun c => isChar_plainValueChar) known read)
            · rfl
          · rfl

/-- What all values have stays so if a new one has it. -/
theorem forall_mem_addNew {α β : Type} [BEq α] {pairs : List (α × β)} {key : α} {value : β}
    {belongs : β → Prop} (h : ∀ entry ∈ pairs, belongs entry.2) (one : belongs value) :
    ∀ entry ∈ addNew pairs key value, belongs entry.2 := by
  unfold addNew
  split
  · exact h
  · intro entry member
    rcases List.mem_append.1 member with member | member
    · exact h entry member
    · rwa [List.mem_singleton.1 member]

/-- A legal rule keeps a document type legal. -/
theorem IsLegal.addRule? {doctype next : Doctype} (h : doctype.IsLegal) {isStandalone : Bool}
    {element : List Char} {rule : AttributeRule} (legal : rule.IsLegal)
    (added : doctype.addRule? isStandalone element rule = some next) : next.IsLegal := by
  unfold Doctype.addRule? at added
  dsimp only at added
  -- without a default nothing but the type of the attribute is noted
  split at added
  · cases added
    exact ⟨h.entities, h.parameters, h.bindings⟩
  · next raw fallback =>
    split at added
    · cases added
    · split at added
      · cases added
      · next pieces read =>
        split at added
        · cases added
        · next remarks checked =>
          split at added
          · next lead declared =>
            split at added
            · cases added
              refine ⟨h.entities, h.parameters, fun entry member => ?_⟩
              rcases List.mem_append.1 member with member | member
              · exact h.bindings entry member
              · obtain rfl := List.mem_singleton.1 member
                have chars := isLegal_of_readPieces? (fun c => isChar_plainValueChar)
                  (legal.fallback raw fallback) read
                have name : (Name.ofText rule.name).IsRead := ⟨_, legal.name, rfl⟩
                exact ⟨h.all_isChar_valueText chars, name.isPlainName_of_declaredLead? declared⟩
            · cases added
              exact ⟨h.entities, h.parameters, h.bindings⟩
          · cases added
            exact ⟨h.entities, h.parameters, h.bindings⟩

/-- So do several. -/
theorem IsLegal.addRules? {doctype next : Doctype} (h : doctype.IsLegal) {isStandalone : Bool}
    {element : List Char} {rules : List AttributeRule} (legal : ∀ rule ∈ rules, rule.IsLegal)
    (added : rules.foldlM (Doctype.addRule? isStandalone element) doctype = some next) :
    next.IsLegal := by
  induction rules generalizing doctype with
  | nil =>
      cases added
      exact h
  | cons rule rules ih =>
      rw [List.forall_mem_cons] at legal
      rw [List.foldlM_cons] at added
      obtain ⟨first, one, rest⟩ := Option.bind_eq_some_iff.1 added
      exact ih (h.addRule? legal.1 one) legal.2 rest

/-- **A declaration whose texts are legal keeps the document type so.** -/
theorem IsLegal.declare? {doctype next : Doctype} (h : doctype.IsLegal) {isStandalone : Bool}
    {found : Declaration} (legal : found.IsLegal)
    (declared : doctype.declare? isStandalone found = some next) : next.IsLegal := by
  cases found with
  | comment =>
      cases declared
      exact h
  | instruction target =>
      cases declared
      exact h.remarked _
  | notationName name =>
      cases declared
      exact h.remarked _
  | element name =>
      rw [Doctype.declare?] at declared
      split at declared
      · cases declared
        exact h.remarked _
      · cases declared
        exact ⟨h.entities, h.parameters, h.bindings⟩
  | attributes element rules => exact h.addRules? legal declared
  | entity isParameter name value =>
      have odd := h.remarked (if name.contains ':' then [.error] else [])
      rw [Doctype.declare?] at declared
      split at declared
      · cases declared
        exact ⟨odd.entities, forall_mem_addNew odd.parameters legal, odd.bindings⟩
      · split at declared
        · cases declared
          exact odd.remarked _
        · cases declared
          exact ⟨forall_mem_addNew odd.entities legal, odd.parameters, odd.bindings⟩

end Doctype

/-! ## In front of the root -/

/-- **Declarations keep a document type legal,** and what is behind them is legal too. -/
theorem isLegal_of_readDeclarations? {isStandalone isInner : Bool} {bound : Nat}
    {doctype next : Doctype} {text rest : List Char} (h : doctype.IsLegal) (legal : text.all isChar)
    (read : readDeclarations? isStandalone isInner bound doctype text = some (next, rest)) :
    next.IsLegal ∧ rest.all isChar := by
  induction bound generalizing isInner doctype text next rest with
  | zero => cases read
  | succ bound ih =>
      have start := all_isChar_skipBlanks legal
      rw [readDeclarations?] at read
      split at read
      · split at read
        · cases read
          exact ⟨h, rfl⟩
        · cases read
      · next more found =>
        rw [found, List.all_cons, Bool.and_eq_true] at start
        split at read
        · cases read
        · cases read
          exact ⟨h, start.2⟩
      -- a reference to declarations, which are read in their place
      · next more found =>
        rw [found, List.all_cons, Bool.and_eq_true] at start
        have takes : Gives (do let found ← name; expect ";"; return found) (isName ·) :=
          .bind gives_name fun _ known => .bind (gives_expect _) fun _ _ => .pure known
        split at read
        · cases read
        · next word after taken =>
          obtain ⟨-, left⟩ := takes more start.2 word after taken
          have outer : Doctype.IsLegal { doctype with isOpen := true } :=
            ⟨h.entities, h.parameters, h.bindings⟩
          dsimp only at read
          split at read
          · split at read
            · cases read
            · exact ih (outer.remarked _) left read
          · next content known =>
            have inside : content.all isChar := Doctype.isLegal_of_lookup h.parameters known
            split at read
            · cases read
            · next inner behind first => exact ih (ih outer inside first).1 left read
          · exact ih outer left read
      · split at read
        · cases read
        · next found after declared =>
          obtain ⟨good, left⟩ := gives_declaration _ _ start found after declared
          split at read
          · cases read
          · next more one => exact ih (h.declare? good one) left read

/-- The document type that a text begins with is legal, and so is what is behind it. -/
theorem isLegal_of_readDoctype? {isStandalone : Bool} {remark : Option Remark}
    {doctype : Doctype} {text rest : List Char} (legal : text.all isChar)
    (read : readDoctype? isStandalone remark text = some (doctype, rest)) :
    doctype.IsLegal ∧ rest.all isChar := by
  have opening : Gives (do
      space
      let _ ← name
      blanks
      let isExternal ← externalId false
      blanks
      return isExternal) Any :=
    .bind gives_space fun _ _ => .bind gives_name fun _ _ => .bind gives_blanks fun _ _ =>
      .bind (gives_externalId false) fun _ _ => .bind gives_blanks fun _ _ => .pure trivial
  unfold readDoctype? at read
  dsimp only at read
  split at read
  · cases read
  · next isExternal after found =>
    obtain ⟨-, left⟩ := opening text legal isExternal after found
    have start := Doctype.isLegal_none remark isExternal
    split at read
    · cases read
      rw [List.all_cons, Bool.and_eq_true] at left
      exact ⟨start, left.2⟩
    · rw [List.all_cons, Bool.and_eq_true] at left
      split at read
      · cases read
      · next declared behind known =>
        obtain ⟨good, after⟩ := isLegal_of_readDeclarations? start left.2 known
        split at read
        · next more found =>
          cases read
          have last := all_isChar_skipBlanks after
          rw [found, List.all_cons, Bool.and_eq_true] at last
          exact ⟨good, last.2⟩
        · cases read
    · cases read

/-- What is behind blanks, comments and instructions is legal. -/
theorem all_isChar_of_skipMisc? {bound : Nat} {remark last : Option Remark} {text rest : List Char}
    (legal : text.all isChar) (read : skipMisc? bound remark text = some (last, rest)) :
    rest.all isChar := by
  induction bound generalizing remark text with
  | zero => cases read
  | succ bound ih =>
      unfold skipMisc? at read
      extract_lets start next at read
      have begins : start.all isChar := all_isChar_skipBlanks legal
      have item : next.Gives Any := by
        refine .bind (gives_accept _) fun _ _ => .ite (fun _ => ?_) fun _ => ?_
        · exact .bind (gives_before _) fun _ _ => .ite (fun _ => .pure trivial) fun _ => gives_fail
        · refine .bind (gives_accept _) fun _ _ => .ite (fun _ => ?_) fun _ => .pure trivial
          refine .bind (gives_before _) fun _ _ => ?_
          split
          · exact .pure trivial
          · exact gives_fail
      split at read
      · cases read
      · next after found =>
        cases read
        exact (item start begins none rest found).2
      · next remarks after found =>
        exact ih (item start begins (some remarks) after found).2 read

/-- A setting of the header is legal. -/
theorem gives_setting : setting.Gives (·.all isChar) := by
  unfold setting
  exact .bind gives_blanks fun _ _ => .bind (gives_expect _) fun _ _ =>
    .bind gives_blanks fun _ _ => gives_quoted

/-- The header itself. -/
theorem gives_headerLine : headerLine.Gives Any := by
  have standalone : Gives (do
      if ← accept "standalone" then
        let value ← setting
        if value == "yes".toList then return true
        else if value == "no".toList then return false
        else fail
      else return false) Any := by
    refine .bind (gives_accept _) fun _ _ => .ite (fun _ => ?_) fun _ => .pure trivial
    exact .bind gives_setting fun _ _ => .ite (fun _ => .pure trivial) fun _ =>
      .ite (fun _ => .pure trivial) fun _ => gives_fail
  have ends {header : Header} : Gives (do blanks; expect "?>"; return header) Any :=
    .bind gives_blanks fun _ _ => .bind (gives_expect _) fun _ _ => .pure trivial
  unfold headerLine
  refine .bind gives_space fun _ _ => .bind (gives_expect _) fun _ _ =>
    .bind gives_setting fun version _ => ?_
  split
  · exact gives_fail
  · refine .bind (gives_accept _) fun _ _ => .ite (fun _ => .pure trivial) fun _ => ?_
    refine .bind gives_space fun _ _ => .bind (?_ : Gives _ Any) fun name _ =>
      .ite (fun _ => ?_) fun _ => .bind standalone fun _ _ => ends
    · refine .bind (gives_accept _) fun _ _ => .ite (fun _ => ?_) fun _ => .pure trivial
      exact .bind gives_setting fun _ _ => .ite (fun _ => .pure trivial) fun _ => gives_fail
    -- behind the form of text the line may end
    · exact .bind (gives_accept _) fun _ _ => .ite (fun _ => .pure trivial) fun _ =>
        .bind gives_space fun _ _ => .bind standalone fun _ _ => ends

/-- What is behind the header of a legal text is legal. -/
theorem all_isChar_of_readHeader? {header : Header} {text rest : List Char} (legal : text.all isChar)
    (read : readHeader? text = some (header, rest)) : rest.all isChar := by
  unfold readHeader? at read
  split at read
  · next c more =>
    split at read
    · refine (gives_headerLine (c :: more) ?_ header rest read).2
      exact all_of_suffix legal (List.suffix_append "<?xml".toList (c :: more))
    · cases read
      exact legal
  · cases read
    exact legal

/-- **The document type that stands before a root is legal,** and so is the root. -/
theorem isLegal_of_readProlog? {header : Header} {doctype : Doctype} {text rest : List Char}
    (legal : text.all isChar) (read : readProlog? header text = some (doctype, rest)) :
    doctype.IsLegal ∧ rest.all isChar := by
  unfold readProlog? at read
  split at read
  · cases read
  · next remark after found =>
    have behind := all_isChar_of_skipMisc? legal found
    dsimp only at read
    split at read
    · split at read
      · cases read
      · next declared left known =>
        obtain ⟨good, inner⟩ := isLegal_of_readDoctype?
          (all_of_suffix behind (List.drop_suffix _ _)) known
        obtain ⟨⟨last, root⟩, skipped, equal⟩ := Option.map_eq_some_iff.1 read
        cases equal
        exact ⟨⟨good.entities, good.parameters, good.bindings⟩, all_isChar_of_skipMisc? inner skipped⟩
    · cases read
      exact ⟨Doctype.isLegal_none remark false, behind⟩

end StringCatalog.Xml
