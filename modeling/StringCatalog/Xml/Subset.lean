import StringCatalog.Xml.StartTag

/-! # Reading a document type

* **`Xml.Scan`** — a reader that takes characters from a text or gives up.
* **`Xml.Declaration`** — what one declaration says.
* **`Xml.readDoctype?`** — the document type that a text begins with. -/

namespace StringCatalog.Xml

/-- **A reader that takes characters from a text,** or gives up. -/
abbrev Scan (α : Type) := StateT (List Char) Option α

namespace Scan

/-- Give up. -/
def fail {α : Type} : Scan α := fun _ => none

/-- The text that has not been taken. -/
def rest : Scan (List Char) := fun text => some (text, text)

/-- Whether the text goes on with some characters. -/
def sees (word : String) : Scan Bool := fun text => some (word.toList.isPrefixOf text, text)

/-- Take some characters if the text goes on with them. -/
def accept (word : String) : Scan Bool := fun text =>
  if word.toList.isPrefixOf text then some (true, text.drop word.length) else some (false, text)

/-- Take some characters, with which the text has to go on. -/
def expect (word : String) : Scan Unit := fun text =>
  if word.toList.isPrefixOf text then some ((), text.drop word.length) else none

/-- Take the characters of a class. -/
def takeWhile (belongs : Char → Bool) : Scan (List Char) := fun text =>
  some (text.takeWhile belongs, text.dropWhile belongs)

/-- Skip blanks. -/
def blanks : Scan Unit := fun text => some ((), skipBlanks text)

/-- Skip blanks, of which there has to be one. -/
def space : Scan Unit := fun text =>
  match text with
  | c :: rest => if isBlank c then some ((), skipBlanks rest) else none
  | [] => none

/-- Take a name. -/
def name : Scan (List Char) := fun text =>
  let found := text.takeWhile isNameChar
  if isName found then some (found, text.dropWhile isNameChar) else none

/-- Take a run of the characters of names. -/
def nameToken : Scan (List Char) := do
  let found ← takeWhile isNameChar
  if found.isEmpty then fail else return found

/-- Take a text in quotes. -/
def quoted : Scan (List Char) := fun text => readQuoted? text

/-- Take what stands before a mark, and the mark. -/
def before (mark : String) : Scan (List Char) := fun text =>
  let rec find : List Char → Option (List Char × List Char)
    | [] => none
    | c :: rest =>
        if mark.toList.isPrefixOf (c :: rest) then some ([], (c :: rest).drop mark.length)
        else (find rest).map fun (inner, after) => (c :: inner, after)
  find text

end Scan

open Scan

/-! ## Parts of declarations -/

/-- A character of a public identifier. -/
def isPublicChar (c : Char) : Bool :=
  c == ' ' || c == '\r' || c == '\n' || c.isAlphanum || "-'()+,./:=?;!*#@$_%".toList.contains c

/-- Take a public identifier in quotes. -/
def publicLiteral : Scan Unit := do
  let inner ← quoted
  if inner.all isPublicChar then return () else fail

/-- Take the identifier of something outside the document; behind a public one there may be nothing
more where the flag says so. -/
def externalId (mayEnd : Bool) : Scan Bool := do
  if ← accept "SYSTEM" then
    space
    let _ ← quoted
    return true
  else if ← accept "PUBLIC" then
    space
    publicLiteral
    if mayEnd then
      let text ← rest
      match text, skipBlanks text with
      | c :: _, d :: _ =>
          if isBlank c && (d == '"' || d == '\'') then
            blanks
            let _ ← quoted
            return true
          else return true
      | _, _ => return true
    else
      space
      let _ ← quoted
      return true
  else return false

/-- The text that a reference stands for in the text of an entity, given what is between its marks: a
reference to a character is replaced, one to an entity stays. -/
def entityReference? (inner : List Char) : Option (List Char) :=
  match inner with
  | '#' :: _ =>
      match readReference? inner with
      | some (.char d) => some [d]
      | _ => none
  | _ => if isName inner then some (referenceText inner) else none

/-- The text of an entity, given what stands between the quotes. -/
def entityText? : List Char → Option (List Char)
  | [] => some []
  | c :: rest =>
      if c == '%' then none
      else if c == '&' then
        match h : Text.cutAt? ';' rest with
        | none => none
        | some (inner, after) =>
            have : after.length < rest.length := length_cutAt? h
            match entityReference? inner with
            | none => none
            | some text => (entityText? after).map (text ++ ·)
      else (entityText? rest).map (lineFeed c :: ·)
termination_by text => text.length

/-- Take how often something may stand. -/
def occurrence : Scan Unit := do
  let _ ← (do if ← accept "?" then return true else if ← accept "*" then return true
              else accept "+")

/-- Take a sequence or a choice up to its closing bracket; the number bounds how many parts it
has. -/
def contentModel : Nat → Option Char → Scan Unit
  | 0, _ => fail
  | bound + 1, separator => do
      blanks
      if ← accept "(" then contentModel bound none
      else
        let _ ← name
      occurrence
      blanks
      if ← accept ")" then return ()
      else
        let found ← (do if ← accept "," then return ',' else do expect "|"; return '|')
        if separator.isSome && separator != some found then fail
        else contentModel bound (some found)

/-- Take the names of a mixed content up to its closing bracket. -/
def mixedNames : Nat → Scan Unit
  | 0 => fail
  | bound + 1 => do
      blanks
      if ← accept "|" then
        blanks
        let _ ← name
        mixedNames bound
      else expect ")*"

/-- Take what the content of an element may be. -/
def contentSpec (bound : Nat) : Scan Unit := do
  if ← accept "EMPTY" then return ()
  else if ← accept "ANY" then return ()
  else
    expect "("
    blanks
    if ← accept "#PCDATA" then
      blanks
      if ← accept ")" then
        let _ ← accept "*"
      else mixedNames bound
    else
      contentModel bound none
      occurrence

/-- Take the values of an enumeration up to its closing bracket. -/
def enumeration (value : Scan (List Char)) : Nat → Scan Unit
  | 0 => fail
  | bound + 1 => do
      blanks
      let _ ← value
      blanks
      if ← accept "|" then enumeration value bound else expect ")"

/-- Take the first of some words with which the text goes on. -/
def acceptAny : List String → Scan Bool
  | [] => return false
  | word :: more => do if ← accept word then return true else acceptAny more

/-- Take the type of an attribute: whether the blanks of its values are trimmed. -/
def attributeType (bound : Nat) : Scan Bool := do
  if ← accept "CDATA" then return false
  else if ← acceptAny
      ["IDREFS", "IDREF", "ID", "ENTITY", "ENTITIES", "NMTOKENS", "NMTOKEN"] then return true
  else if ← accept "NOTATION" then
    space
    expect "("
    enumeration name bound
    return true
  else
    expect "("
    enumeration nameToken bound
    return true

/-- Take the default of an attribute, if it has one. -/
def attributeDefault : Scan (Option (List Char)) := do
  if ← accept "#REQUIRED" then return none
  else if ← accept "#IMPLIED" then return none
  else
    if ← accept "#FIXED" then space
    let value ← quoted
    return some value

/-! ## Declarations -/

/-- An attribute as it is declared. -/
structure AttributeRule where
  /-- The name. -/
  name : List Char
  /-- Whether the blanks of its values are trimmed. -/
  isTrimmed : Bool
  /-- What stands between the quotes of its default. -/
  fallback : Option (List Char)
  deriving Repr

/-- **What one declaration says.** -/
inductive Declaration where
  /-- The text of an entity. -/
  | entity (isParameter : Bool) (name : List Char) (entity : Entity)
  /-- The content of an element. -/
  | element (name : List Char)
  /-- The attributes of an element. -/
  | attributes (element : List Char) (rules : List AttributeRule)
  /-- The name of a notation. -/
  | notationName (name : List Char)
  /-- An instruction. -/
  | instruction (target : List Char)
  /-- A comment. -/
  | comment
  deriving Repr

/-- Take the rest of an entity's declaration. -/
def entityDeclaration : Scan Declaration := do
  space
  let isParameter ← accept "%"
  if isParameter then space
  let found ← name
  space
  let text ← rest
  match text with
  | c :: _ =>
      if c == '"' || c == '\'' then
        let raw ← quoted
        match entityText? raw with
        | none => fail
        | some content =>
            blanks
            expect ">"
            return .entity isParameter found (.internal content)
      else
        if !(← externalId false) then fail
        let after ← rest
        blanks
        if isParameter then
          expect ">"
          return .entity true found .external
        else if ← sees "NDATA" then
          if !(after.head?.any isBlank) then fail
          expect "NDATA"
          space
          let _ ← name
          blanks
          expect ">"
          return .entity false found .unparsed
        else
          expect ">"
          return .entity false found .external
  | [] => fail

/-- Take the attributes of a declaration up to its end. -/
def attributeRules : Nat → Scan (List AttributeRule)
  | 0 => fail
  | bound + 1 => do
      if ← accept ">" then return []
      else
        let found ← name
        space
        let isTrimmed ← attributeType bound
        space
        let fallback ← attributeDefault
        if !(← sees ">") then space
        let more ← attributeRules bound
        return ⟨found, isTrimmed, fallback⟩ :: more

/-- Take one declaration, a comment or an instruction. -/
def declaration (bound : Nat) : Scan Declaration := do
  if ← accept "<!--" then
    let inner ← before "-->"
    if isCommentText inner then return .comment else fail
  else if ← accept "<?" then
    let inner ← before "?>"
    match readInstruction? inner with
    | some (.instruction target _) => return .instruction target
    | _ => fail
  else if ← accept "<!ENTITY" then entityDeclaration
  else if ← accept "<!ELEMENT" then
    space
    let found ← name
    space
    contentSpec bound
    blanks
    expect ">"
    return .element found
  else if ← accept "<!ATTLIST" then
    space
    let found ← name
    if !(← sees ">") then space
    let rules ← attributeRules bound
    return .attributes found rules
  else
    expect "<!NOTATION"
    space
    let found ← name
    space
    if !(← externalId true) then fail
    blanks
    expect ">"
    return .notationName found

/-! ## Their effect -/

namespace Doctype

/-- The document type with one more remark. -/
def remarked (doctype : Doctype) (remarks : List Remark) : Doctype :=
  { doctype with remark := lastRemark doctype.remark remarks }

/-- Pairs with one more behind, unless its key is there. -/
def addNew {α β : Type} [BEq α] (pairs : List (α × β)) (key : α) (value : β) : List (α × β) :=
  if (pairs.lookup key).isSome then pairs else pairs ++ [(key, value)]

/-- One more attribute of an element. Its default has to be a value. -/
def addRule? (isStandalone : Bool) (element : List Char) (doctype : Doctype)
    (rule : AttributeRule) : Option Doctype :=
  let isNew := (doctype.trimmed.lookup (element, rule.name)).isNone
  let known := { doctype with
    trimmed := addNew doctype.trimmed (element, rule.name) rule.isTrimmed }
  match rule.fallback with
  | .none => some known
  | some raw =>
      if raw.contains '<' then .none
      else
        match readPieces? plainValueChar raw with
        | .none => .none
        | some pieces =>
            let context : Context := ⟨doctype, isStandalone⟩
            match context.checkValue? (doctype.entities.length + 1) pieces with
            | .none => .none
            | some remarks =>
                let done := known.remarked remarks
                match (Name.ofText rule.name).declaredLead? with
                | some lead =>
                    if isNew && lead != some "xml".toList then
                      some { done with bindings := done.bindings ++
                        [(element, ⟨lead, doctype.valueText pieces⟩)] }
                    else some done
                | .none => some done

/-- The effect of one declaration. -/
def declare? (isStandalone : Bool) (doctype : Doctype) : Declaration → Option Doctype
  | .comment => some doctype
  | .instruction target =>
      some (doctype.remarked
        (if target.map Char.toLower == "xml".toList || target.contains ':' then [.error] else []))
  | .notationName name => some (doctype.remarked (if name.contains ':' then [.error] else []))
  | .element name =>
      if doctype.elements.contains name then some (doctype.remarked [.error])
      else some { doctype with elements := name :: doctype.elements }
  | .attributes element rules =>
      rules.foldlM (addRule? isStandalone element) doctype
  | .entity isParameter name entity =>
      let odd := doctype.remarked (if name.contains ':' then [.error] else [])
      if isParameter then
        some { odd with parameters := addNew odd.parameters name entity }
      else if (predefined? name).isSome then some (odd.remarked [.warning])
      else some { odd with entities := addNew odd.entities name entity }

end Doctype

/-! ## The whole -/

/-- Take declarations up to the bracket that closes them, or to the end of the text of an entity
that they come from. The number bounds how many steps are taken, so that entities that refer to each
other come to an end. -/
def readDeclarations? (isStandalone isInner : Bool) :
    Nat → Doctype → List Char → Option (Doctype × List Char)
  | 0, _, _ => none
  | bound + 1, doctype, text =>
      match skipBlanks text with
      | [] => if isInner then some (doctype, []) else none
      | ']' :: rest => if isInner then none else some (doctype, rest)
      | '%' :: rest =>
          match (do let found ← name; expect ";"; return found : Scan (List Char)) rest with
          | none => none
          | some (found, after) =>
              let doctype := { doctype with isOpen := true }
              match doctype.parameters.lookup found with
              | none =>
                  if isStandalone then none
                  else
                    readDeclarations? isStandalone isInner bound (doctype.remarked [.warning]) after
              | some (.internal content) =>
                  match readDeclarations? isStandalone true bound doctype content with
                  | none => none
                  | some (inner, _) =>
                      readDeclarations? isStandalone isInner bound inner after
              | some _ => readDeclarations? isStandalone isInner bound doctype after
      | start =>
          match declaration (start.length + 1) start with
          | none => none
          | some (found, after) =>
              match doctype.declare? isStandalone found with
              | none => none
              | some next => readDeclarations? isStandalone isInner bound next after

/-- **The document type that a text begins with,** the opening word taken already, and the text
behind it. -/
def readDoctype? (isStandalone : Bool) (remark : Option Remark) (text : List Char) :
    Option (Doctype × List Char) :=
  let opening : Scan Bool := do
    space
    let _ ← name
    blanks
    let isExternal ← externalId false
    blanks
    return isExternal
  match opening text with
  | none => none
  | some (isExternal, after) =>
      let doctype := { Doctype.none with isOpen := isExternal, remark }
      match after with
      | '>' :: rest => some (doctype, rest)
      | '[' :: inner =>
          let bound := (inner.length + 1) * (inner.length + 1)
          match readDeclarations? isStandalone false bound doctype inner with
          | none => none
          | some (declared, behind) =>
              match skipBlanks behind with
              | '>' :: rest => some (declared, rest)
              | _ => none
      | _ => none

end StringCatalog.Xml
