import StringCatalog.Text.Charset
import StringCatalog.Xml.Assembly
import StringCatalog.Xml.Subset

/-! # Documents

* **`Xml.Header`** — what a document says about itself on its first line.
* **`Xml.Document`** — the root element of a document and what its type declares.
* **`Xml.Document.wellFormed?`** — the document of a text that is well formed.
* **`Xml.Document.ofText?`** — the document of a text.
* **`Xml.Document.ofBytes?`** — the document of some bytes, which say themselves in which form of
  text they are.

A document is taken if it is well formed and if the last remark on it is no error. -/

namespace StringCatalog.Xml

/-! ## The first line -/

/-- **What a document says about itself on its first line.** -/
structure Header where
  /-- The form of text that it says it is in. -/
  charset : Option (List Char)
  /-- Whether it says that it needs nothing else. -/
  isStandalone : Bool
  /-- What is remarked on its version. -/
  remark : Option Remark
  deriving Repr

/-- The header of a document that says nothing. -/
def Header.none : Header := ⟨.none, false, .none⟩

open Scan

/-- Take an equals sign with a text in quotes behind it. -/
def setting : Scan (List Char) := do
  blanks
  expect "="
  blanks
  quoted

/-- Whether a text is the number of a version: a digit, a full stop, digits. -/
def isVersion : List Char → Bool
  | a :: '.' :: rest => a.isDigit && rest.all Char.isDigit
  | _ => false

/-- What is remarked on a version; there is no result where no document can have it. -/
def versionRemark? (version : List Char) : Option (Option Remark) :=
  if !isVersion version then none
  else if version == "1.0".toList then some none
  else if "1.".toList.isPrefixOf version then some (some .warning)
  else none

/-- Whether a text is the name of a form of text. -/
def isCharsetName : List Char → Bool
  | [] => false
  | c :: rest => c.isAlpha && rest.all fun d => d.isAlphanum || "._-".toList.contains d

/-- Take the first line behind its opening word. -/
def headerLine : Scan Header := do
  space
  expect "version"
  let version ← setting
  match versionRemark? version with
  | none => fail
  | some remark =>
      if ← accept "?>" then return ⟨none, false, remark⟩
      space
      let charset ← (do
        if ← accept "encoding" then
          let name ← setting
          if isCharsetName name then return some name else fail
        else return none)
      if charset.isSome then
        if ← accept "?>" then return ⟨charset, false, remark⟩
        space
      let isStandalone ← (do
        if ← accept "standalone" then
          let value ← setting
          if value == "yes".toList then return true
          else if value == "no".toList then return false
          else fail
        else return false)
      blanks
      expect "?>"
      return ⟨charset, isStandalone, remark⟩

/-- **The header that a text begins with,** and the text behind it. -/
def readHeader? (text : List Char) : Option (Header × List Char) :=
  match text with
  | '<' :: '?' :: 'x' :: 'm' :: 'l' :: c :: rest =>
      if isBlank c then headerLine (c :: rest) else some (.none, text)
  | _ => some (.none, text)

/-! ## Before the root -/

/-- Skip blanks, comments and instructions; the number bounds how many there are. -/
def skipMisc? : Nat → Option Remark → List Char → Option (Option Remark × List Char)
  | 0, _, _ => none
  | bound + 1, remark, text =>
      let start := skipBlanks text
      let next : Scan (Option (List Remark)) := do
        if ← accept "<!--" then
          let inner ← before "-->"
          if isCommentText inner then return some [] else fail
        else if ← accept "<?" then
          let inner ← before "?>"
          match readInstruction? inner with
          | some (.instruction target _) => return some (Assembly.targetRemarks target)
          | _ => fail
        else return none
      match next start with
      | none => none
      | some (none, after) => some (remark, after)
      | some (some remarks, after) => skipMisc? bound (lastRemark remark remarks) after

/-- What stands before the root: the document type with the remarks so far, and the text behind
it. -/
def readProlog? (header : Header) (text : List Char) : Option (Doctype × List Char) :=
  match skipMisc? (text.length + 1) header.remark text with
  | none => none
  | some (remark, after) =>
      let word := "<!DOCTYPE".toList
      if word.isPrefixOf after then
        match readDoctype? header.isStandalone remark (after.drop word.length) with
        | none => none
        | some (doctype, behind) =>
            (skipMisc? (behind.length + 1) doctype.remark behind).map fun (last, root) =>
              ({ doctype with remark := last }, root)
      else some ({ Doctype.none with remark }, after)

/-! ## The root and what follows -/

/-- Whether frames may follow the root: comments, instructions and blank text. -/
def isEpilog (frames : List Frame) : Bool :=
  frames.all fun frame =>
    match frame with
    | .text raw => raw.all isBlank
    | .comment _ => true
    | .instruction _ => true
    | _ => false

/-- Whether a frame is a tag. -/
def Frame.isTag : Frame → Bool
  | .tag _ => true
  | _ => false

/-- Whether a node is an element. -/
def Node.isElement : Node → Bool
  | .element _ _ => true
  | _ => false

/-- **A document:** its root element, and what its type declares. -/
structure Document where
  /-- The root. -/
  head : Head
  /-- The nodes of the root. -/
  children : List Node
  /-- What the document type declares. -/
  doctype : Doctype
  deriving Repr

/-- The only element among some nodes. -/
def onlyElement? (nodes : List Node) : Option (Head × List Node) :=
  match nodes.filter Node.isElement with
  | [.element head children] => some (head, children)
  | _ => none

/-- The document whose root and what follows it are the given text, which begins on the given
line, and the last remark on it. -/
def Document.ofRoot? (context : Context) (line : Nat) (text : List Char) :
    Option (Document × Option Remark) :=
  match text, Frame.split? text with
  | '<' :: _, some frames =>
      if !isEpilog (frames.reverse.takeWhile (!·.isTag)) then none
      else
        match (Token.ofFrames? line frames).bind
            (Assembly.ofTokens? context context.doctype.remark) with
        | none => none
        | some assembly =>
            (onlyElement? assembly.done).map fun (head, children) =>
              (⟨head, children, context.doctype⟩, assembly.remark)
  | _, _ => none

/-- **The document of a text that is well formed,** and the last remark on it. The form of text that
the document says it is in is of no matter. -/
def Document.wellFormed? (raw : List Char) : Option (Document × Option Remark) :=
  let text := joinLineEnds raw
  if !text.all isChar then none
  else
    match readHeader? text with
    | none => none
    | some (header, afterHeader) =>
        match readProlog? header afterHeader with
        | none => none
        | some (doctype, root) =>
            let line := 1 + (text.count '\n' - root.count '\n')
            Document.ofRoot? ⟨doctype, header.isStandalone⟩ line root

/-- **The document of a text.** -/
def Document.ofText? (raw : List Char) : Option Document :=
  match Document.wellFormed? raw with
  | none => none
  | some (document, remark) => if remark == some .error then none else some document

/-! ## Bytes -/

/-- The text of bytes that show by their first ones in which form they are, the mark for the order
of the bytes left out. -/
def decodeMarked? (bytes : List UInt8) : Option (Option (List Char)) :=
  match bytes with
  | 0xEF :: 0xBB :: 0xBF :: rest => some (Text.decode rest).toOption
  | 0xFF :: 0xFE :: rest => some (Text.decodeUnits? true rest)
  | 0xFE :: 0xFF :: rest => some (Text.decodeUnits? false rest)
  | 0x3C :: 0x00 :: 0x3F :: 0x00 :: _ => some (Text.decodeUnits? true bytes)
  | 0x00 :: 0x3C :: 0x00 :: 0x3F :: _ => some (Text.decodeUnits? false bytes)
  | _ => none

/-- The text of bytes in the form that the first line names, UTF-8 if it names none. -/
def decodeNamed? (bytes : List UInt8) : Option (List Char) :=
  match readHeader? (joinLineEnds (Text.decodeLatin bytes)) with
  | none => none
  | some (header, _) =>
      match header.charset with
      | none => (Text.decode bytes).toOption
      | some name =>
          match Text.Charset.ofName? name with
          | none => none
          | some charset => (charset.decode bytes).toOption

/-- **The document of some bytes.** -/
def Document.ofBytes? (bytes : List UInt8) : Option Document :=
  match decodeMarked? bytes with
  | some text => text.bind Document.ofText?
  | none => (decodeNamed? bytes).bind Document.ofText?

end StringCatalog.Xml
