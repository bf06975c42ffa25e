import StringCatalog.Xml.Frame
import StringCatalog.Xml.Piece

/-! # Tokens of a document

What each frame of a document says:

* **`Xml.Tag`** — a start tag with its attributes as they are written.
* **`Xml.Token`** — text, literal characters, a comment, an instruction, a start or an end.
* **`Xml.Token.ofFrame?`** — reads one frame.
* **`Xml.Token.read?`** — the tokens of a text, each start with the number of its line. -/

namespace StringCatalog.Xml

/-- An attribute as it is written. -/
structure Tag.Attribute where
  /-- The name. -/
  name : Name
  /-- The value. -/
  value : List Piece
  deriving DecidableEq, Repr

/-- **A start tag.** -/
structure Tag where
  /-- The name of the element. -/
  name : Name
  /-- The attributes in order, namespace declarations among them. -/
  attributes : List Tag.Attribute
  deriving DecidableEq, Repr

/-- **A token of a document.** -/
inductive Token where
  /-- Text with references. -/
  | text (pieces : List Piece)
  /-- Characters that stand for themselves. -/
  | literal (text : List Char)
  /-- A comment. -/
  | comment (text : List Char)
  /-- An instruction for the program named first. -/
  | instruction (target data : List Char)
  /-- The start of an element, and its end if it is closed at once. -/
  | start (tag : Tag) (isClosed : Bool) (line : Nat)
  /-- The end of an element. -/
  | finish (name : List Char)
  deriving DecidableEq, Repr

/-! ## Attributes -/

/-- A character of an attribute that stands for itself: white space is a space. -/
def plainValueChar (c : Char) : Char :=
  if isBlank c then ' ' else c

/-- The quoted text that a text begins with, and what follows. -/
def readQuoted? : List Char → Option (List Char × List Char)
  | '"' :: rest => Text.cutAt? '"' rest
  | '\'' :: rest => Text.cutAt? '\'' rest
  | _ => none

/-- `after.length < text.length`: what is behind a quoted value is shorter. -/
theorem length_readQuoted? {text raw after : List Char}
    (h : readQuoted? text = some (raw, after)) : after.length < text.length := by
  unfold readQuoted? at h
  split at h
  · have := length_cutAt? h
    simp only [List.length_cons]
    omega
  · have := length_cutAt? h
    simp only [List.length_cons]
    omega
  · simp at h

/-- `(skipBlanks text).length ≤ text.length`: skipping blanks makes no text longer. -/
theorem length_skipBlanks (text : List Char) : (skipBlanks text).length ≤ text.length :=
  (List.dropWhile_sublist _).length_le

/-- The text behind the equals sign that it begins with, blanks around it skipped. -/
def skipEquals? (text : List Char) : Option (List Char) :=
  match skipBlanks text with
  | '=' :: rest => some (skipBlanks rest)
  | _ => none

/-- `rest.length ≤ text.length`: nor does skipping an equals sign. -/
theorem length_skipEquals? {text rest : List Char} (h : skipEquals? text = some rest) :
    rest.length ≤ text.length := by
  unfold skipEquals? at h
  split at h
  · rename_i _ after heq
    have hlen := length_skipBlanks text
    rw [heq] at hlen
    have := length_skipBlanks after
    simp only [Option.some.injEq] at h
    subst h
    simp only [List.length_cons] at hlen
    omega
  · simp at h

/-- The attributes that a text consists of: blanks stand before each of them, and may stand behind
the last one. -/
def readAttributes? (text : List Char) : Option (List Tag.Attribute) :=
  match text with
  | [] => some []
  | c :: rest =>
      if !isBlank c then none
      else
        match hi : skipBlanks rest with
        | [] => some []
        | d :: more =>
            if !isNameStart d then none
            else
              let name := Name.ofText ((d :: more).takeWhile isNameChar)
              match he : skipEquals? ((d :: more).dropWhile isNameChar) with
              | none => none
              | some value =>
                  match hq : readQuoted? value with
                  | none => none
                  | some (raw, after) =>
                      have shorter : after.length < (c :: rest).length := by
                        have h1 := length_readQuoted? hq
                        have h2 := length_skipEquals? he
                        have h3 := (List.dropWhile_sublist isNameChar (l := d :: more)).length_le
                        have h4 := length_skipBlanks rest
                        rw [hi] at h4
                        simp only [List.length_cons] at h3 h4 ⊢
                        omega
                      if raw.contains '<' then none
                      else
                        match readPieces? plainValueChar raw with
                        | none => none
                        | some pieces => (readAttributes? after).map (⟨name, pieces⟩ :: ·)
termination_by text.length
decreasing_by exact shorter

/-! ## Tags -/

/-- **The start tag that a text writes.** -/
def Tag.read? (raw : List Char) : Option Tag :=
  match Name.read? raw with
  | none => none
  | some (name, rest) => (readAttributes? rest).map (⟨name, ·⟩)

/-- The start of an element; a slash at the end closes it at once. -/
def readStart? (line : Nat) (raw : List Char) : Option Token :=
  if raw.getLast? == some '/' then (Tag.read? raw.dropLast).map (Token.start · true line)
  else (Tag.read? raw).map (Token.start · false line)

/-- The end of an element: its name, and perhaps blanks behind it. -/
def readFinish? (raw : List Char) : Option Token :=
  let name := raw.takeWhile isNameChar
  if isName name && (raw.dropWhile isNameChar).all isBlank then some (.finish name) else none

/-- Whether a comment is well formed: no two hyphens follow each other in it, and none ends it. -/
def isCommentText (raw : List Char) : Bool :=
  !Text.contains ['-', '-'] raw && raw.getLast? != some '-'

/-- An instruction: the name of a program, and what it is told. -/
def readInstruction? (raw : List Char) : Option Token :=
  let target := raw.takeWhile isNameChar
  let rest := raw.dropWhile isNameChar
  if !isName target || target == ['x', 'm', 'l'] then none
  else
    match rest with
    | [] => some (.instruction target [])
    | c :: _ =>
        if isBlank c then some (.instruction target ((skipBlanks rest).map lineFeed)) else none

namespace Token

/-- **What a frame says.** The line is the one on which the frame ends. -/
def ofFrame? (line : Nat) : Frame → Option Token
  | .text raw =>
      if Text.contains [']', ']', '>'] raw then none else (readPieces? lineFeed raw).map .text
  | .literal raw => some (.literal (raw.map lineFeed))
  | .comment raw => if isCommentText raw then some (.comment (raw.map lineFeed)) else none
  | .instruction raw => readInstruction? raw
  | .tag ('/' :: raw) => readFinish? raw
  | .tag raw => readStart? line raw

/-- The tokens of some frames, the first of which begins on the given line. -/
def ofFrames? (line : Nat) : List Frame → Option (List Token)
  | [] => some []
  | frame :: rest =>
      let after := line + frame.source.count '\n'
      match ofFrame? after frame with
      | none => none
      | some token => (ofFrames? after rest).map (token :: ·)

/-- **The tokens of a text that begins on the given line.** -/
def read? (line : Nat) (text : List Char) : Option (List Token) :=
  (Frame.split? text).bind (ofFrames? line)

end Token

end StringCatalog.Xml
