import StringCatalog.Xml.Char

/-! # Frames

A document is cut into frames before anything in it is understood:

* **`Xml.Frame`** — a run of text, a tag, a comment, a literal section or an instruction, as it is
  written.
* **`Xml.Frame.split?`** — the frames of a text, unless one of them is never closed.
* **`Xml.Frame.source`** — the text of a frame with what opens and closes it. -/

namespace StringCatalog.Xml

/-- **A frame of a document,** with what stands between its opening and its closing. -/
inductive Frame where
  /-- Text between other frames, never empty. -/
  | text (raw : List Char)
  /-- A tag. -/
  | tag (raw : List Char)
  /-- A comment. -/
  | comment (raw : List Char)
  /-- A section whose characters all stand for themselves. -/
  | literal (raw : List Char)
  /-- A processing instruction. -/
  | instruction (raw : List Char)
  deriving DecidableEq, Repr

namespace Frame

/-- **The text of a frame.** -/
def source : Frame → List Char
  | .text raw => raw
  | .tag raw => '<' :: raw ++ ['>']
  | .comment raw => "<!--".toList ++ raw ++ "-->".toList
  | .literal raw => "<![CDATA[".toList ++ raw ++ "]]>".toList
  | .instruction raw => "<?".toList ++ raw ++ "?>".toList

/-- What kind of frame is under way. -/
inductive Mode where
  /-- Text. -/
  | text
  /-- A tag, inside quotes or not. -/
  | tag (quote : Option Char)
  | comment
  | literal
  | instruction
  deriving DecidableEq, Repr

/-- The quote that is open behind a character of a tag. -/
def quoteAfter (quote : Option Char) (c : Char) : Option Char :=
  match quote with
  | some q => if c == q then none else some q
  | none => if c == '"' || c == '\'' then some c else none

/-- The frames that begin with some text. -/
def withText (raw : List Char) (frames : List Frame) : List Frame :=
  if raw.isEmpty then frames else .text raw :: frames

/-- The frames behind the opening of a frame, which is put in front of them. -/
def opened (frame : List Char → Frame) (found : Option (List Char × List Frame)) :
    Option (List Char × List Frame) :=
  found.map fun (raw, frames) => ([], frame raw :: frames)

/-- The frames behind the closing of a frame. -/
def closed (found : Option (List Char × List Frame)) : Option (List Char × List Frame) :=
  found.map fun (raw, frames) => ([], withText raw frames)

/-- One more character in the frame under way. -/
def more (c : Char) (found : Option (List Char × List Frame)) :
    Option (List Char × List Frame) :=
  found.map fun (raw, frames) => (c :: raw, frames)

/-- **What is left of the frame under way, and the frames behind it.** -/
def splitFrom : Mode → List Char → Option (List Char × List Frame)
  | .text, [] => some ([], [])
  | .text, '<' :: '!' :: '-' :: '-' :: rest => opened .comment (splitFrom .comment rest)
  | .text, '<' :: '!' :: '[' :: 'C' :: 'D' :: 'A' :: 'T' :: 'A' :: '[' :: rest =>
      opened .literal (splitFrom .literal rest)
  | .text, '<' :: '?' :: rest => opened .instruction (splitFrom .instruction rest)
  | .text, '<' :: rest => opened .tag (splitFrom (.tag none) rest)
  | .text, c :: rest => more c (splitFrom .text rest)
  | .comment, '-' :: '-' :: '>' :: rest => closed (splitFrom .text rest)
  | .literal, ']' :: ']' :: '>' :: rest => closed (splitFrom .text rest)
  | .instruction, '?' :: '>' :: rest => closed (splitFrom .text rest)
  | .tag none, '>' :: rest => closed (splitFrom .text rest)
  | .tag quote, c :: rest => more c (splitFrom (.tag (quoteAfter quote c)) rest)
  | mode, c :: rest => more c (splitFrom mode rest)
  | _, [] => none

/-- **The frames of a text.** -/
def split? (text : List Char) : Option (List Frame) :=
  (splitFrom .text text).map fun (raw, frames) => withText raw frames

/-- `split? [] = some []`. -/
@[simp] theorem split?_nil : split? [] = some [] := by simp [split?, splitFrom, withText]

end Frame

end StringCatalog.Xml
