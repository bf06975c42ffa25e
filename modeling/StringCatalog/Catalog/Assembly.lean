import StringCatalog.Catalog.Entry
import StringCatalog.Catalog.Line

/-! # Assembling entries

The lines of a catalog make up its entries one after another:

* **`Catalog.Place`** — what kind of line came last, and **`Catalog.Place.allowsKeyword`**, which
  texts may follow.
* **`Catalog.Assembly`** — the entries that are complete and the one under way.
* **`Catalog.Assembly.add`** — takes in one line.
* **`Catalog.readEntries`** — the entries of a catalog, without its header. -/

namespace StringCatalog.Catalog

/-- **What kind of line came last.** -/
inductive Place where
  /-- Nothing yet. -/
  | start
  /-- A remark before the first entry. -/
  | heading
  /-- A remark of translators. -/
  | comment
  /-- A remark of developers. -/
  | extracted
  /-- References. -/
  | references
  /-- Flags. -/
  | flags
  /-- A former text. -/
  | former (keyword : Keyword)
  /-- A text under a keyword. -/
  | keyword (keyword : Keyword)
  /-- A numbered translation. -/
  | form
  deriving DecidableEq, Repr

namespace Place

/-- Whether a translation came last, so that anything but a translation opens a new entry. -/
def endsEntry (place : Place) : Bool :=
  place == .keyword .message || place == .form

/-- Whether a context may follow a place. -/
def allowsContext (place : Place) : Bool :=
  place != .keyword .context && place != .keyword .id && place != .keyword .plural

/-- Whether an untranslated text may follow a place. -/
def allowsId (place : Place) : Bool :=
  place != .keyword .id && place != .keyword .plural

/-- Whether an untranslated plural may follow a place. -/
def allowsPlural : Place → Bool
  | .comment | .extracted | .former _ | .keyword .id => true
  | _ => false

/-- Whether the only translation may follow a place. -/
def allowsMessage : Place → Bool
  | .keyword .id | .keyword .plural | .comment => true
  | _ => false

/-- Whether a numbered translation may follow a place. -/
def allowsForm : Place → Bool
  | .keyword .id | .keyword .plural | .form | .comment => true
  | _ => false

/-- Whether a remark of translators may follow a place; before the first entry it is a heading. -/
def allowsComment (place : Place) : Bool :=
  place != .keyword .context

/-- Whether a text under a keyword may follow a place. -/
def allowsKeyword (place : Place) : Keyword → Bool
  | .context => place.allowsContext
  | .id => place.allowsId
  | .plural => place.allowsPlural
  | .message => place.allowsMessage

end Place

/-- **The entries that are complete and the one under way.** -/
structure Assembly where
  /-- The complete entries, the last one first. -/
  complete : List Entry
  /-- The entry under way. -/
  entry : Entry
  /-- What kind of line came last. -/
  place : Place
  /-- The number of the last numbered translation. -/
  index : Nat
  deriving Repr

namespace Assembly

/-- Nothing has been read. -/
def start : Assembly := ⟨[], .empty, .start, 0⟩

/-- The assembly with a new entry under way, if a translation came last. -/
def opened (assembly : Assembly) : Assembly :=
  if assembly.place.endsEntry then
    { assembly with complete := assembly.entry :: assembly.complete, entry := .empty }
  else assembly

/-- The assembly with its entry changed and a new place. -/
def moved (assembly : Assembly) (place : Place) (change : Entry → Entry) : Assembly :=
  { assembly with entry := change assembly.entry, place }

/-- Two lines of a remark. -/
def joinRemark (before : String) (line : List Char) : String :=
  if before == "" then String.ofList line else before ++ "\n" ++ String.ofList line

/-- The forms with one more, or with another text under a number that is there. -/
def setForm (forms : List (Nat × String)) (index : Nat) (text : String) : List (Nat × String) :=
  if forms.any (·.1 == index) then
    forms.map fun form => if form.1 == index then (index, text) else form
  else forms ++ [(index, text)]

/-- An entry with a text under a keyword. -/
def setKeyword (keyword : Keyword) (obsolete : Bool) (text : String) (entry : Entry) : Entry :=
  match keyword with
  | .context => { entry with context := some text }
  | .id => { entry with id := text, obsolete }
  | .plural => { entry with plural := text }
  | .message => { entry with message := text }

/-- An entry with more of the text that came last, or nothing where no text did. -/
def extend? (place : Place) (index : Nat) (more : String) (entry : Entry) : Option Entry :=
  match place with
  | .keyword .context => some { entry with context := some (entry.context.getD "" ++ more) }
  | .keyword .id => some { entry with id := entry.id ++ more }
  | .keyword .plural => some { entry with plural := entry.plural ++ more }
  | .keyword .message => some { entry with message := entry.message ++ more }
  | .form =>
      let before := (entry.forms.lookup index).getD ""
      some { entry with forms := setForm entry.forms index (before ++ more) }
  | .former _ => some entry
  | _ => none

/-- **Take in one line.** There is no result where the line may not follow the one before. -/
def add? (assembly : Assembly) (obsolete : Bool) : Line → Option Assembly
  | .comment text =>
      if assembly.place == .start || assembly.place == .heading then
        some { assembly with place := .heading }
      else if assembly.place.allowsComment then
        some (assembly.opened.moved .comment fun entry =>
          { entry with comment := joinRemark entry.comment text })
      else none
  | .extracted text =>
      some (assembly.opened.moved .extracted fun entry =>
        { entry with extracted := joinRemark entry.extracted text })
  | .references places =>
      some (assembly.opened.moved .references fun entry =>
        { entry with references := entry.references ++ places.map String.ofList })
  | .flags flags =>
      some (assembly.opened.moved .flags fun entry =>
        { entry with flags := entry.flags ++ flags.map String.ofList })
  | .former keyword => some (assembly.opened.moved (.former keyword) id)
  | .keyword keyword text =>
      if !assembly.place.allowsKeyword keyword then none
      else
        let ready :=
          match keyword with
          | .context | .id => assembly.opened
          | .plural | .message => assembly
        some (ready.moved (.keyword keyword) (setKeyword keyword obsolete (String.ofList text)))
  | .form index? text =>
      match index? with
      | none => none
      | some index =>
          if assembly.place.allowsForm then
            some { assembly.moved .form fun entry =>
              { entry with forms := setForm entry.forms index (String.ofList text) }
              with index }
          else none
  | .continuation text =>
      (extend? assembly.place assembly.index (String.ofList text) assembly.entry).map fun entry =>
        { assembly with entry }

end Assembly

/-! ## All lines -/

/-- The lines from a number on taken in, and whether the last line that said anything was no
remark. -/
def assembleFrom (assembly : Assembly) (open_ : Bool) :
    Nat → List (List Char) → Except (Nat × Cause) (Assembly × Bool)
  | _, [] => .ok (assembly, open_)
  | number, text :: rest =>
      match Line.read text with
      | none => assembleFrom assembly open_ (number + 1) rest
      | some cut =>
          match cut.content with
          | .error cause => .error (number, cause)
          | .ok none => assembleFrom assembly (!cut.isRemark) (number + 1) rest
          | .ok (some line) =>
              match assembly.add? cut.obsolete line with
              | none => .error (number, .misplaced)
              | some next => assembleFrom next (!cut.isRemark) (number + 1) rest

/-- The lines without the mark that may begin a file. -/
def dropMark : List (List Char) → List (List Char)
  | ('\uFEFF' :: line) :: rest => line :: rest
  | lines => lines

/-- **The entries of a catalog without its header.** Remarks behind the last entry do not count, and
drop that entry if they stand for a new one. -/
def readEntries (lines : List (List Char)) : Except (Nat × Cause) (List Entry) :=
  match assembleFrom .start false 1 (dropMark lines) with
  | .error fault => .error fault
  | .ok (assembly, open_) =>
      let entries := if open_ then assembly.entry :: assembly.complete else assembly.complete
      .ok (withoutHeader entries.reverse)

end StringCatalog.Catalog
