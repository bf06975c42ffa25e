import StringCatalog.Extraction.Reading
import StringCatalog.Text.Blank

/-! # Entries of a catalog

* **`Catalog.Entry`** — what a catalog says about one string.
* **`Catalog.Entry.translations`** — its translations; an entry without any text is untranslated.
* **`Catalog.withoutHeader`** — the entries without the one that holds the catalog's own data.
* **`Catalog.reading`** — the strings of some entries, with the notes on them. -/

namespace StringCatalog.Catalog

/-- **What a catalog says about one string.** -/
structure Entry where
  /-- What translators remarked, line by line with line feeds between. -/
  comment : String
  /-- What developers remarked. -/
  extracted : String
  /-- Where the string stands in the program. -/
  references : List String
  /-- The flags, among them the kind of the placeholders. -/
  flags : List String
  /-- What tells strings of one text apart. -/
  context : Option String
  /-- The untranslated text. -/
  id : String
  /-- The untranslated plural, empty if there is none. -/
  plural : String
  /-- The only translation. -/
  message : String
  /-- The translations by number, in the order in which the numbers first occur. -/
  forms : List (Nat × String)
  /-- Whether the program no longer has the string. -/
  obsolete : Bool
  deriving DecidableEq, Repr

namespace Entry

/-- The entry that nothing has been said about. -/
def empty : Entry := ⟨"", "", [], [], none, "", "", "", [], false⟩

/-- A text unless it is empty. -/
def nonEmpty? (text : String) : Option String :=
  if text == "" then none else some text

/-- **The translations of an entry,** in the order of their numbers. An entry in which all are empty
is untranslated, and so is one with a plural that has only the one translation without a number. A
plural takes the place of a second form where a catalog's language has one form alone. -/
def translations (entry : Entry) : Option (List String) :=
  let plural := nonEmpty? entry.plural
  let values? :=
    if !entry.forms.isEmpty then
      some ((entry.forms.mergeSort fun a b => decide (a.1 ≤ b.1)).map Prod.snd)
    else if plural.isNone then some [entry.message]
    else none
  match values? with
  | none => none
  | some values =>
      if values.all (· == "") then none
      else if plural.isSome && values.length < 2 then
        some (values ++ values.getLast?.toList)
      else some values

/-- **The string that an entry describes.** -/
def toTranslatable (entry : Entry) : Translatable where
  singular := entry.id
  name := none
  plural := nonEmpty? entry.plural
  translations := entry.translations.map (List.map some)
  translatorComments := Text.trimmed? entry.comment.toList
  developerComments := Text.trimmed? entry.extracted.toList
  references := entry.references
  formatHint := nonEmpty? (Text.joined ", " entry.flags)

/-! ## The header -/

/-- Whether an entry has no context, or an empty one. -/
def lacksContext (entry : Entry) : Bool :=
  entry.context.all (· == "")

/-- Whether two entries agree in all that the order of a catalog looks at. -/
def agrees (entry other : Entry) : Bool :=
  let standIn (text : String) : String := if text == "" then "0" else text
  let sorted (texts : List String) : List String := texts.mergeSort fun a b => decide (a ≤ b)
  entry.obsolete == other.obsolete &&
    sorted entry.references == sorted other.references &&
    standIn (entry.context.getD "") == standIn (other.context.getD "") &&
    standIn entry.plural == standIn other.plural &&
    entry.forms.map Prod.snd == other.forms.map Prod.snd &&
    entry.id == other.id && entry.message == other.message

end Entry

/-- The entry that holds the catalog's own data: of those with an empty text the last one without a
context, or else the first one. -/
def header? (entries : List Entry) : Option Entry :=
  let candidates := entries.filter fun entry => !entry.obsolete && entry.id == ""
  match candidates with
  | [] => none
  | first :: _ =>
      some ((candidates.reverse.find? Entry.lacksContext).getD first)

/-- **The entries without the one that holds the catalog's own data.** -/
def withoutHeader (entries : List Entry) : List Entry :=
  match header? entries with
  | none => entries
  | some header => entries.eraseP (Entry.agrees header)

/-! ## Reading -/

/-- The reading of one entry. -/
def entryReading (path : String) (entry : Entry) : Reading :=
  if entry.obsolete then .empty
  else if entry.id == "" then .ofNote (.step ("Skipping entry with empty msgid in " ++ path))
  else .ofString (.item ("Found string: " ++ entry.id)) entry.toTranslatable

/-- **The strings of some entries, with the notes on them.** -/
def reading (path : String) (entries : List Entry) : Reading :=
  .sequence (entries.map (entryReading path))

end StringCatalog.Catalog
