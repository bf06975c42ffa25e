import StringCatalog.Text.Blank
import StringCatalog.Text.Line
import StringCatalog.Text.Search
import StringCatalog.Translatable.Basic

/-! # Stanzas of a catalog

A catalog is written as one stanza for each string:

* **`Catalog.escape`** — a piece of text inside the quotes of a catalog.
* **`Catalog.quotedLines`** — a text after its keyword, on one line or on several.
* **`Catalog.commentLines`** — a remark behind its marker.
* **`Catalog.stanza`** — the lines of one string.
* **`Catalog.render`** — the catalog of some strings.
* **`Catalog.encodeFault?`** — why there are no bytes for it. -/

namespace StringCatalog.Catalog

/-! ## Texts -/

/-- One character inside the quotes of a catalog. -/
def escapeChar : Char → List Char
  | '\\' => ['\\', '\\']
  | '"' => ['\\', '"']
  | '\t' => ['\\', 't']
  | '\r' => ['\\', 'r']
  | c => [c]

/-- The characters of a piece of text inside the quotes of a catalog. -/
def escapeChars (text : List Char) : List Char :=
  text.flatMap escapeChar

/-- **A piece of text inside the quotes of a catalog.** A line feed is no part of a piece. -/
def escape (text : String) : String :=
  String.ofList (escapeChars text.toList)

/-- A piece of text in its quotes; the line feed that ends it is written as a letter. -/
def quotedPiece (piece : List Char) : String :=
  let inner :=
    if piece.getLast? == some '\n' then escapeChars piece.dropLast ++ ['\\', 'n']
    else escapeChars piece
  String.ofList ('"' :: inner ++ ['"'])

/-- **A text after its keyword.** A text with line feeds starts on a line of its own, one line for
each of its lines. -/
def quotedLines (keyword text : String) : List String :=
  if text.toList.contains '\n' then
    (keyword ++ " \"\"") :: (Text.chunks text.toList).map quotedPiece
  else [keyword ++ " " ++ quotedPiece text.toList]

/-- A text that may be open: then nothing is written. -/
def openLines (keyword : String) (text : Option String) : List String :=
  match text with
  | some text => quotedLines keyword text
  | none => []

/-! ## Remarks -/

/-- One line of a remark behind its marker, unless it is blank. -/
def commentLine? (marker : String) (line : List Char) : Option String :=
  if Text.isBlankText line then none
  else some (marker ++ " " ++ String.ofList (Text.trimEnd line))

/-- **A remark behind its marker,** line by line. -/
def commentLines (marker : String) (remark : Option String) : List String :=
  match remark with
  | none => []
  | some remark => (Text.split (· == '\n') remark.toList).filterMap (commentLine? marker)

/-! ## Stanzas -/

/-- The translations to write: the untranslated text stands in for missing ones. -/
def writtenForms (string : Translatable) : List (Option String) :=
  match string.translations with
  | some (form :: forms) => form :: forms
  | _ => [some string.singular]

/-- The lines of the translations: a single one has a keyword without a number. -/
def formLines (string : Translatable) : List String :=
  match writtenForms string with
  | [form] => openLines "msgstr" form
  | forms =>
      (forms.zipIdx).flatMap fun (form, index) =>
        openLines ("msgstr[" ++ toString index ++ "]") form

/-- **The lines of one string:** the remarks, the references, the kind of its placeholders, its
untranslated forms, its translations, and an empty line. -/
def stanza (string : Translatable) : List String :=
  commentLines "#" string.translatorComments ++
  commentLines "#." string.developerComments ++
  string.references.flatMap (fun reference => commentLines "#:" (some reference)) ++
  commentLines "#," string.formatHint ++
  quotedLines "msgid" string.singular ++
  openLines "msgid_plural" string.plural ++
  formLines string ++
  [""]

/-- **The catalog of some strings.** -/
def render (strings : List Translatable) : String :=
  String.join ((strings.flatMap stanza).map (· ++ "\n"))

/-! ## Halves of pairs -/

/-- The places of the halves in the catalog of some strings: there it is another one if something
else stands in for them. -/
def placesOfHalves (strings : List Translatable) : List Nat :=
  let own := (render strings).toList
  let other := (render (strings.map (·.shownAs '\uFFFE'))).toList
  (own.zip other).zipIdx.filterMap fun (shown, place) =>
    if shown.1 == shown.2 then none else some place

/-- **Why there are no bytes for the catalog of some strings,** if that is so: some of them has halves
of pairs. -/
def encodeFault? (strings : List Translatable) : Option Text.EncodeFault :=
  match strings.flatMap fun string => string.halves.singular ++ string.halves.plural with
  | [] => none
  | half :: _ => some (.ofPlaces half.code (placesOfHalves strings))

end StringCatalog.Catalog
