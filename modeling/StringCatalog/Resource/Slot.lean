import StringCatalog.Digest.Md5
import StringCatalog.Text.Blank
import StringCatalog.Translatable.Basic

/-! # Slots of a resource document

A resource document keeps one text under each identifier, so a string with plural forms takes
several slots:

* **`Resource.identifier`** — the identifier of one form of a string.
* **`Resource.slots`** — the slots of a string.
* **`Resource.escapeQuotes`, `Resource.unescapeQuotes`** — the quotes of a text inside the
  document. -/

namespace StringCatalog.Resource

/-- **The identifier of one form of a string.** A named string keeps its name, with the number of the
form behind it for all forms but the first; any other gets one from the digest of its text, so that
it stays the same from run to run. -/
def identifier (stem untranslated : String) (order : Int) (name : Option String) : String :=
  let derived := stem ++ "_P" ++ toString order ++ "_" ++ Digest.digest (Text.encode untranslated)
  match name with
  | none => derived
  | some name =>
      if name == "" then derived
      else if order == 0 then name
      else name ++ "_P" ++ toString order

/-- **One slot of a resource document.** -/
structure Slot where
  /-- The identifier. -/
  id : String
  /-- The untranslated text that the slot stands for. -/
  untranslated : String
  /-- The text in the slot. -/
  translated : String
  deriving DecidableEq, Repr

/-- The slot of one form; an open form has none, nor has the singular of a blank text. -/
def slot? (stem : String) (string : Translatable) (order : Nat) (form : Option String) :
    Option Slot :=
  match form with
  | none => none
  | some translated =>
      if order == 0 && Text.isBlankText string.singular.toList then none
      else some ⟨identifier stem string.singular order string.name, string.singular, translated⟩

/-- **The slots of a string,** one for each of its forms. -/
def slots (stem : String) (string : Translatable) : List Slot :=
  (string.effective.zipIdx).filterMap fun (form, order) => slot? stem string order form

/-! ## Quotes -/

/-- A text with a backslash before every single quote. -/
def escapeChars : List Char → List Char
  | [] => []
  | c :: rest => if c == '\'' then '\\' :: c :: escapeChars rest else c :: escapeChars rest

/-- A text without the backslash before a quote of either kind. -/
def unescapeChars : List Char → List Char
  | [] => []
  | '\\' :: '\'' :: rest => '\'' :: unescapeChars rest
  | '\\' :: '"' :: rest => '"' :: unescapeChars rest
  | c :: rest => c :: unescapeChars rest

/-- **The quotes of a text as a resource document has them.** -/
def escapeQuotes (text : String) : String :=
  String.ofList (escapeChars text.toList)

/-- **The text that a resource document's text stands for.** -/
def unescapeQuotes (text : String) : String :=
  String.ofList (unescapeChars text.toList)

/-- `escapeChars [] = []`. -/
@[simp] theorem escapeChars_nil : escapeChars [] = [] := rfl

/-- `unescapeChars [] = []`. -/
@[simp] theorem unescapeChars_nil : unescapeChars [] = [] := rfl

end StringCatalog.Resource
