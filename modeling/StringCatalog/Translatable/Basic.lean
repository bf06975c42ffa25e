import StringCatalog.Text.Quoted
import StringCatalog.Text.Wording

/-! # Translatable strings

One string of a program's text, in one or several sightings, with what is known about it:

* **`Translatable`** — the untranslated forms, the translations, the comments and references.
* **`Translatable.key`** — what two sightings of one string have in common.
* **`Translatable.effective`** — the translations, or the untranslated text in their place.
* **`Translatable.addReference`, `Translatable.mergeReferences`** — further places of a string.
* **`Translatable.Draft`** — the parts of a string before they have been checked. -/

namespace StringCatalog

/-- The halves of pairs that the untranslated forms of a string hold. -/
structure Translatable.Halves where
  /-- Those of the singular. -/
  singular : List Text.Half := []
  /-- Those of the plural. -/
  plural : List Text.Half := []
  deriving DecidableEq, Repr

/-- **A translatable string.** -/
structure Translatable where
  /-- The untranslated text, in the singular where there is a plural. -/
  singular : String
  /-- The name under which a resource document keeps the string. -/
  name : Option String
  /-- The untranslated plural. -/
  plural : Option String
  /-- The translations, the singular first and then the plural forms; a form may be open. -/
  translations : Option (List (Option String))
  /-- What translators remarked. -/
  translatorComments : Option String
  /-- What developers remarked. -/
  developerComments : Option String
  /-- Where the string stands in the program. -/
  references : List String
  /-- What kind of placeholders the text has. -/
  formatHint : Option String
  /-- The halves of pairs in the untranslated forms. Only a program can name them. -/
  halves : Translatable.Halves := {}
  deriving DecidableEq, Repr

namespace Translatable

/-- A string of which only the text is known. -/
def ofText (singular : String) : Translatable :=
  ⟨singular, none, none, none, none, none, [], none, {}⟩

/-- **The identity of a string:** its untranslated forms. -/
structure Key where
  /-- The untranslated singular. -/
  singular : String
  /-- The untranslated plural. -/
  plural : Option String
  /-- The halves of pairs in them. -/
  halves : Halves
  deriving DecidableEq, Repr

/-- The identity of this string. -/
def key (string : Translatable) : Key :=
  ⟨string.singular, string.plural, string.halves⟩

/-- The singular with its halves of pairs. -/
def wording (string : Translatable) : Text.Wording :=
  ⟨string.singular, string.halves.singular⟩

/-- The untranslated forms with their halves of pairs. -/
def wordings (string : Translatable) : List Text.Wording :=
  string.wording :: string.plural.toList.map fun plural => ⟨plural, string.halves.plural⟩

/-- **A string without halves of pairs:** there are bytes for it. -/
def IsWhole (string : Translatable) : Prop :=
  string.halves = {}

instance (string : Translatable) : Decidable string.IsWhole :=
  inferInstanceAs (Decidable (string.halves = {}))

/-- The string with another character in the places of the halves. -/
def shownAs (other : Char) (string : Translatable) : Translatable :=
  { string with
    singular := string.wording.shownAs other
    plural := string.plural.map fun plural =>
      (⟨plural, string.halves.plural⟩ : Text.Wording).shownAs other }

/-- Whether the string has been translated. -/
def hasTranslations (string : Translatable) : Bool :=
  string.translations.isSome

/-- The untranslated forms in the order of the translations. -/
def sources (string : Translatable) : List String :=
  string.singular :: string.plural.toList

/-- **The translations, or else the untranslated forms.** -/
def effective (string : Translatable) : List (Option String) :=
  string.translations.getD (string.sources.map some)

/-! ## References -/

/-- A list with a member added behind, unless it is there. -/
def insertNew (references : List String) (reference : String) : List String :=
  if reference ∈ references then references else references ++ [reference]

/-- **The string with a reference added,** unless it has it. -/
def addReference (string : Translatable) (reference : String) : Translatable :=
  { string with references := insertNew string.references reference }

/-- **The string with the references of another sighting added.** -/
def mergeReferences (string other : Translatable) : Translatable :=
  { string with references := other.references.foldl insertNew string.references }

/-- `(string.mergeReferences other).key = string.key`: more references leave a string the same. -/
@[simp] theorem key_mergeReferences (string other : Translatable) :
    (string.mergeReferences other).key = string.key := rfl

/-! ## Checking the parts -/

/-- Why some parts make no string. -/
inductive DraftFault where
  /-- There is no untranslated text. -/
  | noText
  /-- A string with a plural has fewer than two translated forms. -/
  | tooFewForms (singular : String) (count : Nat)
  deriving DecidableEq, Repr

/-- The wording of a fault. -/
def DraftFault.message : DraftFault → String
  | .noText => "untranslated_singular_value is required"
  | .tooFewForms singular count =>
      "Plural string " ++ Text.quoted singular ++ " needs at least 2 translated values, got " ++
        toString count

/-- **The parts of a string before they have been checked.** -/
structure Draft where
  /-- The untranslated text, if given. -/
  singular : Option String
  /-- The name in a resource document. -/
  name : Option String
  /-- The untranslated plural. -/
  plural : Option String
  /-- The translations. -/
  translations : Option (List (Option String))
  /-- What translators remarked. -/
  translatorComments : Option String
  /-- What developers remarked. -/
  developerComments : Option String
  /-- Where the string stands in the program. -/
  references : List String
  /-- What kind of placeholders the text has. -/
  formatHint : Option String
  /-- The halves of pairs in the untranslated forms. -/
  halves : Halves := {}
  deriving DecidableEq, Repr

/-- **The string that some parts make.** -/
def Draft.build (draft : Draft) : Except DraftFault Translatable :=
  match draft.singular with
  | none => .error .noText
  | some singular =>
      let string : Translatable :=
        ⟨singular, draft.name, draft.plural, draft.translations, draft.translatorComments,
          draft.developerComments, draft.references, draft.formatHint, draft.halves⟩
      match draft.plural, draft.translations with
      | some _, some translations =>
          if translations.length < 2 then .error (.tooFewForms singular translations.length)
          else .ok string
      | _, _ => .ok string

end Translatable

end StringCatalog
