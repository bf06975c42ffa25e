import StringCatalog.Resource.Document

/-! # Why strings are refused

Strings that no document can hold are refused because of a character or because of half of a pair,
whichever is met first:

* **`Resource.refused?`** — the first slot that no document can hold.
* **`Resource.refusal`** — why some strings are refused. -/

namespace StringCatalog.Resource

/-- Whether a document may hold a slot. -/
def Slot.isLegal (slot : Slot) : Bool :=
  slot.id.toList.all Xml.isChar && slot.translated.toList.all Xml.isChar

/-- **The first slot that no document may hold,** with its string. Slots whose identifier has come
before are not written. -/
def refused? (stem : String) (strings : List Translatable) : Option (Translatable × Slot) :=
  let all := strings.flatMap fun string => (slots stem string).map (string, ·)
  (all.zipIdx.find? fun (pair, place) =>
    !pair.2.isLegal && !(all.take place).any (·.2.id == pair.2.id)).map (·.1)

/-- A wording with its quotes as a resource document has them. -/
def escapeWording (wording : Text.Wording) : Text.Wording :=
  ⟨escapeQuotes wording.text, wording.halves.map fun half =>
    { half with place := (escapeChars (wording.text.toList.take half.place)).length }⟩

/-- Why a slot of a string is refused. The identifier of a string without a name comes from the bytes
of its singular, so that halves there are met first. -/
def refusalOf (string : Translatable) (slot : Slot) : Fault :=
  let digested := if (string.name.getD "").isEmpty then string.halves.singular else []
  let embedded := (string.wordings.find? (·.text == slot.translated)).map escapeWording
  match (Text.EncodeFault.ofHalves? digested).or
      (embedded.bind fun wording => Text.EncodeFault.ofHalves? wording.halves) with
  | some fault => .encoding fault
  | none => .notInDocument

/-- **Why some strings are refused.** -/
def refusal (stem : String) (strings : List Translatable) : Fault :=
  match refused? stem strings with
  | some (string, slot) => refusalOf string slot
  | none => .notInDocument

end StringCatalog.Resource
