import StringCatalog.Writer

/-! # Carrying translations over

A resource document that is kept by hand gets the translations of strings from elsewhere:

* **`Resource.carryOver`** — the items of the translated document.
* **`Writer.carryOver`** — the translated document handed over. -/

namespace StringCatalog

namespace Resource

/-- The first string with an untranslated text. -/
def firstWith? (singular : String) (strings : List Translatable) : Option Translatable :=
  strings.find? (·.singular == singular)

/-- The text that translates a string: the first of its forms. -/
def firstForm (string : Translatable) : Except Fault String :=
  match string.effective with
  | [] => .error .noForm
  | none :: _ => .error .openForm
  | some form :: _ => .ok form

/-- The item for a string kept by hand, where some string translates it. -/
def carriedItem (manual string : Translatable) : Except Fault Item :=
  match firstForm string with
  | .error fault => .error fault
  | .ok form => Item.make (manual.name.getD "") form

/-- What comes of one thing met in the document: a note, or an item. -/
def carriedEvent (strings : List Translatable) : Reading.Event → Except Fault (Note ⊕ Item)
  | .note remark => .ok (.inl remark)
  | .found manual =>
      match firstWith? manual.singular strings with
      | none =>
          .ok (.inl (.item ("No translation for manual string: " ++ manual.name.getD "")))
      | some string => (carriedItem manual string).map .inr

/-- **The items of a document with the translations of some strings,** with the notes up to the first
fault. Each string of the document keeps its name; those without a translation are left out. -/
def carryOver (strings : List Translatable) : List Reading.Event → List Note × Except Fault (List Item)
  | [] => ([], .ok [])
  | event :: rest =>
      match carriedEvent strings event with
      | .error fault => ([], .error fault)
      | .ok (.inl remark) =>
          let (notes, items) := carryOver strings rest
          (remark :: notes, items)
      | .ok (.inr item) =>
          let (notes, items) := carryOver strings rest
          (notes, items.map (item :: ·))

end Resource

/-- **The document at a path with the translations of some strings, handed over,** and what is shown
meanwhile. Only writers of resource documents do so. -/
def Writer.carryOver (writer : Writer) (strings : List Translatable) (tree : FileTree)
    (input destination : String) : List ConsoleLine × Delivery :=
  match writer.kind with
  | .resources =>
      let reader : Reader :=
        ⟨.only .resources, none, writer.logLevel, Program.Keyword.usual, [.ofString input]⟩
      let reading := reader.read tree
      let (notes, items) := Resource.carryOver strings reading.events
      let lines := ConsoleLine.ofNotes writer.logLevel notes
      match items, reading.fault with
      | .error fault, _ => (lines, .none tree fault)
      | .ok _, some fault => (lines, .none tree fault)
      | .ok items, none => (lines, deliver tree (Resource.write items) destination)
  | _ => ([], .none tree .noCarryOver)

end StringCatalog
