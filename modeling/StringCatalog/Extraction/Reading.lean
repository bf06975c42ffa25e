import StringCatalog.Fault
import StringCatalog.Note

/-! # Readings

What comes of reading inputs, in order:

* **`Reading`** — notes and strings as they are met, and the fault that ends the reading early, if
  there is one.
* **`Reading.strings`, `Reading.notes`** — the strings alone, and the notes alone.
* **`Reading.append`** — one reading after another; nothing follows a fault.
* **`Reading.all?`** — all strings, where no fault comes in between. -/

namespace StringCatalog

/-- One thing met in reading. -/
inductive Reading.Event where
  /-- A note on progress. -/
  | note (note : Note)
  /-- A string. -/
  | found (string : Translatable)
  deriving DecidableEq, Repr

/-- **What comes of reading inputs.** -/
structure Reading where
  /-- What was met, in order. -/
  events : List Reading.Event
  /-- Why the reading ended early, if it did. -/
  fault : Option Fault
  deriving DecidableEq, Repr

namespace Reading

/-- The reading in which nothing is met. -/
def empty : Reading := ⟨[], none⟩

/-- A reading that fails at once. -/
def failed (fault : Fault) : Reading := ⟨[], some fault⟩

/-- A reading that meets one note. -/
def ofNote (note : Note) : Reading := ⟨[.note note], none⟩

/-- A reading that meets one string, with a note on it. -/
def ofString (note : Note) (string : Translatable) : Reading :=
  ⟨[.note note, .found string], none⟩

/-- The string of an event. -/
def Event.string? : Event → Option Translatable
  | .found string => some string
  | .note _ => none

/-- The note of an event. -/
def Event.note? : Event → Option Note
  | .note remark => some remark
  | .found _ => none

/-- **The strings that were read.** -/
def strings (reading : Reading) : List Translatable :=
  reading.events.filterMap Event.string?

/-- **The notes on the reading.** -/
def notes (reading : Reading) : List Note :=
  reading.events.filterMap Event.note?

/-- **One reading after another.** Nothing follows a fault. -/
def append (first second : Reading) : Reading :=
  match first.fault with
  | some _ => first
  | none => ⟨first.events ++ second.events, second.fault⟩

/-- Many readings one after another, up to the first fault. -/
def sequence : List Reading → Reading
  | [] => empty
  | reading :: rest => reading.append (sequence rest)

/-- **All strings, where no fault comes in between.** -/
def all? (reading : Reading) : Except Fault (List Translatable) :=
  match reading.fault with
  | some fault => .error fault
  | none => .ok reading.strings

/-- `sequence [] = empty`: no readings come to the reading of nothing. -/
@[simp] theorem sequence_nil : sequence [] = empty := rfl

/-- `(failed fault).strings = []`: a reading that fails at once has no strings. -/
@[simp] theorem strings_failed (fault : Fault) : (failed fault).strings = [] := rfl

end Reading

end StringCatalog
