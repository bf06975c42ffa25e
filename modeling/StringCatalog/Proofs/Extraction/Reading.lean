import Mathlib.Data.List.Forall2
import StringCatalog.Extraction.Sighting

/-! # Readings in which nothing fails

* **`Reading.all?_eq_ok`** — a reading gives all its strings if it has no fault.
* **`Reading.all?_sequence`** — many readings give the strings of all of them.
* **`Reading.all?_relative`** — with relative references a reading gives the strings with theirs.
* **`Reading.all?_merged`** — merged, it gives the strings behind them. -/

namespace StringCatalog.Reading

variable {reading : Reading} {strings : List Translatable}

/-- **A reading gives all its strings if it has no fault.** -/
theorem all?_eq_ok : reading.all? = .ok strings ↔ reading.fault = none ∧ reading.strings = strings := by
  rw [all?]
  cases reading.fault <;> simp

/-- `first.append second = ⟨first.events ++ second.events, second.fault⟩`: one reading after
another, the first of which does not fail. -/
theorem append_of_fault_eq_none {first : Reading} (h : first.fault = none) (second : Reading) :
    first.append second = ⟨first.events ++ second.events, second.fault⟩ := by
  rw [append, h]

/-- `reading.append empty = reading`: nothing behind a reading changes nothing. -/
@[simp] theorem append_empty (reading : Reading) : reading.append empty = reading := by
  unfold append
  split
  · rfl
  · next noFault => rw [empty, List.append_nil, ← noFault]

/-- `(first.append second).strings = first.strings ++ second.strings`: the strings of one reading
after another, the first of which does not fail. -/
theorem strings_append {first : Reading} (h : first.fault = none) (second : Reading) :
    (first.append second).strings = first.strings ++ second.strings := by
  rw [append_of_fault_eq_none h, Reading.strings, List.filterMap_append]
  rfl

/-- `(first.append second).all? = second.all?.map (strings ++ ·)`: behind a reading that gives its
strings the strings of another one follow. -/
theorem all?_append {first second : Reading} (h : first.all? = .ok strings) :
    (first.append second).all? = second.all?.map (strings ++ ·) := by
  obtain ⟨noFault, found⟩ := all?_eq_ok.1 h
  rw [all?, all?, strings_append noFault, found, append_of_fault_eq_none noFault]
  cases second.fault <;> rfl

/-- **Many readings none of which fails** meet what each of them meets, in order:
`sequence readings = ⟨readings.flatMap events, none⟩`. -/
theorem sequence_of_clean {readings : List Reading}
    (clean : ∀ reading ∈ readings, reading.fault = none) :
    sequence readings = ⟨readings.flatMap events, none⟩ := by
  induction readings with
  | nil => rfl
  | cons reading readings ih =>
      rw [List.forall_mem_cons] at clean
      rw [sequence, append_of_fault_eq_none clean.1, ih clean.2, List.flatMap_cons]

/-- **Many readings give the strings of all of them,** if each gives its own:
`(sequence readings).all? = .ok parts.flatten`. -/
theorem all?_sequence {readings : List Reading} {parts : List (List Translatable)}
    (h : List.Forall₂ (fun reading part => reading.all? = .ok part) readings parts) :
    (sequence readings).all? = .ok parts.flatten := by
  induction h with
  | nil => rfl
  | cons first _ ih =>
      rw [sequence, all?_append first, ih]
      rfl

/-- The strings with relative references, for events without a fault behind them. -/
theorem all?_relativeEvents (root : Option String) (events : List Event) :
    (relativeEvents root none events).all? =
      ((events.filterMap Event.string?).mapM (Reference.relativizeAll root)).mapError
        Fault.reference := by
  -- event by event: a remark passes through, and a string stops the reading if it fails
  induction events with
  | nil => rfl
  | cons event events ih =>
      cases event with
      | note remark =>
          have none : (ofNote remark).all? = .ok [] := rfl
          have strings : (Event.note remark :: events).filterMap Event.string? =
              events.filterMap Event.string? := rfl
          rw [strings, relativeEvents, all?_append none, ih]
          cases (events.filterMap Event.string?).mapM (Reference.relativizeAll root) <;> rfl
      | found string =>
          have strings : (Event.found string :: events).filterMap Event.string? =
              string :: events.filterMap Event.string? := rfl
          rw [strings, List.mapM_cons, relativeEvents]
          cases Reference.relativizeAll root string with
          | error fault => rfl
          | ok first =>
              have one : all? ⟨[.found first], Option.none⟩ = .ok [first] := rfl
              dsimp only
              rw [all?_append one, ih]
              cases (events.filterMap Event.string?).mapM (Reference.relativizeAll root) <;> rfl

/-- **With relative references a reading gives the strings with theirs,** or fails for a reference. -/
theorem all?_relative (root : Option String) (h : reading.all? = .ok strings) :
    (reading.relative root).all? =
      (strings.mapM (Reference.relativizeAll root)).mapError Fault.reference := by
  obtain ⟨noFault, rfl⟩ := all?_eq_ok.1 h
  rw [relative, noFault, all?_relativeEvents, Reading.strings]

/-- **Merged, a reading gives the strings behind its own:**
`reading.merged.all? = reading.all?.map mergeSightings`. -/
theorem all?_merged : reading.merged.all? = reading.all?.map mergeSightings := by
  have silent (notes : List Note) : (notes.map Event.note).filterMap Event.string? = [] := by
    simp [List.filterMap_map, Function.comp_def, Event.string?]
  have heard (found : List Translatable) : (found.map Event.found).filterMap Event.string? = found := by
    simp [List.filterMap_map, Function.comp_def, Event.string?]
  unfold merged all?
  cases fault : reading.fault with
  | some fault => rfl
  | none => simp [Reading.strings, Except.map, silent, heard]

end StringCatalog.Reading
