import StringCatalog.Extraction.Reading

/-! # Sightings of one string

A string may be met in several places and files. Sightings of the same untranslated forms become one
string, which keeps what the first of them says and has the references of all:

* **`addSighting`, `mergeSightings`** — the strings behind some sightings.
* **`Reading.relative`** — a reading with references relative to a folder.
* **`Reading.merged`** — a reading in which every string stands once, behind all notes. -/

namespace StringCatalog

/-! ## Merging -/

/-- The strings with one more sighting. -/
def addSighting (strings : List Translatable) (sighting : Translatable) : List Translatable :=
  match strings with
  | [] => [sighting]
  | string :: rest =>
      if string.key == sighting.key then string.mergeReferences sighting :: rest
      else string :: addSighting rest sighting

/-- **The strings behind some sightings,** in the order of their first ones. -/
def mergeSightings (sightings : List Translatable) : List Translatable :=
  sightings.foldl addSighting []

/-- `mergeSightings [] = []`: no sightings are no strings. -/
@[simp] theorem mergeSightings_nil : mergeSightings [] = [] := rfl

/-- A sighting adds its key, if it is new. -/
theorem map_key_addSighting (strings : List Translatable) (sighting : Translatable) :
    (addSighting strings sighting).map Translatable.key =
      if sighting.key ∈ strings.map Translatable.key then strings.map Translatable.key
      else strings.map Translatable.key ++ [sighting.key] := by
  induction strings with
  | nil => simp [addSighting]
  | cons string rest ih =>
      by_cases same : string.key = sighting.key
      · simp [addSighting, same]
      · have other : ¬ sighting.key = string.key := fun equal => same equal.symm
        by_cases there : sighting.key ∈ rest.map Translatable.key <;>
          simp_all [addSighting]

/-! ## Readings -/

namespace Reading

/-- Events with the references of their strings relative to a folder, up to a reference for which
that fails. -/
def relativeEvents (root : Option String) (fault : Option Fault) : List Event → Reading
  | [] => ⟨[], fault⟩
  | .note remark :: rest =>
      (Reading.ofNote remark).append (relativeEvents root fault rest)
  | .found string :: rest =>
      match Reference.relativizeAll root string with
      | .error fault => .failed (.reference fault)
      | .ok string => Reading.append ⟨[.found string], none⟩ (relativeEvents root fault rest)

/-- **A reading with references relative to a folder.** -/
def relative (root : Option String) (reading : Reading) : Reading :=
  relativeEvents root reading.fault reading.events

/-- **A reading in which every string stands once,** behind all notes; there is none behind a
fault. -/
def merged (reading : Reading) : Reading :=
  let notes := reading.notes.map Event.note
  match reading.fault with
  | some fault => ⟨notes, some fault⟩
  | none => ⟨notes ++ (mergeSightings reading.strings).map Event.found, none⟩

end Reading

end StringCatalog
