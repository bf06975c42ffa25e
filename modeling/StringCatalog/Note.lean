import StringCatalog.Analysis

/-! # Notes and the console

* **`Note`** — a remark on the progress of a run, with how much detail it is.
* **`Note.shown`** — the notes that a log level lets through.
* **`ConsoleLine`** — what a run shows: a line of text or a report. -/

namespace StringCatalog

/-- How much detail a note is. -/
inductive Note.Detail where
  /-- A step of the run. -/
  | step
  /-- One of many things within a step. -/
  | item
  deriving DecidableEq, Repr

/-- **A remark on the progress of a run.** -/
structure Note where
  /-- How much detail it is. -/
  detail : Note.Detail
  /-- Its wording. -/
  text : String
  deriving DecidableEq, Repr

namespace Note

/-- A remark on a step of the run. -/
def step (text : String) : Note := ⟨.step, text⟩

/-- A remark on one of many things. -/
def item (text : String) : Note := ⟨.item, text⟩

/-- The lowest log level that shows a detail. -/
def Detail.level : Detail → Int
  | .step => 1
  | .item => 2

/-- **Whether a log level lets a note through.** -/
def isShown (logLevel : Int) (note : Note) : Bool :=
  decide (note.detail.level ≤ logLevel)

/-- **The notes that a log level lets through,** in order. -/
def shown (logLevel : Int) (notes : List Note) : List Note :=
  notes.filter (isShown logLevel)

end Note

/-- **What a run shows on the console.** -/
inductive ConsoleLine where
  /-- A text, which may go over several lines. -/
  | text (line : String)
  /-- A table. -/
  | report (report : Report)
  deriving DecidableEq, Repr

/-- **What is shown of the findings on some number of strings:** a table, unless there are none. -/
def ConsoleLine.ofIssues (stringCount : Nat) (issues : List (Finding × Translatable)) : ConsoleLine :=
  if issues.isEmpty then
    .text ("Analyzed " ++ toString stringCount ++ " strings, no issues found")
  else .report (.ofIssues stringCount issues)

/-- The console lines of some notes at a log level. -/
def ConsoleLine.ofNotes (logLevel : Int) (notes : List Note) : List ConsoleLine :=
  (Note.shown logLevel notes).map fun note => .text note.text

end StringCatalog
