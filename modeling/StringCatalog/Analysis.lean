import StringCatalog.Placeholder.Comparison
import StringCatalog.Text.Blank
import StringCatalog.Translatable.Basic

/-! # Advice on strings

What is likely to cause trouble for translators:

* **`Finding`** — one remark on a string, with its severity and wording.
* **`findings?`** — all remarks on a string.
* **`Report`** — the remarks on many strings as a table. -/

namespace StringCatalog

/-- How much a finding matters. -/
inductive Finding.Severity where
  | error
  | warning
  | hint
  deriving DecidableEq, Repr

namespace Finding.Severity

/-- The word for a severity. -/
def word : Finding.Severity → String
  | .error => "error"
  | .warning => "warning"
  | .hint => "hint"

/-- The colour in which a table shows a severity. -/
def colour : Finding.Severity → String
  | .error => "red"
  | .warning => "yellow"
  | .hint => "cyan"

/-- A severity as a cell of a table. -/
def cell (severity : Finding.Severity) : String :=
  "[" ++ severity.colour ++ "]" ++ severity.word ++ "[/" ++ severity.colour ++ "]"

end Finding.Severity

/-- **One remark on a string.** -/
inductive Finding where
  /-- Singular and plural have other placeholders. -/
  | formsDiffer
  /-- A translation has other placeholders than its source. -/
  | translation (mismatch : Mismatch)
  /-- A translation has another number of line feeds than its source. -/
  | newlines (before after : Nat)
  /-- The text begins or ends with a blank. -/
  | outerBlanks
  /-- Three full stops stand for an ellipsis. -/
  | threePeriods
  /-- Nobody explained the placeholders. -/
  | unexplained
  deriving DecidableEq, Repr

namespace Finding

/-- How much a finding matters. -/
def severity : Finding → Severity
  | .formsDiffer => .error
  | .translation mismatch =>
      match mismatch.severity with
      | .critical => .error
      | .warning => .warning
  | .newlines _ _ => .warning
  | .outerBlanks => .warning
  | .threePeriods => .hint
  | .unexplained => .hint

/-- The wording of a finding. -/
def message : Finding → String
  | .formsDiffer => "Singular and plural placeholders differ"
  | .translation mismatch => mismatch.message
  | .newlines before after =>
      "Newline count changed: " ++ toString before ++ " → " ++ toString after
  | .outerBlanks => "Leading or trailing whitespace in source text"
  | .threePeriods => "Use an ellipsis character (…) instead of three periods"
  | .unexplained => "Placeholders without a developer comment describing them"

end Finding

/-- The source of each translation: the singular for the first, and for all others the plural if
there is a non-empty one. -/
def sourceOf (string : Translatable) (index : Nat) : String :=
  if index == 0 then string.singular
  else
    match string.plural with
    | some plural => if plural == "" then string.singular else plural
    | none => string.singular

/-- The remarks on one translation. -/
def translationFindings (source translation : String) : List Finding :=
  let before := Text.countChar '\n' source
  let after := Text.countChar '\n' translation
  (mismatches source translation).map Finding.translation ++
    (if before == after then [] else [.newlines before after])

/-- The remarks on the translations from an index on; an open form cannot be compared. -/
def allTranslationFindings? (string : Translatable) : Nat → List (Option String) →
    Option (List Finding)
  | _, [] => some []
  | _, none :: _ => none
  | index, some translation :: rest =>
      (allTranslationFindings? string (index + 1) rest).map
        (translationFindings (sourceOf string index) translation ++ ·)

/-- The remarks on the untranslated text alone. -/
def sourceFindings (string : Translatable) : List Finding :=
  let text := string.singular.toList
  let explained := string.developerComments.any (· != "")
  (if Text.trim text == text then [] else [.outerBlanks]) ++
  (if Text.contains ['.', '.', '.'] text then [.threePeriods] else []) ++
  (if hasPlaceholders string.singular && !explained then [.unexplained] else [])

/-- The remark on the plural. -/
def formFindings (string : Translatable) : List Finding :=
  match string.plural with
  | some plural => if keepsPlaceholders string.singular plural then [] else [.formsDiffer]
  | none => []

/-- **All remarks on a string.** There are none to be had if one of its translations is open. -/
def findings? (string : Translatable) : Option (List Finding) :=
  (allTranslationFindings? string 0 (string.translations.getD [])).map fun translations =>
    formFindings string ++ translations ++ sourceFindings string

/-! ## Reports -/

/-- A row of a report. -/
structure Report.Row where
  /-- The severity in its colour. -/
  severity : String
  /-- The start of the untranslated text. -/
  text : String
  /-- The wording of the finding. -/
  issue : String
  /-- The first place of the string, if one is known. -/
  reference : String
  deriving DecidableEq, Repr

/-- **A table of findings.** -/
structure Report where
  /-- The heading over the table. -/
  title : String
  /-- One row for each finding. -/
  rows : List Report.Row
  deriving DecidableEq, Repr

namespace Report

/-- The headings of the columns. -/
def columns : List String := ["Severity", "String", "Issue", "Reference"]

/-- How much of a text a row shows. -/
def shownLength : Nat := 40

/-- The text of a cell. A single backslash at its end is doubled, so that it is not read together
with what follows the cell. -/
def cell (text : List Char) : String :=
  match text.reverse with
  | '\\' :: '\\' :: _ => String.ofList text
  | '\\' :: _ => String.ofList (text ++ ['\\'])
  | _ => String.ofList text

/-- The row of a finding. -/
def rowOf (issue : Finding × Translatable) : Row :=
  ⟨issue.1.severity.cell, cell (issue.2.singular.toList.take shownLength),
    cell issue.1.message.toList, cell (issue.2.references.headD "").toList⟩

/-- **The table of the findings on some number of strings.** -/
def ofIssues (stringCount : Nat) (issues : List (Finding × Translatable)) : Report :=
  ⟨"String Analysis (" ++ toString issues.length ++ " issues in " ++ toString stringCount ++
    " strings)", issues.map rowOf⟩

end Report

/-- **The findings on all strings, each with its string.** -/
def analyze? (strings : List Translatable) : Option (List (Finding × Translatable)) :=
  match strings with
  | [] => some []
  | string :: rest =>
      match findings? string, analyze? rest with
      | some found, some more => some (found.map (·, string) ++ more)
      | _, _ => none

end StringCatalog
