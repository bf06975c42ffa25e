import StringCatalog.Placeholder.Basic

/-! # Comparing placeholders

A translation keeps the placeholders of its source:

* **`Mismatch`** — how it may fail to.
* **`mismatches`** — all mismatches between a source and a translation.
* **`keepsPlaceholders`** — whether none of them is critical. -/

namespace StringCatalog

/-- How much a mismatch matters. -/
inductive Mismatch.Severity where
  /-- The program will fail or show something wrong. -/
  | critical
  /-- The program may show something wrong. -/
  | warning
  deriving DecidableEq, Repr

/-- The word for a severity. -/
def Mismatch.Severity.word : Mismatch.Severity → String
  | .critical => "critical"
  | .warning => "warning"

/-- **A difference between the placeholders of a source and of its translation.** -/
inductive Mismatch where
  /-- There are not as many in the translation. -/
  | count (source translation : Nat)
  /-- One of the source is missing. -/
  | missing (placeholder : String)
  /-- One of the translation is not in the source. -/
  | extra (placeholder : String)
  /-- Those that are filled in turn stand in another order. -/
  | order
  deriving DecidableEq, Repr

namespace Mismatch

/-- How much a mismatch matters. -/
def severity : Mismatch → Severity
  | .order => .warning
  | _ => .critical

/-- The word for the kind of a mismatch. -/
def kind : Mismatch → String
  | .count _ _ => "count_mismatch"
  | .missing _ => "missing"
  | .extra _ => "extra"
  | .order => "order_changed"

/-- The wording of a mismatch. -/
def message : Mismatch → String
  | .count source translation =>
      "Placeholder count mismatch: source has " ++ toString source ++ ", translation has " ++
        toString translation
  | .missing placeholder => "Missing placeholder in translation: " ++ placeholder
  | .extra placeholder => "Extra placeholder in translation: " ++ placeholder
  | .order => "Non-positional placeholder order changed (may cause runtime issues)"

end Mismatch

/-- The texts of one list that are not in another, each once and in order. -/
def textsBeyond (texts others : List String) : List String :=
  ((texts.filter fun text => !others.contains text).eraseDups).mergeSort fun a b => decide (a ≤ b)

/-- Differences in number and kind. -/
def contentMismatches (source translation : List Placeholder) : List Mismatch :=
  let ofSource := source.map Placeholder.text
  let ofTranslation := translation.map Placeholder.text
  (if source.length == translation.length then []
    else [Mismatch.count source.length translation.length]) ++
  (textsBeyond ofSource ofTranslation).map Mismatch.missing ++
  (textsBeyond ofTranslation ofSource).map Mismatch.extra

/-- **All mismatches between a source and a translation.** The order counts only where nothing else
differs. -/
def mismatches (source translation : String) : List Mismatch :=
  let ofSource := placeholders source
  let ofTranslation := placeholders translation
  let found := contentMismatches ofSource ofTranslation
  if found.isEmpty &&
      ofSource.filter Placeholder.isSequential != ofTranslation.filter Placeholder.isSequential
  then [.order]
  else found

/-- **Whether a translation keeps the placeholders of its source.** -/
def keepsPlaceholders (source translation : String) : Bool :=
  (mismatches source translation).all fun mismatch => mismatch.severity != .critical

end StringCatalog
