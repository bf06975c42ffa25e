import StringCatalog.Text.Quoted

/-! # Faults of a catalog

* **`Catalog.Cause`** — what is wrong with a line.
* **`Catalog.Fault`** — a cause with the number of the line, and the file if the lines were read from
  another file than the one named as input. -/

namespace StringCatalog.Catalog

/-- **What is wrong with a line of a catalog.** -/
inductive Cause where
  /-- The line has no meaning, or not at this place. -/
  | misplaced
  /-- A double quote inside a text has no backslash before it. -/
  | unescapedQuote
  /-- A line with a former text goes on with something else than a text. -/
  | invalidContinuation
  /-- A line with a former text has an unknown keyword. -/
  | unknownKeyword (word : String)
  deriving DecidableEq, Repr

/-- The wording of a cause, behind the number of the line. -/
def Cause.message : Cause → String
  | .misplaced => ""
  | .unescapedQuote => ": unescaped double quote found"
  | .invalidContinuation => ": invalid continuation line"
  | .unknownKeyword word => ": unknown keyword " ++ word

/-- **Why some lines are no catalog.** -/
structure Fault where
  /-- The file that the lines were read from, if it is not the input itself. -/
  file : Option String
  /-- The number of the line. -/
  line : Nat
  /-- What is wrong with it. -/
  cause : Cause
  deriving DecidableEq, Repr

/-- **The wording of a fault.** -/
def Fault.message (fault : Fault) : String :=
  let file :=
    match fault.file with
    | some file => file ++ " "
    | none => ""
  "Syntax error in po file " ++ file ++ "(line " ++ toString fault.line ++ ")" ++
    fault.cause.message

end StringCatalog.Catalog
