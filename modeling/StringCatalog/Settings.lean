import StringCatalog.FileTree.Basic
import StringCatalog.Text.Digit

/-! # Settings

What a run takes from its environment:

* **`Settings.ofEnvironment`** — the settings that some variables give.
* **`Settings.problems`** — what is wrong with some settings. -/

namespace StringCatalog

/-- **The settings of a run.** -/
structure Settings where
  /-- The name of the generator. -/
  generator : String
  /-- The root that references are made relative to. -/
  sourceRoot : Option String
  /-- How much is logged: nothing, steps, or details. -/
  logLevel : Int
  /-- What derived resource identifiers begin with. -/
  stem : String
  deriving DecidableEq, Repr

namespace Settings

/-- The settings of an empty environment. -/
def default : Settings := ⟨"po", none, 0, "Str"⟩

/-- The text of the log level, where it is no whole number. -/
structure Fault where
  /-- The text. -/
  text : String
  /-- What is wrong with it. -/
  cause : Text.IntegerFault
  deriving DecidableEq, Repr

/-- How much of a text that is no number is shown. -/
def shownLength : Nat := 200

/-- The wording of a fault. -/
def Fault.message (fault : Fault) : String :=
  match fault.cause with
  | .malformed =>
      "invalid literal for int() with base 10: " ++
        String.ofList ((Text.quoted fault.text).toList.take shownLength)
  | .tooLong digits =>
      "Exceeds the limit (" ++ toString Text.longestNumber ++
        " digits) for integer string conversion: value has " ++ toString digits ++
        " digits; use sys.set_int_max_str_digits() to increase the limit"

/-- **The settings that the variables of an environment give.** An empty source root is none. -/
def ofEnvironment (environment : List (String × String)) : Except Fault Settings :=
  let valueOf (name fallback : String) : String := (environment.lookup name).getD fallback
  let root := valueOf "STRINGSMITH_SOURCE_ROOT" ""
  let level := valueOf "STRINGSMITH_LOG_LEVEL" "0"
  match Text.readInteger level with
  | .error cause => .error ⟨level, cause⟩
  | .ok logLevel =>
      .ok ⟨valueOf "STRINGSMITH_GENERATOR" "po", if root == "" then none else some root, logLevel,
        valueOf "STRINGSMITH_RESOURCE_ID_PREFIX" "Str"⟩

/-- What is wrong with a setting. -/
inductive Problem where
  /-- There is no such log level. -/
  | logLevel (level : Int)
  /-- The source root is no folder. -/
  | sourceRoot (root : String)
  /-- Derived identifiers would begin with nothing. -/
  | emptyStem
  deriving DecidableEq, Repr

/-- The wording of a problem. -/
def Problem.message : Problem → String
  | .logLevel level => "STRINGSMITH_LOG_LEVEL must be 0, 1 or 2, got " ++ toString level
  | .sourceRoot root => "STRINGSMITH_SOURCE_ROOT is not a directory: " ++ root
  | .emptyStem => "STRINGSMITH_RESOURCE_ID_PREFIX must not be empty"

/-- **What is wrong with some settings.** -/
def problems (settings : Settings) (tree : FileTree) : List Problem :=
  let level :=
    if 0 ≤ settings.logLevel && settings.logLevel ≤ 2 then []
    else [Problem.logLevel settings.logLevel]
  let root :=
    match settings.sourceRoot with
    | some root => if root == "" || tree.isFolder root then [] else [Problem.sourceRoot root]
    | none => []
  level ++ root ++ (if settings.stem == "" then [.emptyStem] else [])

end Settings

end StringCatalog
