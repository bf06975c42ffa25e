import StringCatalog.Text.Search

/-! # Options

* **`Key`** — what an option is about.
* **`OptionSpec`, `options`** — the options with their names and help.
* **`usageHint`, `helpText`, `versionText`** — what is shown on how the command is used. -/

namespace StringCatalog.CommandLine

/-- **What an option is about.** -/
inductive Key where
  /-- Show the version. -/
  | version
  /-- An input. -/
  | input
  /-- Where the output goes. -/
  | output
  /-- The folder that references are made relative to. -/
  | sourceRoot
  /-- The form of the output. -/
  | generator
  /-- Check the strings. -/
  | analyze
  /-- A catalog to be reduced. -/
  | reduceMaster
  /-- The catalog that says what is left of it. -/
  | reduceRetain
  /-- A resource document kept by hand. -/
  | manualInput
  /-- Where its translation goes. -/
  | manualOutput
  /-- Show steps. -/
  | log
  /-- Show all details. -/
  | verbose
  /-- Show the help. -/
  | help
  deriving DecidableEq, Repr

/-- Whether an option has a value. -/
def Key.takesValue : Key → Bool
  | .input | .output | .sourceRoot | .generator | .reduceMaster | .reduceRetain | .manualInput
  | .manualOutput => true
  | .version | .analyze | .log | .verbose | .help => false

/-- **An option with its names and its help.** -/
structure OptionSpec where
  /-- What it is about. -/
  key : Key
  /-- Its letter, if it has one. -/
  letter : Option Char
  /-- Its name. -/
  name : String
  /-- The lines of its help. -/
  help : List String

/-- **All options,** in the order of the help. -/
def options : List OptionSpec :=
  [⟨.version, none, "--version", ["Show the version and exit."]⟩,
   ⟨.input, some 'i', "--input",
     ["Input directory, search pattern, or file to", "parse (non-recursive)"]⟩,
   ⟨.output, some 'o', "--output",
     ["Output file for extracted string resources", "('-' for stdout)  [default: -]"]⟩,
   ⟨.sourceRoot, some 'r', "--source-root",
     ["Root directory of source code, used to", "relativize references"]⟩,
   ⟨.generator, some 'g', "--generator", ["Generator to use (po|android)"]⟩,
   ⟨.analyze, some 'a', "--analyze", ["Run the string analyzer after parsing"]⟩,
   ⟨.reduceMaster, none, "--reduce-master",
     ["Reduce a master localized PO file, keeping", "only strings defined by --reduce-retain"]⟩,
   ⟨.reduceRetain, none, "--reduce-retain",
     ["An unlocalized PO[T] file deciding which", "strings from --reduce-master are retained"]⟩,
   ⟨.manualInput, none, "--android-input-strings-xml",
     ["Input file of unlocalized, hand-maintained", "Android strings.xml"]⟩,
   ⟨.manualOutput, none, "--android-output-strings-xml",
     ["Output file for the localized hand-", "maintained Android strings.xml"]⟩,
   ⟨.log, some 'l', "--log", ["Display logging"]⟩,
   ⟨.verbose, some 'v', "--verbose", ["Verbose logging"]⟩,
   ⟨.help, some 'h', "--help", ["Show this message and exit."]⟩]

/-- The option with a name. -/
def named? (name : String) : Option OptionSpec :=
  options.find? (·.name == name)

/-- The option with a letter. -/
def lettered? (letter : Char) : Option OptionSpec :=
  options.find? (·.letter == some letter)

/-! ## Usage -/

/-- The name of the command. -/
def commandName : String := "stringsmith"

/-- The first line on how the command is used. -/
def usageLine : String := "Usage: " ++ commandName ++ " [OPTIONS]\n"

/-- **Where to find out how the command is used.** -/
def usageHint : String := usageLine ++ "Try '" ++ commandName ++ " --help' for help.\n\n"

/-- The column in which the help of the options starts. -/
def helpColumn : Nat := 34

/-- So many blanks. -/
def blanks (count : Nat) : String := String.ofList (List.replicate count ' ')

/-- An option as the help shows it. -/
def OptionSpec.heading (spec : OptionSpec) : String :=
  let letter := (spec.letter.map fun letter => String.ofList ['-', letter, ',', ' ']).getD ""
  "  " ++ letter ++ spec.name ++ (if spec.key.takesValue then " TEXT" else "")

/-- The lines of the help on an option. The first stands beside the option, if there is room for it
with two blanks between them. -/
def OptionSpec.lines (spec : OptionSpec) : List String :=
  let beside := spec.heading.length + 2 ≤ helpColumn
  let further := (if beside then spec.help.drop 1 else spec.help).map (blanks helpColumn ++ ·)
  if beside then
    (spec.heading ++ blanks (helpColumn - spec.heading.length) ++ spec.help.headD "") :: further
  else spec.heading :: further

/-- **What the help shows.** -/
def helpText : String :=
  usageLine ++ "\n  Extract translatable strings and generate localization catalogs.\n\n" ++
    "Options:\n" ++ String.join ((options.flatMap OptionSpec.lines).map (· ++ "\n"))

/-- **What is shown of the version.** -/
def versionText : String := commandName ++ ", version 0.1.0\n"

end StringCatalog.CommandLine
