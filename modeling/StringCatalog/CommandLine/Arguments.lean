import StringCatalog.CommandLine.Options
import StringCatalog.Text.Quoted
import StringCatalog.Text.Similarity

/-! # Arguments

* **`Arguments`** — what the arguments of a command say.
* **`ArgumentFault`** — why they say nothing, and **`ArgumentFault.message`**, its wording.
* **`Arguments.parse`** — the arguments read. -/

namespace StringCatalog.CommandLine

/-- An option in the arguments, with its value if it has one. -/
structure Setting where
  /-- What it is about. -/
  key : Key
  /-- Its value. -/
  value : String
  deriving DecidableEq, Repr

/-- **What the arguments of a command say.** -/
structure Arguments where
  /-- The options in order. -/
  settings : List Setting
  /-- The arguments that are no options. -/
  extra : List String
  deriving DecidableEq, Repr

namespace Arguments

/-- The values of an option in order. -/
def values (arguments : Arguments) (key : Key) : List String :=
  (arguments.settings.filter (·.key == key)).map (·.value)

/-- The value of an option; the last one counts. -/
def value? (arguments : Arguments) (key : Key) : Option String :=
  (arguments.values key).getLast?

/-- Whether an option is there. -/
def has (arguments : Arguments) (key : Key) : Bool :=
  arguments.settings.any (·.key == key)

end Arguments

/-- **Why arguments say nothing.** -/
inductive ArgumentFault where
  /-- There is no such option, but perhaps some that are like it. -/
  | unknown (name : String) (similar : List String)
  /-- An option has no value but needs one. -/
  | noValue (name : String)
  /-- An option has a value but takes none. -/
  | needlessValue (name : String)
  /-- There are arguments that are no options. -/
  | extra (arguments : List String)
  deriving DecidableEq, Repr

/-- What is said of options that may have been meant. -/
def suggestion (similar : List String) : String :=
  let quoted := (similar.mergeSort fun a b => decide (a ≤ b)).map Text.quoted
  match quoted with
  | [] => ""
  | [name] => " Did you mean " ++ name ++ "?"
  | names => " (Possible options: " ++ Text.joined ", " names ++ ")"

/-- **The wording of a fault.** -/
def ArgumentFault.message : ArgumentFault → String
  | .unknown name similar =>
      "No such option " ++ Text.quoted name ++ "." ++ suggestion similar
  | .noValue name => "Option " ++ Text.quoted name ++ " requires an argument."
  | .needlessValue name => "Option " ++ Text.quoted name ++ " does not take a value."
  | .extra arguments =>
      "Got unexpected extra argument" ++ (if arguments.length == 1 then "" else "s") ++ " (" ++
        Text.joined " " arguments ++ ")"

/-- What is shown of a fault. Where a value is at fault, how the command is used is left out. -/
def ArgumentFault.text (fault : ArgumentFault) : String :=
  let usage :=
    match fault with
    | .unknown _ _ | .extra _ => usageHint
    | .noValue _ | .needlessValue _ => ""
  usage ++ "Error: " ++ fault.message ++ "\n"

/-! ## Reading -/

/-- What a single argument comes to: options that are complete, and perhaps one that has its value
in the next argument, by the name that it is given here. -/
structure Piece where
  /-- The complete options. -/
  settings : List Setting
  /-- The option without its value. -/
  pending : Option (String × Key)

/-- The options whose letters stand in one argument. What follows the letter of an option with a
value is the value. -/
def readLetters : List Char → Except ArgumentFault Piece
  | [] => .ok ⟨[], none⟩
  | letter :: rest =>
      let name := String.ofList ['-', letter]
      match lettered? letter with
      | none => .error (.unknown name [])
      | some spec =>
          if !spec.key.takesValue then
            (readLetters rest).map fun piece =>
              { piece with settings := ⟨spec.key, ""⟩ :: piece.settings }
          else if rest.isEmpty then .ok ⟨[], some (name, spec.key)⟩
          else .ok ⟨[⟨spec.key, String.ofList rest⟩], none⟩

/-- The option with a name, given the value that stands behind an equals sign. -/
def readNamed (spec : OptionSpec) (value : Option String) : Except ArgumentFault Piece :=
  match spec.key.takesValue, value with
  | true, some value => .ok ⟨[⟨spec.key, value⟩], none⟩
  | true, none => .ok ⟨[], some (spec.name, spec.key)⟩
  | false, some _ => .error (.needlessValue spec.name)
  | false, none => .ok ⟨[⟨spec.key, ""⟩], none⟩

/-- The name and the value of an argument with an equals sign. -/
def cutValue (argument : String) : String × Option String :=
  match Text.cutAt? '=' argument.toList with
  | some (name, value) => (String.ofList name, some (String.ofList value))
  | none => (argument, none)

/-- What an argument that begins with a hyphen comes to. -/
def readOption (argument : String) : Except ArgumentFault Piece :=
  let (name, value) := cutValue argument
  match named? name with
  | some spec => readNamed spec value
  | none =>
      if argument.startsWith "--" then
        .error (.unknown name (Text.closest 3 name (options.map (·.name))))
      else readLetters (argument.toList.drop 1)

/-- Whether an argument is an option. A hyphen alone is none. -/
def isOption (argument : String) : Bool :=
  argument.startsWith "-" && argument != "-"

/-- Arguments with some more options in front. -/
def Arguments.push (settings : List Setting) (arguments : Arguments) : Arguments :=
  { arguments with settings := settings ++ arguments.settings }

/-- **The arguments read.** Behind two hyphens alone there are no more options. -/
def Arguments.parse : List String → Except ArgumentFault Arguments
  | [] => .ok ⟨[], []⟩
  | argument :: rest =>
      if argument == "--" then .ok ⟨[], rest⟩
      else if isOption argument then
        match readOption argument with
        | .error fault => .error fault
        | .ok ⟨settings, none⟩ => (Arguments.parse rest).map (·.push settings)
        | .ok ⟨settings, some (name, key)⟩ =>
            match rest with
            | [] => .error (.noValue name)
            | value :: rest => (Arguments.parse rest).map (·.push (settings ++ [⟨key, value⟩]))
      else
        (Arguments.parse rest).map fun arguments =>
          { arguments with extra := argument :: arguments.extra }

end StringCatalog.CommandLine
