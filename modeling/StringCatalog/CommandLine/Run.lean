import StringCatalog.CommandLine.Arguments
import StringCatalog.Progress
import StringCatalog.Resource.CarryOver
import StringCatalog.Settings

/-! # The command

* **`Plan`** — what is to be done, once the options have been checked.
* **`Plan.extract`, `Plan.reduce`** — the two things that the command does.
* **`Result`** — what a run leaves behind.
* **`run`** — the command run with some settings, files and arguments. -/

namespace StringCatalog.CommandLine

/-! ## Checking the options -/

/-- **What is to be done.** -/
structure Plan where
  /-- How much detail is shown. -/
  logLevel : Int
  /-- The folder that references are made relative to. -/
  root : Option String
  /-- What writes the strings. -/
  writer : Writer
  /-- The inputs. -/
  inputs : List String
  /-- Where the output goes. -/
  output : String
  /-- Whether the strings are checked. -/
  isAnalyzed : Bool
  /-- A master catalog, and the one that it is reduced to. -/
  reduction : Option (String × String)
  /-- A resource document kept by hand, and where its translation goes. -/
  manual : Option (String × String)

/-- Why options do not go together. -/
inductive UsageFault where
  /-- The settings are wrong. -/
  | settings (problems : List Settings.Problem)
  /-- The source root is no folder. -/
  | sourceRoot
  /-- There is no such form of output. -/
  | generator
  /-- A master catalog has nothing to be reduced to. -/
  | noRetain
  /-- Nothing is to be reduced. -/
  | noMaster
  deriving DecidableEq, Repr

/-- The forms of output by their names. -/
def generators : List (String × Writer.Kind) := [("po", .catalog), ("android", .resources)]

/-- The wording of a fault. -/
def UsageFault.message : UsageFault → String
  | .settings problems => Text.joined "; " (problems.map (·.message))
  | .sourceRoot => "invalid source-root"
  | .generator =>
      "invalid generator (choose from " ++ Text.joined "|" (generators.map (·.1)) ++ ")"
  | .noRetain => "reduce-retain must be specified if reduce-master is"
  | .noMaster => "reduce-master must be specified if reduce-retain is"

/-- What is shown of a fault. -/
def UsageFault.console (fault : UsageFault) : List ConsoleLine :=
  [.text (commandName ++ ": " ++ fault.message),
    .text ("Try `" ++ commandName ++ " --help` for more information.")]

/-- A text that is not empty. -/
def nonempty? (text : Option String) : Option String :=
  text.filter (· != "")

/-- The log level that the options ask for. -/
def logLevelOf (settings : Settings) (arguments : Arguments) : Int :=
  if arguments.has .verbose then 2 else if arguments.has .log then 1 else settings.logLevel

/-- The source root that the options or settings name. -/
def rootOf (settings : Settings) (tree : FileTree) (arguments : Arguments) :
    Except UsageFault (Option String) :=
  match (nonempty? (arguments.value? .sourceRoot)).orElse fun _ => settings.sourceRoot with
  | none => .ok none
  | some root =>
      if tree.isFolder root then .ok (some (Path.ofString root).absolute.toString)
      else .error .sourceRoot

/-- The form of output that the options or settings name. -/
def kindOf (settings : Settings) (arguments : Arguments) : Except UsageFault Writer.Kind :=
  let name := (nonempty? (arguments.value? .generator)).getD settings.generator
  match generators.lookup (Text.lower name) with
  | some kind => .ok kind
  | none => .error .generator

/-- The catalogs that the options name for a reduction. -/
def reductionOf (arguments : Arguments) : Except UsageFault (Option (String × String)) :=
  match arguments.value? .reduceMaster, arguments.value? .reduceRetain with
  | some master, some retain => .ok (some (master, retain))
  | none, none => .ok none
  | some _, none => .error .noRetain
  | none, some _ => .error .noMaster

/-- The documents that the options name for carrying translations over. -/
def manualOf (arguments : Arguments) : Option (String × String) :=
  match nonempty? (arguments.value? .manualInput), nonempty? (arguments.value? .manualOutput) with
  | some input, some output => some (input, output)
  | _, _ => none

/-- **What is to be done,** or why that cannot be said. -/
def Plan.of (settings : Settings) (tree : FileTree) (arguments : Arguments) :
    Except UsageFault Plan := do
  let problems := settings.problems tree
  if !problems.isEmpty then throw (.settings problems)
  let root ← rootOf settings tree arguments
  let kind ← kindOf settings arguments
  let reduction ← reductionOf arguments
  let logLevel := logLevelOf settings arguments
  return ⟨logLevel, root, ⟨kind, logLevel, settings.stem⟩, arguments.values .input,
    (arguments.value? .output).getD standardOutput, arguments.has .analyze, reduction,
    manualOf arguments⟩

/-! ## Doing it -/

/-- What a run has done so far: the files as they are then, and what went to standard output. -/
structure Effect where
  /-- The files. -/
  tree : FileTree
  /-- What went to standard output. -/
  output : String

/-- An effect with what comes of handing over a text. -/
def Effect.deliver (effect : Effect) (delivery : Delivery) : Effect :=
  ⟨delivery.tree, effect.output ++ delivery.output.getD ""⟩

/-- **What a run has done and shown,** and what went wrong, if anything did. -/
structure Run where
  /-- What it has done. -/
  effect : Effect
  /-- What it has shown. -/
  console : List ConsoleLine
  /-- What went wrong. -/
  fault : Option Fault

/-- The run of an operation that does nothing but show lines, and of what follows it. -/
def Run.after {α : Type} (effect : Effect) (progress : Progress α) (next : α → Run) : Run :=
  match progress.result with
  | .error fault => ⟨effect, progress.console, some fault⟩
  | .ok value => { next value with console := progress.console ++ (next value).console }

/-- The run of handing over a text. -/
def Run.ofDelivery (effect : Effect) (console : List ConsoleLine) (delivery : Delivery) : Run :=
  ⟨effect.deliver delivery, console, delivery.fault⟩

/-- One run after another; nothing follows a fault. -/
def Run.andThen (first : Run) (next : Effect → Run) : Run :=
  match first.fault with
  | some _ => first
  | none => { next first.effect with console := first.console ++ (next first.effect).console }

namespace Plan

/-- A line on a step, where steps are shown. -/
def stepLine (plan : Plan) (line : String) : Progress Unit :=
  .shown (ConsoleLine.ofNotes plan.logLevel [.step line])

/-- The reader with all inputs. -/
def reader (plan : Plan) (tree : FileTree) : Progress Reader :=
  plan.inputs.foldl
    (fun progress input => progress.andThen fun reader =>
      let (notes, added) := reader.addInput tree input
      ⟨ConsoleLine.ofNotes plan.logLevel notes, added⟩)
    (.done (.ofAll plan.root plan.logLevel))

/-- The strings of all inputs. -/
def strings (plan : Plan) (tree : FileTree) : Progress (List Translatable) :=
  (plan.reader tree).andThen fun reader => reader.progress tree

/-- The strings checked, where that is asked for. -/
def analysis (plan : Plan) (strings : List Translatable) : Progress Unit :=
  if plan.isAnalyzed then
    match analyze? strings with
    | none => .failed .openComparison
    | some issues => .shown [.ofIssues strings.length issues]
  else .done ()

/-- The strings of all inputs, with what is shown before they are written. -/
def prepared (plan : Plan) (tree : FileTree) : Progress (List Translatable) :=
  (plan.strings tree).andThen fun strings =>
    (plan.stepLine ("Found: " ++ toString strings.length ++ " strings")).andThen fun _ =>
      (plan.analysis strings).andThen fun _ =>
        (plan.stepLine ("Writing: " ++ plan.output)).andThen fun _ => .done strings

/-- Translations carried over to a document kept by hand, where that is asked for. -/
def carryOver (plan : Plan) (strings : List Translatable) (effect : Effect) : Run :=
  match plan.writer.kind, plan.manual with
  | .resources, some (input, output) =>
      let (console, delivery) := plan.writer.carryOver strings effect.tree input output
      .ofDelivery effect console delivery
  | _, _ => ⟨effect, [], none⟩

/-- **Strings read from all inputs and written.** -/
def extract (plan : Plan) (effect : Effect) : Run :=
  .after effect (plan.prepared effect.tree) fun strings =>
    (Run.ofDelivery effect [] (plan.writer.generate strings effect.tree plan.output)).andThen
      (plan.carryOver strings)

/-- **A master catalog reduced and written.** -/
def reduce (plan : Plan) (master retain : String) (effect : Effect) : Run :=
  let catalogs (path : String) : Reader :=
    (Reader.ofCatalogs plan.root plan.logLevel).push (.ofString path)
  .after effect (plan.writer.reduce effect.tree (catalogs master) (catalogs retain)) fun strings =>
    .ofDelivery effect [] (plan.writer.generate strings effect.tree plan.output)

/-- What is to be done, done. -/
def run (plan : Plan) (effect : Effect) : Run :=
  match plan.reduction with
  | some (master, retain) => plan.reduce master retain effect
  | none => plan.extract effect

end Plan

/-! ## Results -/

/-- **What a run leaves behind.** -/
structure Result where
  /-- The exit code. -/
  exitCode : Nat
  /-- What went to standard output. -/
  output : String
  /-- What went to standard error. -/
  errors : String
  /-- What was shown on the console. -/
  console : List ConsoleLine
  /-- The files. -/
  tree : FileTree
  /-- What ended the run without being reported. -/
  uncaught : Option Fault

/-- A result with something on standard output and nothing else. -/
def Result.ofText (tree : FileTree) (text : String) : Result :=
  ⟨0, text, "", [], tree, none⟩

/-- Whether a fault is reported as an error: inputs and files may be at fault, all else is not
expected. -/
def isReported : Fault → Bool
  | .unsupported _ | .input _ _ | .file (.refused _ _) => true
  | _ => false

/-- What stands for the detail of a fault whose wording is left open. -/
def openDetail : String := "<detail>"

/-- What is reported of a fault. -/
def reportOf (fault : Fault) : String :=
  let message :=
    match fault.message?, fault with
    | some message, _ => message
    | none, .input path _ => path ++ ": " ++ openDetail
    | none, _ => ""
  "Error: " ++ message ++ "\n"

/-- The result of a run. -/
def Result.ofRun (run : Run) : Result :=
  let effect := run.effect
  match run.fault with
  | none => ⟨0, effect.output, "", run.console, effect.tree, none⟩
  | some fault =>
      if isReported fault then
        ⟨1, effect.output, reportOf fault, run.console, effect.tree, none⟩
      else ⟨1, effect.output, "", run.console, effect.tree, some fault⟩

/-- The first of the options that end the command at once, with what it shows. -/
def shownAtOnce? (arguments : Arguments) : Option String :=
  arguments.settings.findSome? fun setting =>
    match setting.key with
    | .help => some helpText
    | .version => some versionText
    | _ => none

/-- The command run with arguments that have been read. -/
def runArguments (settings : Settings) (tree : FileTree) (arguments : Arguments) : Result :=
  match shownAtOnce? arguments with
  | some text => .ofText tree text
  | none =>
      if !arguments.extra.isEmpty then
        ⟨2, "", (ArgumentFault.extra arguments.extra).text, [], tree, none⟩
      else
        match Plan.of settings tree arguments with
        | .error fault => ⟨0, "", "", fault.console, tree, none⟩
        | .ok plan => .ofRun (plan.run ⟨tree, ""⟩)

/-- **The command run with some settings, files and arguments.** -/
def run (settings : Settings) (tree : FileTree) (arguments : List String) : Result :=
  match Arguments.parse arguments with
  | .error fault => ⟨2, "", fault.text, [], tree, none⟩
  | .ok arguments => runArguments settings tree arguments

end StringCatalog.CommandLine
