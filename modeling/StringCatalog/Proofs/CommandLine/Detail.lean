import Mathlib.Data.List.Basic
import StringCatalog.Proofs.CommandLine.Run

/-! # What is shown does not count

How much detail is shown, and whether strings are checked, changes nothing but what is shown:

* **`Progress.IsBelow`** — an operation that comes to the same as another one and shows less.
* **`Progress.IsBelow.andThen`** — so do operations one after another.
* **`Plan.isBelow_run`** — so does a run of a plan that shows less.
* **`run_detail`** — so does the command with options that show less. -/

namespace StringCatalog

/-! ## Notes and progress -/

/-- A higher log level shows all that a lower one shows. -/
theorem ConsoleLine.sublist_ofNotes {less more : Int} (le : less ≤ more) (notes : List Note) :
    (ofNotes less notes).Sublist (ofNotes more notes) := by
  refine List.Sublist.map _ (List.monotone_filter_right _ fun note shown => ?_)
  simp only [Note.isShown, decide_eq_true_eq] at shown ⊢
  exact Int.le_trans shown le

/-- **An operation that comes to the same as another one and shows less.** What the other one comes to
is seen through a function. -/
structure Progress.IsBelow {α β : Type} (view : α → β) (less : Progress α) (more : Progress β) :
    Prop where
  /-- Both come to the same. -/
  result : more.result = less.result.map view
  /-- The other one shows all that is shown here. -/
  console : less.console.Sublist more.console

namespace Progress

variable {α β γ δ : Type} {view : α → β} {less : Progress α} {more : Progress β}

/-- Nothing is below nothing. -/
theorem isBelow_done (view : α → β) (value : α) : IsBelow view (done value) (done (view value)) :=
  ⟨rfl, List.Sublist.refl _⟩

/-- Fewer lines are below more. -/
theorem isBelow_shown {fewer lines : List ConsoleLine} (sublist : fewer.Sublist lines) :
    IsBelow id (shown fewer) (shown lines) := ⟨rfl, sublist⟩

/-- **Operations one after another** show less if each of them does. -/
theorem IsBelow.andThen (first : IsBelow view less more) {again : γ → δ} {next : α → Progress γ}
    {other : β → Progress δ}
    (second : ∀ value, less.result = .ok value → IsBelow again (next value) (other (view value))) :
    IsBelow again (less.andThen next) (more.andThen other) := by
  obtain ⟨result, console⟩ := first
  unfold Progress.andThen
  cases came : less.result with
  | error fault =>
      rw [came] at result
      rw [result]
      exact ⟨rfl, console⟩
  | ok value =>
      rw [came] at result
      rw [result]
      obtain ⟨same, fewer⟩ := second value came
      exact ⟨same, console.append fewer⟩

end Progress

/-! ## Readers -/

namespace Reader

variable {reader : Reader} {tree : FileTree}

/-- A reader that shows another amount of detail. -/
def withLevel (level : Int) (reader : Reader) : Reader :=
  { reader with logLevel := level }

/-- `(reader.withLevel level).add path = (reader.add path).map (withLevel level)`: whether a file
is taken does not depend on the detail. -/
theorem add_withLevel (level : Int) (path : String) :
    (reader.withLevel level).add path = (reader.add path).map (withLevel level) := by
  have kind : (reader.withLevel level).kind = reader.kind := rfl
  rw [add, add, kind]
  split
  · split <;> rfl
  · rfl

/-- What comes of adding files to a reader that shows another amount of detail. -/
def Added.withLevel (level : Int) (added : Added) : Added :=
  { added with reader := added.reader.withLevel level }

/-- Nor does which of some paths are taken. -/
theorem addFound_withLevel (level : Int) (paths : List Path) :
    (reader.withLevel level).addFound tree paths =
      (reader.addFound tree paths).withLevel level := by
  induction paths generalizing reader with
  | nil => rfl
  | cons path paths ih =>
      have kind : (reader.withLevel level).kind = reader.kind := rfl
      have push : (reader.withLevel level).push path = (reader.push path).withLevel level := rfl
      rw [addFound, addFound, kind, push, ih, ih]
      split
      · rfl
      · rfl
      · split
        · split <;> rfl
        · rfl

/-- **Files are added** in the same way whatever is shown. -/
theorem register_withLevel (level : Int) (input : String) :
    (reader.withLevel level).register tree input = (reader.register tree input).withLevel level := by
  have matching (folder : Path) (place : FileTree.Place) (name : String) :
      (reader.withLevel level).addMatching tree folder place name =
        (reader.addMatching tree folder place name).withLevel level := by
    unfold addMatching
    split
    · rfl
    · exact addFound_withLevel level _
  have below (path : Path) : (reader.withLevel level).addBelow tree input path =
      (reader.addBelow tree input path).withLevel level := by
    unfold addBelow
    split
    · rfl
    · exact matching _ _ _
    · rfl
  unfold register
  dsimp only
  split
  · rw [add_withLevel]
    cases reader.add input <;> rfl
  · split
    · rfl
    · exact matching _ _ _
    · exact below _

/-- **Inputs are added** in the same way whatever is shown. -/
theorem addInput_withLevel (level : Int) (input : String) :
    (reader.withLevel level).addInput tree input =
      (reader.addInput tree input).map id (Except.map (withLevel level)) := by
  unfold addInput
  rw [register_withLevel]
  obtain ⟨notes, later, fault⟩ := reader.register tree input
  cases fault <;> rfl

/-- `later.logLevel = reader.logLevel`: adding an input leaves the amount of detail. -/
theorem logLevel_addInput {input : String} {later : Reader}
    (added : (reader.addInput tree input).2 = .ok later) : later.logLevel = reader.logLevel := by
  have same : (reader.addInput tree input).2 =
      (reader.addInput tree input).2.map (withLevel reader.logLevel) :=
    congrArg Prod.snd (addInput_withLevel reader.logLevel input)
  rw [added] at same
  injection same with same
  rw [same]
  rfl

/-- `(reader.withLevel level).read tree = reader.read tree`: strings are read in the same way
whatever is shown. -/
theorem read_withLevel (level : Int) : (reader.withLevel level).read tree = reader.read tree := rfl

/-- A reader shows less with less detail. -/
theorem isBelow_progress {level : Int} (le : reader.logLevel ≤ level) :
    Progress.IsBelow id (reader.progress tree) ((reader.withLevel level).progress tree) := by
  refine ⟨?_, ConsoleLine.sublist_ofNotes le _⟩
  have same : ((reader.withLevel level).progress tree).result =
      ((reader.withLevel level).read tree).all? := rfl
  rw [same, read_withLevel, Except.map_id]
  rfl

end Reader

namespace CommandLine

/-! ## Plans -/

namespace Plan

variable {plan : Plan} {tree : FileTree} {less more : Int}

/-- **A plan with another amount of detail,** and with or without checks. -/
def withDetail (level : Int) (isAnalyzed : Bool) (plan : Plan) : Plan :=
  { plan with logLevel := level, writer := { plan.writer with logLevel := level }, isAnalyzed }

variable {fewer checked : Bool}

/-- The reader with all inputs shows less with less detail. -/
theorem isBelow_reader (le : less ≤ more) :
    Progress.IsBelow (Reader.withLevel more) ((plan.withDetail less fewer).reader tree)
      ((plan.withDetail more checked).reader tree) := by
  have from_ (inputs : List String) {progress other : Progress Reader}
      (start : Progress.IsBelow (Reader.withLevel more) progress other) :
      Progress.IsBelow (Reader.withLevel more)
        (inputs.foldl ((plan.withDetail less fewer).withInput tree) progress)
        (inputs.foldl ((plan.withDetail more checked).withInput tree) other) := by
    induction inputs generalizing progress other with
    | nil => exact start
    | cons input inputs ih =>
        refine ih (start.andThen fun reader _ => ?_)
        rw [Reader.addInput_withLevel]
        exact ⟨rfl, ConsoleLine.sublist_ofNotes le _⟩
  rw [reader_eq, reader_eq]
  exact from_ plan.inputs (Progress.isBelow_done (Reader.withLevel more) _)

/-- `reader.logLevel = plan.logLevel`: the reader with all inputs shows as much as the plan says. -/
theorem logLevel_of_reader {reader : Reader} (made : (plan.reader tree).result = .ok reader) :
    reader.logLevel = plan.logLevel := by
  have from_ (inputs : List String) (first : Reader) (level : first.logLevel = plan.logLevel)
      (added : addInputs tree first inputs = .ok reader) : reader.logLevel = plan.logLevel := by
    induction inputs generalizing first with
    | nil =>
        cases added
        exact level
    | cons input inputs ih =>
        rw [addInputs, List.foldlM_cons] at added
        cases one : (first.addInput tree input).2 with
        | error fault =>
            rw [one] at added
            cases added
        | ok later =>
            rw [one] at added
            exact ih later ((Reader.logLevel_addInput one).trans level) added
  rw [result_reader] at made
  exact from_ plan.inputs _ rfl made

/-- A line on a step is shown where more is shown. -/
theorem isBelow_stepLine (le : less ≤ more) (line : String) :
    Progress.IsBelow id ((plan.withDetail less fewer).stepLine line)
      ((plan.withDetail more checked).stepLine line) :=
  Progress.isBelow_shown (ConsoleLine.sublist_ofNotes le _)

/-- Checks of closed strings only show something. -/
theorem isBelow_analysis (imp : fewer = true → checked = true) {strings : List Translatable}
    (closed : ∀ string ∈ strings, string.IsClosed) :
    Progress.IsBelow id ((plan.withDetail less fewer).analysis strings)
      ((plan.withDetail more checked).analysis strings) := by
  refine ⟨by rw [result_analysis _ closed, result_analysis _ closed]; rfl, ?_⟩
  unfold analysis
  cases fewer with
  | true =>
      rw [show checked = true from imp rfl]
      exact List.Sublist.refl _
  | false => exact List.nil_sublist _

/-- The strings of all inputs are the same. -/
theorem isBelow_strings (le : less ≤ more) :
    Progress.IsBelow id ((plan.withDetail less fewer).strings tree)
      ((plan.withDetail more checked).strings tree) := by
  refine (isBelow_reader le).andThen fun reader made => Reader.isBelow_progress ?_
  rw [logLevel_of_reader made]
  exact le

/-- **The strings that are to be written** are the same, and less is shown before. -/
theorem isBelow_gathered (le : less ≤ more) (imp : fewer = true → checked = true) :
    Progress.IsBelow id ((plan.withDetail less fewer).gathered tree)
      ((plan.withDetail more checked).gathered tree) := by
  unfold gathered
  cases reduction : plan.reduction with
  | some catalogs =>
      rw [show (plan.withDetail less fewer).reduction = some catalogs from reduction,
        show (plan.withDetail more checked).reduction = some catalogs from reduction]
      -- one catalog after the other, and then a note
      refine (Reader.isBelow_progress le).andThen fun kept _ =>
        (Reader.isBelow_progress le).andThen fun strings _ => ⟨rfl, ConsoleLine.sublist_ofNotes le _⟩
  | none =>
      rw [show (plan.withDetail less fewer).reduction = none from reduction,
        show (plan.withDetail more checked).reduction = none from reduction]
      refine (isBelow_strings le).andThen fun strings found => ?_
      have closed := isClosed_of_strings _ found
      exact (isBelow_stepLine le _).andThen fun _ _ => (isBelow_analysis imp closed).andThen fun _ _ =>
        (isBelow_stepLine le _).andThen fun _ _ => Progress.isBelow_done id strings

end Plan

/-! ## Runs -/

/-- **A run that does the same as another one and shows less.** -/
structure Run.IsBelow (less more : Run) : Prop where
  /-- Both have done the same. -/
  effect : less.effect = more.effect
  /-- In both the same went wrong. -/
  fault : less.fault = more.fault
  /-- The other one shows all that is shown here. -/
  console : less.console.Sublist more.console

namespace Run

/-- Two runs that hand over the same differ in what they have shown before. -/
theorem isBelow_ofDelivery (effect : Effect) {fewer lines : List ConsoleLine}
    (sublist : fewer.Sublist lines) (delivery : Delivery) :
    IsBelow (.ofDelivery effect fewer delivery) (.ofDelivery effect lines delivery) :=
  ⟨rfl, rfl, sublist⟩

/-- A run behind an operation shows less if both of them do. -/
theorem isBelow_after {α : Type} (effect : Effect) {less more : Progress α} {next other : α → Run}
    (first : Progress.IsBelow id less more) (second : ∀ value, (next value).IsBelow (other value)) :
    (after effect less next).IsBelow (after effect more other) := by
  obtain ⟨result, console⟩ := first
  rw [Except.map_id] at result
  unfold after
  rw [show more.result = less.result from result]
  cases less.result with
  | error fault => exact ⟨rfl, rfl, console⟩
  | ok value => exact ⟨(second value).effect, (second value).fault, console.append (second value).console⟩

/-- One run behind another shows less if both of them do. -/
theorem IsBelow.andThen {less more : Run} (first : less.IsBelow more) {next other : Effect → Run}
    (second : ∀ effect, (next effect).IsBelow (other effect)) :
    (less.andThen next).IsBelow (more.andThen other) := by
  unfold Run.andThen
  rw [← first.effect, ← first.fault]
  split
  · exact first
  · have later := second less.effect
    exact ⟨later.effect, later.fault, first.console.append later.console⟩

end Run

namespace Plan

variable {plan : Plan} {less more : Int} {fewer checked : Bool}

/-- A writer hands over the same document whatever is shown. -/
theorem carryOver_withDetail (le : less ≤ more) (writer : Writer) (strings : List Translatable)
    (tree : FileTree) (input destination : String) :
    let document (level : Int) :=
      { writer with logLevel := level }.carryOver strings tree input destination
    (document less).2 = (document more).2 ∧ (document less).1.Sublist (document more).1 := by
  obtain ⟨kind, level, stem⟩ := writer
  unfold Writer.carryOver
  cases kind with
  | resources =>
      -- the reader of the document has the same reading at each level
      have same : Reader.read ⟨.only .resources, none, less, Program.Keyword.usual, [.ofString input]⟩ tree =
        Reader.read ⟨.only .resources, none, more, Program.Keyword.usual, [.ofString input]⟩ tree := rfl
      dsimp only
      rw [same]
      split <;> exact ⟨rfl, ConsoleLine.sublist_ofNotes le _⟩
  | catalog => exact ⟨rfl, List.Sublist.refl []⟩
  | unknown => exact ⟨rfl, List.Sublist.refl []⟩

/-- Translations are carried over in the same way, and less is shown. -/
theorem isBelow_carryOver (le : less ≤ more) (strings : List Translatable) (effect : Effect) :
    Run.IsBelow ((plan.withDetail less fewer).carryOver strings effect)
      ((plan.withDetail more checked).carryOver strings effect) := by
  have idle : Run.IsBelow ⟨effect, [], none⟩ ⟨effect, [], none⟩ := ⟨rfl, rfl, List.Sublist.refl []⟩
  unfold carryOver withDetail
  dsimp only
  split
  · next input output _ _ =>
    obtain ⟨same, sublist⟩ := carryOver_withDetail le plan.writer strings effect.tree input output
    rw [← same]
    exact Run.isBelow_ofDelivery effect sublist _
  · exact idle

/-- **A run of a plan** does the same with less detail, and shows less. -/
theorem isBelow_run (le : less ≤ more) (imp : fewer = true → checked = true) (effect : Effect) :
    Run.IsBelow ((plan.withDetail less fewer).run effect)
      ((plan.withDetail more checked).run effect) := by
  rw [run_eq, run_eq]
  refine Run.isBelow_after effect (isBelow_gathered le imp) fun strings => ?_
  have written := Run.isBelow_ofDelivery effect (List.Sublist.refl [])
    (plan.writer.generate strings effect.tree plan.output)
  unfold finish
  cases reduction : plan.reduction with
  | some catalogs =>
      rw [show (plan.withDetail less fewer).reduction = some catalogs from reduction,
        show (plan.withDetail more checked).reduction = some catalogs from reduction]
      exact written
  | none =>
      rw [show (plan.withDetail less fewer).reduction = none from reduction,
        show (plan.withDetail more checked).reduction = none from reduction]
      exact written.andThen (isBelow_carryOver le strings)

end Plan

/-! ## Arguments -/

/-- **Arguments that say the same** but for what is shown and checked. -/
structure Arguments.IsLike (first second : Arguments) : Prop where
  /-- All other options have the same values. -/
  values : ∀ key, key ≠ .log → key ≠ .verbose → key ≠ .analyze → first.values key = second.values key
  /-- The same is shown at once, if anything. -/
  shown : shownAtOnce? first = shownAtOnce? second
  /-- The same arguments are no options. -/
  extra : first.extra = second.extra

/-- Arguments are like themselves. -/
theorem Arguments.IsLike.refl (arguments : Arguments) : arguments.IsLike arguments :=
  ⟨fun _ _ _ _ => rfl, rfl, rfl⟩

variable {settings : Settings} {tree : FileTree} {first second : Arguments}

/-- **The plan is the same** but for what is shown and checked. -/
theorem Arguments.IsLike.of_eq (alike : first.IsLike second) :
    Plan.of settings tree second = (Plan.of settings tree first).map
      (Plan.withDetail (logLevelOf settings second) (second.has .analyze)) := by
  have value (key : Key) (quiet : key ≠ .log) (terse : key ≠ .verbose) (unchecked : key ≠ .analyze) :
      second.value? key = first.value? key :=
    congrArg List.getLast? (alike.values key quiet terse unchecked).symm
  have root : rootOf settings tree second = rootOf settings tree first := by
    unfold rootOf
    rw [value .sourceRoot (by simp) (by simp) (by simp)]
  have kind : kindOf settings second = kindOf settings first := by
    unfold kindOf
    rw [value .generator (by simp) (by simp) (by simp)]
  have reduction : reductionOf second = reductionOf first := by
    unfold reductionOf
    rw [value .reduceMaster (by simp) (by simp) (by simp),
      value .reduceRetain (by simp) (by simp) (by simp)]
  have manual : manualOf second = manualOf first := by
    unfold manualOf
    rw [value .manualInput (by simp) (by simp) (by simp),
      value .manualOutput (by simp) (by simp) (by simp)]
  have output := value .output (by simp) (by simp) (by simp)
  have inputs := alike.values .input (by simp) (by simp) (by simp)
  unfold Plan.of
  rw [root, kind, reduction, manual, output, ← inputs]
  dsimp only
  split
  · rfl
  · cases rootOf settings tree first <;> cases kindOf settings first <;>
      cases reductionOf first <;> rfl

/-! ## The command -/

/-- **Results that differ in nothing but what was shown.** -/
structure Result.Agrees (first second : Result) : Prop where
  /-- The exit code is the same. -/
  exitCode : first.exitCode = second.exitCode
  /-- The same went to standard output. -/
  output : first.output = second.output
  /-- The same went to standard error. -/
  errors : first.errors = second.errors
  /-- The files are the same. -/
  tree : first.tree = second.tree
  /-- The same ended the run without being reported. -/
  uncaught : first.uncaught = second.uncaught

/-- Results that agree with one result agree. -/
theorem Result.Agrees.of_common {common first second : Result} (one : common.Agrees first)
    (other : common.Agrees second) : first.Agrees second where
  exitCode := one.exitCode.symm.trans other.exitCode
  output := one.output.symm.trans other.output
  errors := one.errors.symm.trans other.errors
  tree := one.tree.symm.trans other.tree
  uncaught := one.uncaught.symm.trans other.uncaught

/-- What a run leaves behind is what any run below it leaves behind. -/
theorem Run.IsBelow.ofRun {less more : Run} (h : less.IsBelow more) :
    (Result.ofRun less).Agrees (.ofRun more) ∧
      (Result.ofRun less).console.Sublist (Result.ofRun more).console := by
  obtain ⟨effect, fault, console⟩ := h
  unfold Result.ofRun
  rw [← effect, ← fault]
  dsimp only
  split
  · exact ⟨⟨rfl, rfl, rfl, rfl, rfl⟩, console⟩
  · split <;> exact ⟨⟨rfl, rfl, rfl, rfl, rfl⟩, console⟩

/-- **What is shown and checked does not count.** The runs of two commands whose arguments are
alike otherwise (`IsLike`) agree (`Agrees`): they have the same exit code, the same on standard
output and standard error, the same files and the same unexpected end. If both check the strings or
neither does, the one with the lower log level shows some of the lines that the other one shows, in
the same order: `console.Sublist`. Showing a line never fails. -/
theorem run_detail (settings : Settings) (tree : FileTree) {firstArguments secondArguments : List String}
    (readFirst : Arguments.parse firstArguments = .ok first)
    (readSecond : Arguments.parse secondArguments = .ok second) (alike : first.IsLike second) :
    (run settings tree firstArguments).Agrees (run settings tree secondArguments) ∧
    (first.has .analyze = second.has .analyze → logLevelOf settings first ≤ logLevelOf settings second →
      (run settings tree firstArguments).console.Sublist
        (run settings tree secondArguments).console) := by
  have same (result : Result) : result.Agrees result := ⟨rfl, rfl, rfl, rfl, rfl⟩
  have all (result : Result) : result.console.Sublist result.console := List.Sublist.refl _
  unfold run
  rw [readFirst, readSecond]
  dsimp only
  unfold runArguments
  rw [← alike.shown, ← alike.extra]
  split
  · exact ⟨same _, fun _ _ => all _⟩
  split
  · exact ⟨same _, fun _ _ => all _⟩
  rw [alike.of_eq]
  cases made : Plan.of settings tree first with
  | error fault => exact ⟨same _, fun _ _ => all _⟩
  | ok plan =>
      have itself : plan = plan.withDetail (logLevelOf settings first) (first.has .analyze) := by
        have again : Plan.of settings tree first = (Plan.of settings tree first).map
            (Plan.withDetail (logLevelOf settings first) (first.has .analyze)) :=
          (Arguments.IsLike.refl first).of_eq
        rw [made] at again
        injection again
      let done (level : Int) (isAnalyzed : Bool) : Run := (plan.withDetail level isAnalyzed).run ⟨tree, ""⟩
      have start : plan.run ⟨tree, ""⟩ = done (logLevelOf settings first) (first.has .analyze) :=
        congrArg (·.run ⟨tree, ""⟩) itself
      dsimp only [Except.map]
      rw [start]
      refine ⟨?_, fun checked level => ?_⟩
      -- both runs are above one that shows as little as either of them and checks nothing
      · let lowest := min (logLevelOf settings first) (logLevelOf settings second)
        have above {level : Int} (le : lowest ≤ level) (isAnalyzed : Bool) :
            (Result.ofRun (done lowest false)).Agrees (.ofRun (done level isAnalyzed)) :=
          (Plan.isBelow_run le (by simp) _).ofRun.1
        exact (above (Int.min_le_left _ _) _).of_common (above (Int.min_le_right _ _) _)
      · have below : (done (logLevelOf settings first) (first.has .analyze)).IsBelow
            (done (logLevelOf settings second) (second.has .analyze)) :=
          Plan.isBelow_run level (by simp [checked]) _
        exact below.ofRun.2

/-- A catalog that is checked without a word on the steps, and with all details. -/
theorem run_detail_checked :
    let tree : FileTree := ⟨[(["w", "a.po"], .file (Text.encode "msgid \"a...\"\nmsgstr \"\"\n"))]⟩
    let quiet := run .default tree ["-i", "a.po", "-a"]
    let verbose := run .default tree ["-v", "-l", "--input=a.po", "-a"]
    quiet.Agrees verbose ∧ quiet.console.Sublist verbose.console := by
  intro tree quiet verbose
  have alike : Arguments.IsLike ⟨[⟨.input, "a.po"⟩, ⟨.analyze, ""⟩], []⟩
      ⟨[⟨.verbose, ""⟩, ⟨.log, ""⟩, ⟨.input, "a.po"⟩, ⟨.analyze, ""⟩], []⟩ := by
    refine ⟨fun key silent terse unchecked => ?_, rfl, rfl⟩
    cases key <;> first | rfl | contradiction
  have readQuiet : Arguments.parse ["-i", "a.po", "-a"] =
      .ok ⟨[⟨.input, "a.po"⟩, ⟨.analyze, ""⟩], []⟩ := by
    decide +kernel
  have readVerbose : Arguments.parse ["-v", "-l", "--input=a.po", "-a"] =
      .ok ⟨[⟨.verbose, ""⟩, ⟨.log, ""⟩, ⟨.input, "a.po"⟩, ⟨.analyze, ""⟩], []⟩ := by
    decide +kernel
  have both := run_detail .default tree readQuiet readVerbose alike
  exact ⟨both.1, both.2 (by decide) (by decide)⟩

end CommandLine

end StringCatalog
