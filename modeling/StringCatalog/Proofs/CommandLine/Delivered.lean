import StringCatalog.Proofs.CommandLine.Run
import StringCatalog.Proofs.FileTree.Write

/-! # What a run hands over

* **`IsDelivered`** — the result of a run that hands over some content and leaves all else.
* **`IsEmptied`** — the result of a run that leaves a file empty and leaves all else.
* **`IsRefused`** — arguments that cannot be carried out, as the options do not go together.
* **`IsCutShort`** — a run that opens its file and then has no bytes for what is to be written.
* **`Plan.run_cases`** — a plan is carried out, or nothing is written, or it is cut short.
* **`run_allOrNothing`** — the command hands over all that is to be written, or nothing, unless it is
  cut short. -/

namespace StringCatalog.CommandLine

/-! ## Handing over -/

/-- **Some content handed over, and all else left:** it goes to standard output, or it stands under
the path and no other file is changed. -/
def IsDelivered (earlier : FileTree) (content destination : String) (later : FileTree)
    (output : String) : Prop :=
  if destination = standardOutput then output = content ∧ later = earlier
  else output = "" ∧
    earlier.IsWritten later (Path.ofString destination).toString (Text.encode content)

/-- **A file left empty, and all else left:** nothing goes to standard output, an empty file stands
under the path, and no other file is changed. That is,
`output = "" ∧ earlier.IsWritten later (Path.ofString destination).toString []`. -/
def IsEmptied (earlier : FileTree) (destination : String) (later : FileTree) (output : String) : Prop :=
  output = "" ∧ earlier.IsWritten later (Path.ofString destination).toString []

/-- **A destination that is a file which can be opened:**
`destination ≠ standardOutput ∧ (tree.write (.ofString destination) []).2 = none`. -/
def CanOpen (tree : FileTree) (destination : String) : Prop :=
  destination ≠ standardOutput ∧ (tree.write (.ofString destination) []).2 = none

/-- **Content is handed over, or nothing is** where something goes wrong. -/
theorem deliver_cases (tree : FileTree) (content destination : String) :
    let delivery := deliver tree content destination
    let effect := Effect.deliver ⟨tree, ""⟩ delivery
    match delivery.fault with
    | none => IsDelivered tree content destination effect.tree effect.output
    | some _ => effect.tree.files = tree.files ∧ effect.output = "" := by
  have written := tree.write_cases (.ofString destination) (Text.encode content)
  unfold deliver IsDelivered
  by_cases standard : destination = standardOutput
  · simp [standard, Effect.deliver]
  · cases wrote : tree.write (.ofString destination) (Text.encode content) with
    | mk later fault => cases fault <;> simp_all [Effect.deliver]

/-- **Where there are no bytes for a content,** a file that can be opened is left empty; otherwise
nothing changes. -/
theorem deliverNothing_cases (tree : FileTree) (fault : Text.EncodeFault) (destination : String) :
    let delivery := deliverNothing tree fault destination
    let effect := Effect.deliver ⟨tree, ""⟩ delivery
    (CanOpen tree destination → delivery.fault = some (.encoding fault) ∧
      IsEmptied tree destination effect.tree effect.output) ∧
    (¬CanOpen tree destination → delivery.fault ≠ none ∧
      effect.tree.files = tree.files ∧ effect.output = "") := by
  have written := tree.write_cases (.ofString destination) []
  unfold deliverNothing IsEmptied CanOpen
  by_cases standard : destination = standardOutput
  · simp [standard, Effect.deliver, Delivery.none]
  · cases wrote : tree.write (.ofString destination) [] with
    | mk later refused => cases refused <;> simp_all [Effect.deliver]

/-! ## Halves of pairs -/

/-- **There are bytes for a catalog** just where there are for all of its strings. -/
theorem Catalog.encodeFault?_eq_none_iff {strings : List Translatable} :
    Catalog.encodeFault? strings = none ↔ ∀ string ∈ strings, string.IsWhole := by
  have whole (string : Translatable) :
      string.halves.singular ++ string.halves.plural = [] ↔ string.IsWhole := by
    rw [List.append_eq_nil_iff, Translatable.IsWhole]
    cases string.halves
    simp
  have all : (strings.flatMap fun string => string.halves.singular ++ string.halves.plural) = [] ↔
      ∀ string ∈ strings, string.IsWhole := by
    simp only [List.flatMap_eq_nil_iff, whole]
  rw [← all, Catalog.encodeFault?]
  split <;> simp_all

/-- Only for a catalog there may be no bytes, and then one of its strings has halves of pairs. -/
theorem Writer.encodeFault?_ne_none_iff {writer : Writer} {strings : List Translatable} :
    writer.encodeFault? strings ≠ none ↔
      writer.kind = .catalog ∧ ∃ string ∈ strings, ¬string.IsWhole := by
  unfold Writer.encodeFault?
  cases writer.kind <;> simp [Catalog.encodeFault?_eq_none_iff]

/-! ## Plans -/

/-- What a plan is made of. -/
theorem Plan.of_eq_ok {settings : Settings} {tree : FileTree} {arguments : Arguments} {plan : Plan}
    (made : Plan.of settings tree arguments = .ok plan) :
    plan.output = (arguments.value? .output).getD standardOutput ∧
      plan.manual = manualOf arguments := by
  unfold Plan.of at made
  dsimp only at made
  split at made
  · cases made
  · cases root : rootOf settings tree arguments <;>
      cases kind : kindOf settings arguments <;>
      cases reduction : reductionOf arguments <;>
      rw [root, kind, reduction] at made <;> cases made
    exact ⟨rfl, rfl⟩

/-- `manualOf arguments = none`: translations are carried over only if both documents are named. -/
theorem manualOf_eq_none {arguments : Arguments}
    (apart : ¬(arguments.has .manualInput ∧ arguments.has .manualOutput)) :
    manualOf arguments = none := by
  have value (key : Key) (missing : arguments.has key = false) :
      nonempty? (arguments.value? key) = none := by
    have none : arguments.settings.filter (·.key == key) = [] := by
      rw [List.filter_eq_nil_iff]
      simpa [Arguments.has] using missing
    simp [Arguments.value?, Arguments.values, none, nonempty?]
  unfold manualOf
  rcases not_and_or.1 apart with missing | missing
  · rw [value _ (by simpa using missing)]
  · rw [value .manualOutput (by simpa using missing)]
    split <;> simp_all

/-- `first.andThen next = first`: nothing that is done behind a run changes nothing. -/
theorem Run.andThen_idle (first : Run) {next : Effect → Run}
    (idle : ∀ effect, next effect = ⟨effect, [], none⟩) : first.andThen next = first := by
  unfold andThen
  split
  · rfl
  · next clean =>
    rw [idle, List.append_nil, ← clean]

/-- With no document to carry translations over to, strings are only handed over. -/
theorem Plan.finish_eq {plan : Plan} (single : plan.manual = none) (strings : List Translatable)
    (effect : Effect) :
    plan.finish strings effect =
      .ofDelivery effect [] (plan.writer.generate strings effect.tree plan.output) := by
  have idle (effect : Effect) : plan.carryOver strings effect = ⟨effect, [], none⟩ := by
    unfold carryOver
    rw [single]
    cases plan.writer.kind <;> rfl
  unfold finish
  split
  · rfl
  · exact Run.andThen_idle _ idle

/-- **A plan that is cut short:** a catalog is to be written to a file that can be opened, and one of
the strings has halves of pairs, so that there are no bytes for it. -/
def Plan.IsCutShort (plan : Plan) (tree : FileTree) : Prop :=
  plan.writer.kind = .catalog ∧ CanOpen tree plan.output ∧
    ∃ strings, plan.records tree = .ok strings ∧ ∃ string ∈ strings, ¬string.IsWhole

/-- **A plan that is cut short leaves its file empty.** -/
theorem Plan.IsCutShort.run_eq {plan : Plan} {tree : FileTree} (h : plan.IsCutShort tree)
    (single : plan.manual = none) :
    let done := plan.run ⟨tree, ""⟩
    ∃ fault, done.fault = some (.encoding fault) ∧
      IsEmptied tree plan.output done.effect.tree done.effect.output := by
  obtain ⟨kind, opened, strings, read, string, member, torn⟩ := h
  have none : plan.writer.encodeFault? strings ≠ none :=
    Writer.encodeFault?_ne_none_iff.2 ⟨kind, string, member, torn⟩
  obtain ⟨fault, encoded⟩ := Option.ne_none_iff_exists'.1 none
  have rendered : plan.writer.render strings = .ok (Catalog.render strings) := by
    rw [Writer.render, kind]
  simp only [plan.run_eq, Run.after, plan.result_gathered, read, finish_eq single, Run.ofDelivery,
    Writer.generate, rendered, encoded]
  exact ⟨fault, (deliverNothing_cases tree fault plan.output).1 opened⟩

/-- **Any other plan is carried out or nothing is written.** If nothing goes wrong, what is rendered of
the strings that the files have had is handed over. -/
theorem Plan.run_cases {plan : Plan} {tree : FileTree} (whole : ¬plan.IsCutShort tree)
    (single : plan.manual = none) :
    let done := plan.run ⟨tree, ""⟩
    (done.fault ≠ none ∧ done.effect.tree.files = tree.files ∧ done.effect.output = "") ∨
      (done.fault = none ∧ ∃ strings content, plan.records tree = .ok strings ∧
        plan.writer.render strings = .ok content ∧
        IsDelivered tree content plan.output done.effect.tree done.effect.output) := by
  rw [plan.run_eq, Run.after, plan.result_gathered]
  cases read : plan.records tree with
  | error fault => exact .inl ⟨by simp, rfl, rfl⟩
  | ok strings =>
      simp only [finish_eq single, Run.ofDelivery, Writer.generate]
      cases rendered : plan.writer.render strings with
      | error fault => exact .inl ⟨by simp [Delivery.none], rfl, rfl⟩
      | ok content =>
          cases encoded : plan.writer.encodeFault? strings with
          | some fault =>
              obtain ⟨kind, torn⟩ := Writer.encodeFault?_ne_none_iff.1 (by rw [encoded]; simp)
              have closed : ¬CanOpen tree plan.output :=
                fun opened => whole ⟨kind, opened, strings, read, torn⟩
              exact .inl ((deliverNothing_cases tree fault plan.output).2 closed)
          | none =>
              have handed := deliver_cases tree content plan.output
              dsimp only at handed ⊢
              cases failed : (deliver tree content plan.output).fault with
              | some fault =>
                  rw [failed] at handed
                  exact .inl ⟨by simp, handed⟩
              | none =>
                  rw [failed] at handed
                  exact .inr ⟨rfl, strings, content, rfl, rendered, handed⟩

/-! ## The command -/

/-- **Arguments that cannot be carried out:** they can be read, but the options do not go together. -/
def IsRefused (settings : Settings) (tree : FileTree) (arguments : List String) : Prop :=
  ∃ parsed fault, Arguments.parse arguments = .ok parsed ∧ shownAtOnce? parsed = none ∧
    parsed.extra = [] ∧ Plan.of settings tree parsed = .error fault

/-- **Arguments whose plan is carried out:** they can be read, nothing is shown at once, and the options
go together. -/
structure IsPlanned (settings : Settings) (tree : FileTree) (arguments : List String)
    (parsed : Arguments) (plan : Plan) : Prop where
  /-- The arguments can be read. -/
  read : Arguments.parse arguments = .ok parsed
  /-- No option ends the command at once. -/
  running : shownAtOnce? parsed = none
  /-- No argument is left over. -/
  single : parsed.extra = []
  /-- The options go together. -/
  made : Plan.of settings tree parsed = .ok plan

/-- **A command that is cut short,** as its plan is. -/
def IsCutShort (settings : Settings) (tree : FileTree) (arguments : List String) : Prop :=
  ∃ parsed plan, IsPlanned settings tree arguments parsed plan ∧ plan.IsCutShort tree

variable {settings : Settings} {tree : FileTree} {arguments : List String}

/-- `run settings tree arguments = .ofRun (plan.run ⟨tree, ""⟩)`: the command carries out its
plan. -/
theorem IsPlanned.run_eq {parsed : Arguments} {plan : Plan}
    (h : IsPlanned settings tree arguments parsed plan) :
    run settings tree arguments = .ofRun (plan.run ⟨tree, ""⟩) := by
  obtain ⟨read, running, single, made⟩ := h
  unfold run
  rw [read]
  dsimp only
  unfold runArguments
  rw [running]
  dsimp only
  rw [single, if_neg (by simp), made]

/-- The options name where the output goes, and what is kept by hand. -/
theorem IsPlanned.of_single {parsed : Arguments} {plan : Plan}
    (h : IsPlanned settings tree arguments parsed plan)
    (apart : ¬(parsed.has .manualInput ∧ parsed.has .manualOutput)) :
    plan.output = (parsed.value? .output).getD standardOutput ∧ plan.manual = none := by
  obtain ⟨output, manual⟩ := Plan.of_eq_ok h.made
  exact ⟨output, manual.trans (manualOf_eq_none apart)⟩

/-- **What a command comes to:** its arguments are at fault, something is shown at once, the options
do not go together, or a plan is carried out. -/
theorem run_eq (settings : Settings) (tree : FileTree) (arguments : List String) :
    (∃ fault : ArgumentFault, run settings tree arguments = ⟨2, "", fault.text, [], tree, none⟩) ∨
    (∃ parsed text, Arguments.parse arguments = .ok parsed ∧ shownAtOnce? parsed = some text ∧
      run settings tree arguments = .ofText tree text) ∨
    (∃ fault : UsageFault, IsRefused settings tree arguments ∧
      run settings tree arguments = ⟨0, "", "", fault.console, tree, none⟩) ∨
    ∃ parsed plan, IsPlanned settings tree arguments parsed plan := by
  unfold run
  cases read : Arguments.parse arguments with
  | error fault => exact .inl ⟨fault, rfl⟩
  | ok parsed =>
      dsimp only
      unfold runArguments
      split
      · next text shown => exact .inr (.inl ⟨parsed, text, rfl, shown, rfl⟩)
      · next running =>
        split
        · exact .inl ⟨.extra parsed.extra, rfl⟩
        · next extra =>
          have single : parsed.extra = [] := by simpa using extra
          split
          · next fault made =>
            exact .inr (.inr (.inl ⟨fault, ⟨parsed, fault, read, running, single, made⟩, rfl⟩))
          · next plan made => exact .inr (.inr (.inr ⟨parsed, plan, read, running, single, made⟩))

/-- Refused arguments come to no plan and to nothing that is shown at once. -/
theorem IsRefused.cases (h : IsRefused settings tree arguments) {parsed : Arguments}
    (read : Arguments.parse arguments = .ok parsed) :
    shownAtOnce? parsed = none ∧ ∃ fault, Plan.of settings tree parsed = .error fault := by
  obtain ⟨other, fault, same, shown, -, made⟩ := h
  cases read.symm.trans same
  exact ⟨shown, fault, made⟩

/-- Arguments whose plan is carried out are not refused. -/
theorem IsPlanned.not_isRefused {parsed : Arguments} {plan : Plan}
    (h : IsPlanned settings tree arguments parsed plan) : ¬IsRefused settings tree arguments := by
  intro refused
  obtain ⟨-, fault, failed⟩ := refused.cases h.read
  cases h.made.symm.trans failed

/-! ## All or nothing -/

/-- A result that reports something or ends with something that is not expected:
`result.exitCode ≠ 0 ∨ result.uncaught ≠ none`. -/
def Result.IsFailure (result : Result) : Prop :=
  result.exitCode ≠ 0 ∨ result.uncaught ≠ none

/-- `(Result.ofRun done).IsFailure ↔ done.fault ≠ none`: a run fails if something goes wrong. -/
theorem Result.isFailure_ofRun {done : Run} : (Result.ofRun done).IsFailure ↔ done.fault ≠ none := by
  unfold IsFailure ofRun
  split
  · simp_all
  · split <;> simp_all

/-- The files and the output of a result are those of the run. -/
theorem Result.ofRun_effect (done : Run) :
    (Result.ofRun done).tree = done.effect.tree ∧ (Result.ofRun done).output = done.effect.output := by
  unfold ofRun
  split
  · exact ⟨rfl, rfl⟩
  · split <;> exact ⟨rfl, rfl⟩

/-- `(Result.ofRun done).uncaught = some (.encoding fault)`: that there are no bytes for a text is
not expected. -/
theorem Result.uncaught_ofRun {done : Run} {fault : Text.EncodeFault}
    (failed : done.fault = some (.encoding fault)) :
    (Result.ofRun done).uncaught = some (.encoding fault) := by
  simp [ofRun, failed, isReported]

/-- **A planned command hands over all or nothing,** unless its plan is cut short. -/
theorem IsPlanned.run_cases {parsed : Arguments} {plan : Plan}
    (h : IsPlanned settings tree arguments parsed plan) (whole : ¬plan.IsCutShort tree)
    (single : plan.manual = none) :
    let result := run settings tree arguments
    (result.IsFailure → result.tree.files = tree.files ∧ result.output = "") ∧
    (¬result.IsFailure → ∃ strings content, plan.records tree = .ok strings ∧
      plan.writer.render strings = .ok content ∧
      IsDelivered tree content plan.output result.tree result.output) := by
  obtain ⟨files, text⟩ := Result.ofRun_effect (plan.run ⟨tree, ""⟩)
  simp only [h.run_eq, Result.isFailure_ofRun, files, text]
  rcases Plan.run_cases whole single with ⟨failed, same, none⟩ | ⟨clean, done⟩
  · exact ⟨fun _ => ⟨same, none⟩, fun fine => absurd failed fine⟩
  · exact ⟨fun wrong => absurd clean wrong, fun _ => done⟩

/-- **A command that is cut short** ends with the fault that there are no bytes, and its file is left
empty. -/
theorem IsCutShort.run_eq (h : IsCutShort settings tree arguments)
    (apart : ∀ parsed, Arguments.parse arguments = .ok parsed →
      ¬(parsed.has .manualInput ∧ parsed.has .manualOutput)) :
    let result := run settings tree arguments
    ∃ parsed fault, Arguments.parse arguments = .ok parsed ∧
      result.uncaught = some (.encoding fault) ∧
      IsEmptied tree ((parsed.value? .output).getD standardOutput) result.tree result.output := by
  obtain ⟨parsed, plan, planned, short⟩ := h
  obtain ⟨output, single⟩ := planned.of_single (apart parsed planned.read)
  obtain ⟨fault, failed, emptied⟩ := short.run_eq single
  obtain ⟨files, text⟩ := Result.ofRun_effect (plan.run ⟨tree, ""⟩)
  rw [planned.run_eq]
  refine ⟨parsed, fault, planned.read, Result.uncaught_ofRun failed, ?_⟩
  rw [files, text, ← output]
  exact emptied

/-- **All or nothing,** but for commands that are cut short (`IsCutShort`). A command without both
documents of translations that are kept by hand changes no file and puts nothing on standard
output, if the options do not go together (`IsRefused`) or anything goes wrong (`IsFailure`).
Otherwise, where it does more than to show its help or version, the content `IsDelivered`: it hands
over to its destination what is rendered of `plan.records tree`, the strings that the files have
had before the run, and leaves all other files; the destination may be one of the inputs. Where it
is to write a catalog with halves of pairs to a file that can be opened, it ends with the fault
that there are no bytes for them, and the file `IsEmptied`. -/
theorem run_allOrNothing (settings : Settings) (tree : FileTree) (arguments : List String)
    (apart : ∀ parsed, Arguments.parse arguments = .ok parsed →
      ¬(parsed.has .manualInput ∧ parsed.has .manualOutput)) :
    let result := run settings tree arguments
    (¬IsCutShort settings tree arguments →
      (IsRefused settings tree arguments ∨ result.IsFailure →
        result.tree.files = tree.files ∧ result.output = "") ∧
      (¬(IsRefused settings tree arguments ∨ result.IsFailure) →
        ∃ parsed, Arguments.parse arguments = .ok parsed ∧
          ((∃ text, shownAtOnce? parsed = some text ∧ result = .ofText tree text) ∨
            ∃ plan strings content, Plan.of settings tree parsed = .ok plan ∧
              plan.records tree = .ok strings ∧ plan.writer.render strings = .ok content ∧
              IsDelivered tree content ((parsed.value? .output).getD standardOutput) result.tree
                result.output))) ∧
    (IsCutShort settings tree arguments → ∃ parsed fault, Arguments.parse arguments = .ok parsed ∧
      result.uncaught = some (.encoding fault) ∧
      IsEmptied tree ((parsed.value? .output).getD standardOutput) result.tree result.output) := by
  refine ⟨fun whole => ?_, fun short => short.run_eq apart⟩
  rcases run_eq settings tree arguments with ⟨fault, equal⟩ | ⟨parsed, text, read, shown, equal⟩ |
    ⟨fault, refused, equal⟩ | ⟨parsed, plan, planned⟩
  · rw [equal]
    exact ⟨fun _ => ⟨rfl, rfl⟩, fun fine => absurd (.inr (.inl (by simp))) fine⟩
  · rw [equal]
    refine ⟨fun wrong => ?_, fun _ => ⟨parsed, read, .inl ⟨text, shown, rfl⟩⟩⟩
    rcases wrong with refused | failure
    · cases shown.symm.trans (refused.cases read).1
    · simp [Result.IsFailure, Result.ofText] at failure
  · rw [equal]
    exact ⟨fun _ => ⟨rfl, rfl⟩, fun fine => absurd (.inl refused) fine⟩
  · obtain ⟨output, single⟩ := planned.of_single (apart parsed planned.read)
    obtain ⟨nothing, all⟩ :=
      planned.run_cases (fun short => whole ⟨parsed, plan, planned, short⟩) single
    refine ⟨fun wrong => nothing (wrong.resolve_left planned.not_isRefused), fun fine => ?_⟩
    obtain ⟨strings, content, done⟩ := all fun failure => fine (.inr failure)
    rw [output] at done
    exact ⟨parsed, planned.read, .inr ⟨plan, strings, content, planned.made, done⟩⟩

/-- A catalog that is read and then written over. -/
theorem run_allOrNothing_input :
    let tree : FileTree := ⟨[(["w", "a.po"], .file (Text.encode "msgid \"a\"\nmsgstr \"\"\n"))]⟩
    let arguments := ["-i", "a.po", "-o", "a.po"]
    let result := run .default tree arguments
    (∀ parsed, Arguments.parse arguments = .ok parsed →
      ¬(parsed.has .manualInput ∧ parsed.has .manualOutput)) ∧
    ∃ plan strings content, Plan.of .default tree ⟨[⟨.input, "a.po"⟩, ⟨.output, "a.po"⟩], []⟩ = .ok plan ∧
      plan.records tree = .ok strings ∧ plan.writer.render strings = .ok content ∧
      IsDelivered tree content "a.po" result.tree result.output := by
  intro tree arguments result
  have read : Arguments.parse arguments = .ok ⟨[⟨.input, "a.po"⟩, ⟨.output, "a.po"⟩], []⟩ := by
    decide +kernel
  have apart (parsed : Arguments) (same : Arguments.parse arguments = .ok parsed) :
      ¬(parsed.has .manualInput ∧ parsed.has .manualOutput) := by
    cases read.symm.trans same
    decide
  have succeeded : result.exitCode = 0 ∧ result.uncaught = none := by decide +kernel
  have fine : ¬(IsRefused .default tree arguments ∨ result.IsFailure) := by
    rintro (refused | failure)
    · obtain ⟨-, fault, failed⟩ := refused.cases read
      cases failed
    · simp [Result.IsFailure, succeeded] at failure
  have every := run_allOrNothing .default tree arguments apart
  have whole : ¬IsCutShort .default tree arguments := fun short => by
    obtain ⟨-, fault, -, uncaught, -⟩ := every.2 short
    cases uncaught.symm.trans succeeded.2
  refine ⟨apart, ?_⟩
  obtain ⟨parsed, same, ⟨text, shown, -⟩ | done⟩ := (every.1 whole).2 fine
  · cases read.symm.trans same
    cases shown
  · cases read.symm.trans same
    exact done

/-- A program that names half of a pair: the catalog that was there is gone, and there is no other. -/
theorem run_allOrNothing_half :
    let tree : FileTree := ⟨[(["w", "app.py"], .file (Text.encode "_(\"\\ud800\")\n")),
      (["w", "out.po"], .file (Text.encode "msgid \"a\"\nmsgstr \"b\"\n"))]⟩
    let arguments := ["-i", "app.py", "-o", "out.po"]
    let result := run .default tree arguments
    (∀ parsed, Arguments.parse arguments = .ok parsed →
      ¬(parsed.has .manualInput ∧ parsed.has .manualOutput)) ∧
    result.IsFailure ∧ result.tree.files ≠ tree.files ∧ result.tree.file? ["w", "out.po"] = some [] := by
  intro tree arguments result
  have read : Arguments.parse arguments = .ok ⟨[⟨.input, "app.py"⟩, ⟨.output, "out.po"⟩], []⟩ := by
    decide +kernel
  have emptied : result.tree.entries =
      [(["w", "app.py"], .file (Text.encode "_(\"\\ud800\")\n")), (["w", "out.po"], .file [])] := by
    decide +kernel
  refine ⟨fun parsed same => ?_, .inl ?_, fun same => ?_, ?_⟩
  · cases read.symm.trans same
    decide
  · decide +kernel
  · have shown : (FileTree.pathTo ["w", "out.po"]).toString = "out.po" := by decide
    have other : (FileTree.pathTo ["w", "app.py"]).toString ≠ "out.po" := by decide
    have member : ("out.po", []) ∈ result.tree.files := by simp [FileTree.files, emptied, shown]
    have full : Text.encode "msgid \"a\"\nmsgstr \"b\"\n" ≠ [] := by decide +kernel
    rw [same] at member
    simp [FileTree.files, tree, full, other.symm] at member
  · decide +kernel

end StringCatalog.CommandLine
