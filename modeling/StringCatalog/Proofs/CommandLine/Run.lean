import StringCatalog.CommandLine.Run
import StringCatalog.Proofs.Extraction.Found
import StringCatalog.Proofs.Extraction.Reading

/-! # The parts of a run

A run reads all that it needs before it writes anything:

* **`Plan.gathered`** — the strings that are to be written, with what is shown before.
* **`Plan.finish`** — what is done with these strings.
* **`Plan.run_eq`** — a run is the one after the other.
* **`Plan.records`** — the strings that are to be written, as the files have them.
* **`Plan.result_gathered`** — these are what is gathered, whatever is shown and checked meanwhile. -/

namespace StringCatalog

namespace Progress

variable {α β : Type}

/-- What comes of one operation after another. -/
theorem result_andThen (first : Progress α) (next : α → Progress β) :
    (first.andThen next).result = first.result.bind fun value => (next value).result := by
  unfold andThen
  cases first.result <;> rfl

/-- `(done value).result = .ok value`. -/
@[simp] theorem result_done (value : α) : (done value).result = .ok value := rfl

/-- `(shown console).result = .ok ()`: showing lines does not fail. -/
@[simp] theorem result_shown (console : List ConsoleLine) : (shown console).result = .ok () := rfl

end Progress

namespace CommandLine.Plan

variable (plan : Plan)

/-! ## One part after the other -/

/-- The reader of a single catalog. -/
def catalogs (path : String) : Reader :=
  (Reader.ofCatalogs plan.root plan.logLevel).push (.ofString path)

/-- **The strings that are to be written,** with what is shown before. -/
def gathered (tree : FileTree) : Progress (List Translatable) :=
  match plan.reduction with
  | some (master, retain) =>
      plan.writer.reduce tree (plan.catalogs master) (plan.catalogs retain)
  | none => plan.prepared tree

/-- **What is done with the strings:** they are handed over, and but for a reduction also carried
over. -/
def finish (strings : List Translatable) (effect : Effect) : Run :=
  let written := Run.ofDelivery effect [] (plan.writer.generate strings effect.tree plan.output)
  match plan.reduction with
  | some _ => written
  | none => written.andThen (plan.carryOver strings)

/-- **A run gathers the strings and then writes them.** -/
theorem run_eq (effect : Effect) :
    plan.run effect = .after effect (plan.gathered effect.tree) (plan.finish · effect) := by
  unfold run gathered finish
  cases plan.reduction <;> rfl

/-! ## The strings -/

/-- A reader with some inputs, if all of them can be read. -/
def addInputs (tree : FileTree) : Reader → List String → Except Fault Reader :=
  List.foldlM fun reader input => (reader.addInput tree input).2

/-- **The strings that are to be written,** as the files have them. -/
def records (tree : FileTree) : Except Fault (List Translatable) :=
  match plan.reduction with
  | some (master, retain) => do
      let kept ← ((plan.catalogs retain).read tree).all?
      let strings ← ((plan.catalogs master).read tree).all?
      return Writer.retained strings kept
  | none => do
      let reader ← addInputs tree (.ofAll plan.root plan.logLevel) plan.inputs
      (reader.read tree).all?

/-- One more input added to a reader under way. -/
def withInput (tree : FileTree) (progress : Progress Reader) (input : String) : Progress Reader :=
  progress.andThen fun reader =>
    ⟨ConsoleLine.ofNotes plan.logLevel (reader.addInput tree input).1, (reader.addInput tree input).2⟩

/-- The reader with all inputs is the one to which they are added one by one. -/
theorem reader_eq (tree : FileTree) : plan.reader tree =
    plan.inputs.foldl (plan.withInput tree) (.done (.ofAll plan.root plan.logLevel)) := rfl

/-- What the reader with all inputs comes to. -/
theorem result_reader (tree : FileTree) :
    (plan.reader tree).result = addInputs tree (.ofAll plan.root plan.logLevel) plan.inputs := by
  have from_ (progress : Progress Reader) (inputs : List String) :
      (inputs.foldl (plan.withInput tree) progress).result =
        progress.result.bind fun reader => addInputs tree reader inputs := by
    induction inputs generalizing progress with
    | nil =>
        rw [List.foldl_nil]
        cases progress.result <;> rfl
    | cons input inputs ih =>
        rw [List.foldl_cons, ih, withInput, Progress.result_andThen]
        cases progress.result <;> rfl
  rw [reader_eq]
  exact from_ _ _

/-- `(plan.analysis strings).result = .ok ()`: the checks do not fail for closed strings. -/
theorem result_analysis {strings : List Translatable} (closed : ∀ string ∈ strings, string.IsClosed) :
    (plan.analysis strings).result = .ok () := by
  unfold analysis
  split
  · obtain ⟨issues, found⟩ := Option.isSome_iff_exists.1 (isSome_analyze? closed)
    rw [found]
    rfl
  · rfl

/-- The strings of all inputs. -/
theorem result_strings (tree : FileTree) :
    (plan.strings tree).result =
      (addInputs tree (.ofAll plan.root plan.logLevel) plan.inputs).bind fun reader =>
        (reader.read tree).all? := by
  rw [strings, Progress.result_andThen, result_reader]
  rfl

/-- The strings of all inputs are closed. -/
theorem isClosed_of_strings {tree : FileTree} {strings : List Translatable}
    (found : (plan.strings tree).result = .ok strings) : ∀ string ∈ strings, string.IsClosed := by
  rw [result_strings] at found
  cases added : addInputs tree (.ofAll plan.root plan.logLevel) plan.inputs with
  | error fault =>
      rw [added] at found
      cases found
  | ok reader =>
      rw [added] at found
      obtain ⟨-, rfl⟩ := Reading.all?_eq_ok.1 (show (reader.read tree).all? = .ok strings from found)
      exact fun string member => Reader.isClosed_of_mem_read member

/-- `(plan.prepared tree).result = (plan.strings tree).result`: what is gathered from all inputs is
what they have. -/
theorem result_prepared (tree : FileTree) :
    (plan.prepared tree).result = (plan.strings tree).result := by
  rw [prepared, Progress.result_andThen]
  cases found : (plan.strings tree).result with
  | error fault => rfl
  | ok strings =>
      have checked := plan.result_analysis (plan.isClosed_of_strings found)
      simp only [Progress.result_andThen, stepLine, Progress.result_shown, checked, Except.bind,
        Progress.result_done]

/-- **What is gathered is what the files have,** whatever is shown and checked meanwhile:
`(plan.gathered tree).result = plan.records tree`. -/
theorem result_gathered (tree : FileTree) : (plan.gathered tree).result = plan.records tree := by
  unfold gathered records
  split
  · next master retain _ =>
    rw [Writer.reduce, Progress.result_andThen]
    have progress (reader : Reader) : (reader.progress tree).result = (reader.read tree).all? := rfl
    simp only [Progress.result_andThen, progress]
    rfl
  · exact (plan.result_prepared tree).trans (plan.result_strings tree)

end CommandLine.Plan

end StringCatalog
