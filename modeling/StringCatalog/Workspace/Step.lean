import StringCatalog.Workspace.Basic

/-! # Steps in a workspace

* **`Step`** — what can be done in a workspace.
* **`Answer`** — what a step answers.
* **`Outcome`** — the answer or fault of a step, the workspace behind it, and what it shows.
* **`Workspace.run`** — a step done.
* **`Workspace.runAll`** — steps done one after another. What is answered about a string keeps up with
  the references that it gets later. -/

namespace StringCatalog

/-- A change to a string that is not checked. -/
inductive Assignment where
  /-- New translations. -/
  | translations (values : Option (List (Option String)))
  /-- A new name. -/
  | name (value : Option String)
  /-- A new plural. -/
  | plural (value : Option String)
  deriving DecidableEq, Repr

/-- The string with a change. -/
def Assignment.apply (assignment : Assignment) (string : Translatable) : Translatable :=
  match assignment with
  | .translations values => { string with translations := values }
  | .name value => { string with name := value }
  | .plural value => { string with plural := value, halves := { string.halves with plural := [] } }

/-- A string for a buffer. -/
inductive Addition where
  /-- One made for it. -/
  | draft (draft : Translatable.Draft)
  /-- One that has a name. -/
  | named (id : String)
  deriving DecidableEq, Repr

/-- **What can be done in a workspace.** -/
inductive Workspace.Step where
  /-- Make a string. -/
  | makeString (id : String) (draft : Translatable.Draft)
  /-- Show a string. -/
  | showString (id : String)
  /-- Add a reference to a string. -/
  | addReference (id reference : String)
  /-- Add the references of another string to one. -/
  | merge (id other : String)
  /-- Compare the identities of two strings. -/
  | sameKey (id other : String)
  /-- Change a string. -/
  | assign (id : String) (assignment : Assignment)
  /-- Write a file. -/
  | putContent (path : String) (content : List UInt8)
  /-- Read a file. -/
  | getContent (path : String)
  /-- Make a reader. -/
  | makeReader (id : String) (reader : Reader)
  /-- Add a file to a reader. -/
  | addPath (id path : String)
  /-- Add a file, a folder or a pattern to a reader. -/
  | addInput (id input : String)
  /-- Read all files of a reader. -/
  | read (id : String)
  /-- Make a buffer. -/
  | makeBuffer (id : String) (use : Buffer.Use)
  /-- Add a string to a buffer. -/
  | add (id : String) (addition : Addition)
  /-- Add all strings of a reader to a buffer. -/
  | feed (id reader : String)
  /-- Replace a buffer by what is left of a master catalog. -/
  | reduce (id master retain : String)
  /-- Write a buffer. -/
  | render (id : String)
  /-- Write a buffer and hand it over. -/
  | generate (id destination : String)
  /-- Carry the translations of a buffer over to a document. -/
  | carryOver (id input destination : String)
  /-- Check the strings of a buffer. -/
  | analyze (id : String)

/-- **What a step answers.** -/
inductive Workspace.Answer where
  /-- Nothing. -/
  | done
  /-- A string, and where it is kept. -/
  | string (handle : Handle) (string : Translatable)
  /-- References, and where the string with them is kept. -/
  | references (handle : Handle) (references : List String)
  /-- Whether two strings are the same. -/
  | same (isSame : Bool)
  /-- The content of a file. -/
  | content (bytes : List UInt8)
  /-- The files of a reader. -/
  | paths (paths : List Path)
  /-- What was read. -/
  | reading (reading : Reading)
  /-- What the identifiers of a writer begin with. -/
  | stem (stem : String)
  /-- How many strings there are. -/
  | count (count : Nat)
  /-- The strings that are left. -/
  | left (strings : List Translatable)
  /-- What was written. -/
  | output (text : String)
  /-- Findings, each with its string. -/
  | issues (issues : List (Finding × Translatable))

/-- **What comes of a step.** -/
structure Workspace.Outcome where
  /-- The workspace behind the step. -/
  workspace : Workspace
  /-- The answer, or what went wrong. -/
  result : Except Fault Workspace.Answer
  /-- What was shown. -/
  console : List ConsoleLine
  /-- What went to standard output. -/
  output : Option String

namespace Workspace

/-! ## Outcomes -/

/-- The outcome of a step that shows nothing. -/
def quiet (workspace : Workspace) (result : Except Fault Answer) : Outcome :=
  ⟨workspace, result, [], none⟩

/-- A step on something with a name; it fails where nothing has it. -/
def withName {α : Type} (workspace : Workspace) (found : Option α) (step : α → Outcome) : Outcome :=
  match found with
  | some object => step object
  | none => workspace.quiet (.error .unknownName)

/-- A step on a buffer whose strings are written. -/
def withWriter (workspace : Workspace) (id : String) (step : Buffer → Writer → Outcome) : Outcome :=
  workspace.withName (workspace.buffer? id) fun buffer =>
    match buffer.use with
    | .writer writer => step buffer writer
    | .analyzer => workspace.quiet (.error .unknownName)

/-- The outcome of handing over a text: what the file holds then is answered. -/
def ofDelivery (workspace : Workspace) (destination : String) (console : List ConsoleLine)
    (delivery : Delivery) : Outcome :=
  let later := { workspace with tree := delivery.tree }
  let result : Except Fault Answer :=
    match delivery.fault with
    | some fault => .error fault
    | none =>
        if destination == standardOutput then .ok .done
        else
          match delivery.tree.read (Path.ofString destination).toString with
          | .ok bytes => .ok (.content bytes)
          | .error fault => .error (.file fault)
  ⟨later, result, console, delivery.output⟩

/-! ## Strings -/

/-- Make a string. -/
def makeString (workspace : Workspace) (id : String) (draft : Translatable.Draft) : Outcome :=
  match draft.build with
  | .error fault => workspace.quiet (.error (.draft fault))
  | .ok string =>
      let (later, handle) := workspace.store string
      (later.name id (.record handle)).quiet (.ok (.string handle string))

/-- A step on a string with a name, given where it is kept. -/
def withString (workspace : Workspace) (id : String) (step : Handle → Translatable → Outcome) :
    Outcome :=
  workspace.withName (workspace.record? id) fun handle =>
    workspace.withName (workspace.get? handle) (step handle)

/-- Change a string, and answer something about it. -/
def change (workspace : Workspace) (handle : Handle) (string : Translatable)
    (answer : Translatable → Answer) : Outcome :=
  (workspace.update handle fun _ => string).quiet (.ok (answer string))

/-! ## Buffers -/

/-- The workspace with strings added to the buffer with a name. -/
def extend (workspace : Workspace) (id : String) (buffer : Buffer) (handles : List Handle) :
    Workspace × Nat :=
  let larger := { buffer with handles := buffer.handles ++ handles }
  (workspace.name id (.buffer larger), larger.handles.length)

/-- Add a string to a buffer. -/
def add (workspace : Workspace) (id : String) (buffer : Buffer) (addition : Addition) : Outcome :=
  match addition with
  | .named string =>
      workspace.withName (workspace.record? string) fun handle =>
        let (later, count) := workspace.extend id buffer [handle]
        later.quiet (.ok (.count count))
  | .draft draft =>
      match draft.build with
      | .error fault => workspace.quiet (.error (.draft fault))
      | .ok string =>
          let (stored, handle) := workspace.store string
          let (later, count) := stored.extend id buffer [handle]
          later.quiet (.ok (.count count))

/-- Add all strings of a reader to a buffer, as far as it can be read. -/
def feed (workspace : Workspace) (id : String) (buffer : Buffer) (reader : Reader) : Outcome :=
  let reading := reader.read workspace.tree
  let (stored, handles) := workspace.storeAll reading.strings
  let (later, count) := stored.extend id buffer handles
  let result : Except Fault Answer :=
    match reading.fault with
    | some fault => .error fault
    | none => .ok (.count count)
  ⟨later, result, reader.shown reading, none⟩

/-- Replace a buffer by what is left of a master catalog. -/
def reduce (workspace : Workspace) (id : String) (buffer : Buffer) (writer : Writer)
    (master retain : Reader) : Outcome :=
  let progress := writer.reduce workspace.tree master retain
  match progress.result with
  | .error fault => ⟨workspace, .error fault, progress.console, none⟩
  | .ok strings =>
      let (stored, handles) := workspace.storeAll strings
      ⟨stored.name id (.buffer { buffer with handles }), .ok (.left strings), progress.console,
        none⟩

/-- Check the strings of a buffer, and show the report. -/
def analyze (workspace : Workspace) (strings : List Translatable) : Outcome :=
  match analyze? strings with
  | none => workspace.quiet (.error .openComparison)
  | some issues =>
      ⟨workspace, .ok (.issues issues), [ConsoleLine.ofIssues strings.length issues], none⟩

/-! ## Steps -/

/-- **A step done.** -/
def run (workspace : Workspace) : Step → Outcome
  | .makeString id draft => workspace.makeString id draft
  | .showString id => workspace.withString id fun handle string =>
      workspace.quiet (.ok (.string handle string))
  | .addReference id reference => workspace.withString id fun handle string =>
      workspace.change handle (string.addReference reference) fun later =>
        .references handle later.references
  | .merge id other => workspace.withString id fun handle string =>
      workspace.withString other fun _ second =>
        workspace.change handle (string.mergeReferences second) fun later =>
          .references handle later.references
  | .sameKey id other => workspace.withString id fun _ string =>
      workspace.withString other fun _ second =>
        workspace.quiet (.ok (.same (string.key == second.key)))
  | .assign id assignment => workspace.withString id fun handle string =>
      workspace.change handle (assignment.apply string) (.string handle)
  | .putContent path content =>
      let (tree, fault) := workspace.tree.write (.ofString path) content
      let result : Except Fault Answer :=
        match fault with
        | some fault => .error (.file fault)
        | none => .ok .done
      { workspace with tree }.quiet result
  | .getContent path =>
      match workspace.tree.read path with
      | .ok bytes => workspace.quiet (.ok (.content bytes))
      | .error fault => workspace.quiet (.error (.file fault))
  | .makeReader id reader => (workspace.name id (.reader reader)).quiet (.ok .done)
  | .addPath id path => workspace.withName (workspace.reader? id) fun reader =>
      match reader.add path with
      | .error fault => workspace.quiet (.error fault)
      | .ok later => (workspace.name id (.reader later)).quiet (.ok (.paths later.paths))
  | .addInput id input => workspace.withName (workspace.reader? id) fun reader =>
      let added := reader.register workspace.tree input
      let console := ConsoleLine.ofNotes reader.logLevel added.notes
      let result : Except Fault Answer :=
        match added.fault with
        | some fault => .error fault
        | none => .ok (.paths added.reader.paths)
      ⟨workspace.name id (.reader added.reader), result, console, none⟩
  | .read id => workspace.withName (workspace.reader? id) fun reader =>
      let reading := reader.read workspace.tree
      ⟨workspace, .ok (.reading reading), reader.shown reading, none⟩
  | .makeBuffer id use =>
      let answer : Answer :=
        match use with
        | .writer writer => .stem writer.stem
        | .analyzer => .done
      (workspace.name id (.buffer ⟨use, []⟩)).quiet (.ok answer)
  | .add id addition => workspace.withName (workspace.buffer? id) fun buffer =>
      workspace.add id buffer addition
  | .feed id reader => workspace.withName (workspace.buffer? id) fun buffer =>
      workspace.withName (workspace.reader? reader) (workspace.feed id buffer)
  | .reduce id master retain => workspace.withWriter id fun buffer writer =>
      workspace.withName (workspace.reader? master) fun master =>
        workspace.withName (workspace.reader? retain) (workspace.reduce id buffer writer master)
  | .render id => workspace.withWriter id fun buffer writer =>
      workspace.quiet ((writer.render (workspace.content buffer)).map .output)
  | .generate id destination => workspace.withWriter id fun buffer writer =>
      workspace.ofDelivery destination []
        (writer.generate (workspace.content buffer) workspace.tree destination)
  | .carryOver id input destination => workspace.withWriter id fun buffer writer =>
      let (console, delivery) :=
        writer.carryOver (workspace.content buffer) workspace.tree input destination
      workspace.ofDelivery destination console delivery
  | .analyze id => workspace.withName (workspace.buffer? id) fun buffer =>
      match buffer.use with
      | .analyzer => workspace.analyze (workspace.content buffer)
      | .writer _ => workspace.quiet (.error .unknownName)

/-! ## Sessions -/

/-- The references of a string that is kept somewhere, if it is. -/
def referencesOf (workspace : Workspace) (handle : Handle) (fallback : List String) : List String :=
  ((workspace.get? handle).map (·.references)).getD fallback

/-- An answer with the references that its string has in a later workspace. -/
def Answer.settled (later : Workspace) : Answer → Answer
  | .string handle own =>
      .string handle { own with references := later.referencesOf handle own.references }
  | .references handle own => .references handle (later.referencesOf handle own)
  | answer => answer

/-- The outcomes of steps done one after another, and the workspace behind them. -/
def runEach (workspace : Workspace) : List Step → List Outcome × Workspace
  | [] => ([], workspace)
  | step :: rest =>
      let outcome := workspace.run step
      let (outcomes, last) := outcome.workspace.runEach rest
      (outcome :: outcomes, last)

/-- **Steps done one after another.** -/
def runAll (workspace : Workspace) (steps : List Step) : List Outcome :=
  let (outcomes, last) := workspace.runEach steps
  outcomes.map fun outcome => { outcome with result := outcome.result.map (·.settled last) }

end Workspace

end StringCatalog
