import StringCatalog.CommandLine.Run

/-! # The program

The command run on the files of the working folder. All files are read before the run and what it
changed is written behind it; what a run does in between is `CommandLine.run`. The working folder is
known as `/w`, so that what is written does not hang on where the folder lies. -/

open StringCatalog

/-- The variables that hold settings. -/
def settingVariables : List String :=
  ["STRINGSMITH_GENERATOR", "STRINGSMITH_SOURCE_ROOT", "STRINGSMITH_LOG_LEVEL",
   "STRINGSMITH_RESOURCE_ID_PREFIX"]

/-- The variables that are set, with their values. -/
def readEnvironment : IO (List (String × String)) :=
  settingVariables.filterMapM fun name => do
    return (← IO.getEnv name).map (name, ·)

/-- A file tree with the entries of a folder, given by its names from the working folder on. -/
partial def readFolder (tree : FileTree) (names : List String) (entries : Array IO.FS.DirEntry) :
    IO FileTree :=
  entries.foldlM (fun tree entry => do
    let path : Path := ⟨.working, names ++ [entry.fileName]⟩
    if ← entry.path.isDir then
      readFolder (tree.addFolder path) path.parts (← entry.path.readDir)
    else
      let bytes ← IO.FS.readBinFile entry.path
      return tree.addFile path bytes.toList) tree

/-- Write the files that a run has changed. -/
def writeChanges (earlier later : FileTree) : IO Unit :=
  (earlier.changes later).forM fun (path, bytes) => do
    IO.FS.createDirAll (Path.ofString path).parent.toString
    IO.FS.writeBinFile path bytes.toByteArray

/-- The lines of text that a console line is shown as. -/
def shownLines : ConsoleLine → List String
  | .text line => [line]
  | .report report =>
      report.title :: Text.joined " | " Report.columns ::
        report.rows.map fun row =>
          Text.joined " | " [row.severity, row.text, row.issue, row.reference]

/-- **Run the command.** -/
def main (arguments : List String) : IO UInt32 := do
  match Settings.ofEnvironment (← readEnvironment) with
  | .error fault =>
      IO.eprintln fault.message
      return 1
  | .ok settings =>
      let tree ← readFolder .empty [] (← (← IO.currentDir).readDir)
      let result := CommandLine.run settings tree arguments
      result.console.forM fun line => (shownLines line).forM IO.eprintln
      IO.eprint result.errors
      writeChanges tree result.tree
      IO.print result.output
      match result.uncaught with
      | some fault => IO.eprintln (fault.message?.getD "the run cannot be completed")
      | none => pure ()
      return result.exitCode.toUInt32
