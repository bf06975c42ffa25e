import StringCatalog.Resource.CarryOver

/-! # Workspaces

A workspace keeps files, and readers, writers and strings under names:

* **`Workspace`** — the files and all that has a name.
* **`Workspace.store`** — a workspace with a string more, and where it is kept. A string that several
  buffers hold is kept once, so that a change shows in all of them.
* **`Workspace.record?`, `reader?`, `buffer?`** — what is kept under a name. -/

namespace StringCatalog

/-- Where a workspace keeps a string: the number of strings that were there before it. -/
abbrev Handle := Nat

/-- What uses the strings of a buffer. -/
inductive Buffer.Use where
  /-- They are written. -/
  | writer (writer : Writer)
  /-- They are checked. -/
  | analyzer
  deriving DecidableEq, Repr

/-- **A buffer of strings.** -/
structure Buffer where
  /-- What uses its strings. -/
  use : Buffer.Use
  /-- Where the strings are kept, in order. -/
  handles : List Handle
  deriving DecidableEq, Repr

/-- Something that has a name. -/
inductive Workspace.Object where
  /-- A string. -/
  | record (handle : Handle)
  /-- A reader. -/
  | reader (reader : Reader)
  /-- A buffer. -/
  | buffer (buffer : Buffer)
  deriving DecidableEq, Repr

/-- **A workspace.** -/
structure Workspace where
  /-- The files. -/
  tree : FileTree
  /-- All strings. -/
  strings : List Translatable
  /-- What has a name, the latest first. -/
  objects : List (String × Workspace.Object)

namespace Workspace

/-- The workspace with some files and nothing else. -/
def ofTree (tree : FileTree) : Workspace := ⟨tree, [], []⟩

/-! ## Names -/

/-- The workspace with something under a name, in place of what it named before. -/
def name (workspace : Workspace) (id : String) (object : Object) : Workspace :=
  { workspace with objects := (id, object) :: workspace.objects.filter (·.1 != id) }

/-- Where the string with a name is kept. -/
def record? (workspace : Workspace) (id : String) : Option Handle :=
  match workspace.objects.lookup id with
  | some (.record handle) => some handle
  | _ => none

/-- The reader with a name. -/
def reader? (workspace : Workspace) (id : String) : Option Reader :=
  match workspace.objects.lookup id with
  | some (.reader reader) => some reader
  | _ => none

/-- The buffer with a name. -/
def buffer? (workspace : Workspace) (id : String) : Option Buffer :=
  match workspace.objects.lookup id with
  | some (.buffer buffer) => some buffer
  | _ => none

/-! ## Strings -/

/-- **The workspace with a string more,** and where it is kept. -/
def store (workspace : Workspace) (string : Translatable) : Workspace × Handle :=
  ({ workspace with strings := workspace.strings ++ [string] }, workspace.strings.length)

/-- The workspace with several strings more, and where they are kept. -/
def storeAll (workspace : Workspace) (strings : List Translatable) : Workspace × List Handle :=
  ({ workspace with strings := workspace.strings ++ strings },
    (List.range strings.length).map (workspace.strings.length + ·))

/-- The string kept somewhere. -/
def get? (workspace : Workspace) (handle : Handle) : Option Translatable :=
  workspace.strings[handle]?

/-- The workspace with a string changed. -/
def update (workspace : Workspace) (handle : Handle) (change : Translatable → Translatable) :
    Workspace :=
  { workspace with strings := workspace.strings.modify handle change }

/-- The strings of a buffer as they are now. -/
def content (workspace : Workspace) (buffer : Buffer) : List Translatable :=
  buffer.handles.filterMap workspace.get?

end Workspace

end StringCatalog
