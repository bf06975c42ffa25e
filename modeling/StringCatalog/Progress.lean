import StringCatalog.Fault
import StringCatalog.Note

/-! # Progress

What an operation comes to that shows lines on the console meanwhile:

* **`Progress`** — the lines, and the value or what went wrong.
* **`Progress.andThen`** — one operation after another; nothing follows a fault. -/

namespace StringCatalog

/-- **What an operation comes to,** and what it shows meanwhile. -/
structure Progress (α : Type) where
  /-- What is shown, in order. -/
  console : List ConsoleLine
  /-- The value, or what went wrong. -/
  result : Except Fault α

namespace Progress

variable {α β : Type}

/-- A value with nothing shown. -/
def done (value : α) : Progress α := ⟨[], .ok value⟩

/-- A fault with nothing shown. -/
def failed (fault : Fault) : Progress α := ⟨[], .error fault⟩

/-- Some lines shown, with nothing else done. -/
def shown (console : List ConsoleLine) : Progress Unit := ⟨console, .ok ()⟩

/-- **One operation after another.** Nothing follows a fault. -/
def andThen (first : Progress α) (next : α → Progress β) : Progress β :=
  match first.result with
  | .error fault => ⟨first.console, .error fault⟩
  | .ok value => ⟨first.console ++ (next value).console, (next value).result⟩

end Progress

end StringCatalog
