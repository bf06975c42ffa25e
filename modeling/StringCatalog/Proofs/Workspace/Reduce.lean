import StringCatalog.Proofs.Extraction.Reading
import StringCatalog.Workspace.Step

/-! # Reducing a buffer

* **`Workspace.IsFilled`** — a workspace in which a buffer holds some strings, and all else is as it was.
* **`Workspace.isFilled_storeAll`** — strings that are stored, with a buffer of their places under a name.
* **`Writer.retained_eq`**, **`Writer.retained_sublist`** — what is left of a master catalog, and that more is
  left where another one has more.
* **`Workspace.run_reduce`** — a buffer is replaced by what is left, or nothing changes. -/

namespace StringCatalog

namespace Workspace

/-! ## Names -/

/-- `(workspace.name id object).objects.lookup id = some object`: a name stands for what was named
last. -/
@[simp] theorem lookup_name_self (workspace : Workspace) (id : String) (object : Object) :
    (workspace.name id object).objects.lookup id = some object := by
  simp [name]

/-- What other names stand for is as it was. -/
theorem lookup_name_of_ne (workspace : Workspace) {id other : String} (apart : other ≠ id)
    (object : Object) :
    (workspace.name id object).objects.lookup other = workspace.objects.lookup other := by
  have kept (objects : List (String × Object)) :
      (objects.filter (·.1 != id)).lookup other = objects.lookup other := by
    induction objects with
    | nil => rfl
    | cons entry objects ih =>
        rw [List.filter_cons, List.lookup_cons]
        by_cases same : entry.1 = id
        · have missed : (other == entry.1) = false := by simpa [same] using apart
          rw [if_neg (by simpa using same), missed]
          exact ih
        · rw [if_pos (by simpa using same), List.lookup_cons, ih]
  have missed : (other == id) = false := by simpa using apart
  rw [name, List.lookup_cons, missed]
  exact kept workspace.objects

/-! ## Strings -/

/-- **Strings that are stored** are the content of a buffer with their places. -/
theorem filterMap_get?_storeAll (workspace : Workspace) (strings : List Translatable) :
    (workspace.storeAll strings).2.filterMap (workspace.storeAll strings).1.get? = strings := by
  have found (index : Nat) :
      (workspace.strings ++ strings)[workspace.strings.length + index]? = strings[index]? := by
    rw [List.getElem?_append_right (Nat.le_add_right _ _), Nat.add_sub_cancel_left]
  have all : (List.range strings.length).map (strings[·]?) = strings.map some :=
    List.ext_getElem (by simp) (by simp)
  calc (workspace.storeAll strings).2.filterMap (workspace.storeAll strings).1.get?
    _ = (List.range strings.length).filterMap (strings[·]?) := by
      simp only [storeAll, get?, List.filterMap_map, Function.comp_def, found]
    _ = ((List.range strings.length).map (strings[·]?)).filterMap id := by
      rw [List.filterMap_map, Function.id_comp]
    _ = strings := by
      rw [all, List.filterMap_map, Function.id_comp, List.filterMap_some]

/-- **A workspace in which the buffer with a name holds some strings,** while its files, what other names
stand for, and the strings that it has kept are as they were. -/
structure IsFilled (earlier later : Workspace) (id : String) (use : Buffer.Use)
    (strings : List Translatable) : Prop where
  /-- The buffer holds the strings. -/
  content : ∃ buffer, later.buffer? id = some buffer ∧ buffer.use = use ∧ later.content buffer = strings
  /-- The files are as they were. -/
  tree : later.tree = earlier.tree
  /-- Other names stand for the same. -/
  others : ∀ other, other ≠ id → later.objects.lookup other = earlier.objects.lookup other
  /-- Strings that were kept are kept where they were. -/
  kept : ∀ handle string, earlier.get? handle = some string → later.get? handle = some string

/-- Strings that are stored, with a buffer of their places under a name. -/
theorem isFilled_storeAll (workspace : Workspace) (id : String) (use : Buffer.Use)
    (strings : List Translatable) :
    workspace.IsFilled ((workspace.storeAll strings).1.name id
      (.buffer ⟨use, (workspace.storeAll strings).2⟩)) id use strings where
  content := by
    refine ⟨⟨use, (workspace.storeAll strings).2⟩, ?_, rfl, filterMap_get?_storeAll workspace strings⟩
    rw [buffer?, lookup_name_self]
  tree := rfl
  others _ apart := lookup_name_of_ne _ apart _
  kept handle string found := by
    have inside : handle < workspace.strings.length := (List.getElem?_eq_some_iff.1 found).1
    exact (List.getElem?_append_left inside).trans found

end Workspace

/-! ## What is left -/

namespace Writer

/-- **What is left of a master catalog** are its strings whose singular the other one has, and with
the same halves of pairs in it. -/
theorem retained_eq (master retain : List Translatable) : retained master retain =
    master.filter fun string => string.wording ∈ retain.map (·.wording) := by
  refine List.filter_congr fun string _ => ?_
  rw [Bool.eq_iff_iff, List.any_eq_true, decide_eq_true_eq, List.mem_map]
  simp only [beq_iff_eq]

/-- More is left where the other catalog has more singulars. -/
theorem retained_sublist (master : List Translatable) {retain more : List Translatable}
    (h : retain.map (·.wording) ⊆ more.map (·.wording)) :
    (retained master retain).Sublist (retained master more) := by
  rw [retained_eq, retained_eq]
  exact List.monotone_filter_right master fun string member => by
    simpa using h (by simpa using member)

/-- **The catalogs are read one after the other,** the one that is kept to first: if it fails, the master
catalog is not read. -/
theorem reduce_cases (writer : Writer) (tree : FileTree) (master retain : Reader) :
    (∀ fault, (retain.read tree).fault = some fault →
      writer.reduce tree master retain = ⟨retain.shown (retain.read tree), .error fault⟩) ∧
    ((retain.read tree).fault = none →
      (∀ fault, (master.read tree).fault = some fault → writer.reduce tree master retain =
        ⟨retain.shown (retain.read tree) ++ master.shown (master.read tree), .error fault⟩) ∧
      ((master.read tree).fault = none → (writer.reduce tree master retain).result =
        .ok (retained (master.read tree).strings (retain.read tree).strings))) := by
  have failed {reader : Reader} {fault : Fault} (faulty : (reader.read tree).fault = some fault) :
      reader.progress tree = ⟨reader.shown (reader.read tree), .error fault⟩ := by
    rw [Reader.progress, Reading.all?, faulty]
  have done {reader : Reader} (clean : (reader.read tree).fault = none) :
      reader.progress tree = ⟨reader.shown (reader.read tree), .ok (reader.read tree).strings⟩ := by
    rw [Reader.progress, Reading.all?, clean]
  refine ⟨fun fault faulty => ?_, fun clean => ⟨fun fault faulty => ?_, fun whole => ?_⟩⟩
  · rw [reduce, failed faulty]
    rfl
  · rw [reduce, done clean, failed faulty]
    rfl
  · rw [reduce, done clean, done whole]
    rfl

end Writer

/-! ## The step -/

/-- **A buffer reduced.** If both readers can read all of their files, the buffer holds after the
step `.reduce id masterName retainName` the strings of the master catalog whose singular the other
one has (with the same halves of pairs in it), in their order and whatever it held before, and all
else is as it was; it is the same for other catalogs with the same singulars, and there are no
fewer where another one has more of them. If one of the readers fails, however many strings it has
read by then, its fault is the answer and nothing changes; the catalog that is kept to is read
first, so that its fault hides the master catalog. -/
theorem Workspace.run_reduce {workspace : Workspace} {id masterName retainName : String}
    {buffer : Buffer} {writer : Writer} {master retain : Reader}
    (held : workspace.buffer? id = some buffer) (use : buffer.use = .writer writer)
    (first : workspace.reader? masterName = some master)
    (second : workspace.reader? retainName = some retain) :
    let outcome := workspace.run (.reduce id masterName retainName)
    let whole := master.read workspace.tree
    let kept := retain.read workspace.tree
    let left (others : List Translatable) :=
      whole.strings.filter fun string => string.wording ∈ others.map (·.wording)
    (kept.fault = none → whole.fault = none →
      outcome.result = .ok (.left (left kept.strings)) ∧
      workspace.IsFilled outcome.workspace id (.writer writer) (left kept.strings)) ∧
    (∀ others more : List Translatable, others.map (·.wording) ⊆ more.map (·.wording) →
      (left others).Sublist (left more) ∧
      (more.map (·.wording) ⊆ others.map (·.wording) → left others = left more)) ∧
    (∀ fault, kept.fault = some fault →
      outcome = ⟨workspace, .error fault, retain.shown kept, none⟩) ∧
    (∀ fault, kept.fault = none → whole.fault = some fault →
      outcome = ⟨workspace, .error fault, retain.shown kept ++ master.shown whole, none⟩) := by
  intro outcome whole kept left
  obtain ⟨early, late⟩ := writer.reduce_cases workspace.tree master retain
  have step : outcome = workspace.reduce id buffer writer master retain := by
    simp only [outcome, run, withWriter, withName, held, use, first, second]
  have left_eq (others : List Translatable) : left others = Writer.retained whole.strings others :=
    (Writer.retained_eq whole.strings others).symm
  refine ⟨fun clean done => ?_, fun others more sub => ⟨?_, fun sup => ?_⟩, fun fault faulty => ?_,
    fun fault clean faulty => ?_⟩
  · rw [step, reduce, (late clean).2 done, left_eq, ← use]
    exact ⟨rfl, isFilled_storeAll workspace id buffer.use _⟩
  · rw [left_eq, left_eq]
    exact Writer.retained_sublist whole.strings sub
  · rw [left_eq, left_eq]
    exact (Writer.retained_sublist whole.strings sub).antisymm
      (Writer.retained_sublist whole.strings sup)
  · rw [step, reduce, early fault faulty]
  · rw [step, reduce, (late clean).1 fault faulty]

/-- A buffer with a string, replaced by what a program still has of a catalog with an entry twice; and one
that is left as it is, as an entry in front of the fault of the catalog does not count. -/
theorem Workspace.run_reduce_twice :
    let catalog := "msgid \"b\"\nmsgstr \"1\"\n\nmsgid \"a\"\nmsgstr \"2\"\n\nmsgid \"b\"\nmsgstr \"3\"\n"
    let tree : FileTree := ⟨[(["w", "m.po"], .file (Text.encode catalog)),
      (["w", "f.po"], .file (Text.encode "msgid \"a\"\nmsgstr \"b\"\noops\n")),
      (["w", "r.py"], .file (Text.encode "_('b')\n"))]⟩
    let reader (kind : Reader.Kind) (path : String) : Reader :=
      ⟨kind, none, 0, Program.Keyword.usual, [.ofString path]⟩
    let writer : Writer := ⟨.catalog, 0, "Str"⟩
    let workspace : Workspace := ⟨tree, [.ofText "old"],
      [("g", .buffer ⟨.writer writer, [0]⟩), ("m", .reader (reader (.only .catalog) "m.po")),
        ("f", .reader (reader (.only .catalog) "f.po")), ("r", .reader (reader (.any Format.all) "r.py"))]⟩
    let left : List Translatable := [⟨"b", none, none, some [some "1"], none, none, [], none, {}⟩,
      ⟨"b", none, none, some [some "3"], none, none, [], none, {}⟩]
    (workspace.run (.reduce "g" "m" "r")).result = .ok (.left left) ∧
      workspace.IsFilled (workspace.run (.reduce "g" "m" "r")).workspace "g" (.writer writer) left ∧
      (workspace.run (.reduce "g" "f" "r")).workspace = workspace := by
  intro catalog tree reader writer workspace left
  have clean : ((reader (.any Format.all) "r.py").read tree).fault = none := by decide +kernel
  have whole : ((reader (.only .catalog) "m.po").read tree).fault = none := by decide +kernel
  have faulty : ((reader (.only .catalog) "f.po").read tree).fault ≠ none := by decide +kernel
  obtain ⟨fault, failed⟩ := Option.ne_none_iff_exists'.1 faulty
  have same : ((reader (.only .catalog) "m.po").read workspace.tree).strings.filter (fun string =>
      string.wording ∈ ((reader (.any Format.all) "r.py").read workspace.tree).strings.map
        (·.wording)) = left := by decide +kernel
  have held : workspace.buffer? "g" = some ⟨.writer writer, [0]⟩ := by decide
  have done := (run_reduce held rfl (by decide : workspace.reader? "m" = some _)
    (by decide : workspace.reader? "r" = some _)).1 clean whole
  have stays := (run_reduce held rfl (by decide : workspace.reader? "f" = some _)
    (by decide : workspace.reader? "r" = some _)).2.2.2 fault clean failed
  dsimp only at done
  rw [same] at done
  exact ⟨done.1, done.2, by rw [stays]⟩

end StringCatalog
