import StringCatalog.Proofs.Extraction.Combined
import StringCatalog.Workspace.Step

/-! # Merging references in a workspace

* **`Translatable.IsUnion`** — references with those of another string behind them.
* **`Workspace.Absorbs`** — the references of a string taken over one by one, while both strings are read as
  they are by then.
* **`Workspace.absorbs_iff`** — that comes to an end, and what it comes to, also where both strings are one.
* **`Workspace.run_merge`** — one step of merging, and several of them. -/

namespace StringCatalog

/-! ## References -/

namespace Translatable

/-- The new references are in the order of those that they are taken from. -/
theorem newReferences_sublist (known more : List String) : (newReferences known more).Sublist more :=
  (nodup_sublist_eraseDups _).2.trans List.filter_sublist

/-- **References with those of another string behind them.** -/
structure IsUnion (known more united : List String) : Prop where
  /-- The new ones stand behind those that were there. -/
  behind : united = known ++ newReferences known more
  /-- None of the new ones stands there twice. -/
  once : (newReferences known more).Nodup
  /-- They are in the order of the other string. -/
  ordered : (newReferences known more).Sublist more
  /-- The references of both strings are there, and no others. -/
  members : ∀ reference, reference ∈ united ↔ reference ∈ known ∨ reference ∈ more
  /-- None stands there twice if none did. -/
  nodup : known.Nodup → united.Nodup

/-- **Adding references one by one** makes their union. -/
theorem isUnion_foldl_insertNew (known more : List String) :
    IsUnion known more (more.foldl insertNew known) where
  behind := foldl_insertNew known more
  once := nodup_eraseDups _
  ordered := newReferences_sublist known more
  members _ := mem_foldl_insertNew
  nodup distinct := by
    rw [foldl_insertNew]
    exact nodup_append_newReferences.2 distinct

end Translatable

namespace Workspace

/-! ## Changed strings -/

/-- `(workspace.update handle change).get? handle = some (change string)`: a changed string is
found where it was. -/
theorem get?_update_self {workspace : Workspace} {handle : Handle} {string : Translatable}
    (kept : workspace.get? handle = some string) (change : Translatable → Translatable) :
    (workspace.update handle change).get? handle = some (change string) := by
  rw [get?] at kept
  rw [get?, update, List.getElem?_modify_eq, kept]
  rfl

/-- `(workspace.update handle change).get? other = workspace.get? other`: other strings are as they
were. -/
theorem get?_update_of_ne (workspace : Workspace) {handle other : Handle} (apart : other ≠ handle)
    (change : Translatable → Translatable) :
    (workspace.update handle change).get? other = workspace.get? other :=
  List.getElem?_modify_ne change workspace.strings apart.symm

/-- `workspace.update handle change = workspace`: a change that leaves the string as it is leaves
the workspace as it is. -/
theorem update_eq_self {workspace : Workspace} {handle : Handle} {string : Translatable}
    {change : Translatable → Translatable} (kept : workspace.get? handle = some string)
    (same : change string = string) : workspace.update handle change = workspace := by
  have strings : workspace.strings.modify handle change = workspace.strings := by
    refine List.ext_getElem? fun other => ?_
    by_cases here : handle = other
    · subst here
      rw [List.getElem?_modify_eq, show workspace.strings[handle]? = some string from kept]
      exact congrArg some same
    · exact List.getElem?_modify_ne change workspace.strings here
  rw [update, strings]

/-- Of two changes at one place the later one counts, if it does not look at the string. -/
theorem update_update (workspace : Workspace) (handle : Handle) (change : Translatable → Translatable)
    (string : Translatable) :
    (workspace.update handle change).update handle (fun _ => string) =
      workspace.update handle fun _ => string := by
  rw [update, update, update, List.modify_modify_eq]
  rfl

/-! ## Merging in place -/

/-- **References taken over in place.** In each round the reference at the next place of the one string is
added to the other. Both strings are read as they are by then, so that the list that is read may be the one
that grows. -/
inductive Absorbs (target source : Handle) : Workspace → Nat → Workspace → Prop where
  /-- There is no reference at the place. -/
  | done {workspace : Workspace} {place : Nat} {other : Translatable}
      (read : workspace.get? source = some other) (last : other.references[place]? = none) :
      Absorbs target source workspace place workspace
  /-- The reference at the place is added, and the next place is read. -/
  | round {workspace later : Workspace} {place : Nat} {other : Translatable} {reference : String}
      (read : workspace.get? source = some other) (next : other.references[place]? = some reference)
      (rest : Absorbs target source (workspace.update target (·.addReference reference)) (place + 1) later) :
      Absorbs target source workspace place later

/-- A reference that a string has is found in it, whatever is added to which string. -/
theorem get?_addReference {workspace : Workspace} {target source : Handle} {string other : Translatable}
    (kept : workspace.get? target = some string) (read : workspace.get? source = some other)
    {reference : String} (there : reference ∈ other.references) :
    (workspace.update target (·.addReference reference)).get? source = some other := by
  by_cases same : source = target
  -- the list that is read is the one that grows, but this reference is there already
  · subst same
    obtain rfl : string = other := Option.some_inj.1 (kept.symm.trans read)
    rw [get?_update_self kept, Translatable.addReference, Translatable.insertNew, if_pos there]
  · rw [get?_update_of_ne workspace same, read]

/-- **References taken over in place from some place on** are those that are added one by one: there is an
end to it, and only one. -/
theorem absorbs_iff {workspace later : Workspace} {target source : Handle} {string other : Translatable}
    (kept : workspace.get? target = some string) (read : workspace.get? source = some other)
    (place : Nat) :
    workspace.Absorbs target source place later ↔ later = workspace.update target fun _ =>
      { string with
        references := (other.references.drop place).foldl Translatable.insertNew string.references } := by
  -- the induction is on the number of references that are still to be read
  induction remaining : other.references.length - place generalizing workspace string place with
  | zero =>
      have last : other.references[place]? = none := List.getElem?_eq_none (by omega)
      rw [List.drop_eq_nil_of_le (by omega), List.foldl_nil, update_eq_self kept rfl]
      constructor
      · intro run
        cases run with
        | done => rfl
        | round again next =>
            obtain rfl := Option.some_inj.1 (read.symm.trans again)
            exact absurd (last.symm.trans next) (by simp)
      · rintro rfl
        exact .done read last
  | succ count ih =>
      have inside : place < other.references.length := by omega
      have next := List.getElem?_eq_getElem inside
      have behind := ih (get?_update_self kept _)
        (get?_addReference kept read (List.getElem_mem inside)) (place + 1) (by omega)
      rw [update_update] at behind
      rw [List.drop_eq_getElem_cons inside, List.foldl_cons]
      refine Iff.trans ⟨fun run => ?_, fun rest => .round read next rest⟩ behind
      cases run with
      | done again last =>
          obtain rfl := Option.some_inj.1 (read.symm.trans again)
          exact absurd (last.symm.trans next) (by simp)
      | round again next' rest =>
          obtain rfl := Option.some_inj.1 (read.symm.trans again)
          obtain rfl := Option.some_inj.1 (next.symm.trans next')
          exact rest

/-- **References taken over in place from the start** are merged. -/
theorem absorbs_zero_iff {workspace later : Workspace} {target source : Handle}
    {string other : Translatable} (kept : workspace.get? target = some string)
    (read : workspace.get? source = some other) :
    workspace.Absorbs target source 0 later ↔
      later = workspace.update target fun _ => string.mergeReferences other :=
  absorbs_iff kept read 0

/-! ## The step -/

/-- A string merged into another one is read as it is then. -/
theorem run_merge_eq {workspace : Workspace} {a b : String} {first second : Handle}
    {one two : Translatable} (namedOne : workspace.record? a = some first)
    (namedTwo : workspace.record? b = some second) (keptOne : workspace.get? first = some one)
    (keptTwo : workspace.get? second = some two) :
    workspace.run (.merge a b) = (workspace.update first fun _ => one.mergeReferences two).quiet
      (.ok (.references first (one.mergeReferences two).references)) := by
  simp only [run, withString, withName, namedOne, namedTwo, keptOne, keptTwo, change]

/-- What is kept behind a merge: the one string has more references, and the others and all names are as
they were. -/
theorem kept_run_merge {workspace : Workspace} {a b : String} {first second : Handle}
    {one two : Translatable} (namedOne : workspace.record? a = some first)
    (namedTwo : workspace.record? b = some second) (keptOne : workspace.get? first = some one)
    (keptTwo : workspace.get? second = some two) :
    let later := (workspace.run (.merge a b)).workspace
    later.get? first = some (one.mergeReferences two) ∧
    (∀ other, other ≠ first → later.get? other = workspace.get? other) ∧
    ∀ id, later.record? id = workspace.record? id := by
  rw [run_merge_eq namedOne namedTwo keptOne keptTwo]
  exact ⟨get?_update_self keptOne _, fun other apart => get?_update_of_ne workspace apart _,
    fun id => rfl⟩

end Workspace

/-- **References merged.** Let three strings be kept in different places. The step `.merge a b`
puts those references of the second that are new behind the old ones of the first, each once and in
their order (`IsUnion`); nothing else is changed, in neither string nor in the workspace, and it is
what taking them over in place comes to (`Absorbs`). It is the same whether the third one is merged
into the second before, or into the first behind it; merging the second once more changes nothing;
and merging the first into itself changes nothing, also in place. -/
theorem Workspace.run_merge {workspace : Workspace} {a b c : String} {first second third : Handle}
    {one two three : Translatable} (namedOne : workspace.record? a = some first)
    (namedTwo : workspace.record? b = some second) (namedThree : workspace.record? c = some third)
    (keptOne : workspace.get? first = some one) (keptTwo : workspace.get? second = some two)
    (keptThree : workspace.get? third = some three) (apart : second ≠ first) (apart' : third ≠ first) :
    let outcome := workspace.run (.merge a b)
    (∃ united, Translatable.IsUnion one.references two.references united ∧
      outcome = ⟨workspace.update first fun _ => { one with references := united },
        .ok (.references first united), [], none⟩ ∧
      outcome.workspace.get? first = some { one with references := united }) ∧
    (∀ other, other ≠ first → outcome.workspace.get? other = workspace.get? other) ∧
    (∀ later, workspace.Absorbs first second 0 later ↔ later = outcome.workspace) ∧
    ((workspace.run (.merge b c)).workspace.run (.merge a b)).workspace.get? first =
      (outcome.workspace.run (.merge a c)).workspace.get? first ∧
    (outcome.workspace.run (.merge a b)).workspace = outcome.workspace ∧
    workspace.run (.merge a a) = ⟨workspace, .ok (.references first one.references), [], none⟩ ∧
    (∀ later, workspace.Absorbs first first 0 later ↔ later = workspace) := by
  intro outcome
  have done : outcome = _ := run_merge_eq namedOne namedTwo keptOne keptTwo
  obtain ⟨here, others, named⟩ := kept_run_merge namedOne namedTwo keptOne keptTwo
  have still : outcome.workspace.get? second = some two := (others second apart).trans keptTwo
  have self : one.mergeReferences one = one :=
    Translatable.mergeReferences_eq_self (List.Subset.refl _)
  refine ⟨⟨_, Translatable.isUnion_foldl_insertNew _ _, done, here⟩, others, fun later => ?_, ?_, ?_, ?_,
    fun later => ?_⟩
  · rw [absorbs_zero_iff keptOne keptTwo, done]
    rfl
  -- both ways the first string ends up with the references of all three
  · obtain ⟨early, apartEarly, namedEarly⟩ := kept_run_merge namedTwo namedThree keptTwo keptThree
    have left := kept_run_merge ((namedEarly a).trans namedOne) ((namedEarly b).trans namedTwo)
      ((apartEarly first apart.symm).trans keptOne) early
    have right := kept_run_merge ((named a).trans namedOne) ((named c).trans namedThree) here
      ((others third apart').trans keptThree)
    rw [left.1, right.1, Translatable.mergeReferences_assoc]
  · have known : two.references ⊆ (one.mergeReferences two).references := fun reference there =>
      Translatable.mem_foldl_insertNew.2 (.inr there)
    rw [run_merge_eq ((named a).trans namedOne) ((named b).trans namedTwo) here still,
      Translatable.mergeReferences_eq_self known]
    exact update_eq_self here rfl
  · rw [run_merge_eq namedOne namedOne keptOne keptOne, self, update_eq_self keptOne rfl]
    rfl
  · rw [absorbs_zero_iff keptOne keptOne, self, update_eq_self keptOne rfl]

/-- Three strings with references in common and with some that stand there twice. -/
theorem Workspace.run_merge_many :
    let string (text : String) (references : List String) : Translatable :=
      { Translatable.ofText text with references }
    let workspace : Workspace := ⟨⟨[]⟩,
      [string "one" ["x", "x"], string "two" ["z", "x", "y", "z"], string "three" ["y", "w"]],
      [("a", .record 0), ("b", .record 1), ("c", .record 2)]⟩
    let outcome := workspace.run (.merge "a" "b")
    outcome.workspace.get? 0 = some (string "one" ["x", "x", "z", "y"]) ∧
      outcome.workspace.get? 1 = workspace.get? 1 ∧ workspace.Absorbs 0 1 0 outcome.workspace ∧
      ((workspace.run (.merge "b" "c")).workspace.run (.merge "a" "b")).workspace.get? 0 =
        (outcome.workspace.run (.merge "a" "c")).workspace.get? 0 ∧
      (outcome.workspace.run (.merge "a" "b")).workspace = outcome.workspace ∧
      (workspace.run (.merge "a" "a")).workspace = workspace ∧
      ∀ later, workspace.Absorbs 0 0 0 later ↔ later = workspace := by
  intro string workspace outcome
  obtain ⟨⟨united, union, -, here⟩, others, loop, both, twice, self, alone⟩ :=
    run_merge (by decide : workspace.record? "a" = some 0) (by decide : workspace.record? "b" = some 1)
      (by decide : workspace.record? "c" = some 2)
      (by decide : workspace.get? 0 = some (string "one" ["x", "x"]))
      (by decide : workspace.get? 1 = some (string "two" ["z", "x", "y", "z"]))
      (by decide : workspace.get? 2 = some (string "three" ["y", "w"])) (by decide) (by decide)
  have known : united = ["x", "x", "z", "y"] := by
    rw [union.behind]
    decide
  rw [known] at here
  exact ⟨here, others 1 (by decide), (loop _).2 rfl, both, twice, by rw [self], alone⟩

end StringCatalog
