import StringCatalog.Proofs.FileTree.Path
import StringCatalog.Translatable.Reference

/-! # References below a source root

* **`Reference.IsCut`** — the path of a reference and the line number that ends it, if one does.
* **`Reference.parse?_eq_some`** — reading a reference cuts it so.
* **`Reference.relativize_cases`** — which references are made relative to a source root, and where the
  relative ones lead. -/

namespace StringCatalog.Reference

/-! ## Path and line number -/

/-- **A line number** with the colon before it. -/
def IsLineNumber (text : List Char) : Prop :=
  ∃ digits, digits ≠ [] ∧ (∀ c ∈ digits, Text.isDecimal c = true) ∧ text = ':' :: digits

/-- **A reference cut before its line number,** the longest one that ends it, if there is one. -/
structure IsCut (reference path line : String) : Prop where
  /-- Nothing is lost. -/
  whole : path ++ line = reference
  /-- Behind the cut stands a line number or nothing. -/
  ends : line = "" ∨ IsLineNumber line.toList
  /-- No longer line number ends the reference. -/
  longest : ∀ number, IsLineNumber number → number <:+ reference.toList → number <:+ line.toList

/-- `path = path' ∧ line = line'`: there is one way to cut a reference. -/
theorem IsCut.unique {reference path line path' line' : String} (h : IsCut reference path line)
    (h' : IsCut reference path' line') : path = path' ∧ line = line' := by
  -- each line number is a line number at the end of the reference, so it is no longer than the other
  have within {path line path' line' : String} (h : IsCut reference path line)
      (h' : IsCut reference path' line') : line.toList <:+ line'.toList := by
    rcases h.ends with rfl | number
    · exact List.nil_suffix
    · refine h'.longest _ number ⟨path.toList, ?_⟩
      rw [← String.toList_append, h.whole]
  have lines : line = line' := by
    have one := within h h'
    exact String.toList_injective (one.eq_of_length (Nat.le_antisymm one.length_le (within h' h).length_le))
  subst lines
  have same := h.whole.trans h'.whole.symm
  refine ⟨String.toList_injective ((List.append_left_inj line.toList).1 ?_), rfl⟩
  rw [← String.toList_append, ← String.toList_append, same]

/-- What stands before a line number that ends a text is left when the digits are taken. -/
theorem takeDigits_reverse {before digits : List Char} (decimal : ∀ c ∈ digits, Text.isDecimal c = true) :
    takeDigits (before ++ ':' :: digits).reverse = (digits.reverse, ':' :: before.reverse) := by
  have shape : (before ++ ':' :: digits).reverse = digits.reverse ++ ':' :: before.reverse := by simp
  have all : ∀ c ∈ digits.reverse, Text.isDecimal c = true := by simpa using decimal
  have colon : Text.isDecimal ':' = false := by decide
  rw [takeDigits, shape, List.takeWhile_append_of_pos all, List.dropWhile_append_of_pos all,
    List.takeWhile_cons_of_neg (by simp [colon]), List.dropWhile_cons_of_neg (by simp [colon]),
    List.append_nil]

/-- **Cutting a text** gives a line number that ends it, if there is one. -/
theorem cutLine_cases (text : List Char) :
    (∃ before digits, digits ≠ [] ∧ (∀ c ∈ digits, Text.isDecimal c = true) ∧
      text = before ++ ':' :: digits ∧ cutLine text = (before, ':' :: digits)) ∨
    ((∀ number, IsLineNumber number → ¬ number <:+ text) ∧ cutLine text = (text, [])) := by
  by_cases ends : ∃ number, IsLineNumber number ∧ number <:+ text
  · obtain ⟨_, ⟨digits, some, decimal, rfl⟩, before, rfl⟩ := ends
    refine .inl ⟨before, digits, some, decimal, rfl, ?_⟩
    obtain ⟨last, more, shape⟩ := List.exists_cons_of_ne_nil (List.reverse_ne_nil_iff.2 some)
    rw [cutLine, takeDigits_reverse decimal, shape]
    show (before.reverse.reverse, ':' :: (last :: more).reverse) = _
    rw [← shape, List.reverse_reverse, List.reverse_reverse]
  · refine .inr ⟨fun number is ends' => ends ⟨number, is, ends'⟩, ?_⟩
    unfold cutLine
    split
    · rfl
    · next digits before some taken =>
      -- digits behind a colon would be a line number
      obtain ⟨front, back⟩ := Prod.mk.inj taken
      have shape := List.takeWhile_append_dropWhile (p := Text.isDecimal) (l := text.reverse)
      rw [front, back] at shape
      refine absurd ⟨_, ⟨digits.reverse, mt List.reverse_eq_nil_iff.1 some, fun c member => ?_, rfl⟩,
        before.reverse, ?_⟩ ends
      · rw [List.mem_reverse, ← front] at member
        exact List.mem_takeWhile_imp member
      · rw [← List.reverse_inj, ← shape]
        simp
    · rfl

/-- **Reading a reference** in one line cuts it before its line number. -/
theorem parse?_eq_some {reference : String} (flat : '\n' ∉ reference.toList) :
    ∃ path line, parse? reference = some (path, line) ∧ IsCut reference path line := by
  have kept : dropFinalNewline reference.toList = reference.toList := by
    rw [dropFinalNewline, if_neg]
    intro last
    exact flat (List.mem_of_getLast? (by simpa using last))
  have inside : reference.toList.contains '\n' = false := by simpa using flat
  rw [parse?]
  dsimp only
  rw [kept, inside]
  rcases cutLine_cases reference.toList with ⟨before, digits, some, decimal, shape, cut⟩ | ⟨none, cut⟩
  · refine ⟨_, _, by rw [cut]; rfl, ?_, .inr ⟨digits, some, decimal, by simp⟩, ?_⟩
    · rw [← String.toList_inj, shape]
      simp
    · rintro _ ⟨more, -, others, rfl⟩ ⟨first, same⟩
      -- both line numbers end at the colon before the last digits
      rw [shape] at same
      have taken := @takeDigits_reverse first _ others
      rw [same, takeDigits_reverse decimal] at taken
      obtain ⟨one, -⟩ := Prod.mk.inj taken
      rw [List.reverse_inj] at one
      exact ⟨[], by rw [one, String.toList_ofList, List.nil_append]⟩
  · refine ⟨_, _, by rw [cut]; rfl, by simp, .inl rfl, fun number is ends => absurd ends (none number is)⟩

/-! ## Relative references -/

/-- `below? root path = some parts ↔ path.parts = root.parts ++ parts`: the names below a root are
those that a path goes through behind the names of the root. -/
theorem below?_eq_some_iff {root path : Path} {parts : List String} (single : root.anchor ≠ .doubleRoot) :
    below? root path = some parts ↔ path.parts = root.parts ++ parts := by
  unfold below?
  rw [bne_iff_ne.2 single, Bool.true_and]
  by_cases within : root.parts <+: path.parts
  · obtain ⟨rest, same⟩ := within
    rw [← same]
    simp
  · rw [if_neg (by simpa using within)]
    simp only [reduceCtorEq, false_iff]
    rintro same
    exact within ⟨parts, same.symm⟩

/-- **A path that leads to a root or below it:** it is absolute and, with every step back taken, goes
through all names of the root first. -/
structure IsBelow (root path : String) : Prop where
  /-- It starts at the root of all folders. -/
  absolute : Path.isAbsoluteText path = true
  /-- It goes through the names of the root. -/
  within : (Path.ofString root).absolute.parts <+: (Path.ofString path).absolute.parts

/-- **A relative path that leads from a root to where a path leads.** -/
structure LeadsTo (root relative path : String) : Prop where
  /-- It does not start at the root of all folders. -/
  free : Path.isAbsoluteText relative = false
  /-- It takes no step back. -/
  ahead : ".." ∉ Path.names relative
  /-- Behind the root it leads to the same place. -/
  place : (Path.ofString (Path.join root relative)).absolute = (Path.ofString path).absolute

section

variable {root reference path line : String}

/-- `line.toList.head? ≠ some '/'`: a line number does not open with a slash. -/
theorem IsCut.head?_line (h : IsCut reference path line) : line.toList.head? ≠ some '/' := by
  rcases h.ends with rfl | ⟨digits, -, -, shape⟩
  · simp
  · simp [shape]

/-- `(Path.ofString path).anchor = (Path.ofString reference).anchor`: the path of a reference
starts where the reference does. -/
theorem IsCut.anchor_eq (h : IsCut reference path line) :
    (Path.ofString path).anchor = (Path.ofString reference).anchor := by
  show Path.anchorOf path.toList = Path.anchorOf reference.toList
  rw [← h.whole, String.toList_append, Path.anchorOf_append h.head?_line]

/-- `path.toList ⊆ reference.toList ∧ line.toList ⊆ reference.toList`: the characters of its parts
are characters of the reference. -/
theorem IsCut.subset (h : IsCut reference path line) :
    path.toList ⊆ reference.toList ∧ line.toList ⊆ reference.toList := by
  rw [← h.whole, String.toList_append]
  exact ⟨List.subset_append_left _ _, List.subset_append_right _ _⟩

/-- **A reference that does not open with a slash** stays as it is:
`relativize root reference = .ok reference`. -/
theorem relativize_of_head? (root : Option String) (flat : '\n' ∉ reference.toList)
    (relative : reference.toList.head? ≠ some '/') : relativize root reference = .ok reference := by
  obtain ⟨path, line, read, cut⟩ := parse?_eq_some flat
  have own : Path.isAbsoluteText path = false := by
    rw [Path.isAbsoluteText, beq_eq_false_iff_ne]
    intro opens
    obtain ⟨rest, shape⟩ := List.head?_eq_some_iff.1 opens
    apply relative
    rw [← cut.whole, String.toList_append, shape]
    rfl
  unfold relativize
  split
  · rfl
  · split
    · rfl
    · rw [read]
      simp [own]

/-- **What a reference comes to** where there is a root, by where its path leads. -/
theorem relativize_of_isCut (given : root ≠ "") (flat : '\n' ∉ reference.toList)
    (single : (Path.ofString root).anchor ≠ .doubleRoot) (cut : IsCut reference path line) :
    (¬ IsBelow root path → relativize (some root) reference = .ok reference) ∧
      ∀ parts, Path.isAbsoluteText path = true →
        (Path.ofString path).absolute.parts = (Path.ofString root).absolute.parts ++ parts →
        relativize (some root) reference = .ok ((Path.mk .working parts).toString ++ line) := by
  obtain ⟨path', line', read, cut'⟩ := parse?_eq_some flat
  obtain ⟨rfl, rfl⟩ := cut.unique cut'
  have below (parts : List String) := @below?_eq_some_iff (Path.ofString root).absolute
    (Path.ofString path).absolute parts (by rw [Path.anchor_absolute single]; exact Path.Anchor.noConfusion)
  have unfolded : relativize (some root) reference =
      if !Path.isAbsoluteText path then .ok reference
      else (below? (Path.ofString root).absolute (Path.ofString path).absolute).elim (.ok reference)
        fun parts => .ok ((Path.mk .working parts).toString ++ line) := by
    simp only [relativize, read, beq_iff_eq, given, if_false]
    cases below? (Path.ofString root).absolute (Path.ofString path).absolute <;> rfl
  refine ⟨fun outside => ?_, fun parts absolute same => ?_⟩
  · rw [unfolded]
    split
    · rfl
    · next absolute =>
      cases found : below? (Path.ofString root).absolute (Path.ofString path).absolute with
      | none => rfl
      | some parts =>
          exact absurd ⟨by simpa using absolute, parts, ((below parts).1 found).symm⟩ outside
  · rw [unfolded, absolute, (below parts).2 same]
    rfl

/-- **A path below a root** is reached from it by names alone. -/
theorem IsBelow.exists_parts (below : IsBelow root path) :
    ∃ parts, (Path.ofString path).absolute.parts = (Path.ofString root).absolute.parts ++ parts ∧
      ∀ name ∈ parts, Path.IsName name ∧ name ≠ ".." ∧ (name = "w" ∨ name.toList ⊆ path.toList) := by
  obtain ⟨parts, same⟩ := below.within
  refine ⟨parts, same.symm, fun name member => Path.of_mem_absolute_ofString ?_⟩
  rw [← same]
  exact List.mem_append_right _ member

/-- **The names below a root,** written as a relative path, lead from the root to the path. -/
theorem leadsTo_toString (given : root ≠ "") (rootSingle : (Path.ofString root).anchor ≠ .doubleRoot)
    (single : (Path.ofString path).anchor ≠ .doubleRoot) {parts : List String}
    (same : (Path.ofString path).absolute.parts = (Path.ofString root).absolute.parts ++ parts)
    (names : ∀ name ∈ parts, Path.IsName name) (ahead : ".." ∉ parts) :
    LeadsTo root (Path.mk .working parts).toString path := by
  refine ⟨beq_eq_false_iff_ne.2 (Path.head?_toString names), ?_, ?_⟩
  · rw [Path.names_toString names]
    split
    · decide
    · exact ahead
  · rw [Path.absolute_join given names ahead, ← same, Path.anchor_absolute rootSingle,
      ← Path.anchor_absolute single]

end

/-- **Which references are made relative to a root, and where they lead.** A reference in one line
`IsCut` before its line number in just one way. `relativize (some root) reference` leaves it as it
is unless its path `IsBelow` the root, at it or below it, step by step and not letter by letter.
Where it is, the result is `relative ++ line`, for a relative path without steps back that
`LeadsTo` the same place from the root. Once a reference has been made relative, doing so again
changes nothing. -/
theorem relativize_cases {root reference : String} (given : root ≠ "")
    (flat : '\n' ∉ reference.toList) (rootSingle : (Path.ofString root).anchor ≠ .doubleRoot)
    (single : (Path.ofString reference).anchor ≠ .doubleRoot) :
    (∃ path line, IsCut reference path line) ∧
    (∀ path line, IsCut reference path line →
      (¬ IsBelow root path → relativize (some root) reference = .ok reference) ∧
      (IsBelow root path → ∃ relative, LeadsTo root relative path ∧
        relativize (some root) reference = .ok (relative ++ line))) ∧
    ∃ result, relativize (some root) reference = .ok result ∧
      relativize (some root) result = .ok result := by
  obtain ⟨path, line, -, cut⟩ := parse?_eq_some flat
  obtain ⟨outside, inside⟩ := relativize_of_isCut given flat rootSingle cut
  by_cases below : IsBelow root path
  · obtain ⟨parts, same, names⟩ := below.exists_parts
    have relative := inside parts below.absolute same
    have leads : LeadsTo root (Path.mk .working parts).toString path :=
      leadsTo_toString given rootSingle (cut.anchor_eq ▸ single) same
        (fun name member => (names name member).1) (fun back => (names _ back).2.1 rfl)
    refine ⟨⟨path, line, cut⟩, fun path' line' cut' => ?_, _, relative, relativize_of_head? _ ?_ ?_⟩
    · obtain ⟨rfl, rfl⟩ := cut.unique cut'
      exact ⟨fun out => absurd below out, fun _ => ⟨_, leads, relative⟩⟩
    -- the relative path has no characters but those of the reference, a full stop and the folder's name
    · rw [String.toList_append, List.mem_append, not_or]
      refine ⟨fun newline => ?_, fun newline => flat (cut.subset.2 newline)⟩
      rcases Path.of_mem_toString newline with stop | slash | ⟨name, member, there⟩
      · exact absurd stop (by decide)
      · exact absurd slash (by decide)
      · rcases (names name member).2.2 with rfl | subset
        · exact absurd there (by decide)
        · exact flat (cut.subset.1 (subset there))
    · rw [String.toList_append, List.head?_append, Ne, Option.or_eq_some_iff, not_or]
      exact ⟨beq_eq_false_iff_ne.1 leads.free, fun behind => cut.head?_line behind.2⟩
  · have stays := outside below
    refine ⟨⟨path, line, cut⟩, fun path' line' cut' => ?_, _, stays, stays⟩
    obtain ⟨rfl, rfl⟩ := cut.unique cut'
    exact ⟨fun _ => stays, fun within => absurd within below⟩

/-- A path with a step back and a colon in its name, below a root that is not written in its shortest
form. -/
theorem relativize_cases_below :
    let root := "src/"
    let reference := "/w//lib/../src/./a:1/b.py:12"
    ∃ path line, IsCut reference path line ∧ IsBelow root path ∧
      ∃ relative, LeadsTo root relative path ∧
        relativize (some root) reference = .ok (relative ++ line) ∧
        relativize (some root) reference = .ok "a:1/b.py:12" := by
  intro root reference
  obtain ⟨-, cases, -⟩ := @relativize_cases root reference (by decide) (by decide) (by decide) (by decide)
  have cut : IsCut reference "/w//lib/../src/./a:1/b.py" ":12" := by
    obtain ⟨path, line, read, cut⟩ := @parse?_eq_some reference (by decide)
    have parts : parse? reference = some ("/w//lib/../src/./a:1/b.py", ":12") := by decide +kernel
    rw [parts] at read
    obtain ⟨rfl, rfl⟩ := Prod.mk.inj (Option.some.inj read)
    exact cut
  have below : IsBelow root "/w//lib/../src/./a:1/b.py" := ⟨by decide +kernel, by decide +kernel⟩
  obtain ⟨relative, leads, made⟩ := (cases _ _ cut).2 below
  exact ⟨_, _, cut, below, relative, leads, made, by decide +kernel⟩

end StringCatalog.Reference
