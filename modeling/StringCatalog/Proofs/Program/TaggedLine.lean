import StringCatalog.Proofs.Program.Remark

/-! # Lines that address translators

* **`Addresses`** — a comment that starts with the tag, and the text behind it.
* **`Tells.of_addresses`** — what comments say the last of which is such a line.
* **`remarks_of_addresses`** — when the text of such a line directly above a call is in the remark on it.

A remark is what a whole run of comments says, and only the first of them is asked for the tag: a line
that has it is heard behind a comment that has it, too, and behind any other it is not. -/

namespace StringCatalog.Program

/-! ## Lines -/

/-- **A line that addresses translators:** without the blanks around it, it is marks of a comment, blanks
if there are any, the tag, and a text that is not blank. -/
structure Addresses (line text : List Char) : Prop where
  /-- What stands before the text. -/
  marked : ∃ marks blanks : List Char, marks ≠ [] ∧ (∀ c ∈ marks, c = '#') ∧
    (∀ c ∈ blanks, Text.isBlank c = true) ∧ Text.trim line = marks ++ (blanks ++ (remarkTag ++ text))
  /-- The text is not blank. -/
  ink : Text.HasInk text

/-- `isComment line = true`: such a line is a comment. -/
theorem Addresses.isComment {line text : List Char} (h : Addresses line text) :
    isComment line = true := by
  obtain ⟨marks, blanks, some, sharp, -, shape⟩ := h.marked
  obtain ⟨mark, marks, rfl⟩ := List.exists_cons_of_ne_nil some
  rw [Program.isComment, shape, sharp mark List.mem_cons_self]
  rfl

/-- `Text.trimEnd text = text`: its text ends with the line. -/
theorem Addresses.trimEnd_eq {line text : List Char} (h : Addresses line text) :
    Text.trimEnd text = text := by
  obtain ⟨marks, blanks, -, -, -, shape⟩ := h.marked
  have trimmed : Text.trimEnd (Text.trim line) = Text.trim line := Text.trimEnd_trimEnd _
  rw [shape, ← List.append_assoc, ← List.append_assoc, Text.trimEnd_append h.ink] at trimmed
  exact List.append_cancel_left trimmed

/-- **The text of the comment** is the tag with the text behind it:
`commentText line = remarkTag ++ text`. -/
theorem Addresses.commentText_eq {line text : List Char} (h : Addresses line text) :
    commentText line = remarkTag ++ text := by
  obtain ⟨marks, blanks, -, sharp, blank, shape⟩ := h.marked
  have tag : remarkTag = 'T' :: "ranslators:".toList := by decide
  -- no mark stands behind the marks: blanks and the tag start with another character
  have unmarked : (blanks ++ (remarkTag ++ text)).dropWhile (· == '#') =
      blanks ++ (remarkTag ++ text) := by
    cases blanks with
    | nil => rw [tag]; rfl
    | cons c blanks =>
        have other : (c == '#') = false := by
          rw [beq_eq_false_iff_ne]
          rintro rfl
          exact absurd (blank '#' List.mem_cons_self) (by decide)
        rw [List.cons_append, List.dropWhile_cons, other, if_neg Bool.false_ne_true]
  have text_eq : Text.trimStart (blanks ++ (remarkTag ++ text)) = remarkTag ++ text := by
    rw [Text.trimStart, List.dropWhile_append_of_pos blank, tag]
    rfl
  rw [commentText, shape, List.dropWhile_append_of_pos (by simpa using sharp), unmarked, Text.trim,
    text_eq, Text.trimEnd_append h.ink, h.trimEnd_eq]

/-- `Text.trim text = Text.trimStart text ∧ Text.trim text ≠ []`: only blanks in front of the text
are trimmed, as it ends with the line. -/
theorem Addresses.trim_eq {line text : List Char} (h : Addresses line text) :
    Text.trim text = Text.trimStart text ∧ Text.trim text ≠ [] := by
  have some : Text.trimStart text ≠ [] := fun none => by
    have blank : Text.isBlankText text = true := by
      simpa [Text.trimStart, Text.isBlankText, List.dropWhile_eq_nil_iff] using none
    exact Bool.noConfusion (blank.symm.trans h.ink)
  obtain ⟨first, rest, shape, ink⟩ := Text.exists_of_trimStart_ne_nil some
  have start : Text.trimStart text <:+ text := List.dropWhile_suffix _
  obtain ⟨blanks, split⟩ := start
  have kept : Text.trim text = Text.trimStart text := by
    have whole := h.trimEnd_eq
    rw [← split, Text.trimEnd_append (Text.hasInk_of_mem (c := first) (by simp [shape]) ink)] at whole
    exact List.append_cancel_left whole
  exact ⟨kept, kept ▸ some⟩

/-- `Text.trim text <:+ commentText line`: without the blanks around it the text is at the end of
the comment. -/
theorem Addresses.trim_suffix {line text : List Char} (h : Addresses line text) :
    Text.trim text <:+ commentText line := by
  have inner : Text.trim text <:+ text := h.trim_eq.1 ▸ List.dropWhile_suffix _
  rw [h.commentText_eq]
  exact inner.trans (List.suffix_append _ _)

/-! ## What comments say -/

/-- `last <:+ between.intercalate (pieces ++ [last])`: the last of some pieces is at the end of
what they are joined to. -/
theorem suffix_intercalate (between : List Char) (pieces : List (List Char)) (last : List Char) :
    last <:+ between.intercalate (pieces ++ [last]) := by
  by_cases some : pieces = []
  · simp [some]
  · rw [Text.intercalate_concat between some]
    exact List.suffix_append _ _

/-- The texts of comments the last of which addresses translators end with one that has its text. -/
theorem Addresses.exists_last {line text : List Char} (h : Addresses line text)
    {first : List Char} {comments rest : List (List Char)} (split : comments ++ [line] = first :: rest)
    {begins : List Char} (tagged : commentText first = remarkTag ++ begins) :
    ∃ front last, (Text.trim begins :: rest.map commentText).filter (! ·.isEmpty) = front ++ [last] ∧
      Text.trim text <:+ last := by
  cases comments with
  | nil =>
      -- the line is the first comment itself, so what follows the tag in it is the text
      obtain ⟨rfl, rfl⟩ := List.cons_eq_cons.1 split
      obtain rfl : text = begins := List.append_cancel_left (h.commentText_eq.symm.trans tagged)
      exact ⟨[], Text.trim text, by simp [h.trim_eq.2], List.suffix_rfl⟩
  | cons comment comments =>
      rw [List.cons_append] at split
      obtain ⟨rfl, rfl⟩ := List.cons_eq_cons.1 split
      have some : (!(commentText line).isEmpty) = true := by
        rw [h.commentText_eq]
        rfl
      refine ⟨(Text.trim begins :: comments.map commentText).filter (! ·.isEmpty), commentText line,
        ?_, h.trim_suffix⟩
      rw [List.map_append, ← List.cons_append, List.filter_append, List.map_singleton,
        List.filter_singleton, some, cond_true]

/-- **What comments say the last of which addresses translators:** nothing if and only if the first of
them has no tag, and else something with the text at its end. -/
theorem Tells.of_addresses {line text : List Char} (h : Addresses line text) {first : List Char}
    {comments rest : List (List Char)} (split : comments ++ [line] = first :: rest)
    {said : Option String} (told : Tells (first :: rest) said) :
    (said = none ↔ ¬ remarkTag <+: commentText first) ∧
      ∀ remark, said = some remark → Text.trim text <:+ remark.toList := by
  cases told with
  | untagged other => exact ⟨⟨fun _ => other, fun _ => rfl⟩, fun _ same => by cases same⟩
  | empty tagged nothing =>
      obtain ⟨front, last, texts, -⟩ := h.exists_last split tagged
      rw [nothing] at texts
      simp at texts
  | texts tagged present any =>
      obtain ⟨front, last, texts, suffix⟩ := h.exists_last split tagged
      refine ⟨by simp [tagged], fun remark same => ?_⟩
      obtain rfl := Option.some.inj same
      rw [← present, texts, String.toList_intercalate, List.map_map]
      simpa [Function.comp_def] using suffix.trans (suffix_intercalate "\n".toList front last)

/-! ## Calls -/

/-- **The line directly above a call that addresses translators** (`Addresses line said`). In a
program whose only line boundaries are line feeds there is a remark on such a call if and only if
`remarkTag <+: commentText first` for the first of the comments that stand directly above it, and
`Text.trim said` is the end of the remark. -/
theorem remarks_of_addresses {bytes : List UInt8} {text : List Char} {tree : Tree}
    (program : IsProgram bytes text tree) (plain : Text.IsPlain text) (keywords : List Keyword)
    (path : Path) :
    let setting : Setting := .ofFile keywords path text
    let lines := Text.splitNewlines text
    (readBytes keywords path bytes).strings =
        tree.calls.flatMap (fun call => (callReading setting call).strings) ∧
      ∀ call ∈ tree.calls, ∀ index line said, call.place.line = index + 2 → lines[index]? = some line →
        Addresses line said →
          ∃ first rest, (lines.take (index + 1)).rtakeWhile isComment = first :: rest ∧
            ∀ string ∈ (callReading setting call).strings,
              (string.developerComments = none ↔ ¬ remarkTag <+: commentText first) ∧
              ∀ remark, string.developerComments = some remark →
                Text.trim said <:+ remark.toList := by
  intro setting lines
  refine ⟨program.strings_readBytes keywords path, ?_⟩
  intro call member index line said number directly addressed
  have same : setting.lines = lines := plain.splitLines_eq program.carriage_return_not_mem
  have last : lines.take (index + 1) = lines.take index ++ [line] := by
    rw [List.take_add_one, directly, Option.toList_some]
  -- the line is a comment, so the comments above the call end with it
  have comments : (lines.take (index + 1)).rtakeWhile isComment =
      (lines.take index).rtakeWhile isComment ++ [line] := by
    rw [last, List.rtakeWhile_concat_pos _ _ _ addressed.isComment]
  obtain ⟨first, rest, split⟩ := List.exists_cons_of_ne_nil
    (show (lines.take index).rtakeWhile isComment ++ [line] ≠ [] by simp)
  refine ⟨first, rest, comments.trans split, fun string found => ?_⟩
  have told : Tells (first :: rest) string.developerComments := by
    rw [← split, ← comments, developerComments_of_mem found, same, number]
    exact (@remark?_eq_iff lines (index + 2) _).1 rfl
  exact told.of_addresses addressed split

/-- The single call of a program, with the line of the call and the remark on its single string. -/
theorem exists_call_of_parse? {text : List Char} {setting : Setting} {number : Nat}
    {remark : Option String}
    (read : ((parse? text).map fun tree => (tree.nodes.filter (·.isForm .call)).map fun call =>
      (call.place.line, (callReading setting call).strings.map (·.developerComments))) =
        some [(number, [remark])]) :
    ∃ tree call string, parse? text = some tree ∧ call ∈ tree.calls ∧ call.place.line = number ∧
      string ∈ (callReading setting call).strings ∧ string.developerComments = remark := by
  obtain ⟨tree, parsed, found⟩ := Option.map_eq_some_iff.1 read
  obtain ⟨call, alone, place⟩ := List.map_eq_singleton_iff.1 found
  obtain ⟨line, comments⟩ := Prod.mk.inj place
  obtain ⟨string, strings, told⟩ := List.map_eq_singleton_iff.1 comments
  exact ⟨tree, call, string, parsed, tree.perm_calls.symm.subset (by simp [alone]), line,
    by simp [strings], told⟩

/-- A tag behind another one: the second text is in the remark with the first one. -/
theorem remarks_of_addresses_second :
    let text := "# Translators: one\n## Translators: two\n_('a')\n"
    let setting : Setting := .ofFile Keyword.usual (.ofString "a.py") text.toList
    ∃ tree call string remark, IsProgram (Text.encode text) text.toList tree ∧
      Text.IsPlain text.toList ∧ call ∈ tree.calls ∧ call.place.line = 1 + 2 ∧
      (Text.splitNewlines text.toList)[1]? = some "## Translators: two".toList ∧
      Addresses "## Translators: two".toList " two".toList ∧
      string ∈ (callReading setting call).strings ∧ string.developerComments = some remark ∧
      "two".toList <:+ remark.toList := by
  intro text setting
  obtain ⟨tree, call, string, parsed, member, line, among, kept⟩ :=
    @exists_call_of_parse? text.toList setting 3 (some "one\nTranslators: two") (by decide +kernel)
  have program : IsProgram (Text.encode text) text.toList tree :=
    ⟨by decide +kernel, by decide +kernel, parsed⟩
  have plain : Text.IsPlain text.toList := by decide +kernel
  have directly : (Text.splitNewlines text.toList)[1]? = some "## Translators: two".toList := by
    decide +kernel
  have addressed : Addresses "## Translators: two".toList " two".toList :=
    ⟨⟨['#', '#'], [' '], by decide, by decide, by decide, by decide +kernel⟩, by decide +kernel⟩
  obtain ⟨first, rest, -, remarks⟩ := (remarks_of_addresses program plain Keyword.usual
    (.ofString "a.py")).2 call member 1 _ _ line directly addressed
  exact ⟨tree, call, string, _, program, plain, member, line, directly, addressed, among, kept,
    (remarks string among).2 _ kept⟩

/-- **Not every line that addresses translators is heard:** behind a comment without the tag there is no
remark on the call directly below it. -/
theorem remarks_of_addresses_unheard :
    let text := "# License\n# Translators: hi\n_(\"a\")\n"
    let setting : Setting := .ofFile Keyword.usual (.ofString "app.py") text.toList
    ∃ tree call string, IsProgram (Text.encode text) text.toList tree ∧
      Text.IsPlain text.toList ∧ call ∈ tree.calls ∧ call.place.line = 1 + 2 ∧
      (Text.splitNewlines text.toList)[1]? = some "# Translators: hi".toList ∧
      Addresses "# Translators: hi".toList " hi".toList ∧
      string ∈ (callReading setting call).strings ∧ string.developerComments = none := by
  intro text setting
  obtain ⟨tree, call, string, parsed, member, line, among, lost⟩ :=
    @exists_call_of_parse? text.toList setting 3 none (by decide +kernel)
  exact ⟨tree, call, string, ⟨by decide +kernel, by decide +kernel, parsed⟩, by decide +kernel,
    member, line, by decide +kernel,
    ⟨⟨['#'], [' '], by decide, by decide, by decide, by decide +kernel⟩, by decide +kernel⟩,
    among, lost⟩

end StringCatalog.Program
