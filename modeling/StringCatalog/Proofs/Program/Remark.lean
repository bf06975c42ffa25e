import Mathlib.Data.List.DropRight
import StringCatalog.Proofs.Program.Scan
import StringCatalog.Proofs.Program.Tree

/-! # The remarks on calls

* **`Tells`** — what comments say to translators.
* **`remark?_eq_iff`** — the remark is what the run of comments says that ends before the line.
* **`remarks_of_isProgram`** — which lines these are.

Calls are numbered by line feeds, and comments are looked up in the lines by all boundaries. Both
agree unless another boundary stands above the call. -/

namespace StringCatalog.Program

/-! ## Comments -/

/-- **Whether a line is a comment.** -/
def isComment (line : List Char) : Bool :=
  (Text.trim line).head? == some '#'

/-- **The text of a comment:** what follows its marks, without the blanks around it. -/
def commentText (line : List Char) : List Char :=
  Text.trim ((Text.trim line).dropWhile (· == '#'))

/-- **What comments say to translators:** the texts that are not empty, if the first comment has the tag. -/
inductive Tells : List (List Char) → Option String → Prop where
  /-- There are no comments. -/
  | silent : Tells [] none
  /-- The first comment has no tag. -/
  | untagged {first : List Char} {rest : List (List Char)} (other : ¬ remarkTag <+: commentText first) :
      Tells (first :: rest) none
  /-- It has the tag, but there is no text. -/
  | empty {first text : List Char} {rest : List (List Char)}
      (tagged : commentText first = remarkTag ++ text)
      (nothing : (Text.trim text :: rest.map commentText).filter (! ·.isEmpty) = []) :
      Tells (first :: rest) none
  /-- It has the tag: the texts, each on a line of its own. -/
  | texts {first text : List Char} {rest texts : List (List Char)}
      (tagged : commentText first = remarkTag ++ text)
      (present : (Text.trim text :: rest.map commentText).filter (! ·.isEmpty) = texts)
      (any : texts ≠ []) :
      Tells (first :: rest) (some (String.intercalate "\n" (texts.map String.ofList)))

/-- `comment? line` gives `commentText line` just where `isComment line` holds. -/
theorem comment?_eq (line : List Char) :
    comment? line = if isComment line then some (commentText line) else none := by
  unfold comment? isComment commentText
  split
  · next rest shape => simp [shape]
  · next other =>
    rw [if_neg]
    intro mark
    obtain ⟨rest, shape⟩ := List.head?_eq_some_iff.1 (beq_iff_eq.1 mark)
    exact other rest shape

/-- `leadingComments lines` are the texts of the comments up to the first line that is none. -/
theorem leadingComments_eq (lines : List (List Char)) :
    leadingComments lines = (lines.takeWhile isComment).map commentText := by
  induction lines with
  | nil => rfl
  | cons line lines ih =>
      rw [leadingComments, comment?_eq, List.takeWhile_cons]
      by_cases mark : isComment line = true
      · rw [if_pos mark, if_pos mark, List.map_cons, ← ih]
      · rw [if_neg mark, if_neg mark, List.map_nil]

/-- **The comments that end before a line** are the longest run of them. -/
theorem commentsAbove_eq (lines : List (List Char)) (line : Nat) :
    commentsAbove lines line = ((lines.take (line - 1)).rtakeWhile isComment).map commentText := by
  rw [commentsAbove, leadingComments_eq, ← List.map_reverse]
  rfl

/-- `remark? lines line = said`: what comments say is what is taken from them. -/
theorem Tells.remark?_eq {lines : List (List Char)} {line : Nat} {said : Option String}
    (h : Tells ((lines.take (line - 1)).rtakeWhile isComment) said) : remark? lines line = said := by
  have texts := commentsAbove_eq lines line
  generalize (lines.take (line - 1)).rtakeWhile isComment = comments at h texts
  unfold remark?
  rw [texts]
  cases h with
  | silent => rfl
  | untagged other => simp [other]
  | empty tagged nothing => simp [tagged, nothing]
  | texts tagged present any => simp [tagged, present]

/-- Comments say something. -/
theorem exists_tells (comments : List (List Char)) : ∃ said, Tells comments said := by
  cases comments with
  | nil => exact ⟨none, .silent⟩
  | cons first rest =>
      by_cases tag : remarkTag <+: commentText first
      · obtain ⟨text, tagged⟩ := tag
        by_cases none : (Text.trim text :: rest.map commentText).filter (! ·.isEmpty) = []
        · exact ⟨_, .empty tagged.symm none⟩
        · exact ⟨_, .texts tagged.symm rfl none⟩
      · exact ⟨none, .untagged tag⟩

/-- **The remark** on a line is what the longest run of comments says that ends before it. -/
theorem remark?_eq_iff {lines : List (List Char)} {line : Nat} {said : Option String} :
    remark? lines line = said ↔ Tells ((lines.take (line - 1)).rtakeWhile isComment) said := by
  refine ⟨fun same => ?_, Tells.remark?_eq⟩
  obtain ⟨other, told⟩ := exists_tells ((lines.take (line - 1)).rtakeWhile isComment)
  rwa [← same, told.remark?_eq]

/-! ## Calls -/

/-- **The remark on the string of a call** is the one on the line of the call:
`string.developerComments = remark? setting.lines call.place.line`. -/
theorem developerComments_of_mem {setting : Setting} {call : Tree} {string : Translatable}
    (member : string ∈ (callReading setting call).strings) :
    string.developerComments = remark? setting.lines call.place.line := by
  obtain ⟨keyword, singular, plural, -, rfl⟩ := exists_of_mem_callReading member
  rfl

/-- `'\r' ∉ text`: the line ends of a program are line feeds. -/
theorem IsProgram.carriage_return_not_mem {bytes : List UInt8} {text : List Char} {tree : Tree}
    (h : IsProgram bytes text tree) : '\r' ∉ text := by
  have decoded := h.decoded
  cases characters : Text.decode bytes with
  | error fault =>
      rw [characters] at decoded
      cases decoded
  | ok characters' =>
      rw [characters] at decoded
      obtain rfl := Except.ok.inj decoded
      exact Text.carriage_return_not_mem_unifyNewlines characters'

/-- **The strings of a program** are those of its calls. -/
theorem IsProgram.strings_readBytes {bytes : List UInt8} {text : List Char} {tree : Tree}
    (h : IsProgram bytes text tree) (keywords : List Keyword) (path : Path) :
    (readBytes keywords path bytes).strings =
      tree.calls.flatMap fun call => (callReading (.ofFile keywords path text) call).strings := by
  rw [h.readBytes_eq_events, Reading.strings, List.filterMap_flatMap]
  rfl

/-- **Which lines a remark is taken from.** The lines `above` a call are all there, and each is its
`pieces` between the boundaries other than line feeds. The lines that are looked at are as many of
these pieces as there are lines above the call, `pieces.take count`: they fall short of the call by
the number of other boundaries above it. The remark is what the longest run of comments `Tells`
that ends there; so if there is no other boundary above the call, it is what the comments directly
above the call say. -/
theorem remarks_of_isProgram {bytes : List UInt8} {text : List Char} {tree : Tree}
    (program : IsProgram bytes text tree) (keywords : List Keyword) (path : Path) :
    let setting : Setting := .ofFile keywords path text
    (readBytes keywords path bytes).strings =
        tree.calls.flatMap (fun call => (callReading setting call).strings) ∧
      ∀ call ∈ tree.calls,
        let count := call.place.line - 1
        let above := (Text.splitNewlines text).take count
        let pieces := above.flatMap (Text.split Text.isLineBoundary)
        above.length = count ∧ count ≤ setting.lines.length ∧
          pieces.length = count + above.flatten.countP Text.isLineBoundary ∧
          ∀ string ∈ (callReading setting call).strings, ∀ said,
            (string.developerComments = said ↔
              Tells ((pieces.take count).rtakeWhile isComment) said) ∧
            ((∀ line ∈ above, Text.IsLine line) →
              (string.developerComments = said ↔ Tells (above.rtakeWhile isComment) said)) := by
  intro setting
  refine ⟨program.strings_readBytes keywords path, fun call member => ?_⟩
  intro count above pieces
  have few : count ≤ (Text.splitNewlines text).length :=
    Nat.sub_le_of_le_add (line_le_of_mem_calls program.parsed call member)
  have length : above.length = count := List.length_take_of_le few
  have looked : setting.lines.take count = pieces.take count :=
    Text.take_splitLines program.carriage_return_not_mem few
  refine ⟨length, few.trans (Text.length_splitNewlines_le text), ?_, fun string found said => ?_⟩
  · rw [Text.length_flatMap_split, length]
  · have told : string.developerComments = said ↔
        Tells ((pieces.take count).rtakeWhile isComment) said := by
      rw [developerComments_of_mem found, remark?_eq_iff, looked]
    refine ⟨told, fun lines => ?_⟩
    have same : pieces.take count = above := by
      rw [← length, show pieces = above from Text.flatMap_split_of_isLine lines, List.take_length]
    rw [told, same]

/-- Three comments, one of them without a text, above a call. -/
theorem remarks_of_isProgram_above :
    let text := "# Translators: one\n#\n# two\n_('a')\n"
    let setting : Setting := .ofFile Keyword.usual (.ofString "a.py") text.toList
    ∃ tree call string, IsProgram (Text.encode text) text.toList tree ∧ call ∈ tree.calls ∧
      string ∈ (callReading setting call).strings ∧ call.place.line = 4 ∧
      string.developerComments = some "one\ntwo" := by
  intro text setting
  have read : ((parse? text.toList).map fun tree => (tree.nodes.filter (·.isForm .call)).map fun call =>
      (call.place.line, (callReading setting call).strings.length)) = some [(4, 1)] := by decide +kernel
  obtain ⟨tree, parsed, found⟩ := Option.map_eq_some_iff.1 read
  obtain ⟨call, alone, place⟩ := List.map_eq_singleton_iff.1 found
  obtain ⟨line, length⟩ := Prod.mk.inj place
  obtain ⟨string, strings⟩ := List.length_eq_one_iff.1 length
  have program : IsProgram (Text.encode text) text.toList tree :=
    ⟨by decide +kernel, by decide +kernel, parsed⟩
  have member : call ∈ tree.calls := tree.perm_calls.symm.subset (by simp [alone])
  have among : string ∈ (callReading setting call).strings := by simp [strings]
  obtain ⟨-, -, -, remarks⟩ :=
    (remarks_of_isProgram program Keyword.usual (.ofString "a.py")).2 call member
  refine ⟨tree, call, string, program, member, among, line, ((remarks string among _).2 ?_).2 ?_⟩
  · rw [line]
    decide +kernel
  · have told : remark? (Text.splitNewlines text.toList) 4 = some "one\ntwo" := by decide +kernel
    rw [line]
    exact remark?_eq_iff.1 told

/-- **Not always the comments directly above:** behind a form feed the remark on a call is lost. -/
theorem remarks_of_isProgram_formFeed :
    let text := "\x0c\n# Translators: hi\n_(\"a\")\n"
    let setting : Setting := .ofFile Keyword.usual (.ofString "app.py") text.toList
    ∃ tree call string, IsProgram (Text.encode text) text.toList tree ∧ call ∈ tree.calls ∧
      string ∈ (callReading setting call).strings ∧
      Tells (((Text.splitNewlines text.toList).take (call.place.line - 1)).rtakeWhile isComment)
        (some "hi") ∧
      string.developerComments = none := by
  intro text setting
  have read : ((parse? text.toList).map fun tree => (tree.nodes.filter (·.isForm .call)).map fun call =>
      (call.place.line, (callReading setting call).strings.map (·.developerComments))) =
        some [(3, [none])] := by decide +kernel
  obtain ⟨tree, parsed, found⟩ := Option.map_eq_some_iff.1 read
  obtain ⟨call, alone, place⟩ := List.map_eq_singleton_iff.1 found
  obtain ⟨line, comments⟩ := Prod.mk.inj place
  obtain ⟨string, strings, lost⟩ := List.map_eq_singleton_iff.1 comments
  have told : remark? (Text.splitNewlines text.toList) 3 = some "hi" := by decide +kernel
  refine ⟨tree, call, string, ⟨by decide +kernel, by decide +kernel, parsed⟩,
    tree.perm_calls.symm.subset (by simp [alone]), by simp [strings], ?_, lost⟩
  rw [line]
  exact remark?_eq_iff.1 told

end StringCatalog.Program
