import StringCatalog.Program.Scan
import StringCatalog.Proofs.Extraction.Reading
import StringCatalog.Proofs.Program.Call

/-! # What the calls of a program come to

* **`IsProgram`** — bytes that are a program, with its text and its tree.
* **`WritesOut`** — a call that hands over its texts as they are written.
* **`Outcome`** — what a call comes to: nothing, a string, or a note that it is skipped.
* **`readBytes_calls`** — a program comes to what its calls come to, each call at any depth once, in the
  order of their places. -/

namespace StringCatalog.Program

/-! ## Programs -/

/-- **Bytes that are a program:** the text that they stand for, its line ends as line feeds, and the
tree of the text. -/
structure IsProgram (bytes : List UInt8) (text : List Char) (tree : Tree) : Prop where
  /-- The bytes stand for the text. -/
  decoded : (Text.decode bytes).map Text.unifyNewlines = .ok text
  /-- The text has no zero character. -/
  clean : text.contains '\x00' = false
  /-- The text has the tree. -/
  parsed : parse? text = some tree

/-- What the calls of a program in a file are read with. -/
def Setting.ofFile (keywords : List Keyword) (path : Path) (text : List Char) : Setting :=
  ⟨path.toString, path.absolute.toString, keywords, Text.splitLines text⟩

/-- A program is read call by call. -/
theorem IsProgram.readBytes_eq {bytes : List UInt8} {text : List Char} {tree : Tree}
    (h : IsProgram bytes text tree) (keywords : List Keyword) (path : Path) :
    readBytes keywords path bytes =
      .sequence (tree.calls.map (callReading (.ofFile keywords path text))) := by
  obtain ⟨decoded, clean, parsed⟩ := h
  unfold readBytes
  dsimp only
  cases characters : Text.decode bytes with
  | error fault =>
      rw [characters] at decoded
      cases decoded
  | ok characters' =>
      rw [characters] at decoded
      obtain rfl := Except.ok.inj decoded
      dsimp only
      rw [clean, if_neg Bool.false_ne_true, parsed]
      rfl

/-! ## Single calls -/

/-- Whether a call calls one of some functions. -/
def callsKeyword (keywords : List Keyword) (call : Tree) : Bool :=
  (call.callee?.bind (Keyword.find? keywords)).isSome

/-- **A call that hands over its texts as they are written:** its first argument is a text that is not
empty, and where the function takes a plural the second argument is one, too. -/
structure WritesOut (keyword : Keyword) (call : Tree) (singular : Text.Wording)
    (plural : Option Text.Wording) : Prop where
  /-- The first argument is the singular. -/
  first : ∃ argument, call.positional[0]? = some argument ∧ argument.literal? = some singular
  /-- The singular is not empty. -/
  texted : singular.text ≠ ""
  /-- The second argument is the plural, where there is to be one. -/
  second : if keyword.takesPlural then
      ∃ argument wording, call.positional[1]? = some argument ∧ argument.literal? = some wording ∧
        plural = some wording
    else plural = none

/-- **What a call comes to.** -/
inductive Outcome (setting : Setting) (call : Tree) : List Reading.Event → Prop where
  /-- None of the functions is called: nothing. -/
  | foreign (other : callsKeyword setting.keywords call = false) : Outcome setting call []
  /-- The texts are written out: a string at the place of the call, with a note on it. -/
  | string {keyword : Keyword} {singular : Text.Wording} {plural : Option Text.Wording}
      (called : call.callee?.bind (Keyword.find? setting.keywords) = some keyword)
      (written : WritesOut keyword call singular plural) :
      Outcome setting call [.note (.item ("Found string: " ++ singular.text)),
        .found { Translatable.ofText singular.text with
          plural := plural.map (·.text)
          developerComments := remark? setting.lines call.place.line
          references := [setting.place ++ ":" ++ toString call.place.line]
          formatHint := formatHint? singular.text
          halves := ⟨singular.halves, (plural.map (·.halves)).getD []⟩ }]
  /-- They are not: a note on the step that is left out, with the reason and the place. -/
  | skipped {keyword : Keyword} {place text : String}
      (called : call.callee?.bind (Keyword.find? setting.keywords) = some keyword)
      (unwritten : ∀ singular plural, ¬ WritesOut keyword call singular plural)
      (there : place = setting.path ++ ":" ++ toString call.place.line)
      (told : text = "Skipping non-literal " ++ keyword.name ++ "() call at " ++ place ∨
        text = "Skipping empty " ++ keyword.name ++ "() string at " ++ place) :
      Outcome setting call [.note (.step text)]

/-- **The forms that a call hands over** are written out, unless the singular is empty. -/
theorem forms?_eq_some_iff {keyword : Keyword} {call : Tree} {singular : Text.Wording}
    {plural : Option Text.Wording} (texted : singular.text ≠ "") :
    forms? keyword call = some (singular, plural) ↔ WritesOut keyword call singular plural := by
  have first : (call.positional[0]?.bind Tree.literal?) = some singular ↔
      ∃ argument, call.positional[0]? = some argument ∧ argument.literal? = some singular :=
    Option.bind_eq_some_iff
  have second (wording : Text.Wording) : (call.positional[1]?.bind Tree.literal?) = some wording ↔
      ∃ argument, call.positional[1]? = some argument ∧ argument.literal? = some wording :=
    Option.bind_eq_some_iff
  unfold forms?
  dsimp only
  constructor
  · intro handed
    split at handed
    · cases handed
    · next text found =>
      split at handed
      · next takes =>
        obtain ⟨other, there, same⟩ := Option.map_eq_some_iff.1 handed
        cases same
        obtain ⟨argument, one, read⟩ := (second other).1 there
        exact ⟨first.1 found, texted, by rw [if_pos takes]; exact ⟨argument, other, one, read, rfl⟩⟩
      · next single =>
        cases handed
        exact ⟨first.1 found, texted, by rw [if_neg single]⟩
  · rintro ⟨one, -, other⟩
    rw [first.2 one]
    dsimp only
    split at other
    · next takes =>
      obtain ⟨argument, wording, there, read, rfl⟩ := other
      rw [if_pos takes, (second wording).2 ⟨argument, there, read⟩]
      rfl
    · next single => rw [if_neg single, other]

/-- **What a single call comes to:** it does not fail. -/
theorem callReading_cases (setting : Setting) (call : Tree) :
    (callReading setting call).fault = none ∧
      Outcome setting call (callReading setting call).events := by
  unfold callReading
  dsimp only
  split
  · next other => exact ⟨rfl, .foreign (by rw [callsKeyword, other]; rfl)⟩
  · next keyword called =>
    split
    · next none =>
      refine ⟨rfl, .skipped called (fun singular plural written => ?_) rfl (.inl rfl)⟩
      rw [(forms?_eq_some_iff written.texted).2 written] at none
      cases none
    · next singular plural handed =>
      split
      · next empty =>
        refine ⟨rfl, .skipped called (fun other plural' written => written.texted ?_) rfl (.inr rfl)⟩
        rw [(forms?_eq_some_iff written.texted).2 written] at handed
        obtain ⟨same, -⟩ := Prod.mk.inj (Option.some.inj handed)
        rw [same]
        exact beq_iff_eq.1 empty
      · next texted =>
        have some : singular.text ≠ "" := fun none => texted (beq_iff_eq.2 none)
        exact ⟨rfl, .string called ((forms?_eq_some_iff some).1 handed)⟩

/-- **The string of a call** is written out in it. -/
theorem exists_of_mem_callReading {setting : Setting} {call : Tree} {string : Translatable}
    (member : string ∈ (callReading setting call).strings) :
    ∃ keyword singular plural, WritesOut keyword call singular plural ∧
      string = setting.string call.place.line singular plural := by
  have outcome := (callReading_cases setting call).2
  rw [Reading.strings] at member
  generalize (callReading setting call).events = events at outcome member
  cases outcome with
  | foreign other => cases member
  | string called written => exact ⟨_, _, _, written, List.mem_singleton.1 member⟩
  | skipped called unwritten => cases member

/-- A call to one of the functions comes to one string or to one note on a step, and any other to
none. -/
theorem Outcome.length_eq {setting : Setting} {call : Tree} {events : List Reading.Event}
    (h : Outcome setting call events) :
    (events.filterMap Reading.Event.string?).length +
        ((events.filterMap Reading.Event.note?).filter (·.detail == .step)).length =
      if callsKeyword setting.keywords call then 1 else 0 := by
  cases h with
  | foreign other => simp [other]
  | string called | skipped called =>
      rw [callsKeyword, called]
      rfl

/-! ## All calls -/

/-- **A program is read to its end,** and what is met is what its calls come to. -/
theorem IsProgram.readBytes_eq_events {bytes : List UInt8} {text : List Char} {tree : Tree}
    (h : IsProgram bytes text tree) (keywords : List Keyword) (path : Path) :
    readBytes keywords path bytes =
      ⟨tree.calls.flatMap fun call => (callReading (.ofFile keywords path text) call).events, none⟩ := by
  rw [h.readBytes_eq, Reading.sequence_of_clean, List.flatMap_map]
  exact List.forall_mem_map.2 fun call _ => (callReading_cases _ call).1

/-- **There are as many strings and skipped steps** as calls to one of the functions. -/
theorem length_eq_of_forall₂ {setting : Setting} {calls : List Tree} {outcomes : List (List Reading.Event)}
    (h : List.Forall₂ (Outcome setting) calls outcomes) :
    (outcomes.flatten.filterMap Reading.Event.string?).length +
        ((outcomes.flatten.filterMap Reading.Event.note?).filter (·.detail == .step)).length =
      (calls.filter (callsKeyword setting.keywords)).length := by
  induction h with
  | nil => rfl
  | @cons call events calls outcomes one _ ih =>
      have own := one.length_eq
      have first : ((call :: calls).filter (callsKeyword setting.keywords)).length =
          (if callsKeyword setting.keywords call then 1 else 0) +
            (calls.filter (callsKeyword setting.keywords)).length := by
        rw [List.filter_cons]
        split
        · exact Nat.add_comm _ 1
        · exact (Nat.zero_add _).symm
      rw [first, ← own, ← ih, List.flatten_cons, List.filterMap_append, List.filterMap_append,
        List.filter_append, List.length_append, List.length_append]
      omega

/-- **What a program comes to.** For a text that `IsProgram`, `readBytes` does not fail. Its
`tree.calls` are those at any depth, each once, in the order of their places, and those at one
place in the order of their levels. What is met is the `Outcome` of each, one after another:
nothing, a string, or a note that the call is skipped; so there are as many strings and such notes
as calls with `callsKeyword`. -/
theorem readBytes_calls {bytes : List UInt8} {text : List Char} {tree : Tree}
    (program : IsProgram bytes text tree) (keywords : List Keyword) (path : Path) :
    let reading := readBytes keywords path bytes
    reading.fault = none ∧
      tree.calls.Perm (tree.nodes.filter (·.isForm .call)) ∧
      tree.calls.Pairwise (fun first second => first.place.isUpTo second.place = true) ∧
      (∀ place, tree.calls.filter (·.place = place) =
        (tree.breadthFirst.filter (·.isForm .call)).filter (·.place = place)) ∧
      (∃ outcomes, List.Forall₂ (Outcome (.ofFile keywords path text)) tree.calls outcomes ∧
        reading.events = outcomes.flatten) ∧
      reading.strings.length + (reading.notes.filter (·.detail == .step)).length =
        (tree.calls.filter (callsKeyword keywords)).length := by
  intro reading
  let setting : Setting := .ofFile keywords path text
  have whole : reading = ⟨tree.calls.flatMap fun call => (callReading setting call).events, none⟩ :=
    program.readBytes_eq_events keywords path
  have outcomes : List.Forall₂ (Outcome setting) tree.calls
      (tree.calls.map fun call => (callReading setting call).events) :=
    List.forall₂_map_right_iff.2 (List.forall₂_same.2 fun call _ => (callReading_cases setting call).2)
  have events : reading.events = (tree.calls.map fun call => (callReading setting call).events).flatten := by
    rw [whole, List.flatMap_def]
  refine ⟨by rw [whole], tree.perm_calls, tree.pairwise_calls, tree.filter_calls,
    ⟨_, outcomes, events⟩, ?_⟩
  rw [Reading.strings, Reading.notes, events]
  exact length_eq_of_forall₂ outcomes

/-- Three calls within each other: the outer one hands over a name, the middle one its two texts, and the
inner one an empty text. -/
theorem readBytes_calls_nested :
    let text := "_(x, ngettext('a', 'b', _('')))\n"
    let reading := readBytes Keyword.usual (.ofString "a.py") (Text.encode text)
    ∃ tree, IsProgram (Text.encode text) text.toList tree ∧
      (tree.nodes.filter (·.isForm .call)).length = 3 ∧ reading.fault = none ∧
      reading.strings.length + (reading.notes.filter (·.detail == .step)).length = 3 := by
  intro text reading
  have counted : ((parse? text.toList).map fun tree => ((tree.nodes.filter (·.isForm .call)).length,
      ((tree.nodes.filter (·.isForm .call)).filter (callsKeyword Keyword.usual)).length)) =
        some (3, 3) := by decide +kernel
  obtain ⟨tree, parsed, counts⟩ := Option.map_eq_some_iff.1 counted
  obtain ⟨nodes, called⟩ := Prod.mk.inj counts
  have program : IsProgram (Text.encode text) text.toList tree :=
    ⟨by decide +kernel, by decide +kernel, parsed⟩
  obtain ⟨clean, every, -, -, -, length⟩ := readBytes_calls program Keyword.usual (.ofString "a.py")
  exact ⟨tree, program, nodes, clean, length.trans ((every.filter _).length_eq.trans called)⟩

end StringCatalog.Program
