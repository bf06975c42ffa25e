import Mathlib.Data.List.Infix
import StringCatalog.Proofs.Xml.Name

/-! # Frames are found again

* **`Text.contains_iff`** — one text occurs inside another.
* **`Xml.Frame.splitFrom_text`, `splitFrom_tag`, `splitFrom_comment`, `splitFrom_instruction`** — the
  frame that a text begins with, and what is behind it.
* **`Xml.Frame.isSplit`** — what is known of the frames of a legal text. -/

namespace StringCatalog

/-- **One text occurs inside another** as a run of its characters:
`Text.contains part text ↔ part <:+: text`. -/
theorem Text.contains_iff {part text : List Char} : Text.contains part text ↔ part <:+: text := by
  induction text with
  | nil => simp [Text.contains]
  | cons c rest ih =>
      rw [Text.contains, Bool.or_eq_true, ih, List.isPrefixOf_iff_prefix, List.infix_cons_iff]

/-- `c :: part <:+: text ++ rest ↔ c :: part <:+: rest`: a run of characters cannot begin before
its first character occurs. -/
theorem infix_append_iff {c : Char} {part text : List Char} (h : c ∉ text) (rest : List Char) :
    c :: part <:+: text ++ rest ↔ c :: part <:+: rest := by
  induction text with
  | nil => rfl
  | cons d text ih =>
      simp only [List.mem_cons, not_or] at h
      rw [List.cons_append, List.infix_cons_iff, ih h.2, List.cons_prefix_cons]
      simp [h.1]

namespace Xml.Frame

/-! ## The text of a frame -/

/-- `(Frame.text raw).source = raw`. -/
theorem source_text (raw : List Char) : (Frame.text raw).source = raw := rfl

/-- `(Frame.tag raw).source = '<' :: raw ++ ['>']`. -/
theorem source_tag (raw : List Char) : (Frame.tag raw).source = '<' :: raw ++ ['>'] := rfl

/-- Text in front of what is left of the frame under way. -/
def behindText (raw : List Char) (found : List Char × List Frame) : List Char × List Frame :=
  (raw ++ found.1, found.2)

/-- A frame in front of what is left of the frame under way. -/
def behindFrame (frame : Frame) (found : List Char × List Frame) : List Char × List Frame :=
  ([], frame :: withText found.1 found.2)

/-! ## The frame in front -/

/-- In a text, all characters but `<` belong to it. -/
theorem splitFrom_text_cons {c : Char} (h : c ≠ '<') (rest : List Char) :
    splitFrom .text (c :: rest) = more c (splitFrom .text rest) := by
  rw [splitFrom] <;> simp [h]

/-- **Text in front.** -/
theorem splitFrom_text {raw : List Char} (h : '<' ∉ raw) (rest : List Char) :
    splitFrom .text (raw ++ rest) = (splitFrom .text rest).map (behindText raw) := by
  induction raw with
  | nil => exact Option.map_id'.symm
  | cons c raw ih =>
      simp only [List.mem_cons, not_or] at h
      rw [List.cons_append, splitFrom_text_cons (Ne.symm h.1), ih h.2, more, Option.map_map]
      rfl

/-- A tag ends at the first `>` outside of quotes. -/
theorem splitFrom_inTag {raw : List Char} {quote : Option Char} (h : '>' ∉ raw)
    (shut : raw.foldl quoteAfter quote = none) (rest : List Char) :
    splitFrom (.tag quote) (raw ++ '>' :: rest) =
      (splitFrom .text rest).map fun found => (raw, withText found.1 found.2) := by
  -- the quote under way changes along the tag, so the induction is for every one of them
  induction raw generalizing quote with
  | nil =>
      obtain rfl : quote = none := shut
      rw [List.nil_append, splitFrom]
      rfl
  | cons c raw ih =>
      simp only [List.mem_cons, not_or] at h
      rw [List.cons_append, splitFrom, ih h.2 shut, more, Option.map_map]
      · rfl
      · simp [Ne.symm h.1]

/-- **A tag in front.** -/
theorem splitFrom_tag {c : Char} {raw : List Char} (first : c ≠ '!' ∧ c ≠ '?') (h : '>' ∉ c :: raw)
    (shut : (c :: raw).foldl quoteAfter none = none) (rest : List Char) :
    splitFrom .text ('<' :: c :: raw ++ '>' :: rest) =
      (splitFrom .text rest).map (behindFrame (.tag (c :: raw))) := by
  have inner := splitFrom_inTag h shut rest
  rw [List.cons_append, List.cons_append] at *
  rw [splitFrom, inner, opened, Option.map_map]
  · rfl
  · simp [first]
  · simp [first]
  · simp [first]

/-- In a comment, a character belongs to it unless `-->` begins with it. -/
theorem splitFrom_comment_cons {c : Char} {rest : List Char} (h : ¬['-', '-', '>'] <+: c :: rest) :
    splitFrom .comment (c :: rest) = more c (splitFrom .comment rest) := by
  -- of the equations for comments only the one that closes them is in the way
  rw [splitFrom] <;> try (intros; contradiction)
  rintro after - rfl rfl
  exact h ⟨after, rfl⟩

/-- In an instruction, unless `?>` does. -/
theorem splitFrom_instruction_cons {c : Char} {rest : List Char} (h : ¬['?', '>'] <+: c :: rest) :
    splitFrom .instruction (c :: rest) = more c (splitFrom .instruction rest) := by
  rw [splitFrom] <;> try (intros; contradiction)
  rintro after - rfl rfl
  exact h ⟨after, rfl⟩

/-- In a literal section, unless `]]>` does. -/
theorem splitFrom_literal_cons {c : Char} {rest : List Char} (h : ¬[']', ']', '>'] <+: c :: rest) :
    splitFrom .literal (c :: rest) = more c (splitFrom .literal rest) := by
  rw [splitFrom] <;> try (intros; contradiction)
  rintro after - rfl rfl
  exact h ⟨after, rfl⟩

/-- In a tag, a character belongs to it unless it is a `>` outside of quotes. -/
theorem splitFrom_tag_cons {quote : Option Char} {c : Char} (h : quote = none → c ≠ '>')
    (rest : List Char) :
    splitFrom (.tag quote) (c :: rest) = more c (splitFrom (.tag (quoteAfter quote c)) rest) := by
  rw [splitFrom]
  exact h

/-- A comment ends at its first `-->`, for it has no two hyphens in a row. -/
theorem splitFrom_inComment {raw : List Char} (h : ¬['-', '-'] <:+: raw)
    (last : raw.getLast? ≠ some '-') (rest : List Char) :
    splitFrom .comment (raw ++ '-' :: '-' :: '>' :: rest) =
      (splitFrom .text rest).map fun found => (raw, withText found.1 found.2) := by
  induction raw with
  | nil => rw [List.nil_append, splitFrom]; rfl
  | cons c raw ih =>
      rw [List.infix_cons_iff, not_or] at h
      have lastRest : raw.getLast? ≠ some '-' := by
        cases raw with
        | nil => simp
        | cons d raw => rwa [List.getLast?_cons_cons] at last
      -- the mark cannot begin here: that takes two hyphens, or one right before the end
      have inner : ¬['-', '-', '>'] <+: c :: (raw ++ '-' :: '-' :: '>' :: rest) := by
        rw [List.cons_prefix_cons]
        rintro ⟨rfl, begins⟩
        cases raw with
        | nil => simp at last
        | cons d raw =>
            rw [List.cons_append, List.cons_prefix_cons] at begins
            obtain ⟨rfl, -⟩ := begins
            exact h.1 ⟨raw, rfl⟩
      rw [List.cons_append, splitFrom_comment_cons inner, ih h.2 lastRest, more, Option.map_map]
      rfl

/-- **A comment in front.** -/
theorem splitFrom_comment {raw : List Char} (h : ¬['-', '-'] <:+: raw)
    (last : raw.getLast? ≠ some '-') (rest : List Char) :
    splitFrom .text ("<!--".toList ++ raw ++ "-->".toList ++ rest) =
      (splitFrom .text rest).map (behindFrame (.comment raw)) := by
  have inner := splitFrom_inComment h last rest
  rw [show "<!--".toList = ['<', '!', '-', '-'] from rfl, show "-->".toList = ['-', '-', '>'] from rfl,
    List.append_assoc, List.append_assoc]
  simp only [List.cons_append, List.nil_append]
  rw [splitFrom, inner, opened, Option.map_map]
  rfl

/-- An instruction ends at its first `?>`. -/
theorem splitFrom_inInstruction {raw : List Char} (h : ¬['?', '>'] <:+: raw) (rest : List Char) :
    splitFrom .instruction (raw ++ '?' :: '>' :: rest) =
      (splitFrom .text rest).map fun found => (raw, withText found.1 found.2) := by
  induction raw with
  | nil => rw [List.nil_append, splitFrom]; rfl
  | cons c raw ih =>
      rw [List.infix_cons_iff, not_or] at h
      -- a question mark at the end of the content would be followed by the one that closes it
      have inner : ¬['?', '>'] <+: c :: (raw ++ '?' :: '>' :: rest) := by
        rw [List.cons_prefix_cons]
        rintro ⟨rfl, begins⟩
        cases raw with
        | nil => simp at begins
        | cons d raw =>
            rw [List.cons_append, List.cons_prefix_cons] at begins
            obtain ⟨rfl, -⟩ := begins
            exact h.1 ⟨raw, rfl⟩
      rw [List.cons_append, splitFrom_instruction_cons inner, ih h.2, more, Option.map_map]
      rfl

/-- **An instruction in front.** -/
theorem splitFrom_instruction {raw : List Char} (h : ¬['?', '>'] <:+: raw) (rest : List Char) :
    splitFrom .text ("<?".toList ++ raw ++ "?>".toList ++ rest) =
      (splitFrom .text rest).map (behindFrame (.instruction raw)) := by
  have inner := splitFrom_inInstruction h rest
  rw [show "<?".toList = ['<', '?'] from rfl, show "?>".toList = ['?', '>'] from rfl,
    List.append_assoc, List.append_assoc]
  simp only [List.cons_append, List.nil_append]
  rw [splitFrom, inner, opened, Option.map_map]
  rfl

/-! ## Frames of a legal text -/

/-- What stands between the opening and the closing of a frame. -/
def raw : Frame → List Char
  | .text raw | .tag raw | .comment raw | .literal raw | .instruction raw => raw

/-- **What is known of the frames of a legal text:** they are legal, and nothing inside of an
instruction closes it. -/
structure IsLegal (frame : Frame) : Prop where
  /-- The characters are legal. -/
  legal : frame.raw.all isChar
  /-- An instruction is not closed early. -/
  inside : ∀ raw, frame = .instruction raw → ¬['?', '>'] <:+: raw

/-- **What is known of the frames that some legal text is cut into,** given what is under way. -/
structure IsSplit (mode : Mode) (text raw : List Char) (frames : List Frame) : Prop where
  /-- The frame under way ends in the text. -/
  isPart : raw <+: text
  /-- An instruction under way is not closed early. -/
  inside : mode = .instruction → ¬['?', '>'] <:+: raw
  /-- The frames behind it are legal. -/
  frames : ∀ frame ∈ frames, frame.IsLegal

/-- A legal text in front of legal frames. -/
theorem isLegal_withText {raw : List Char} {frames : List Frame} (legal : raw.all isChar)
    (h : ∀ frame ∈ frames, frame.IsLegal) : ∀ frame ∈ withText raw frames, frame.IsLegal := by
  unfold withText
  split
  · exact h
  · intro frame member
    rcases List.mem_cons.1 member with rfl | member
    · exact ⟨legal, by simp⟩
    · exact h frame member

/-- What is known where a frame opens, if it is known of what is behind the opening. -/
theorem isSplit_opened {mode : Mode} {frame : List Char → Frame} {text rest raw : List Char}
    {frames : List Frame} (legal : rest.all isChar) (same : ∀ raw, (frame raw).raw = raw)
    (kind : ∀ raw, (∃ other, frame raw = .instruction other) → mode = .instruction)
    (ih : ∀ {raw frames}, rest.all isChar → splitFrom mode rest = some (raw, frames) →
      IsSplit mode rest raw frames)
    (h : opened frame (splitFrom mode rest) = some (raw, frames)) :
    IsSplit .text text raw frames := by
  simp only [opened, Option.map_eq_some_iff, Prod.exists, Prod.mk.injEq] at h
  obtain ⟨inner, behind, found, rfl, rfl⟩ := h
  have known := ih legal found
  -- the frame that opens is the first of the list, and holds what was under way behind it
  refine ⟨List.nil_prefix, by simp, fun other member => ?_⟩
  rcases List.mem_cons.1 member with rfl | member
  · refine ⟨?_, fun other equal => ?_⟩
    · rw [same]
      exact List.all_eq_true.2 fun c member =>
        List.all_eq_true.1 legal c (known.isPart.subset member)
    · have : other = inner := by rw [← same inner, equal, Frame.raw]
      exact this ▸ known.inside (kind inner ⟨other, equal⟩)
  · exact known.frames other member

/-- What is known where a frame closes, if it is known of what is behind the closing. -/
theorem isSplit_closed {mode : Mode} {text rest raw : List Char} {frames : List Frame}
    (legal : rest.all isChar)
    (ih : ∀ {raw frames}, rest.all isChar → splitFrom .text rest = some (raw, frames) →
      IsSplit .text rest raw frames)
    (h : closed (splitFrom .text rest) = some (raw, frames)) : IsSplit mode text raw frames := by
  simp only [closed, Option.map_eq_some_iff, Prod.exists, Prod.mk.injEq] at h
  obtain ⟨inner, behind, found, rfl, rfl⟩ := h
  have known := ih legal found
  refine ⟨List.nil_prefix, by simp, isLegal_withText ?_ known.frames⟩
  exact List.all_eq_true.2 fun c member =>
    List.all_eq_true.1 legal c (known.isPart.subset member)

/-- What is known with one more character in the frame under way. -/
theorem isSplit_more {mode next : Mode} {c : Char} {rest raw : List Char} {frames : List Frame}
    (legal : rest.all isChar) (same : mode = .instruction → next = .instruction)
    (inside : mode = .instruction → ¬['?', '>'] <+: c :: rest)
    (ih : ∀ {raw frames}, rest.all isChar → splitFrom next rest = some (raw, frames) →
      IsSplit next rest raw frames)
    (h : more c (splitFrom next rest) = some (raw, frames)) :
    IsSplit mode (c :: rest) raw frames := by
  simp only [more, Option.map_eq_some_iff, Prod.exists, Prod.mk.injEq] at h
  obtain ⟨inner, _, found, rfl, rfl⟩ := h
  have known := ih legal found
  have isPart := List.cons_prefix_cons.2 ⟨@rfl _ c, known.isPart⟩
  refine ⟨isPart, fun under => ?_, known.frames⟩
  rw [List.infix_cons_iff, not_or]
  exact ⟨fun begins => inside under (begins.trans isPart), known.inside (same under)⟩

/-- **What is known of the frames of a legal text.** -/
theorem isSplit {mode : Mode} {text raw : List Char} {frames : List Frame}
    (legal : text.all isChar) (h : splitFrom mode text = some (raw, frames)) :
    IsSplit mode text raw frames := by
  fun_induction splitFrom mode text generalizing raw frames with
  -- the equations of `splitFrom`: the end of the text, the openings, text, the closings, and one
  -- more character of a tag or of another frame
  | case1 =>
      obtain ⟨rfl, rfl⟩ : [] = raw ∧ [] = frames := by simpa using h
      exact ⟨List.nil_prefix, by simp, by simp⟩
  | case2 rest ih => exact isSplit_opened (by simp_all) (by simp [Frame.raw]) (by simp) ih h
  | case3 rest ih => exact isSplit_opened (by simp_all) (by simp [Frame.raw]) (by simp) ih h
  | case4 rest ih => exact isSplit_opened (by simp_all) (by simp [Frame.raw]) (by simp) ih h
  | case5 rest _ _ _ ih => exact isSplit_opened (by simp_all) (by simp [Frame.raw]) (by simp) ih h
  | case6 c rest _ _ _ _ ih => exact isSplit_more (by simp_all) (by simp) (by simp) ih h
  | case7 rest ih => exact isSplit_closed (by simp_all) ih h
  | case8 rest ih => exact isSplit_closed (by simp_all) ih h
  | case9 rest ih => exact isSplit_closed (by simp_all) ih h
  | case10 rest ih => exact isSplit_closed (by simp_all) ih h
  | case11 quote c rest _ ih => exact isSplit_more (by simp_all) (by simp) (by simp) ih h
  | case12 mode c rest _ _ _ _ _ _ _ inside _ _ ih =>
      refine isSplit_more (by simp_all) id (fun under begins => ?_) ih h
      obtain ⟨after, equal⟩ := begins
      simp only [List.cons_append, List.nil_append, List.cons.injEq] at equal
      exact inside after under equal.1.symm equal.2.symm
  | case13 => simp at h

end Xml.Frame

end StringCatalog
