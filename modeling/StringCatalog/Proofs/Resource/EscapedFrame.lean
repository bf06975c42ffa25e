import StringCatalog.Proofs.Resource.Respell
import StringCatalog.Proofs.Xml.Frame

/-! # The frames of an escaped text

A backslash before every single quote opens and closes nothing:

* **`Resource.escapeFrame`** — a frame with its quotes escaped.
* **`Resource.split?_escapeChars`** — the frames of an escaped text are the frames of the text with
  their quotes escaped. -/

namespace StringCatalog.Resource

open Xml

/-! ## What does not occur -/

/-- A character that is neither a single quote nor a backslash: `c ≠ '\'' ∧ c ≠ '\\'`. -/
def IsPlainChar (c : Char) : Prop := c ≠ '\'' ∧ c ≠ '\\'

instance : DecidablePred IsPlainChar := fun _ => inferInstanceAs (Decidable (_ ∧ _))

/-- `escapeChars text = text`: escaping leaves the other characters as they are. -/
theorem escapeChars_plain {text : List Char} (plain : '\'' ∉ text) : escapeChars text = text := by
  induction text with
  | nil => rfl
  | cons c text ih =>
      rw [List.mem_cons, not_or] at plain
      rw [escapeChars_cons (Ne.symm plain.1), ih plain.2]

/-- `escapeChars ('\'' :: rest) = '\\' :: '\'' :: escapeChars rest`: a single quote gets its
backslash. -/
theorem escapeChars_quote (rest : List Char) :
    escapeChars ('\'' :: rest) = '\\' :: '\'' :: escapeChars rest := by
  rw [escapeChars]
  rfl

/-- `escapeChars text = [] ↔ text = []`. -/
theorem escapeChars_eq_nil {text : List Char} : escapeChars text = [] ↔ text = [] := by
  cases text with
  | nil => simp
  | cons c text =>
      rw [escapeChars]
      split <;> simp

/-- **What an escaped text begins with** other than quotes and backslashes, the text begins with. -/
theorem exists_of_escapeChars_eq {part more text : List Char} (plain : ∀ c ∈ part, IsPlainChar c)
    (h : escapeChars text = part ++ more) : ∃ rest, text = part ++ rest ∧ escapeChars rest = more := by
  induction part generalizing text with
  | nil => exact ⟨text, rfl, h⟩
  | cons c part ih =>
      rw [List.forall_mem_cons] at plain
      cases text with
      | nil => cases h
      | cons d text =>
          by_cases quote : d = '\''
          · subst quote
            rw [escapeChars_quote, List.cons_append, List.cons.injEq] at h
            exact absurd h.1.symm plain.1.2
          · rw [escapeChars_cons quote, List.cons_append, List.cons.injEq] at h
            obtain ⟨rest, rfl, same⟩ := ih plain.2 h.2
            exact ⟨rest, by rw [h.1, List.cons_append], same⟩

/-- `part <+: text`: what an escaped text does not begin with unless the text does. -/
theorem prefix_of_prefix_escaped {part text : List Char} (plain : ∀ c ∈ part, IsPlainChar c)
    (h : part <+: escapeChars text) : part <+: text := by
  obtain ⟨more, same⟩ := h
  obtain ⟨rest, whole, -⟩ := exists_of_escapeChars_eq plain same.symm
  exact ⟨rest, whole.symm⟩

/-- `part <:+: text`: what is in an escaped text other than quotes and backslashes is in the
text. -/
theorem infix_of_infix_escaped {part text : List Char} (plain : ∀ c ∈ part, IsPlainChar c)
    (some : part ≠ []) (h : part <:+: escapeChars text) : part <:+: text := by
  induction text with
  | nil => exact h
  | cons c text ih =>
      have later := List.suffix_cons c text
      by_cases quote : c = '\''
      · subst quote
        obtain ⟨first, others, rfl⟩ := List.exists_cons_of_ne_nil some
        have known := (List.forall_mem_cons.1 plain).1
        rw [escapeChars_quote, List.infix_cons_iff, List.infix_cons_iff, List.cons_prefix_cons,
          List.cons_prefix_cons] at h
        rcases h with ⟨rfl, -⟩ | ⟨rfl, -⟩ | h
        · exact absurd rfl known.2
        · exact absurd rfl known.1
        · exact (ih h).trans later.isInfix
      · rw [escapeChars_cons quote, List.infix_cons_iff] at h
        rcases h with ⟨more, same⟩ | h
        · rw [← escapeChars_cons quote] at same
          exact (prefix_of_prefix_escaped plain ⟨more, same⟩).isInfix
        · exact (ih h).trans later.isInfix

/-- `escapeChars (front ++ [c]) = escapeChars front ++ [c]`: the last character stays the last
one. -/
theorem escapeChars_concat {front : List Char} {c : Char} (other : c ≠ '\'') :
    escapeChars (front ++ [c]) = escapeChars front ++ [c] := by
  rw [escapeChars_append, escapeChars_cons other]
  rfl

/-- `(escapeChars text).count '\n' = text.count '\n'`: lines stay lines. -/
theorem count_escapeChars (text : List Char) : (escapeChars text).count '\n' = text.count '\n' := by
  induction text with
  | nil => rfl
  | cons c text ih =>
      by_cases quote : c = '\''
      · subst quote
        rw [escapeChars_quote, List.count_cons, List.count_cons, List.count_cons, ih]
        rfl
      · rw [escapeChars_cons quote, List.count_cons, List.count_cons, ih]

/-- `joinLineEnds (escapeChars text) = escapeChars (joinLineEnds text)`: line ends may be joined
before or after quotes are escaped. -/
theorem joinLineEnds_escapeChars (text : List Char) :
    joinLineEnds (escapeChars text) = escapeChars (joinLineEnds text) := by
  fun_induction joinLineEnds text with
  | case1 => rfl
  | case2 rest ih =>
      rw [escapeChars_cons (by decide), escapeChars_cons (by decide), escapeChars_cons (by decide),
        joinLineEnds, ih]
  | case3 c rest other ih =>
      by_cases quote : c = '\''
      · subst quote
        rw [escapeChars_quote, escapeChars_quote, joinLineEnds, joinLineEnds, ih]
        · simp
        · simp
      · rw [escapeChars_cons quote, escapeChars_cons quote, joinLineEnds, ih]
        -- no line feed comes first that was not there before
        rintro behind rfl begins
        obtain ⟨more, rfl, -⟩ := @exists_of_escapeChars_eq ['\n'] behind rest (by decide) begins
        exact other more rfl rfl

/-! ## Frames -/

/-- **A frame with its quotes escaped.** -/
def escapeFrame : Frame → Frame
  | .text raw => .text (escapeChars raw)
  | .tag raw => .tag (escapeChars raw)
  | .comment raw => .comment (escapeChars raw)
  | .literal raw => .literal (escapeChars raw)
  | .instruction raw => .instruction (escapeChars raw)

/-- `(escapeFrame frame).source = escapeChars frame.source`: its text is the escaped one. -/
theorem source_escapeFrame (frame : Frame) :
    (escapeFrame frame).source = escapeChars frame.source := by
  have around {first last : List Char} (raw : List Char) (one : '\'' ∉ first) (two : '\'' ∉ last) :
      escapeChars (first ++ raw ++ last) = first ++ escapeChars raw ++ last := by
    rw [escapeChars_append, escapeChars_append, escapeChars_plain one, escapeChars_plain two]
  cases frame with
  | text raw => rfl
  | tag raw => exact (@around ['<'] ['>'] raw (by decide) (by decide)).symm
  | comment raw => exact (around raw (by decide) (by decide)).symm
  | literal raw => exact (around raw (by decide) (by decide)).symm
  | instruction raw => exact (around raw (by decide) (by decide)).symm

/-- `(escapeFrame frame).isTag = frame.isTag`: escaping leaves the kind of a frame. -/
theorem isTag_escapeFrame (frame : Frame) : (escapeFrame frame).isTag = frame.isTag := by
  cases frame <;> rfl

/-- What is left of a frame under way, and the frames behind it, with their quotes escaped. -/
def escapeFound (found : List Char × List Frame) : List Char × List Frame :=
  (escapeChars found.1, found.2.map escapeFrame)

/-! ### Steps

Each step of the reader is the same in front of escaped text, where a quote takes two of them. -/

section

open Xml.Frame

/-- `more c (found.map escapeFound) = (more c found).map escapeFound`: one more character in front
of a frame, if it is no quote. -/
theorem more_escapeFound {c : Char} (other : c ≠ '\'') (found : Option (List Char × List Frame)) :
    more c (found.map escapeFound) = (more c found).map escapeFound := by
  cases found with
  | none => rfl
  | some found => simp only [more, Option.map_some, escapeFound, escapeChars_cons other]

/-- A quote in front of a frame is two characters of the escaped one. -/
theorem more_quote (found : Option (List Char × List Frame)) :
    more '\\' (more '\'' (found.map escapeFound)) = (more '\'' found).map escapeFound := by
  cases found with
  | none => rfl
  | some found => simp only [more, Option.map_some, escapeFound, escapeChars_quote]

/-- `opened` commutes with escaping for a kind of frame that does. -/
theorem opened_escapeFound {frame : List Char → Frame}
    (same : ∀ raw, escapeFrame (frame raw) = frame (escapeChars raw))
    (found : Option (List Char × List Frame)) :
    opened frame (found.map escapeFound) = (opened frame found).map escapeFound := by
  cases found with
  | none => rfl
  | some found => simp only [opened, Option.map_some, escapeFound, List.map_cons, same, escapeChars]

/-- `withText` commutes with escaping: a text is empty just where it is empty escaped. -/
theorem withText_escapeChars (raw : List Char) (frames : List Frame) :
    withText (escapeChars raw) (frames.map escapeFrame) = (withText raw frames).map escapeFrame := by
  by_cases empty : raw = []
  · subst empty
    rfl
  · have still : escapeChars raw ≠ [] := empty ∘ escapeChars_eq_nil.1
    rw [withText, withText, if_neg (by simpa using still), if_neg (by simpa using empty)]
    rfl

/-- `closed` commutes with escaping. -/
theorem closed_escapeFound (found : Option (List Char × List Frame)) :
    closed (found.map escapeFound) = (closed found).map escapeFound := by
  cases found with
  | none => rfl
  | some found => simp only [closed, Option.map_some, escapeFound, withText_escapeChars, escapeChars]

/-- One more character of a frame that ends with a mark, where no mark begins. -/
theorem splitFrom_escape_cons {mode : Mode} {first : Char} {others : List Char}
    (plain : ∀ c ∈ first :: others, IsPlainChar c)
    (next : ∀ {c rest}, ¬first :: others <+: c :: rest →
      splitFrom mode (c :: rest) = more c (splitFrom mode rest)) {c : Char} {rest : List Char}
    (inside : ¬first :: others <+: c :: rest)
    (ih : splitFrom mode (escapeChars rest) = (splitFrom mode rest).map escapeFound) :
    splitFrom mode (escapeChars (c :: rest)) = (more c (splitFrom mode rest)).map escapeFound := by
  have known := plain first List.mem_cons_self
  by_cases quote : c = '\''
  · subst quote
    rw [escapeChars_quote, next, next, ih, more_quote]
    · exact fun begins => known.1 (List.cons_prefix_cons.1 begins).1
    · exact fun begins => known.2 (List.cons_prefix_cons.1 begins).1
  · have still : ¬first :: others <+: c :: escapeChars rest := by
      rw [← escapeChars_cons quote]
      exact fun begins => inside (prefix_of_prefix_escaped plain begins)
    rw [escapeChars_cons quote, next still, ih, more_escapeFound quote]

/-- One more character of a tag: a backslash opens and closes no quotes. -/
theorem splitFrom_escape_tag {quote : Option Char} {c : Char} {rest : List Char}
    (known : quote ≠ some '\\') (inside : quote = none → c ≠ '>')
    (ih : splitFrom (.tag (quoteAfter quote c)) (escapeChars rest) =
      (splitFrom (.tag (quoteAfter quote c)) rest).map escapeFound) :
    splitFrom (.tag quote) (escapeChars (c :: rest)) =
      (more c (splitFrom (.tag (quoteAfter quote c)) rest)).map escapeFound := by
  by_cases single : c = '\''
  · subst single
    have still : quoteAfter quote '\\' = quote := by
      cases quote with
      | none => rfl
      | some q => exact if_neg (by simpa using fun same => known (by rw [same]))
    rw [escapeChars_quote, splitFrom_tag_cons (by simp), still, splitFrom_tag_cons (by simp), ih,
      more_quote]
  · rw [escapeChars_cons single, splitFrom_tag_cons inside, ih, more_escapeFound single]

/-- **The frames of an escaped text,** from the middle of a frame on. -/
theorem splitFrom_escapeChars {mode : Mode} (known : mode ≠ .tag (some '\\')) (text : List Char) :
    splitFrom mode (escapeChars text) = (splitFrom mode text).map escapeFound := by
  fun_induction splitFrom mode text with
  | case1 => rfl
  -- the openings and the closings have no quotes in them
  | case2 rest ih =>
      simp (disch := decide) only [escapeChars_cons]
      rw [splitFrom, ih (by simp), opened_escapeFound fun _ => rfl]
  | case3 rest ih =>
      simp (disch := decide) only [escapeChars_cons]
      rw [splitFrom, ih (by simp), opened_escapeFound fun _ => rfl]
  | case4 rest ih =>
      simp (disch := decide) only [escapeChars_cons]
      rw [splitFrom, ih (by simp), opened_escapeFound fun _ => rfl]
  | case5 rest comment literal instruction ih =>
      rw [escapeChars_cons (by decide), splitFrom, ih (by simp), opened_escapeFound fun _ => rfl]
      -- a tag opens: no other frame opens that did not open before
      · intro behind begins
        obtain ⟨more, same, -⟩ := @exists_of_escapeChars_eq "!--".toList _ _ (by decide) begins
        exact comment more same
      · intro behind begins
        obtain ⟨more, same, -⟩ := @exists_of_escapeChars_eq "![CDATA[".toList _ _ (by decide) begins
        exact literal more same
      · intro behind begins
        obtain ⟨more, same, -⟩ := @exists_of_escapeChars_eq "?".toList _ _ (by decide) begins
        exact instruction more same
  | case6 c rest _ _ _ other ih =>
      have next {c : Char} {rest : List Char} (inside : ¬['<'] <+: c :: rest) :
          splitFrom .text (c :: rest) = more c (splitFrom .text rest) :=
        splitFrom_text_cons (by rintro rfl; exact inside ⟨rest, rfl⟩) rest
      refine splitFrom_escape_cons (by decide) next (fun begins => ?_) (ih known)
      exact other (List.cons_prefix_cons.1 begins).1.symm
  | case7 rest ih =>
      simp (disch := decide) only [escapeChars_cons]
      rw [splitFrom, ih (by simp), closed_escapeFound]
  | case8 rest ih =>
      simp (disch := decide) only [escapeChars_cons]
      rw [splitFrom, ih (by simp), closed_escapeFound]
  | case9 rest ih =>
      simp (disch := decide) only [escapeChars_cons]
      rw [splitFrom, ih (by simp), closed_escapeFound]
  | case10 rest ih => rw [escapeChars_cons (by decide), splitFrom, ih (by simp), closed_escapeFound]
  | case11 quote c rest inside ih =>
      have before : quote ≠ some '\\' := fun same => known (by rw [same])
      have after : quoteAfter quote c ≠ some '\\' := by
        unfold quoteAfter
        grind
      exact splitFrom_escape_tag before inside (ih (by simpa using after))
  | case12 mode c rest _ _ _ _ text comment literal instruction _ tag ih =>
      cases mode with
      | text => exact absurd rfl text
      | tag quote => exact absurd rfl (tag quote)
      | comment =>
          refine splitFrom_escape_cons (by decide) splitFrom_comment_cons ?_ (ih known)
          rintro ⟨after, same⟩
          simp only [List.cons_append, List.nil_append, List.cons.injEq] at same
          exact comment after rfl same.1.symm same.2.symm
      | literal =>
          refine splitFrom_escape_cons (by decide) splitFrom_literal_cons ?_ (ih known)
          rintro ⟨after, same⟩
          simp only [List.cons_append, List.nil_append, List.cons.injEq] at same
          exact literal after rfl same.1.symm same.2.symm
      | instruction =>
          refine splitFrom_escape_cons (by decide) splitFrom_instruction_cons ?_ (ih known)
          rintro ⟨after, same⟩
          simp only [List.cons_append, List.nil_append, List.cons.injEq] at same
          exact instruction after rfl same.1.symm same.2.symm
  | case13 mode other =>
      cases mode with
      | text => exact absurd rfl other
      | tag quote => simp [escapeChars, splitFrom]
      | _ => rfl

/-- **The frames of an escaped text** are the frames of the text with their quotes escaped:
`split? (escapeChars text) = (split? text).map (List.map escapeFrame)`. -/
theorem split?_escapeChars (text : List Char) :
    split? (escapeChars text) = (split? text).map (List.map escapeFrame) := by
  rw [split?, split?, splitFrom_escapeChars (by simp)]
  cases splitFrom .text text with
  | none => rfl
  | some found => exact congrArg some (withText_escapeChars found.1 found.2)

end

/-! ### Frames behind the root -/

/-- What may follow the root may follow it with its quotes escaped. -/
theorem isEpilog_escapeFrame {frames : List Frame} (h : isEpilog frames) :
    isEpilog (frames.map escapeFrame) := by
  rw [isEpilog, List.all_eq_true] at h ⊢
  intro other member
  obtain ⟨frame, there, rfl⟩ := List.mem_map.1 member
  have known := h frame there
  cases frame with
  | text raw =>
      have plain : '\'' ∉ raw := fun quote => by
        have blank := List.all_eq_true.1 known '\'' quote
        revert blank
        decide
      rw [escapeFrame, escapeChars_plain plain]
      exact known
  | comment raw => rfl
  | instruction raw => rfl
  | tag raw => cases known
  | literal raw => cases known

end StringCatalog.Resource
