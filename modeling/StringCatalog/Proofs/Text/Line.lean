import StringCatalog.Proofs.Text.Blank

/-! # Lines of a written text

* **`Text.splitLines_flatMap`** — lines that are written each with a line feed behind it are read back.
* **`Text.isLine_of_mem_splitLines`** — the lines of any text have no line boundaries.
* **`Text.length_splitNewlines_le`** — there are no more lines by line feeds than by all boundaries.
* **`Text.take_splitLines`** — how far the first lines by all boundaries reach.
* **`Text.IsPlain`** — a text whose only line boundaries are line feeds and carriage returns.
* **`Text.AreCut`, `Text.areCut_iff`** — a text cut behind its line feeds, which is done in one way only. -/

namespace StringCatalog.Text

/-- A character that ends no line joins the line that follows. -/
theorem splitLines_cons {c : Char} (h : isLineBoundary c = false) (rest : List Char) :
    splitLines (c :: rest) = (c :: (splitLines rest).headD []) :: (splitLines rest).tail := by
  -- the equation for two characters at once reads a carriage return only
  have other : c ≠ '\r' := by
    rintro rfl
    exact absurd h (by decide)
  rw [splitLines]
  · cases splitLines rest <;> simp [h]
  · rintro - rfl
    exact absurd rfl other

/-- `splitLines (c :: rest) = [] :: splitLines rest`: a line boundary other than a carriage return
ends a line. -/
theorem splitLines_cons_boundary {c : Char} (h : isLineBoundary c = true) (other : c ≠ '\r')
    (rest : List Char) : splitLines (c :: rest) = [] :: splitLines rest := by
  rw [splitLines]
  · simp [h]
  · rintro - rfl
    exact absurd rfl other

/-- `splitLines (line ++ '\n' :: rest) = line :: splitLines rest`: a line ends at the line feed
behind it. -/
theorem splitLines_append_newline {line : List Char} (h : IsLine line) (rest : List Char) :
    splitLines (line ++ '\n' :: rest) = line :: splitLines rest := by
  induction line with
  | nil => exact splitLines_cons_boundary (by decide) (by decide) rest
  | cons c line ih =>
      rw [isLine_cons] at h
      rw [List.cons_append, splitLines_cons h.1, ih h.2, List.headD_cons, List.tail_cons]

/-- **Lines that are written each with a line feed behind it are read back:**
`splitLines (lines.flatMap (· ++ ['\n'])) = lines`. -/
theorem splitLines_flatMap {lines : List (List Char)} (h : ∀ line ∈ lines, IsLine line) :
    splitLines (lines.flatMap (· ++ ['\n'])) = lines := by
  induction lines with
  | nil => rfl
  | cons line lines ih =>
      rw [List.flatMap_cons, List.append_assoc, List.singleton_append,
        splitLines_append_newline (h line List.mem_cons_self),
        ih fun l member => h l (List.mem_cons_of_mem _ member)]

/-- **The lines of any text have no line boundaries.** -/
theorem isLine_of_mem_splitLines {text line : List Char} (member : line ∈ splitLines text) :
    IsLine line := by
  induction text using splitLines.induct generalizing line with
  -- one case for each equation of `splitLines`: the character that ends a line is in none of them
  | case1 => simp [splitLines] at member
  | case2 rest ih =>
      rw [splitLines, List.mem_cons] at member
      rcases member with rfl | member
      · exact isLine_nil
      · exact ih member
  | case3 c rest other boundary ih =>
      rw [splitLines] at member
      · simp only [boundary, ↓reduceIte, List.mem_cons] at member
        rcases member with rfl | member
        · exact isLine_nil
        · exact ih member
      · exact other
  | case4 c rest other inside none ih =>
      rw [splitLines_cons (by simpa using inside), none] at member
      obtain rfl : line = [c] := by simpa using member
      simpa using inside
  | case5 c rest other inside line lines some ih =>
      rw [splitLines_cons (by simpa using inside), some] at member
      rcases List.mem_cons.1 member with rfl | member
      · have first : IsLine line := ih (by simp [some])
        simpa [first] using inside
      · exact ih (by simpa [some] using Or.inr member)

/-! ## Line feeds -/

/-- A line feed ends a line, and any other character begins one or joins the next. -/
theorem length_splitNewlines_cons (c : Char) (rest : List Char) :
    (splitNewlines (c :: rest)).length =
      if c = '\n' then (splitNewlines rest).length + 1 else max 1 (splitNewlines rest).length := by
  rw [splitNewlines]
  by_cases newline : c = '\n'
  · simp [newline]
  · cases splitNewlines rest <;> simp [newline]

/-- The lines of a text are at least those that end in a part of it and those behind. -/
theorem count_add_length_splitNewlines_le (first rest : List Char) :
    first.count '\n' + (splitNewlines rest).length ≤ (splitNewlines (first ++ rest)).length := by
  induction first with
  | nil => simp
  | cons c first ih =>
      rw [List.cons_append, length_splitNewlines_cons, List.count_cons]
      by_cases newline : c = '\n' <;> simp only [newline, if_true, if_false, beq_iff_eq] <;> omega

/-- `(splitNewlines text).length ≤ text.count '\n' + 1`: there is at most one line more than there
are line feeds. -/
theorem length_splitNewlines_le_count (text : List Char) :
    (splitNewlines text).length ≤ text.count '\n' + 1 := by
  induction text with
  | nil => exact Nat.zero_le 1
  | cons c rest ih =>
      rw [length_splitNewlines_cons, List.count_cons]
      by_cases newline : c = '\n' <;> simp only [newline, if_true, if_false, beq_iff_eq] <;> omega

/-- **There are no more lines by line feeds than by all line boundaries:**
`(splitNewlines text).length ≤ (splitLines text).length`. -/
theorem length_splitNewlines_le (text : List Char) :
    (splitNewlines text).length ≤ (splitLines text).length := by
  fun_induction splitLines text with
  | case1 => exact Nat.le_refl 0
  | case2 rest ih =>
      rw [length_splitNewlines_cons, length_splitNewlines_cons, List.length_cons]
      simp only [Char.reduceEq, if_true, if_false]
      omega
  | case3 c rest other boundary ih =>
      rw [length_splitNewlines_cons, List.length_cons]
      split <;> omega
  | case4 c rest other inside none ih =>
      have newline : c ≠ '\n' := by
        rintro rfl
        exact inside (by decide)
      rw [none] at ih
      rw [length_splitNewlines_cons, if_neg newline]
      exact Nat.max_le.2 ⟨Nat.le_refl 1, ih.trans (Nat.zero_le 1)⟩
  | case5 c rest other inside line lines some ih =>
      have newline : c ≠ '\n' := by
        rintro rfl
        exact inside (by decide)
      rw [some] at ih
      rw [length_splitNewlines_cons, if_neg newline]
      exact Nat.max_le.2 ⟨Nat.le_add_left 1 _, ih⟩

/-- `(splitNewlines (text ++ ['\n'])).length = (splitNewlines text).length`: a line feed behind a
text that does not end with one makes no further line. -/
theorem length_splitNewlines_concat {text : List Char} (begun : text ≠ [])
    (last : text.getLast? ≠ some '\n') :
    (splitNewlines (text ++ ['\n'])).length = (splitNewlines text).length := by
  induction text with
  | nil => exact absurd rfl begun
  | cons c text ih =>
      rw [List.cons_append, length_splitNewlines_cons, length_splitNewlines_cons]
      cases text with
      | nil =>
          have newline : c ≠ '\n' := by simpa using last
          simp [newline, splitNewlines]
      | cons d text =>
          rw [ih (by simp) (by simpa using last)]

/-! ## Line feeds and other boundaries -/

/-- `'\r' ∉ unifyNewlines text`: line ends that are line feeds leave no carriage return. -/
theorem carriage_return_not_mem_unifyNewlines (text : List Char) : '\r' ∉ unifyNewlines text := by
  fun_induction unifyNewlines text with
  | case1 => exact List.not_mem_nil
  | case2 rest ih | case3 rest _ ih => exact List.not_mem_cons_of_ne_of_not_mem (by decide) ih
  | case4 c rest _ other ih => exact List.not_mem_cons_of_ne_of_not_mem (fun same => other same.symm) ih

/-- A character that is no line feed joins the line that follows. -/
theorem splitNewlines_cons {c : Char} (h : c ≠ '\n') (rest : List Char) :
    splitNewlines (c :: rest) = (c :: (splitNewlines rest).headD []) :: (splitNewlines rest).tail := by
  rw [splitNewlines, if_neg (by simpa using h)]
  cases splitNewlines rest <;> rfl

/-- **The lines of a text by all boundaries** are the pieces of its lines by line feeds; only an
empty piece at the end opens no line:
`splitLines text <+: (splitNewlines text).flatMap (split isLineBoundary)`. -/
theorem splitLines_begins {text : List Char} (single : '\r' ∉ text) :
    splitLines text <+: (splitNewlines text).flatMap (split isLineBoundary) := by
  induction text with
  | nil => exact List.prefix_rfl
  | cons c rest ih =>
      obtain ⟨other, others⟩ := not_or.1 (List.mem_cons.not.1 single)
      have behind := ih others
      by_cases newline : c = '\n'
      · subst newline
        rw [splitLines_cons_boundary (by decide) (by decide)]
        exact List.cons_prefix_cons.2 ⟨rfl, behind⟩
      have empty : splitLines rest = [] → splitNewlines rest = [] := fun none =>
        List.eq_nil_of_length_eq_zero (Nat.le_zero.1 ((length_splitNewlines_le rest).trans (by simp [none])))
      -- the character stands in the first line by line feeds, which may have been opened for it
      have begins : splitLines rest <+: split isLineBoundary ((splitNewlines rest).headD []) ++
          (splitNewlines rest).tail.flatMap (split isLineBoundary) := by
        cases lines : splitNewlines rest with
        | nil =>
            rw [lines] at behind
            rw [List.prefix_nil.1 behind]
            exact List.nil_prefix
        | cons line lines' => rwa [lines] at behind
      rw [splitNewlines_cons newline, List.flatMap_cons, split]
      by_cases boundary : isLineBoundary c = true
      · rw [splitLines_cons_boundary boundary (Ne.symm other), if_pos boundary]
        exact List.cons_prefix_cons.2 ⟨rfl, begins⟩
      · rw [splitLines_cons (by simpa using boundary), if_neg boundary]
        cases pieces : split isLineBoundary ((splitNewlines rest).headD []) with
        | nil => exact absurd pieces (split_ne_nil _)
        | cons piece pieces' =>
            rw [pieces] at begins
            cases lines : splitLines rest with
            | nil =>
                rw [empty lines] at pieces
                obtain ⟨rfl, -⟩ := List.cons.inj pieces
                exact List.cons_prefix_cons.2 ⟨rfl, List.nil_prefix⟩
            | cons line lines' =>
                rw [lines] at begins
                obtain ⟨rfl, more⟩ := List.cons_prefix_cons.1 begins
                exact List.cons_prefix_cons.2 ⟨rfl, more⟩

/-- There are as many pieces of some lines as there are lines and separators in them. -/
theorem length_flatMap_split (separates : Char → Bool) (lines : List (List Char)) :
    (lines.flatMap (split separates)).length =
      lines.length + lines.flatten.countP separates := by
  induction lines with
  | nil => rfl
  | cons line lines ih =>
      rw [List.flatMap_cons, List.length_append, length_split, ih, List.flatten_cons, List.countP_append,
        List.length_cons]
      omega

/-- `lines.flatMap (split isLineBoundary) = lines`: lines without boundaries are their own
pieces. -/
theorem flatMap_split_of_isLine {lines : List (List Char)} (h : ∀ line ∈ lines, IsLine line) :
    lines.flatMap (split isLineBoundary) = lines := by
  induction lines with
  | nil => rfl
  | cons line lines ih =>
      rw [List.forall_mem_cons] at h
      rw [List.flatMap_cons, split_of_forall h.1, ih h.2, List.singleton_append]

/-- **The first lines of a text by all boundaries** are pieces of as many lines by line feeds. -/
theorem take_splitLines {text : List Char} (single : '\r' ∉ text) {count : Nat}
    (few : count ≤ (splitNewlines text).length) :
    (splitLines text).take count =
      (((splitNewlines text).take count).flatMap (split isLineBoundary)).take count := by
  obtain ⟨more, whole⟩ := splitLines_begins single
  have enough : count ≤ (((splitNewlines text).take count).flatMap (split isLineBoundary)).length := by
    rw [length_flatMap_split, List.length_take, Nat.min_eq_left few]
    exact Nat.le_add_right count _
  calc (splitLines text).take count
    _ = (splitLines text ++ more).take count :=
      (List.take_append_of_le_length (few.trans (length_splitNewlines_le text))).symm
    _ = (((splitNewlines text).take count).flatMap (split isLineBoundary) ++
          ((splitNewlines text).drop count).flatMap (split isLineBoundary)).take count := by
      rw [whole, ← List.flatMap_append, List.take_append_drop]
    _ = (((splitNewlines text).take count).flatMap (split isLineBoundary)).take count :=
      List.take_append_of_le_length enough

/-! ## Plain texts -/

/-- **A text whose only line boundaries are line feeds and carriage returns:**
`∀ c ∈ text, isLineBoundary c = true → c = '\n' ∨ c = '\r'`. -/
def IsPlain (text : List Char) : Prop :=
  ∀ c ∈ text, isLineBoundary c = true → c = '\n' ∨ c = '\r'

instance (text : List Char) : Decidable (IsPlain text) :=
  inferInstanceAs (Decidable (∀ c ∈ text, isLineBoundary c = true → c = '\n' ∨ c = '\r'))

/-- A part of a plain text is plain. -/
theorem IsPlain.of_subset {part text : List Char} (h : IsPlain text) (sub : part ⊆ text) :
    IsPlain part :=
  fun c member => h c (sub member)

/-- **The lines of a text that has no other boundaries than line feeds** are those by line feeds:
`splitLines text = splitNewlines text`. -/
theorem IsPlain.splitLines_eq {text : List Char} (h : IsPlain text) (single : '\r' ∉ text) :
    splitLines text = splitNewlines text := by
  induction text with
  | nil => rfl
  | cons c rest ih =>
      obtain ⟨other, others⟩ := not_or.1 (List.mem_cons.not.1 single)
      have behind := ih (h.of_subset (List.subset_cons_self c rest)) others
      by_cases newline : c = '\n'
      · subst newline
        rw [splitLines_cons_boundary (by decide) (by decide), behind]
        rfl
      · have inside : isLineBoundary c = false := by
          by_contra boundary
          exact (h c List.mem_cons_self (by simpa using boundary)).elim newline (Ne.symm other)
        rw [splitLines_cons inside, splitNewlines_cons newline, behind]

/-! ## Chunks -/

/-- `chunk ⊆ text`: a chunk is a part of its text. -/
theorem subset_of_mem_chunks {text chunk : List Char} (member : chunk ∈ chunks text) :
    chunk ⊆ text := by
  intro c inside
  rw [← flatten_chunks text]
  exact List.mem_flatten.2 ⟨chunk, member, inside⟩

/-- `chunks (c :: rest) = (c :: (chunks rest).headD []) :: (chunks rest).tail`: a character that is
no line feed joins the chunk that follows. -/
theorem chunks_cons {c : Char} (h : c ≠ '\n') (rest : List Char) :
    chunks (c :: rest) = (c :: (chunks rest).headD []) :: (chunks rest).tail := by
  rw [chunks, if_neg (by simpa using h)]
  cases chunks rest <;> rfl

/-- `chunks (line ++ '\n' :: rest) = (line ++ ['\n']) :: chunks rest`: a line with the line feed
that ends it is one chunk. -/
theorem chunks_append_newline {line : List Char} (single : '\n' ∉ line) (rest : List Char) :
    chunks (line ++ '\n' :: rest) = (line ++ ['\n']) :: chunks rest := by
  induction line with
  | nil => rfl
  | cons c line ih =>
      obtain ⟨other, single⟩ := not_or.1 (List.mem_cons.not.1 single)
      rw [List.cons_append, chunks_cons (Ne.symm other), ih single]
      rfl

/-- `chunks line = [line]`: a text without line feeds is one chunk, unless it is empty. -/
theorem chunks_of_not_mem {line : List Char} (single : '\n' ∉ line) (some : line ≠ []) :
    chunks line = [line] := by
  induction line with
  | nil => exact absurd rfl some
  | cons c line ih =>
      obtain ⟨other, single⟩ := not_or.1 (List.mem_cons.not.1 single)
      rw [chunks_cons (Ne.symm other)]
      cases line with
      | nil => rfl
      | cons d line =>
          rw [ih single (List.cons_ne_nil d line)]
          rfl

/-- **A text cut from its start:** each piece goes up to a line feed and takes it in, and what is left
without a line feed is the last one. -/
inductive AreCut : List Char → List (List Char) → Prop where
  /-- Nothing is left. -/
  | nil : AreCut [] []
  /-- A piece up to a line feed. -/
  | line {line rest : List Char} {pieces : List (List Char)} (single : '\n' ∉ line)
      (behind : AreCut rest pieces) : AreCut (line ++ '\n' :: rest) ((line ++ ['\n']) :: pieces)
  /-- What is left. -/
  | last {line : List Char} (single : '\n' ∉ line) (some : line ≠ []) : AreCut line [line]

/-- A text is cut into its chunks. -/
theorem areCut_chunks (text : List Char) : AreCut text (chunks text) := by
  -- the induction is on the length, as a whole piece is cut off at once
  induction size : text.length using Nat.strongRecOn generalizing text with
  | ind size ih =>
      by_cases there : '\n' ∈ text
      · obtain ⟨line, rest, rfl, single⟩ := List.eq_append_cons_of_mem there
        rw [List.length_append, List.length_cons] at size
        rw [chunks_append_newline single]
        exact .line single (ih rest.length (by omega) rest rfl)
      · cases text with
        | nil => exact .nil
        | cons c rest =>
            have some : c :: rest ≠ [] := List.cons_ne_nil c rest
            rw [chunks_of_not_mem there some]
            exact .last there some

/-- **The chunks of a text are the only way to cut it:**
`AreCut text pieces ↔ pieces = chunks text`. -/
theorem areCut_iff {text : List Char} {pieces : List (List Char)} :
    AreCut text pieces ↔ pieces = chunks text := by
  constructor
  · intro cut
    induction cut with
    | nil => rfl
    | line single _ ih => rw [chunks_append_newline single, ih]
    | last single some => exact (chunks_of_not_mem single some).symm
  · rintro rfl
    exact areCut_chunks text

/-- **A piece of a text** is not empty, and has a line feed at its end only:
`piece ≠ [] ∧ '\n' ∉ piece.dropLast`. -/
theorem AreCut.of_mem {text piece : List Char} {pieces : List (List Char)} (cut : AreCut text pieces)
    (member : piece ∈ pieces) : piece ≠ [] ∧ '\n' ∉ piece.dropLast := by
  induction cut with
  | nil => exact absurd member List.not_mem_nil
  | line single _ ih =>
      rcases List.mem_cons.1 member with rfl | member
      · rw [List.dropLast_concat]
        exact ⟨by simp, single⟩
      · exact ih member
  | last single some =>
      obtain rfl := List.mem_singleton.1 member
      exact ⟨some, fun inside => single (List.dropLast_subset _ inside)⟩

/-- `chunk ≠ []`: a chunk is not empty. -/
theorem ne_nil_of_mem_chunks {text chunk : List Char} (member : chunk ∈ chunks text) : chunk ≠ [] :=
  ((areCut_chunks text).of_mem member).1

/-- `'\n' ∉ chunk.dropLast`: a chunk has a line feed at its end only. -/
theorem newline_not_mem_dropLast {text chunk : List Char} (member : chunk ∈ chunks text) :
    '\n' ∉ chunk.dropLast :=
  ((areCut_chunks text).of_mem member).2

end StringCatalog.Text
