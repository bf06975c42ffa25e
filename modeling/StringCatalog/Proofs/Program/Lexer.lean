import StringCatalog.Proofs.Program.Field

/-! # Where the tokens of a program stand

* **`Step.EndsBy`** — a step with no token and no rest of the text beyond a line.
* **`Lexer.endsBy_of_step?`** — no step leads beyond the last line of the text that is read.
* **`Lexer.line_le_of_run?`** — no token of a text stands beyond its last line.
* **`line_le_of_tokens?`** — nor does any token of a program, whose last line is made to end. -/

namespace StringCatalog.Program

/-! ## Steps -/

/-- **A step that leads no further than to some line:** neither its tokens nor the rest of the text do. -/
structure Step.EndsBy (line : Nat) (step : Step) : Prop where
  /-- The tokens stand before the line or on it. -/
  tokens : ∀ token ∈ step.tokens, token.place.line ≤ line
  /-- The rest of the text ends there. -/
  rest : step.lexer.place.lastLine step.rest ≤ line

namespace Lexer

variable {lexer : Lexer} {inner : Place → List Char → Option (List Token)}

/-- **A step past the start of a text** leads no further than the text. -/
theorem endsBy_past (lexer : Lexer) (lexemes : List Lexeme) {characters rest text : List Char}
    (split : characters ++ rest = text) :
    (lexer.past characters lexemes rest).EndsBy (lexer.place.lastLine text) := by
  subst split
  refine ⟨fun token member => ?_, lexer.place.lastLine_after_le characters rest⟩
  obtain ⟨lexeme, -, rfl⟩ := List.mem_map.1 member
  exact lexer.place.line_le_lastLine _

/-- `begin ++ rest.drop (begin.length - 1) = c :: rest`: what a text begins with stands before what
is left when so many characters are dropped. -/
theorem append_drop_of_isPrefix {begin rest : List Char} {c : Char} (begins : begin <+: c :: rest)
    (some : begin ≠ []) : begin ++ rest.drop (begin.length - 1) = c :: rest := by
  obtain ⟨first, more, rfl⟩ := List.exists_cons_of_ne_nil some
  exact List.prefix_iff_eq_append.1 begins

/-- `markOf c rest <+: c :: rest ∧ markOf c rest ≠ []`: a text begins with its mark. -/
theorem markOf_isPrefix (c : Char) (rest : List Char) :
    markOf c rest <+: c :: rest ∧ markOf c rest ≠ [] := by
  unfold markOf
  cases found : (longMarks.map String.toList).find? fun mark => mark.isPrefixOf (c :: rest) with
  | none => exact ⟨⟨rest, rfl⟩, by simp⟩
  | some mark =>
      have member := List.mem_of_find?_eq_some found
      have begins := List.find?_some found
      refine ⟨List.isPrefixOf_iff_prefix.1 begins, ?_⟩
      rintro rfl
      exact absurd member (by decide)

/-- **The step over a mark** leads no further than the text. -/
theorem endsBy_of_mark? {c : Char} {rest : List Char} {step : Step}
    (read : lexer.mark? c rest = some step) : step.EndsBy (lexer.place.lastLine (c :: rest)) := by
  obtain ⟨begins, some⟩ := markOf_isPrefix c rest
  have past := lexer.endsBy_past [.symbol (String.ofList (markOf c rest))]
    (append_drop_of_isPrefix begins some)
  unfold mark? at read
  dsimp only at read
  split at read
  · split at read
    · cases read
    · cases read
      exact ⟨past.tokens, past.rest⟩
  split at read
  · split at read
    · cases read
    · split at read
      · cases read
        exact ⟨past.tokens, past.rest⟩
      · cases read
  · cases read
    exact past

/-! ## Starts of lines -/

/-- A margin is the start of its line. -/
theorem readMargin?_eq {reading found : MarginReading} {text rest : List Char}
    (read : readMargin? reading text = some (found, rest)) :
    ∃ begin, text = begin ++ rest ∧ found.place = reading.place.after begin := by
  fun_induction readMargin? reading text
  case case1 | case2 | case3 =>
    rename_i ih
    obtain ⟨begin, rfl, place⟩ := ih read
    exact ⟨_ :: begin, rfl, place⟩
  case case4 reading c text ih =>
    obtain ⟨begin, same, place⟩ := ih read
    exact ⟨'\\' :: '\n' :: begin, by rw [same]; rfl, place⟩
  case case5 => cases read
  case case6 =>
    cases read
    exact ⟨[], rfl, rfl⟩

/-- A line feed ends a comment, or the text ends with it. -/
theorem comment_cases (text : List Char) :
    (∃ more, text = text.takeWhile (· != '\n') ++ '\n' :: more) ∨
      text = text.takeWhile (· != '\n') := by
  induction text with
  | nil => exact .inr rfl
  | cons c text ih =>
      rw [List.takeWhile_cons]
      by_cases newline : c = '\n'
      · subst newline
        exact .inl ⟨text, rfl⟩
      · rw [if_pos (by simpa using newline)]
        rcases ih with ⟨more, same⟩ | same
        · exact .inl ⟨more, by rw [List.cons_append, ← same]⟩
        · exact .inr (by rw [← same])

/-- A comment that fills a line leads to the next line, even where the text ends with it. -/
theorem lastLine_after_comment (place : Place) (begin rest : List Char) :
    Place.lastLine (place.after (begin ++ '#' :: (rest.takeWhile (· != '\n') ++ ['\n'])))
      (rest.drop ((rest.takeWhile (· != '\n')).length + 1)) ≤ place.lastLine (begin ++ '#' :: rest) := by
  have silent : (rest.takeWhile (· != '\n')).count '\n' = 0 :=
    List.count_eq_zero.2 fun member => absurd (List.mem_takeWhile_imp member) (by simp)
  have cases := comment_cases rest
  generalize rest.takeWhile (· != '\n') = comment at cases silent ⊢
  rcases cases with ⟨more, rfl⟩ | rfl
  · have behind := place.lastLine_after_le (begin ++ '#' :: (comment ++ ['\n'])) more
    have left : (comment ++ '\n' :: more).drop (comment.length + 1) = more := by
      rw [← List.drop_drop, List.drop_left]
      rfl
    rw [left]
    simpa only [List.append_assoc, List.cons_append, List.nil_append] using behind
  · have goes_on := place.line_after_lt_lastLine begin (show '#' :: rest ≠ [] by simp)
    rw [List.drop_eq_nil_of_le (Nat.le_succ _), Place.after_append, Place.lastLine, Place.line_after,
      List.count_cons, List.count_append, silent]
    exact goes_on

/-- **The step at the start of a line** leads no further than the text. -/
theorem endsBy_of_startLine? {text : List Char} {step : Step}
    (read : lexer.startLine? text = some step) : step.EndsBy (lexer.place.lastLine text) := by
  unfold startLine? at read
  split at read
  · cases read
  · next reading rest found =>
    obtain ⟨begin, rfl, place⟩ := readMargin?_eq found
    have place : reading.place = lexer.place.after begin := place
    dsimp only at read
    rw [place] at read
    split at read
    · next rest =>
      cases read
      refine ⟨by simp, ?_⟩
      have behind := lexer.place.lastLine_after_le (begin ++ ['\n']) rest
      rwa [Place.after_append, List.append_assoc] at behind
    · next rest =>
      cases read
      refine ⟨by simp, ?_⟩
      dsimp only
      rw [← Place.after_cons, ← Place.after_append]
      exact lastLine_after_comment lexer.place begin rest
    · obtain ⟨⟨lexemes, margins⟩, -, rfl⟩ := Option.map_eq_some_iff.1 read
      have behind := lexer.place.lastLine_after_le begin rest
      refine ⟨fun token member => ?_, behind⟩
      obtain ⟨lexeme, -, rfl⟩ := List.mem_map.1 member
      exact (Place.line_le_lastLine _ rest).trans behind

/-! ## Strings -/

/-- What is made of the members of a list is made of one of them. -/
theorem exists_of_mapM {α β : Type} {make : α → Option β} {sources : List α} {made : List β}
    (all : sources.mapM make = some made) :
    ∀ result ∈ made, ∃ source ∈ sources, make source = some result := by
  induction sources generalizing made with
  | nil =>
      cases all
      simp
  | cons source sources ih =>
      rw [List.mapM_cons] at all
      cases one : make source with
      | none => simp [one] at all
      | some first =>
          cases others : sources.mapM make with
          | none => simp [one, others] at all
          | some rest =>
              obtain rfl : first :: rest = made := by simpa [one, others] using all
              rw [List.forall_mem_cons]
              refine ⟨⟨source, List.mem_cons_self, one⟩, fun result member => ?_⟩
              obtain ⟨other, there, same⟩ := ih others result member
              exact ⟨other, List.mem_cons_of_mem _ there, same⟩

/-- **The step over a string** leads no further than the text, if the tokens of its fields stand no further
than one line behind these. -/
theorem endsBy_of_string? {letters text : List Char} {step : Step}
    (fields_end : ∀ place text tokens, inner place text = some tokens →
      ∀ token ∈ tokens, token.place.line ≤ place.line + text.count '\n' + 1)
    (read : lexer.string? inner letters text = some step) :
    step.EndsBy (lexer.place.lastLine (letters ++ text)) := by
  unfold string? at read
  split at read
  · next kind quotes body rest _ bodied =>
    obtain ⟨parts, some⟩ := body?_eq bodied
    dsimp only at read
    generalize text.take quotes = marks at read parts some
    subst parts
    have whole : letters ++ marks ++ body ++ marks ++ rest =
        letters ++ (marks ++ (body ++ (marks ++ rest))) := by simp only [List.append_assoc]
    split at read
    · split at read
      · cases read
        exact lexer.endsBy_past _ whole
      · cases read
    split at read
    · split at read
      · cases read
      · next fields found =>
        obtain ⟨tokens, made, rfl⟩ := Option.map_eq_some_iff.1 read
        have past := lexer.endsBy_past [] whole
        refine ⟨?_, past.rest⟩
        -- the closing quotes follow the fields, so that the text goes on behind these
        have goes_on := lexer.place.line_after_lt_lastLine (letters ++ marks ++ body)
          (show marks ++ rest ≠ [] by simp [some])
        rw [Place.after_append, Place.line_after] at goes_on
        have within (token : Token) (member : token ∈ tokens.flatten) :
            token.place.line ≤ lexer.place.lastLine (letters ++ (marks ++ (body ++ (marks ++ rest)))) := by
          obtain ⟨part, there, inside⟩ := List.mem_flatten.1 member
          obtain ⟨field, among, same⟩ := exists_of_mapM made part there
          have ends := fields_end _ _ _ same token inside
          have field_ends : field.place.line + field.text.count '\n' ≤
              (lexer.place.after (letters ++ marks)).line + body.count '\n' :=
            endsBy_of_fields? found field among
          rw [← whole, List.append_assoc (letters ++ marks ++ body)]
          omega
        rw [List.cons_append, List.forall_mem_cons, List.forall_mem_append, List.forall_mem_singleton]
        exact ⟨lexer.place.line_le_lastLine _, within,
          (Place.line_le_lastLine _ rest).trans past.rest⟩
    · obtain ⟨value, -, rfl⟩ := Option.map_eq_some_iff.1 read
      exact lexer.endsBy_past _ whole
  · cases read

/-! ## Lines -/

/-- **The step within a line** leads no further than the text. -/
theorem endsBy_of_withinLine? {text : List Char} {step : Step}
    (fields_end : ∀ place text tokens, inner place text = some tokens →
      ∀ token ∈ tokens, token.place.line ≤ place.line + text.count '\n' + 1)
    (read : lexer.withinLine? inner text = some step) : step.EndsBy (lexer.place.lastLine text) := by
  unfold withinLine? at read
  split at read
  · cases read
    exact lexer.endsBy_past [] rfl
  · next rest =>
    cases read
    have past := lexer.endsBy_past (if lexer.brackets.isEmpty then [.lineEnd] else [])
      (show ['\n'] ++ rest = '\n' :: rest from rfl)
    exact ⟨past.tokens, past.rest⟩
  · cases read
    exact lexer.endsBy_past [] rfl
  · cases read
  · next c rest _ _ _ =>
    dsimp only at read
    split at read
    · cases read
      exact lexer.endsBy_past [] rfl
    split at read
    · next number_sign =>
      cases read
      have begins : c :: rest.takeWhile (· != '\n') <+: c :: rest :=
        List.cons_prefix_cons.2 ⟨rfl, List.takeWhile_prefix _⟩
      exact lexer.endsBy_past [] (append_drop_of_isPrefix begins (by simp))
    split at read
    · exact endsBy_of_string? fields_end read
    split at read
    · obtain ⟨number, -, rfl⟩ := Option.map_eq_some_iff.1 read
      exact lexer.endsBy_past _ (List.take_append_drop number.length (c :: rest))
    split at read
    · next letter =>
      have begins := List.takeWhile_prefix isWordChar (l := c :: rest)
      have some : (c :: rest).takeWhile isWordChar ≠ [] := by simp [letter]
      have whole := append_drop_of_isPrefix begins some
      split at read
      · rw [← whole]
        exact endsBy_of_string? fields_end read
      · split at read
        · cases read
          exact lexer.endsBy_past _ whole
        · cases read
    · exact endsBy_of_mark? read

/-- **No step leads further than the text.** -/
theorem endsBy_of_step? {text : List Char} {step : Step}
    (fields_end : ∀ place text tokens, inner place text = some tokens →
      ∀ token ∈ tokens, token.place.line ≤ place.line + text.count '\n' + 1)
    (read : lexer.step? inner text = some step) : step.EndsBy (lexer.place.lastLine text) := by
  unfold step? at read
  split at read
  · exact endsBy_of_startLine? read
  · exact endsBy_of_withinLine? fields_end read

/-! ## Texts -/

/-- **No token of a text stands beyond its last line.** -/
theorem line_le_of_run? {steps : Nat} {text : List Char} {tokens : List Token}
    (read : run? steps lexer text = some tokens) :
    ∀ token ∈ tokens, token.place.line ≤ lexer.place.lastLine text := by
  -- the steps bound the fields of strings as well, which are texts of their own
  induction steps generalizing lexer text tokens with
  | zero => cases read
  | succ steps ih =>
      cases text with
      | nil =>
          rw [run?, finish?] at read
          split at read
          · cases read
            intro token member
            obtain ⟨margin, -, rfl⟩ := List.mem_map.1 member
            exact lexer.place.line_le_lastLine []
          · cases read
      | cons c rest =>
          rw [run?] at read
          split at read
          · cases read
          · next step stepped =>
            obtain ⟨others, later, rfl⟩ := Option.map_eq_some_iff.1 read
            have ends := endsBy_of_step? (fun place text tokens field => ?_) stepped
            · rw [List.forall_mem_append]
              exact ⟨ends.tokens, fun token member => (ih later token member).trans ends.rest⟩
            · obtain ⟨inside, ran, rfl⟩ := Option.map_eq_some_iff.1 field
              have lines := Text.length_splitNewlines_le_count (text ++ [')'])
              rw [List.count_append, List.count_singleton] at lines
              rw [List.forall_mem_cons]
              refine ⟨by dsimp only; omega, fun token member => (ih ran token member).trans ?_⟩
              have here : (ofField place).place.line = place.line := rfl
              rw [Place.lastLine, here, Nat.add_assoc]
              exact Nat.add_le_add_left lines place.line

end Lexer

/-- **No token of a program stands beyond the line behind its text.** -/
theorem line_le_of_tokens? {text : List Char} {tokens : List Token}
    (read : tokens? text = some tokens) :
    ∀ token ∈ tokens, token.place.line ≤ (Text.splitNewlines text).length + 1 := by
  unfold tokens? at read
  dsimp only at read
  have ends := Lexer.line_le_of_run? read
  split at ends
  · rwa [Place.lastLine, Nat.add_comm] at ends
  · next last =>
    by_cases empty : text = []
    · subst empty
      cases read
      simp
    · rwa [Place.lastLine, Text.length_splitNewlines_concat empty (by simpa using last),
        Nat.add_comm] at ends

end StringCatalog.Program
