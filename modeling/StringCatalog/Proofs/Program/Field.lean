import StringCatalog.Program.Lexer
import StringCatalog.Proofs.Text.Line

/-! # Where the fields of a string stand

* **`Place.lastLine`** — the line behind a text, if its last line is made to end.
* **`body?_eq`** — a string is its opening quotes, its text and its closing quotes.
* **`fieldText?_eq`, `literalPart?_suffix`** — a field is a part of the text.
* **`endsBy_of_fields?`** — the fields of a string end where the string does. -/

namespace StringCatalog.Program

/-! ## Places -/

namespace Place

/-- `(place.after text).line = place.line + text.count '\n'`: a text leads on by as many lines as
it has line feeds. -/
theorem line_after (place : Place) (text : List Char) :
    (place.after text).line = place.line + text.count '\n' := by
  induction text generalizing place with
  | nil => rfl
  | cons c text ih =>
      rw [after_cons, ih, List.count_cons, advance]
      split <;> dsimp only <;> omega

/-- **The line behind a text** that starts at a place, if its last line is made to end. -/
def lastLine (place : Place) (text : List Char) : Nat :=
  place.line + (Text.splitNewlines text).length

/-- `place.line ≤ place.lastLine text`: a text does not lead back. -/
theorem line_le_lastLine (place : Place) (text : List Char) : place.line ≤ place.lastLine text :=
  Nat.le_add_right _ _

/-- `(place.after first).lastLine rest ≤ place.lastLine (first ++ rest)`: the rest of a text ends
no later than the text. -/
theorem lastLine_after_le (place : Place) (first rest : List Char) :
    (place.after first).lastLine rest ≤ place.lastLine (first ++ rest) := by
  have lines := Text.count_add_length_splitNewlines_le first rest
  rw [lastLine, lastLine, line_after]
  omega

/-- `(place.after first).line < place.lastLine (first ++ rest)`: a text that goes on does not end
before the next line. -/
theorem line_after_lt_lastLine (place : Place) (first : List Char) {rest : List Char}
    (some : rest ≠ []) : (place.after first).line < place.lastLine (first ++ rest) := by
  refine Nat.lt_of_lt_of_le ?_ (lastLine_after_le place first rest)
  cases rest with
  | nil => exact absurd rfl some
  | cons c rest =>
      rw [lastLine, Text.length_splitNewlines_cons]
      split <;> omega

end Place

/-! ## Strings -/

/-- `text = body ++ quote :: rest`: a string between two quotes is its text and the closing one. -/
theorem plainBody?_eq {quote : Char} {text body rest : List Char}
    (read : plainBody? quote text = some (body, rest)) : text = body ++ quote :: rest := by
  fun_induction plainBody? quote text generalizing body rest with
  | case1 => cases read
  | case2 c text ih =>
      obtain ⟨⟨inner, after⟩, found, same⟩ := Option.map_eq_some_iff.1 read
      cases same
      rw [ih found]
      rfl
  | case3 c text _ closing =>
      obtain ⟨rfl, rfl⟩ := Prod.mk.inj (Option.some.inj read)
      rw [beq_iff_eq.1 closing]
      rfl
  | case4 => cases read
  | case5 c text _ _ _ ih =>
      obtain ⟨⟨inner, after⟩, found, same⟩ := Option.map_eq_some_iff.1 read
      cases same
      rw [ih found]
      rfl

/-- `text = body ++ [quote, quote, quote] ++ rest`: a string between three quotes on either side is
its text and the closing ones. -/
theorem longBody?_eq {quote : Char} {text body rest : List Char}
    (read : longBody? quote text = some (body, rest)) :
    text = body ++ [quote, quote, quote] ++ rest := by
  fun_induction longBody? quote text generalizing body rest with
  | case1 => cases read
  | case2 c text ih =>
      obtain ⟨⟨inner, after⟩, found, same⟩ := Option.map_eq_some_iff.1 read
      cases same
      rw [ih found]
      rfl
  | case3 c text _ closing =>
      obtain ⟨rfl, rfl⟩ := Prod.mk.inj (Option.some.inj read)
      obtain ⟨more, same⟩ := List.isPrefixOf_iff_prefix.1 closing
      obtain ⟨rfl, rfl⟩ := List.cons.inj same
      rfl
  | case4 c text _ _ ih =>
      obtain ⟨⟨inner, after⟩, found, same⟩ := Option.map_eq_some_iff.1 read
      cases same
      rw [ih found]
      rfl

/-- **A string** is its opening quotes, its text, its closing quotes and what follows. -/
theorem body?_eq {text body rest : List Char} {quotes : Nat}
    (read : body? text = some (quotes, body, rest)) :
    text = text.take quotes ++ (body ++ (text.take quotes ++ rest)) ∧ text.take quotes ≠ [] := by
  unfold body? at read
  split at read
  · cases read
  · next quote text =>
    split at read
    · next opening =>
      obtain ⟨more, same⟩ := List.isPrefixOf_iff_prefix.1 opening
      subst same
      obtain ⟨⟨inner, after⟩, found, same⟩ := Option.map_eq_some_iff.1 read
      cases same
      have inside : more = body ++ [quote, quote, quote] ++ rest := longBody?_eq found
      simp [inside]
    · obtain ⟨⟨inner, after⟩, found, same⟩ := Option.map_eq_some_iff.1 read
      cases same
      simp [plainBody?_eq found]

/-! ## Parts of a text -/

/-- `part.rest <:+ text`: what follows the text before a field is the rest of the text. -/
theorem literalPart?_suffix {isRaw isFormat isNamed : Bool} {text : List Char} {part : LiteralPart}
    (read : literalPart? isRaw isFormat isNamed text = some part) : part.rest <:+ text := by
  fun_induction literalPart? isRaw isFormat isNamed text generalizing part with
  | case1 =>
      cases read
      exact List.suffix_refl []
  | case2 c rest ih =>
      obtain ⟨inner, found, rfl⟩ := Option.map_eq_some_iff.1 read
      exact (ih found).trans (List.suffix_cons c rest)
  | case3 rest _ ih =>
      obtain ⟨inner, found, rfl⟩ := Option.map_eq_some_iff.1 read
      exact (ih found).trans (List.suffix_append ['\\', 'N'] _)
  | case4 rest _ ih =>
      obtain ⟨inner, found, rfl⟩ := Option.map_eq_some_iff.1 read
      exact (ih found).trans (List.suffix_append ['\\', 'N', '\x7b'] rest)
  | case5 c rest _ _ ih =>
      obtain ⟨inner, found, rfl⟩ := Option.map_eq_some_iff.1 read
      exact (ih found).trans (List.suffix_cons '\\' _)
  | case6 c rest _ _ ih =>
      obtain ⟨inner, found, rfl⟩ := Option.map_eq_some_iff.1 read
      exact (ih found).trans (List.suffix_append ['\\', c] rest)
  | case7 =>
      cases read
      exact List.suffix_refl _
  | case8 c rest =>
      cases read
      exact (List.drop_suffix 1 rest).trans (List.suffix_cons c rest)
  | case9 => cases read
  | case10 =>
      cases read
      exact List.suffix_refl _
  | case11 c rest _ _ _ ih =>
      obtain ⟨inner, found, rfl⟩ := Option.map_eq_some_iff.1 read
      exact (ih found).trans (List.suffix_cons c rest)

/-- **The expression of a field** is the text up to what ends it: `text = expression ++ rest`. -/
theorem fieldText?_eq {quotes : Option Quotes} {brackets text expression rest : List Char}
    (read : fieldText? quotes brackets text = some (expression, rest)) : text = expression ++ rest := by
  fun_induction fieldText? quotes brackets text generalizing expression rest
  -- a character is taken, or three quotes, or a comparison of two characters, or what ends the text is met
  case case3 | case4 | case6 | case9 | case11 | case15 | case17 =>
    rename_i ih
    obtain ⟨⟨inner, after⟩, found, same⟩ := Option.map_eq_some_iff.1 read
    cases same
    rw [ih found]
    rfl
  case case5 quotes brackets c text next _ _ _ three ih =>
    obtain ⟨⟨inner, after⟩, found, same⟩ := Option.map_eq_some_iff.1 read
    cases same
    rw [← List.take_append_drop 2 text, ih found, show text.take 2 = [c, c] from beq_iff_eq.1 three]
    rfl
  case case8 brackets c text _ _ three ih =>
    obtain ⟨⟨inner, after⟩, found, same⟩ := Option.map_eq_some_iff.1 read
    cases same
    rw [← List.take_append_drop 2 text, ih found, beq_iff_eq.1 three]
    rfl
  case case13 brackets c text _ _ _ _ compares ih =>
    obtain ⟨⟨inner, after⟩, found, same⟩ := Option.map_eq_some_iff.1 read
    cases same
    rw [Bool.and_eq_true, beq_iff_eq] at compares
    obtain ⟨more, rfl⟩ := List.head?_eq_some_iff.1 compares.2
    rw [show more = inner ++ rest from ih found]
    rfl
  case case12 =>
    cases read
    rfl
  all_goals cases read

/-- `rest <:+ text`: what follows an expression and its conversion is the rest of the text. -/
theorem afterExpression?_suffix {text rest : List Char} (read : afterExpression? text = some rest) :
    rest <:+ text := by
  unfold afterExpression? at read
  split at read
  -- the blanks behind an equals sign are passed first
  case' h_1 more =>
    have passed := (List.dropWhile_suffix fun c => isFieldBlank c || c == '\r' || c == '\x0B').trans
      (List.suffix_cons '=' more)
    refine List.IsSuffix.trans ?_ passed
    generalize more.dropWhile _ = middle at read
  -- what is left then starts with a conversion or is the rest itself
  all_goals
    dsimp only at read
    split at read
    · split at read
      · cases read
        exact List.suffix_append ['!', _] rest
      · cases read
    · cases read
    · cases read
      exact List.suffix_refl _

/-- `placeOfRest place (first ++ rest) rest = place.after first`: the place of the rest of a text
is the one behind what stands before it. -/
theorem placeOfRest_append (place : Place) (first rest : List Char) :
    placeOfRest place (first ++ rest) rest = place.after first := by
  rw [placeOfRest, List.length_append, Nat.add_sub_cancel, List.take_left]

/-- **The rest of a text ends where the text does.** -/
theorem line_placeOfRest {place : Place} {text rest : List Char} (suffix : rest <:+ text) :
    (placeOfRest place text rest).line + rest.count '\n' = place.line + text.count '\n' := by
  obtain ⟨first, rfl⟩ := suffix
  rw [placeOfRest_append, Place.line_after, List.count_append, Nat.add_assoc]

/-! ## Fields -/

/-- **A field that ends by some line:** `field.place.line + field.text.count '\n' ≤ line`. -/
def Field.EndsBy (line : Nat) (field : Field) : Prop :=
  field.place.line + field.text.count '\n' ≤ line

/-- The fields of a text end where the text does, and what is left of the text is its rest. -/
theorem endsBy_of_fieldsIn? {isRaw : Bool} {steps depth : Nat} {place : Place} {text rest : List Char}
    {fields : List Field} (read : fieldsIn? isRaw steps depth place text = some (fields, rest)) :
    (∀ field ∈ fields, field.EndsBy (place.line + text.count '\n')) ∧ rest <:+ text := by
  induction steps generalizing depth place text rest fields with
  | zero => cases read
  | succ steps ih =>
      -- reading on behind some part of a text keeps within the text
      have onward {depth : Nat} {place : Place} {text behind rest : List Char} {fields : List Field}
          (suffix : behind <:+ text)
          (read : fieldsIn? isRaw steps depth (placeOfRest place text behind) behind =
            some (fields, rest)) :
          (∀ field ∈ fields, field.EndsBy (place.line + text.count '\n')) ∧ rest <:+ text := by
        obtain ⟨inside, more⟩ := ih read
        rw [line_placeOfRest suffix] at inside
        exact ⟨inside, more.trans suffix⟩
      unfold fieldsIn? at read
      split at read
      · cases read
      · next part found =>
        have suffix := literalPart?_suffix found
        have here := @line_placeOfRest place _ _ suffix
        obtain ⟨literal, ending, behind⟩ := part
        dsimp only at read suffix here
        split at read
        · cases read
        split at read
        · exact onward suffix read
        · next inner =>
          split at read
          · cases read
          split at read
          · cases read
          · next expression tail field =>
            obtain rfl := fieldText?_eq field
            split at read
            · cases read
            generalize placeOfRest place text ('\x7b' :: (expression ++ tail)) = after at read here
            rw [← here]
            have own : Field.EndsBy (after.line + ('\x7b' :: (expression ++ tail)).count '\n')
                ⟨after, expression⟩ := by
              show after.line + expression.count '\n' ≤ _
              rw [List.count_cons, List.count_append]
              omega
            have left {rest : List Char} (more : rest <:+ tail) :
                rest <:+ '\x7b' :: (expression ++ tail) :=
              more.trans ((List.suffix_append expression tail).trans (List.suffix_cons _ _))
            split at read
            · next format formatted =>
              have formatSuffix := (List.suffix_cons _ _).trans (afterExpression?_suffix formatted)
              split at read
              · next nested closed nesting =>
                obtain ⟨inside, -⟩ := onward (left formatSuffix) nesting
                have closedSuffix := (List.suffix_cons _ _).trans ((ih nesting).2.trans formatSuffix)
                obtain ⟨⟨others, end_⟩, last, same⟩ := Option.map_eq_some_iff.1 read
                cases same
                obtain ⟨later, more⟩ := onward (left closedSuffix) last
                refine ⟨?_, more.trans suffix⟩
                rw [List.cons_append, List.forall_mem_cons, List.forall_mem_append]
                exact ⟨own, inside, later⟩
              · cases read
            · next closed closing =>
              have closedSuffix := (List.suffix_cons _ _).trans (afterExpression?_suffix closing)
              obtain ⟨⟨others, end_⟩, last, same⟩ := Option.map_eq_some_iff.1 read
              cases same
              obtain ⟨later, more⟩ := onward (left closedSuffix) last
              exact ⟨List.forall_mem_cons.2 ⟨own, later⟩, more.trans suffix⟩
            · cases read
        · cases read
          exact ⟨by simp, suffix⟩

/-- **The fields of a string end where the string does.** -/
theorem endsBy_of_fields? {isRaw : Bool} {place : Place} {text : List Char} {fields : List Field}
    (read : fields? isRaw place text = some fields) :
    ∀ field ∈ fields, field.EndsBy (place.line + text.count '\n') := by
  unfold fields? at read
  split at read
  · next found =>
    cases read
    exact (endsBy_of_fieldsIn? found).1
  · cases read

end StringCatalog.Program
