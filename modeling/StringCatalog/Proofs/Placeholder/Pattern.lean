import Mathlib.Computability.Language
import Mathlib.Data.List.TakeWhile
import StringCatalog.Placeholder.Basic

/-! # The spellings of placeholders

What a conversion and a field may look like, as languages of texts, apart from how a text is searched
for them:

* **`Placeholder.Pattern.percent`** — what may begin with a percent sign: a conversion, or the sign
  doubled.
* **`Placeholder.Pattern.field`** — a field in braces.
* **`Placeholder.conversionLength?_append`** — a conversion is recognised as a whole, whatever follows
  it.
* **`Placeholder.fieldLength?_append`** — so is a field. -/

namespace StringCatalog.Placeholder

namespace Pattern

/-! ## Parts of a pattern -/

/-- One character of a class. -/
def one (belongs : Char → Bool) : Language Char :=
  {text | ∃ c, belongs c = true ∧ text = [c]}

/-- Any number of characters of a class. -/
def many (belongs : Char → Bool) : Language Char :=
  {text | ∀ c ∈ text, belongs c = true}

/-- A fixed text. -/
def exactly (text : String) : Language Char :=
  {text.toList}

/-- A part that may be missing. -/
def perhaps (part : Language Char) : Language Char :=
  1 + part

variable {belongs : Char → Bool} {left right part : Language Char} {text : List Char} {c : Char}

/-- `text ∈ many belongs` says that all characters of the text belong. -/
theorem mem_many : text ∈ many belongs ↔ ∀ c ∈ text, belongs c = true := Iff.rfl

/-- `text ∈ perhaps part ↔ text = [] ∨ text ∈ part`: a part that may be missing. -/
theorem mem_perhaps : text ∈ perhaps part ↔ text = [] ∨ text ∈ part := by
  rw [perhaps, Language.mem_add, Language.mem_one]

/-! ## Conversions -/

/-- Digits. -/
def number : Language Char :=
  one Text.isDecimal * many Text.isDecimal

/-- The number or the name of the value to fill in. -/
def argument : Language Char :=
  number * exactly "$" + exactly "(" * (one isNameStart * (many isNameChar * exactly ")"))

/-- A number, or a star in its place. -/
def amount : Language Char :=
  number + exactly "*"

/-- A full stop and an amount. -/
def precision : Language Char :=
  exactly "." * amount

/-- How wide the value is. -/
def width : Language Char :=
  {text | text ∈ ["hh", "h", "ll", "l", "L", "z", "j", "t"].map String.toList}

/-- What ends a conversion, from the precision on. -/
def ending : Language Char :=
  perhaps precision * (perhaps width * one isConversion)

/-- **What stands behind the percent sign of a conversion.** -/
def conversion : Language Char :=
  perhaps argument * (many isFlag * (perhaps amount * ending))

/-- **What may begin with a percent sign:** a conversion, or the sign doubled. -/
def percent : Language Char :=
  exactly "%" * (conversion + exactly "%")

/-! ## Fields -/

/-- A character of the format of a field. -/
def isFormatChar (c : Char) : Bool :=
  c != '\x7b' && c != '}' && c != '%'

/-- What stands behind the opening brace of a field. -/
def fieldBody : Language Char :=
  many isNameChar *
    (perhaps (one (fun c => c == ':' || c == ',') * many isFormatChar) * exactly "\x7d")

/-- **A field in braces,** whose format has neither braces nor percent signs in it. -/
def field : Language Char :=
  exactly "\x7b" * fieldBody

/-! ## Characters that do not occur -/

/-- Whether no text of a pattern has a character in it: `∀ text ∈ part, c ∉ text`. -/
def Avoids (part : Language Char) (c : Char) : Prop :=
  ∀ text ∈ part, c ∉ text

/-- `one belongs` avoids the characters that do not belong. -/
theorem avoids_one (other : belongs c = false) : Avoids (one belongs) c := by
  rintro _ ⟨d, belongs, rfl⟩ member
  obtain rfl := List.mem_singleton.1 member
  simp [other] at belongs

/-- So does `many belongs`. -/
theorem avoids_many (other : belongs c = false) : Avoids (many belongs) c := by
  intro text all member
  simp [mem_many.1 all c member] at other

/-- `exactly word` avoids the characters that are not in the word. -/
theorem avoids_exactly {word : String} (other : c ∉ word.toList) : Avoids (exactly word) c := by
  rintro _ rfl
  exact other

/-- `left * right` avoids what both avoid. -/
theorem Avoids.mul (first : Avoids left c) (second : Avoids right c) : Avoids (left * right) c := by
  intro text member
  obtain ⟨front, before, rest, behind, rfl⟩ := Language.mem_mul.1 member
  rw [List.mem_append, not_or]
  exact ⟨first front before, second rest behind⟩

/-- `left + right` avoids what both avoid. -/
theorem Avoids.add (first : Avoids left c) (second : Avoids right c) : Avoids (left + right) c := by
  intro text member
  rcases (Language.mem_add _ _ _).1 member with here | there
  · exact first text here
  · exact second text there

/-- `perhaps part` avoids what the part avoids. -/
theorem Avoids.perhaps (h : Avoids part c) : Avoids (perhaps part) c := by
  intro text member
  rcases mem_perhaps.1 member with rfl | there
  · simp
  · exact h text there

end Pattern

open Pattern

variable {text rest : List Char} {c : Char}

/-! ## Runs of characters -/

/-- `run belongs (front ++ c :: rest) = front.length`: a run ends where its characters do. -/
theorem run_append {belongs : Char → Bool} {front : List Char} (all : ∀ c ∈ front, belongs c = true)
    (other : belongs c = false) (rest : List Char) :
    run belongs (front ++ c :: rest) = front.length := by
  have stop : (c :: rest).takeWhile belongs = [] := by simp [other]
  rw [run, List.takeWhile_append_of_pos all, stop, List.append_nil]

/-- `text ∈ number` says that there are digits, and nothing else. -/
theorem mem_number : text ∈ number ↔ text ≠ [] ∧ ∀ c ∈ text, Text.isDecimal c = true := by
  rw [number, Language.mem_mul]
  constructor
  · rintro ⟨_, ⟨c, digit, rfl⟩, rest, digits, rfl⟩
    exact ⟨by simp, List.forall_mem_cons.2 ⟨digit, digits⟩⟩
  · rintro ⟨nonempty, digits⟩
    obtain ⟨c, rest, rfl⟩ := List.exists_cons_of_ne_nil nonempty
    rw [List.forall_mem_cons] at digits
    exact ⟨[c], ⟨c, digits.1, rfl⟩, rest, digits.2, rfl⟩

/-- The eight widths of a conversion. -/
theorem mem_width : text ∈ Pattern.width ↔ text = ['h', 'h'] ∨ text = ['h'] ∨ text = ['l', 'l'] ∨
    text = ['l'] ∨ text = ['L'] ∨ text = ['z'] ∨ text = ['j'] ∨ text = ['t'] := by
  have spelled : ["hh", "h", "ll", "l", "L", "z", "j", "t"].map String.toList =
      [['h', 'h'], ['h'], ['l', 'l'], ['l'], ['L'], ['z'], ['j'], ['t']] := by
    decide
  rw [Pattern.width, spelled]
  simp only [List.mem_cons, List.not_mem_nil, or_false]
  exact Iff.rfl

/-! ## What ends a conversion -/

/-- **A letter that ends a conversion** is not read as anything in front of it. -/
theorem of_isConversion (letter : isConversion c = true) :
    Text.isDecimal c = false ∧ isFlag c = false ∧
      c ∉ ['(', '$', '*', '.', 'h', 'l', 'L', 'z', 'j', 't'] := by
  have letters : ∀ c ∈ "diouxXeEfFgGaAcspn@".toList, Text.isDecimal c = false ∧ isFlag c = false ∧
      c ∉ ['(', '$', '*', '.', 'h', 'l', 'L', 'z', 'j', 't'] := by
    decide
  exact letters c (List.contains_iff_mem.1 letter)

/-- `amount (front ++ c :: rest) = front.length`: an amount is read up to a character that is no
part of one. -/
theorem amount_append {front : List Char} (h : front ∈ perhaps Pattern.amount) (star : c ≠ '*')
    (digit : Text.isDecimal c = false) (rest : List Char) :
    amount (front ++ c :: rest) = front.length := by
  have unstarred {d : Char} (other : d ≠ '*') (more : List Char) :
      amount (d :: more) = run Text.isDecimal (d :: more) := by
    unfold amount
    split
    · next same => exact absurd (List.cons.inj same).1 other
    · rfl
  rcases mem_perhaps.1 h with rfl | h
  · rw [List.nil_append, unstarred star]
    exact run_append (List.forall_mem_nil _) digit rest
  rcases (Language.mem_add _ _ _).1 h with digits | rfl
  · obtain ⟨nonempty, digits⟩ := mem_number.1 digits
    obtain ⟨d, front, rfl⟩ := List.exists_cons_of_ne_nil nonempty
    have other : d ≠ '*' := by
      rintro rfl
      exact absurd (digits '*' List.mem_cons_self) (by decide)
    rw [List.cons_append, unstarred other, ← List.cons_append]
    exact run_append digits digit rest
  · rfl

/-- `precision (front ++ c :: rest) = front.length`: so is a precision. -/
theorem precision_append {front : List Char} (h : front ∈ perhaps Pattern.precision)
    (plain : c ≠ '*' ∧ c ≠ '.') (digit : Text.isDecimal c = false) (rest : List Char) :
    precision (front ++ c :: rest) = front.length := by
  rcases mem_perhaps.1 h with rfl | h
  · unfold precision
    split
    · next same => exact absurd (List.cons.inj same).1 plain.2
    · rfl
  · obtain ⟨_, rfl, inner, known, rfl⟩ := Language.mem_mul.1 h
    have length := amount_append (mem_perhaps.2 (.inr known)) plain.1 digit rest
    have nonempty : inner.length ≠ 0 := by
      rcases (Language.mem_add _ _ _).1 known with digits | rfl
      · simpa using (mem_number.1 digits).1
      · decide
    simp [precision, length, nonempty]

/-- `width (front ++ c :: rest) = front.length`: the width of the value is read up to the letter
behind it. -/
theorem width_append {front : List Char} (h : front ∈ perhaps Pattern.width)
    (letter : isConversion c = true) (rest : List Char) :
    width (front ++ c :: rest) = front.length := by
  have other := (of_isConversion letter).2.2
  simp only [List.mem_cons, List.not_mem_nil, or_false, not_or] at other
  rcases mem_perhaps.1 h with rfl | h
  · simp [width, other]
  · rcases mem_width.1 h with rfl | rfl | rfl | rfl | rfl | rfl | rfl | rfl <;> simp [width, other]

/-- The letters at the end of a conversion begin with one that is not read as anything else. -/
theorem exists_of_mem_letters (h : text ∈ perhaps Pattern.width * one isConversion) :
    ∃ c more, text = c :: more ∧ Text.isDecimal c = false ∧ isFlag c = false ∧
      c ≠ '*' ∧ c ≠ '.' := by
  obtain ⟨front, wide, _, ⟨c, letter, rfl⟩, rfl⟩ := Language.mem_mul.1 h
  rcases mem_perhaps.1 wide with rfl | wide
  · obtain ⟨digit, flag, other⟩ := of_isConversion letter
    simp only [List.mem_cons, List.not_mem_nil, or_false, not_or] at other
    exact ⟨c, [], rfl, digit, flag, other.2.2.1, other.2.2.2.1⟩
  · rcases mem_width.1 wide with rfl | rfl | rfl | rfl | rfl | rfl | rfl | rfl <;>
      exact ⟨_, _, rfl, by decide, by decide, by decide, by decide⟩

/-- What ends a conversion begins with a full stop or with such a letter. -/
theorem exists_of_mem_ending (h : text ∈ ending) :
    ∃ c more, text = c :: more ∧ Text.isDecimal c = false ∧ isFlag c = false ∧ c ≠ '*' := by
  obtain ⟨front, precise, _, behind, rfl⟩ := Language.mem_mul.1 h
  rcases mem_perhaps.1 precise with rfl | precise
  · obtain ⟨c, more, rfl, digit, flag, star, -⟩ := exists_of_mem_letters behind
    exact ⟨c, more, rfl, digit, flag, star⟩
  · obtain ⟨_, rfl, inner, -, rfl⟩ := Language.mem_mul.1 precise
    exact ⟨'.', _, rfl, by decide, by decide, by decide⟩

/-! ## Arguments -/

/-- A text that does not begin with a parenthesis may only have the number of a value in front. -/
theorem argument_of_ne (other : c ≠ '(') (rest : List Char) :
    argument (c :: rest) =
      if 0 < run Text.isDecimal (c :: rest) ∧
          ((c :: rest).drop (run Text.isDecimal (c :: rest))).head? = some '$' then
        run Text.isDecimal (c :: rest) + 1
      else 0 := by
  unfold argument
  split
  · next same => exact absurd (List.cons.inj same).1 other
  · simp only [Bool.and_eq_true, decide_eq_true_eq, beq_iff_eq]

/-- Digits are no number of a value where no dollar sign follows before the text stops being
digits. -/
theorem head?_drop_run {front : List Char} (dollars : '$' ∉ front) (dollar : c ≠ '$')
    (digit : Text.isDecimal c = false) (rest : List Char) :
    ((front ++ c :: rest).drop (run Text.isDecimal (front ++ c :: rest))).head? ≠ some '$' := by
  unfold run
  induction front with
  | nil => simpa [digit] using dollar
  | cons first front ih =>
      rw [List.mem_cons, not_or] at dollars
      rw [List.cons_append, List.takeWhile_cons]
      split
      · exact ih dollars.2
      · simpa using Ne.symm dollars.1

/-- Where there is neither a parenthesis nor a dollar sign, there is no argument. -/
theorem argument_eq_zero {front : List Char} (paren : '(' ∉ front) (dollars : '$' ∉ front)
    (letter : isConversion c = true) (rest : List Char) : argument (front ++ c :: rest) = 0 := by
  obtain ⟨digit, -, other⟩ := of_isConversion letter
  simp only [List.mem_cons, List.not_mem_nil, or_false, not_or] at other
  have none := head?_drop_run dollars other.2.1 digit rest
  cases front with
  | nil =>
      rw [List.nil_append] at none ⊢
      rw [argument_of_ne other.1, if_neg fun both => none both.2]
  | cons first front =>
      rw [List.mem_cons, not_or] at paren
      rw [List.cons_append] at none ⊢
      rw [argument_of_ne (Ne.symm paren.1), if_neg fun both => none both.2]

/-- **An argument is recognised,** whatever follows it:
`argument (front ++ rest) = front.length`. -/
theorem argument_append {front : List Char} (h : front ∈ Pattern.argument) (rest : List Char) :
    argument (front ++ rest) = front.length := by
  rcases (Language.mem_add _ _ _).1 h with numbered | named
  · obtain ⟨digits, known, _, rfl, rfl⟩ := Language.mem_mul.1 numbered
    obtain ⟨nonempty, all⟩ := mem_number.1 known
    have length : run Text.isDecimal (digits ++ '$' :: rest) = digits.length :=
      run_append all (by decide) rest
    obtain ⟨d, digits, rfl⟩ := List.exists_cons_of_ne_nil nonempty
    have other : d ≠ '(' := by
      rintro rfl
      exact absurd (all '(' List.mem_cons_self) (by decide)
    have dollar : ((d :: digits ++ '$' :: rest).drop (d :: digits).length).head? = some '$' := by
      rw [List.drop_left]
      rfl
    have shape : d :: digits ++ "$".toList ++ rest = d :: digits ++ '$' :: rest :=
      List.append_assoc _ _ _
    rw [shape, List.length_append]
    rw [List.cons_append] at length dollar ⊢
    rw [argument_of_ne other, length, if_pos ⟨Nat.succ_pos _, dollar⟩]
    rfl
  · obtain ⟨_, rfl, _, inner, rfl⟩ := Language.mem_mul.1 named
    obtain ⟨_, ⟨c, start, rfl⟩, _, behind, rfl⟩ := Language.mem_mul.1 inner
    obtain ⟨name, chars, _, rfl, rfl⟩ := Language.mem_mul.1 behind
    have length : run isNameChar (name ++ ')' :: rest) = name.length :=
      run_append chars (by decide) rest
    have shape : "(".toList ++ ([c] ++ (name ++ ")".toList)) ++ rest =
        '(' :: c :: (name ++ ')' :: rest) := by
      simp
    rw [shape]
    simp [argument, length, start]

/-! ## Conversions -/

/-- **Flags and an amount may be told apart** so that all flags are in front: a zero in front of an
amount is a flag as well as a digit. -/
theorem exists_flags_amount {flags front : List Char} (all : flags ∈ many isFlag)
    (h : front ∈ perhaps Pattern.amount) :
    ∃ more ∈ many isFlag, ∃ other ∈ perhaps Pattern.amount, flags ++ front = more ++ other ∧
      ∀ c ∈ other.head?, isFlag c = false := by
  have stop : ∀ c ∈ (front.dropWhile isFlag).head?, isFlag c = false := by
    intro c first
    simpa [Option.mem_def.1 first] using List.head?_dropWhile_not isFlag front
  refine ⟨flags ++ front.takeWhile isFlag, ?_, front.dropWhile isFlag, ?_, ?_, stop⟩
  · exact List.forall_mem_append.2 ⟨all, fun c member => List.mem_takeWhile_imp member⟩
  · rcases mem_perhaps.1 h with rfl | h
    · exact mem_perhaps.2 (.inl rfl)
    rcases (Language.mem_add _ _ _).1 h with digits | rfl
    · -- what is left of some digits are some digits or nothing
      by_cases none : front.dropWhile isFlag = []
      · exact mem_perhaps.2 (.inl none)
      · refine mem_perhaps.2 (.inr ((Language.mem_add _ _ _).2 (.inl (mem_number.2 ⟨none, ?_⟩))))
        intro c member
        exact (mem_number.1 digits).2 c ((List.dropWhile_suffix isFlag).subset member)
    · exact mem_perhaps.2 (.inr ((Language.mem_add _ _ _).2 (.inr rfl)))
  · rw [List.append_assoc, List.takeWhile_append_dropWhile]

/-- A character that is no flag, no digit and none of the letters and signs between them does not
occur in front of the letter of a conversion, arguments apart. -/
theorem avoids_settings (flag : isFlag c = false) (digit : Text.isDecimal c = false)
    (other : c ∉ ['*', '.', 'h', 'l', 'L', 'z', 'j', 't']) :
    Avoids (many isFlag *
      (perhaps Pattern.amount * (perhaps Pattern.precision * perhaps Pattern.width))) c := by
  simp only [List.mem_cons, List.not_mem_nil, or_false, not_or] at other
  have digits : Avoids number c := (avoids_one digit).mul (avoids_many digit)
  have inner : Avoids Pattern.amount c := digits.add (avoids_exactly (by simp [other]))
  have precise : Avoids Pattern.precision c := (avoids_exactly (by simp [other])).mul inner
  have wide : Avoids Pattern.width c := by
    intro text h
    rcases mem_width.1 h with rfl | rfl | rfl | rfl | rfl | rfl | rfl | rfl <;> simp [other]
  exact (avoids_many flag).mul (inner.perhaps.mul (precise.perhaps.mul wide.perhaps))

/-- `run isFlag (flags ++ (front ++ (last ++ rest))) = flags.length`: flags end where an amount
that begins with none, or what ends the conversion, begins. -/
theorem flags_append {flags front last : List Char} (all : flags ∈ many isFlag)
    (stop : ∀ c ∈ front.head?, isFlag c = false) (ends : last ∈ ending) (rest : List Char) :
    run isFlag (flags ++ (front ++ (last ++ rest))) = flags.length := by
  obtain ⟨c, more, rfl, -, flag, -⟩ := exists_of_mem_ending ends
  cases front with
  | nil => exact run_append all flag (more ++ rest)
  | cons first front => exact run_append all (stop first rfl) (front ++ (c :: more ++ rest))

/-- `amount (front ++ (last ++ rest)) = front.length`: an amount ends where what ends the
conversion begins. -/
theorem amount_ending {front last : List Char} (h : front ∈ perhaps Pattern.amount)
    (ends : last ∈ ending) (rest : List Char) :
    amount (front ++ (last ++ rest)) = front.length := by
  obtain ⟨c, more, rfl, digit, -, star⟩ := exists_of_mem_ending ends
  exact amount_append h star digit (more ++ rest)

/-- `precision (front ++ (last ++ rest)) = front.length`: a precision ends where the letters
begin. -/
theorem precision_letters {front last : List Char} (h : front ∈ perhaps Pattern.precision)
    (ends : last ∈ perhaps Pattern.width * one isConversion) (rest : List Char) :
    precision (front ++ (last ++ rest)) = front.length := by
  obtain ⟨c, more, rfl, digit, -, plain⟩ := exists_of_mem_letters ends
  exact precision_append h plain digit (more ++ rest)

/-- The parts in front of the letter of a conversion, one after another. -/
theorem settings_eq {first second third fourth fifth : List Char}
    (one : argument (first ++ (second ++ (third ++ (fourth ++ (fifth ++ rest))))) = first.length)
    (two : run isFlag (second ++ (third ++ (fourth ++ (fifth ++ rest)))) = second.length)
    (three : amount (third ++ (fourth ++ (fifth ++ rest))) = third.length)
    (four : precision (fourth ++ (fifth ++ rest)) = fourth.length)
    (five : width (fifth ++ rest) = fifth.length) :
    settings (first ++ (second ++ (third ++ (fourth ++ (fifth ++ rest))))) =
      (first ++ (second ++ (third ++ (fourth ++ fifth)))).length := by
  simp only [settings, List.foldl_cons, List.foldl_nil, List.drop_zero, Nat.zero_add,
    ← List.drop_drop, List.drop_left, one, two, three, four, five, List.length_append,
    Nat.add_assoc]

/-- `conversionLength? (front ++ c :: rest) = some (front ++ [c]).length`: a letter behind these
parts ends a conversion. -/
theorem conversionLength?_letter {front : List Char}
    (length : settings (front ++ c :: rest) = front.length) (letter : isConversion c = true) :
    conversionLength? (front ++ c :: rest) = some (front ++ [c]).length := by
  unfold conversionLength?
  simp only [length, List.drop_left, letter, if_true, List.length_append, List.length_singleton]

/-- **A conversion is recognised as a whole,** whatever follows it:
`conversionLength? (text ++ rest) = some text.length`. -/
theorem conversionLength?_append (h : text ∈ Pattern.conversion) (rest : List Char) :
    conversionLength? (text ++ rest) = some text.length := by
  obtain ⟨first, numbered, _, inner, rfl⟩ := Language.mem_mul.1 h
  obtain ⟨flags, all, _, behind, rfl⟩ := Language.mem_mul.1 inner
  obtain ⟨front, sized, last, ends, rfl⟩ := Language.mem_mul.1 behind
  obtain ⟨second, flagged, third, known, same, stop⟩ := exists_flags_amount all sized
  obtain ⟨fourth, precise, letters, finish, rfl⟩ := Language.mem_mul.1 ends
  have two := flags_append flagged stop ends rest
  have three := amount_ending known ends rest
  have four := precision_letters precise finish rest
  obtain ⟨fifth, wide, _, ⟨c, letter, rfl⟩, rfl⟩ := Language.mem_mul.1 finish
  have five := width_append wide letter rest
  have one : argument (first ++ (second ++ (third ++ (fourth ++ (fifth ++ c :: rest))))) =
      first.length := by
    rcases mem_perhaps.1 numbered with rfl | numbered
    · have settings := Language.append_mem_mul flagged (Language.append_mem_mul known
        (Language.append_mem_mul precise wide))
      have none := argument_eq_zero (avoids_settings (by decide) (by decide) (by decide) _ settings)
        (avoids_settings (by decide) (by decide) (by decide) _ settings) letter rest
      simpa only [List.append_assoc, List.nil_append, List.length_nil] using none
    · exact argument_append numbered _
  simp only [List.append_assoc, List.singleton_append] at two three four
  have length := settings_eq one two three four five
  -- the text is these parts with the letter behind them
  have shape : first ++ (flags ++ (front ++ (fourth ++ (fifth ++ [c])))) =
      first ++ (second ++ (third ++ (fourth ++ fifth))) ++ [c] := by
    rw [← List.append_assoc flags, same]
    simp only [List.append_assoc]
  have whole : first ++ (second ++ (third ++ (fourth ++ (fifth ++ c :: rest)))) =
      first ++ (second ++ (third ++ (fourth ++ fifth))) ++ c :: rest := by
    simp only [List.append_assoc]
  rw [whole] at length
  rw [shape, List.append_assoc, List.singleton_append]
  exact conversionLength?_letter length letter

/-- `conversionLength? ('%' :: rest) = none`: a percent sign begins no conversion of its own behind
another. -/
theorem conversionLength?_percent (rest : List Char) : conversionLength? ('%' :: rest) = none := by
  have settings : settings ('%' :: rest) = 0 := by
    have number : Text.isDecimal '%' = false := by decide
    have flag : isFlag '%' = false := by decide
    simp [settings, argument, amount, precision, width, run, number, flag]
  simp [conversionLength?, settings, isConversion]

/-- A conversion has no braces. -/
theorem avoids_percent (brace : c = '\x7b' ∨ c = '}') : Avoids percent c := by
  have facts : Text.isDecimal c = false ∧ isFlag c = false ∧ isNameStart c = false ∧
      isNameChar c = false ∧ isConversion c = false ∧
      c ∉ ['(', ')', '$', '%'] ∧ c ∉ ['*', '.', 'h', 'l', 'L', 'z', 'j', 't'] := by
    rcases brace with rfl | rfl <;> decide
  obtain ⟨digit, flag, start, name, letter, signs, others⟩ := facts
  simp only [List.mem_cons, List.not_mem_nil, or_false, not_or] at signs
  have digits : Avoids number c := (avoids_one digit).mul (avoids_many digit)
  have numbered : Avoids (number * exactly "$") c := digits.mul (avoids_exactly (by simp [signs]))
  have named : Avoids (exactly "(" * (one isNameStart * (many isNameChar * exactly ")"))) c :=
    (avoids_exactly (by simp [signs])).mul
      ((avoids_one start).mul ((avoids_many name).mul (avoids_exactly (by simp [signs]))))
  have behind := (avoids_settings flag digit others).mul (avoids_one letter)
  have whole : Avoids Pattern.conversion c := by
    simpa only [Pattern.conversion, Pattern.argument, ending, mul_assoc] using
      (numbered.add named).perhaps.mul behind
  have sign : Avoids (exactly "%") c := avoids_exactly (by simp [signs])
  exact sign.mul (whole.add sign)

/-! ## Fields -/

/-- `fieldLength? (name ++ '}' :: rest) = some (name.length + 1)`: a name with a brace behind it. -/
theorem fieldLength?_brace {name : List Char} (chars : name ∈ many isNameChar) (rest : List Char) :
    fieldLength? (name ++ '}' :: rest) = some (name.length + 1) := by
  have length : run isNameChar (name ++ '}' :: rest) = name.length :=
    run_append chars (by decide) rest
  unfold fieldLength?
  simp only [length, List.drop_left]

/-- A name with a format and a brace behind it. -/
theorem fieldLength?_format {name format : List Char} (chars : name ∈ many isNameChar)
    (mark : c = ':' ∨ c = ',') (plain : format ∈ many isFormatChar) (rest : List Char) :
    fieldLength? (name ++ c :: (format ++ '}' :: rest)) =
      some (name.length + format.length + 2) := by
  have other : isNameChar c = false ∧ c ≠ '}' ∧ (c == ':' || c == ',') = true := by
    rcases mark with rfl | rfl <;> decide
  have length : run isNameChar (name ++ c :: (format ++ '}' :: rest)) = name.length :=
    run_append chars other.1 _
  have inner : run (fun d => d != '\x7b' && d != '}') (format ++ '}' :: rest) = format.length := by
    refine run_append (fun d member => ?_) (by decide) rest
    have known := plain d member
    rw [isFormatChar, Bool.and_eq_true] at known
    exact known.1
  unfold fieldLength?
  simp only [length, List.drop_left]
  simp [other, inner]

/-- **A field is recognised as a whole,** whatever follows it:
`fieldLength? (text ++ rest) = some text.length`. -/
theorem fieldLength?_append (h : text ∈ fieldBody) (rest : List Char) :
    fieldLength? (text ++ rest) = some text.length := by
  obtain ⟨name, chars, _, behind, rfl⟩ := Language.mem_mul.1 h
  obtain ⟨_, known, _, rfl, rfl⟩ := Language.mem_mul.1 behind
  rcases mem_perhaps.1 known with rfl | known
  · have shape : name ++ ([] ++ "\x7d".toList) ++ rest = name ++ '}' :: rest := by simp
    rw [shape, fieldLength?_brace chars]
    simp
  · obtain ⟨_, ⟨c, mark, rfl⟩, format, plain, rfl⟩ := Language.mem_mul.1 known
    have shape : name ++ ([c] ++ format ++ "\x7d".toList) ++ rest =
        name ++ c :: (format ++ '}' :: rest) := by
      simp
    rw [shape, fieldLength?_format chars (by simpa using mark) plain]
    simp
    omega

/-- `text ≠ []`: there is something behind the opening brace of a field. -/
theorem ne_nil_of_mem_fieldBody (h : text ∈ fieldBody) : text ≠ [] := by
  obtain ⟨name, -, _, behind, rfl⟩ := Language.mem_mul.1 h
  obtain ⟨format, -, _, rfl, rfl⟩ := Language.mem_mul.1 behind
  simp

/-- But no further opening brace. -/
theorem avoids_fieldBody : Avoids fieldBody '\x7b' :=
  (avoids_many (by decide)).mul
    (((avoids_one (by decide)).mul (avoids_many (by decide))).perhaps.mul
      (avoids_exactly (by decide)))

/-- A field has no percent sign. -/
theorem avoids_field : Avoids Pattern.field '%' :=
  (avoids_exactly (by decide)).mul ((avoids_many (by decide)).mul
    (((avoids_one (by decide)).mul (avoids_many (by decide))).perhaps.mul
      (avoids_exactly (by decide))))

end StringCatalog.Placeholder
