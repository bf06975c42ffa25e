import StringCatalog.Proofs.Placeholder.Pattern

/-! # Texts put together from placeholders

A text may be written piece by piece: placeholders as they are, and everything else with its percent
signs and braces doubled.

* **`Chunk`** — a piece of a text: a conversion, a field, or plain text.
* **`Chunk.conversionsFrom_written`, `Chunk.fieldsFrom_written`** — what is found in one piece, whatever
  follows it.
* **`placeholders_written`** — the placeholders of such a text are those that it was put together
  from. -/

namespace StringCatalog

open Placeholder

/-! ## Pieces -/

/-- Percent signs and braces have to be doubled in plain text. -/
def isDoubled (c : Char) : Bool :=
  c == '%' || c == '\x7b' || c == '}'

/-- **Plain text** with its percent signs and braces doubled. -/
def doubled (text : List Char) : List Char :=
  text.flatMap fun c => if isDoubled c then [c, c] else [c]

/-- **A piece of a text.** -/
inductive Chunk where
  /-- A conversion in its spelling; the percent sign doubled is none. -/
  | conversion (text : List Char) (proper : text ∈ Pattern.percent) (single : text ≠ ['%', '%'])
  /-- A field in its spelling. -/
  | field (text : List Char) (proper : text ∈ Pattern.field)
  /-- Any text, before anything in it has been doubled. -/
  | plain (text : List Char)

namespace Chunk

/-- How a piece is written. -/
def written : Chunk → List Char
  | conversion text _ _ => text
  | field text _ => text
  | plain text => doubled text

/-- The conversion of a piece. -/
def conversion? : Chunk → Option Placeholder
  | conversion text _ _ => some (.conversion (String.ofList text))
  | _ => none

/-- The field of a piece. -/
def field? : Chunk → Option Placeholder
  | field text _ => some (.field (String.ofList text))
  | _ => none

end Chunk

/-! ## Passing over characters -/

variable {text rest : List Char}

/-- `conversionsFrom front.length (front ++ rest) = conversionsFrom 0 rest`: the characters of a
conversion are passed over. -/
theorem conversionsFrom_length (front rest : List Char) :
    conversionsFrom front.length (front ++ rest) = conversionsFrom 0 rest := by
  induction front with
  | nil => rfl
  | cons c front ih => exact ih

/-- `fieldsFrom front.length (front ++ rest) = fieldsFrom 0 rest`: so are those of a field. -/
theorem fieldsFrom_length (front rest : List Char) :
    fieldsFrom front.length (front ++ rest) = fieldsFrom 0 rest := by
  induction front with
  | nil => rfl
  | cons c front ih => exact ih

/-- `conversionsFrom 0 (text ++ rest) = conversionsFrom 0 rest`: there is no conversion where there
is no percent sign. -/
theorem conversionsFrom_of_notMem (h : '%' ∉ text) (rest : List Char) :
    conversionsFrom 0 (text ++ rest) = conversionsFrom 0 rest := by
  induction text with
  | nil => rfl
  | cons c text ih =>
      rw [List.mem_cons, not_or] at h
      rw [List.cons_append, conversionsFrom, if_neg (by simpa using Ne.symm h.1)]
      exact ih h.2

/-- There is no field where there is no brace. -/
theorem fieldsFrom_of_notMem (h : '\x7b' ∉ text) (closed : '}' ∉ text) (rest : List Char) :
    fieldsFrom 0 (text ++ rest) = fieldsFrom 0 rest := by
  induction text with
  | nil => rfl
  | cons c text ih =>
      rw [List.mem_cons, not_or] at h closed
      have plain : (c == '\x7b') = false := by simpa using Ne.symm h.1
      have other : (c == '}') = false := by simpa using Ne.symm closed.1
      rw [List.cons_append, fieldsFrom]
      simp only [plain, other, Bool.or_self, Bool.false_and, Bool.false_eq_true, if_false]
      exact ih h.2 closed.2

/-! ## Plain text -/

/-- **Plain text has no conversions:** each percent sign in it is passed over with the one behind
it; `conversionsFrom 0 (doubled text ++ rest) = conversionsFrom 0 rest`. -/
theorem conversionsFrom_doubled (text rest : List Char) :
    conversionsFrom 0 (doubled text ++ rest) = conversionsFrom 0 rest := by
  induction text with
  | nil => rfl
  | cons c text ih =>
      rw [doubled, List.flatMap_cons, ← doubled, List.append_assoc]
      by_cases percent : c = '%'
      · subst percent
        have sign : (if isDoubled '%' then ['%', '%'] else ['%']) = ['%', '%'] := rfl
        rw [sign]
        simp only [List.cons_append, List.nil_append]
        rw [conversionsFrom, if_pos (beq_self_eq_true _), conversionLength?_percent]
        exact ih
      · have none : '%' ∉ (if isDoubled c then [c, c] else [c]) := by
          split <;> simp [Ne.symm percent]
        rw [conversionsFrom_of_notMem none]
        exact ih

/-- **Plain text has no fields:** each brace in it is passed over with the one behind it;
`fieldsFrom 0 (doubled text ++ rest) = fieldsFrom 0 rest`. -/
theorem fieldsFrom_doubled (text rest : List Char) :
    fieldsFrom 0 (doubled text ++ rest) = fieldsFrom 0 rest := by
  induction text with
  | nil => rfl
  | cons c text ih =>
      rw [doubled, List.flatMap_cons, ← doubled, List.append_assoc]
      by_cases brace : c = '\x7b' ∨ c = '}'
      · have sign : (if isDoubled c then [c, c] else [c]) = [c, c] := by
          rcases brace with rfl | rfl <;> rfl
        have both : (c == '\x7b' || c == '}') = true := by simpa using brace
        rw [sign]
        simp only [List.cons_append, List.nil_append]
        rw [fieldsFrom]
        simp only [both, List.head?_cons, beq_self_eq_true, Bool.and_self, if_true]
        exact ih
      · rw [not_or] at brace
        rw [fieldsFrom_of_notMem]
        · exact ih
        · split <;> simp [Ne.symm brace.1]
        · split <;> simp [Ne.symm brace.2]

/-! ## Placeholders -/

/-- **A conversion is found as it is,** whatever follows it. -/
theorem conversionsFrom_percent (proper : text ∈ Pattern.percent) (single : text ≠ ['%', '%'])
    (rest : List Char) :
    conversionsFrom 0 (text ++ rest) =
      .conversion (String.ofList text) :: conversionsFrom 0 rest := by
  obtain ⟨_, rfl, body, known, rfl⟩ := Language.mem_mul.1 proper
  rcases (Language.mem_add _ _ _).1 known with known | rfl
  · have length := conversionLength?_append known rest
    have shape : "%".toList ++ body ++ rest = '%' :: (body ++ rest) := rfl
    rw [shape, conversionsFrom, if_pos (beq_self_eq_true _), length]
    simp only [List.take_left, conversionsFrom_length]
    rfl
  · exact absurd rfl single

/-- **A field is found as it is,** whatever follows it. -/
theorem fieldsFrom_field (proper : text ∈ Pattern.field) (rest : List Char) :
    fieldsFrom 0 (text ++ rest) = .field (String.ofList text) :: fieldsFrom 0 rest := by
  obtain ⟨_, rfl, body, known, rfl⟩ := Language.mem_mul.1 proper
  have length := fieldLength?_append known rest
  have single : ((body ++ rest).head? == some '\x7b') = false := by
    obtain ⟨c, more, rfl⟩ := List.exists_cons_of_ne_nil (ne_nil_of_mem_fieldBody known)
    have other := avoids_fieldBody _ known
    rw [List.mem_cons, not_or] at other
    simpa using Ne.symm other.1
  have shape : "\x7b".toList ++ body ++ rest = '\x7b' :: (body ++ rest) := rfl
  rw [shape, fieldsFrom]
  simp only [single, Bool.and_false, Bool.false_eq_true, if_false, beq_self_eq_true, if_true, length,
    List.take_left, fieldsFrom_length]
  rfl

/-! ## Texts of many pieces -/

namespace Chunk

/-- **What is found of conversions** in one piece is the conversion that it is. -/
theorem conversionsFrom_written (chunk : Chunk) (rest : List Char) :
    conversionsFrom 0 (chunk.written ++ rest) =
      chunk.conversion?.toList ++ conversionsFrom 0 rest := by
  cases chunk with
  | conversion text proper single => exact conversionsFrom_percent proper single rest
  | field text proper => exact conversionsFrom_of_notMem (avoids_field text proper) rest
  | plain text => exact conversionsFrom_doubled text rest

/-- **What is found of fields** in one piece is the field that it is. -/
theorem fieldsFrom_written (chunk : Chunk) (rest : List Char) :
    fieldsFrom 0 (chunk.written ++ rest) = chunk.field?.toList ++ fieldsFrom 0 rest := by
  cases chunk with
  | conversion text proper single =>
      exact fieldsFrom_of_notMem (avoids_percent (.inl rfl) text proper)
        (avoids_percent (.inr rfl) text proper) rest
  | field text proper => exact fieldsFrom_field proper rest
  | plain text => exact fieldsFrom_doubled text rest

/-- **The conversions of many pieces.** -/
theorem conversionsFrom_flatMap (chunks : List Chunk) :
    conversionsFrom 0 (chunks.flatMap written) = chunks.filterMap conversion? := by
  induction chunks with
  | nil => rfl
  | cons chunk chunks ih =>
      rw [List.flatMap_cons, conversionsFrom_written, ih, List.filterMap_cons]
      cases chunk.conversion? <;> rfl

/-- **The fields of many pieces:**
`fieldsFrom 0 (chunks.flatMap written) = chunks.filterMap field?`. -/
theorem fieldsFrom_flatMap (chunks : List Chunk) :
    fieldsFrom 0 (chunks.flatMap written) = chunks.filterMap field? := by
  induction chunks with
  | nil => rfl
  | cons chunk chunks ih =>
      rw [List.flatMap_cons, fieldsFrom_written, ih, List.filterMap_cons]
      cases chunk.field? <;> rfl

end Chunk

/-- What kind of placeholders there are, said of two lists of pieces of these kinds. -/
theorem formatHint?_eq {chunks : List Chunk} {text : String}
    (conversions : conversionsFrom 0 text.toList = chunks.filterMap Chunk.conversion?)
    (fields : fieldsFrom 0 text.toList = chunks.filterMap Chunk.field?) :
    formatHint? text =
      if ∃ chunk ∈ chunks, chunk.conversion?.isSome then some "python-format"
      else if ∃ chunk ∈ chunks, chunk.field?.isSome then some "python-brace-format"
      else none := by
  have isEmpty (find? : Chunk → Option Placeholder) :
      (chunks.filterMap find?).isEmpty = true ↔ ¬∃ chunk ∈ chunks, (find? chunk).isSome := by
    rw [List.isEmpty_iff, List.filterMap_eq_nil_iff]
    simp
  rw [formatHint?, conversions, fields]
  simp only [isEmpty, ite_not]

/-- **The placeholders of a text that is put together from pieces** are
`chunks.filterMap conversion? ++ chunks.filterMap field?`: the conversions among these, and then
the fields, each in the order of the pieces. Its `formatHint?` is that of the conversions if there
are any, and else that of the fields. Plain text alone, `doubled text`, has no placeholders. -/
theorem placeholders_written (chunks : List Chunk) :
    placeholders (String.ofList (chunks.flatMap Chunk.written)) =
        chunks.filterMap Chunk.conversion? ++ chunks.filterMap Chunk.field? ∧
      formatHint? (String.ofList (chunks.flatMap Chunk.written)) =
        (if ∃ chunk ∈ chunks, chunk.conversion?.isSome then some "python-format"
        else if ∃ chunk ∈ chunks, chunk.field?.isSome then some "python-brace-format"
        else none) ∧
      ∀ text, placeholders (String.ofList (doubled text)) = [] ∧
        hasPlaceholders (String.ofList (doubled text)) = false ∧
        formatHint? (String.ofList (doubled text)) = none := by
  have conversions := Chunk.conversionsFrom_flatMap chunks
  have fields := Chunk.fieldsFrom_flatMap chunks
  refine ⟨?_, ?_, fun text => ?_⟩
  · rw [placeholders, String.toList_ofList, conversions, fields]
  · exact formatHint?_eq (by rw [String.toList_ofList, conversions])
      (by rw [String.toList_ofList, fields])
  · have noConversions := conversionsFrom_doubled text []
    have noFields := fieldsFrom_doubled text []
    rw [List.append_nil] at noConversions noFields
    have none : placeholders (String.ofList (doubled text)) = [] := by
      rw [placeholders, String.toList_ofList, noConversions, noFields]
      rfl
    refine ⟨none, by rw [hasPlaceholders, none]; rfl, ?_⟩
    rw [formatHint?, String.toList_ofList, noConversions, noFields]
    rfl

/-- Doubled signs around placeholders: the signs of the text and those of the placeholders meet. -/
theorem placeholders_written_doubled :
    let text := "100%%%(n)+05.*ld of \x7b\x7b\x7bname:>8\x7d\x7d\x7d"
    placeholders text = [.conversion "%(n)+05.*ld", .field "\x7bname:>8\x7d"] ∧
      formatHint? text = some "python-format" := by
  intro text
  have ending : ".*ld".toList ∈ Pattern.ending :=
    Language.mem_mul.2 ⟨".*".toList, .inr (Language.mem_mul.2 ⟨['.'], rfl, ['*'], .inr rfl, rfl⟩),
      "ld".toList, Language.mem_mul.2 ⟨['l'], .inr (List.mem_map.2 ⟨"l", by decide, rfl⟩), ['d'],
      ⟨'d', by decide, rfl⟩, rfl⟩, rfl⟩
  have sized : "+05.*ld".toList ∈
      Pattern.many isFlag * (Pattern.perhaps Pattern.amount * Pattern.ending) :=
    Language.mem_mul.2 ⟨"+0".toList, Pattern.mem_many.2 (by decide), _, Language.mem_mul.2
      ⟨['5'], .inr (.inl (mem_number.2 ⟨by decide, by decide⟩)), _, ending, rfl⟩, rfl⟩
  have named : "(n)".toList ∈ Pattern.argument :=
    .inr (Language.mem_mul.2 ⟨['('], rfl, "n)".toList, Language.mem_mul.2 ⟨['n'],
      ⟨'n', by decide, rfl⟩, [')'], Language.mem_mul.2 ⟨[], Pattern.mem_many.2 (by decide), _, rfl, rfl⟩,
      rfl⟩, rfl⟩)
  have conversion : "%(n)+05.*ld".toList ∈ Pattern.percent :=
    Language.mem_mul.2 ⟨['%'], rfl, _, .inl (Language.mem_mul.2 ⟨_, .inr named, _, sized, rfl⟩), rfl⟩
  have format : ":>8".toList ∈
      Pattern.one (fun c => c == ':' || c == ',') * Pattern.many Pattern.isFormatChar :=
    Language.mem_mul.2 ⟨[':'], ⟨':', by decide, rfl⟩, ">8".toList, Pattern.mem_many.2 (by decide), rfl⟩
  have field : "\x7bname:>8\x7d".toList ∈ Pattern.field :=
    Language.mem_mul.2 ⟨['\x7b'], rfl, _, Language.mem_mul.2 ⟨"name".toList,
      Pattern.mem_many.2 (by decide), _, Language.mem_mul.2 ⟨_, .inr format, _, rfl, rfl⟩, rfl⟩, rfl⟩
  have found := placeholders_written [.plain "100%".toList, .conversion _ conversion (by decide),
    .plain " of \x7b".toList, .field _ field, .plain "\x7d".toList]
  exact ⟨found.1, found.2.1⟩

end StringCatalog
