import Mathlib.Data.List.Infix
import StringCatalog.Proofs.Text.Search
import StringCatalog.Proofs.Xml.Piece
import StringCatalog.Resource.Slot

/-! # Quotes in resource documents

* **`Resource.unescapeChars_append`** — a text is read part by part where no backslash ends a part
  that a quote follows.
* **`Resource.escapeChars_eq_replace`, `Resource.unescapeChars_eq_replace`** — quotes are escaped and
  read by replacing them throughout a text.
* **`Resource.unescapeQuotes_escapeQuotes`** — what is read of an escaped text: the text itself if no
  backslash stands before a double quote in it. -/

namespace StringCatalog.Resource

/-- Whether a character is a quote. -/
def isQuote (c : Char) : Bool := c == '\'' || c == '"'

/-- `unescapeChars ('\\' :: c :: rest) = c :: unescapeChars rest`: a backslash with a quote behind
it stands for the quote. -/
theorem unescapeChars_quote {c : Char} (h : isQuote c = true) (rest : List Char) :
    unescapeChars ('\\' :: c :: rest) = c :: unescapeChars rest := by
  simp only [isQuote, Bool.or_eq_true, beq_iff_eq] at h
  rcases h with rfl | rfl <;> rfl

/-- `unescapeChars (c :: rest) = c :: unescapeChars rest`: any other character stands for itself. -/
theorem unescapeChars_cons {c : Char} {rest : List Char}
    (h : c = '\\' → ∀ d ∈ rest.head?, isQuote d = false) :
    unescapeChars (c :: rest) = c :: unescapeChars rest := by
  conv_lhs => unfold unescapeChars
  split
  · next equal => cases equal
  · next equal =>
    cases equal
    exact absurd (h rfl _ rfl) (by decide)
  · next equal =>
    cases equal
    exact absurd (h rfl _ rfl) (by decide)
  · next equal =>
    cases equal
    rfl

/-- **A text is read part by part,** unless a backslash ends a part and a quote follows:
`unescapeChars (text ++ rest) = unescapeChars text ++ unescapeChars rest`. -/
theorem unescapeChars_append {text rest : List Char}
    (h : text.getLast? = some '\\' → ∀ d ∈ rest.head?, isQuote d = false) :
    unescapeChars (text ++ rest) = unescapeChars text ++ unescapeChars rest := by
  fun_induction unescapeChars text with
  | case1 => rfl
  | case2 text ih =>
      rw [List.cons_append, List.cons_append, unescapeChars_quote (by decide), ih, List.cons_append]
      intro last
      exact h (by cases text <;> simp_all)
  | case3 text ih =>
      rw [List.cons_append, List.cons_append, unescapeChars_quote (by decide), ih, List.cons_append]
      intro last
      exact h (by cases text <;> simp_all)
  | case4 c text single double ih =>
      rw [List.cons_append, unescapeChars_cons, ih, List.cons_append]
      · intro last
        exact h (by cases text <;> simp_all)
      -- a quote behind this backslash would be the first of the rest, or one of the two pairs
      · rintro rfl d first
        cases text with
        | nil => exact h rfl d first
        | cons e text =>
            obtain rfl : e = d := by simpa using first
            have notSingle : e ≠ '\'' := fun same => single text rfl (by rw [same])
            have notDouble : e ≠ '"' := fun same => double text rfl (by rw [same])
            simp [isQuote, notSingle, notDouble]

/-! ## Escaping -/

/-- `escapeChars (c :: rest) = c :: escapeChars rest` for all characters but a single quote. -/
theorem escapeChars_cons {c : Char} (h : c ≠ '\'') (rest : List Char) :
    escapeChars (c :: rest) = c :: escapeChars rest := by
  rw [escapeChars, if_neg (by simpa using h)]

/-- `escapeChars (text ++ rest) = escapeChars text ++ escapeChars rest`. -/
theorem escapeChars_append (text rest : List Char) :
    escapeChars (text ++ rest) = escapeChars text ++ escapeChars rest := by
  induction text with
  | nil => rfl
  | cons c text ih =>
      rw [List.cons_append, escapeChars, escapeChars, ih]
      split <;> rfl

/-- An escaped text begins with no single quote, and with a double one only if the text does. -/
theorem isQuote_head?_escapeChars {text : List Char} (h : text.head? ≠ some '"') :
    ∀ d ∈ (escapeChars text).head?, isQuote d = false := by
  cases text with
  | nil => simp
  | cons c text =>
      rw [escapeChars]
      split
      · simp [isQuote]
      · next other =>
        have single : c ≠ '\'' := by simpa using other
        have double : c ≠ '"' := by simpa using h
        simp [isQuote, single, double]

/-! ## Replacements -/

/-- **A text is escaped by one replacement:** a single quote gets a backslash;
`escapeChars text = Text.replace ['\''] ['\\', '\''] text`. -/
theorem escapeChars_eq_replace (text : List Char) :
    escapeChars text = Text.replace ['\''] ['\\', '\''] text := by
  induction text with
  | nil => rfl
  | cons c text ih =>
      by_cases single : c = '\''
      · subst single
        rw [escapeChars, if_pos (by rfl), ih]
        exact (@Text.replace_append ['\''] ['\\', '\''] (by simp) text).symm
      · rw [escapeChars_cons single, ih, Text.replace_cons (by simpa [eq_comm] using single)]

/-- `[a, b] <+: c :: text ↔ c = a ∧ text.head? = some b`: a pair of characters stands at the start
of a text if its second one does behind its first. -/
theorem pair_isPrefix_cons {a b c : Char} {text : List Char} :
    [a, b] <+: c :: text ↔ c = a ∧ text.head? = some b := by
  rw [List.cons_prefix_cons, eq_comm]
  refine and_congr_right fun _ => ?_
  cases text with
  | nil => simp
  | cons d text => simp [eq_comm]

/-- `text.head? = some '"'`: a text begins with a double quote where it did before the single ones
were read. -/
theorem head?_of_head?_replace {text : List Char}
    (h : (Text.replace ['\\', '\''] ['\''] text).head? = some '"') : text.head? = some '"' := by
  cases text with
  | nil => exact h
  | cons c text =>
      by_cases pair : ['\\', '\''] <+: c :: text
      · obtain ⟨rest, shape⟩ := pair
        rw [← shape, Text.replace_append (by simp)] at h
        exact absurd h (by simp)
      · rwa [Text.replace_cons pair] at h

/-- **A text is read by two replacements, one after the other:** that of the escaped single quotes and
that of the double ones. -/
theorem unescapeChars_eq_replace (text : List Char) :
    unescapeChars text =
      Text.replace ['\\', '"'] ['"'] (Text.replace ['\\', '\''] ['\''] text) := by
  have some {a b : Char} : [a, b] ≠ [] := List.cons_ne_nil a [b]
  fun_induction unescapeChars text with
  | case1 => rfl
  | case2 text ih =>
      rw [show '\\' :: '\'' :: text = ['\\', '\''] ++ text from rfl, Text.replace_append some,
        List.singleton_append, Text.replace_cons (by simp), ih]
  | case3 text ih =>
      have first : Text.replace ['\\', '\''] ['\''] ('\\' :: '"' :: text) =
          ['\\', '"'] ++ Text.replace ['\\', '\''] ['\''] text := by
        rw [Text.replace_cons (by simp), Text.replace_cons (by simp)]
        rfl
      rw [first, Text.replace_append some, ih, List.singleton_append]
  | case4 c text single double ih =>
      have first : ¬['\\', '\''] <+: c :: text := by
        rw [pair_isPrefix_cons]
        rintro ⟨rfl, quote⟩
        obtain ⟨more, rfl⟩ := List.head?_eq_some_iff.1 quote
        exact single more rfl rfl
      -- the first replacement puts no double quote behind a backslash
      have second : ¬['\\', '"'] <+: c :: Text.replace ['\\', '\''] ['\''] text := by
        rw [pair_isPrefix_cons]
        rintro ⟨rfl, quote⟩
        obtain ⟨more, rfl⟩ := List.head?_eq_some_iff.1 (head?_of_head?_replace quote)
        exact double more rfl rfl
      rw [Text.replace_cons first, Text.replace_cons second, ih]

/-- **What is read of an escaped text** is the text without the backslashes before double quotes:
`unescapeChars (escapeChars text) = Text.replace ['\\', '"'] ['"'] text`. -/
theorem unescapeChars_escapeChars_eq_replace (text : List Char) :
    unescapeChars (escapeChars text) = Text.replace ['\\', '"'] ['"'] text := by
  induction text with
  | nil => rfl
  | cons c text ih =>
      by_cases single : c = '\''
      · subst single
        rw [escapeChars, if_pos (by rfl), unescapeChars_quote (by decide), ih, Text.replace_cons (by simp)]
      by_cases pair : ['\\', '"'] <+: c :: text
      -- the backslash goes, and the double quote behind it is read as it is without one
      · obtain ⟨rfl, quote⟩ := pair_isPrefix_cons.1 pair
        obtain ⟨more, rfl⟩ := List.head?_eq_some_iff.1 quote
        rw [Text.replace_cons (by simp)] at ih
        rw [escapeChars_cons (by decide), escapeChars_cons (by decide), unescapeChars_quote (by decide)]
        rw [escapeChars_cons (by decide), unescapeChars_cons fun same => absurd same (by decide)] at ih
        rw [ih]
        exact (@Text.replace_append ['\\', '"'] ['"'] (by simp) more).symm
      · rw [escapeChars_cons single, unescapeChars_cons, ih, Text.replace_cons pair]
        rintro rfl
        exact isQuote_head?_escapeChars fun quote => pair (pair_isPrefix_cons.2 ⟨rfl, quote⟩)

/-- **A text comes back from its escaped form,** if no backslash stands before a double quote:
`unescapeChars (escapeChars text) = text`. -/
theorem unescapeChars_escapeChars {text : List Char} (h : ¬ ['\\', '"'] <:+: text) :
    unescapeChars (escapeChars text) = text := by
  rw [unescapeChars_escapeChars_eq_replace, Text.replace_eq_self_iff (by decide)]
  exact h

/-- **Quotes that are escaped and read back.** `escapeQuotes` replaces the single quotes of a text,
and `unescapeQuotes` the escaped single quotes and then the escaped double ones. What is read of an
escaped text is the text with every backslash before a double quote taken away, so
`unescapeQuotes (escapeQuotes text) = text` exactly if no backslash stands before a double quote in
it. -/
theorem unescapeQuotes_escapeQuotes (text : String) :
    let escaped := Text.replace ['\''] ['\\', '\''] text.toList
    let single := Text.replace ['\\', '\''] ['\''] escaped
    (escapeQuotes text).toList = escaped ∧
    (unescapeQuotes (escapeQuotes text)).toList = Text.replace ['\\', '"'] ['"'] single ∧
    (unescapeQuotes (escapeQuotes text)).toList = Text.replace ['\\', '"'] ['"'] text.toList ∧
    (unescapeQuotes (escapeQuotes text) = text ↔ ¬['\\', '"'] <:+: text.toList) := by
  intro escaped single
  have written : (escapeQuotes text).toList = escapeChars text.toList := String.toList_ofList
  have read : (unescapeQuotes (escapeQuotes text)).toList =
      unescapeChars (escapeChars text.toList) := by
    rw [unescapeQuotes, String.toList_ofList, written]
  refine ⟨?_, ?_, ?_, ?_⟩
  · rw [written, escapeChars_eq_replace]
  · rw [read, unescapeChars_eq_replace, escapeChars_eq_replace]
  · rw [read, unescapeChars_escapeChars_eq_replace]
  · rw [← String.toList_inj, read, unescapeChars_escapeChars_eq_replace]
    exact Text.replace_eq_self_iff (by decide)

/-- Of two backslashes before a double quote one is taken away, and none of those before a single one. -/
example : unescapeQuotes (escapeQuotes "\\\\\" \\\\'") = "\\\" \\\\'" := by decide

/-- **A text without a backslash before a double quote** has none when it is read:
`¬ ['\\', '"'] <:+: unescapeChars text`. -/
theorem not_infix_unescapeChars {text : List Char} (h : ¬ ['\\', '"'] <:+: text) :
    ¬ ['\\', '"'] <:+: unescapeChars text := by
  fun_induction unescapeChars text with
  | case1 => exact h
  | case2 text ih =>
      have rest : ¬ ['\\', '"'] <:+: text := fun part =>
        h (part.trans (List.suffix_append ['\\', '\''] text).isInfix)
      rw [List.infix_cons_iff, List.cons_prefix_cons]
      exact not_or.2 ⟨fun first => absurd first.1 (by decide), ih rest⟩
  | case3 text ih => exact absurd ⟨[], text, rfl⟩ h
  | case4 c text single double ih =>
      have rest : ¬ ['\\', '"'] <:+: text := fun part =>
        h (part.trans (List.suffix_cons c text).isInfix)
      rw [List.infix_cons_iff, List.cons_prefix_cons]
      refine not_or.2 ⟨?_, ih rest⟩
      rintro ⟨rfl, first⟩
      -- the text behind this backslash begins with no quote, so it is read as one that begins so
      cases text with
      | nil => simp at first
      | cons d text =>
          have notDouble : d ≠ '"' := fun same => double text rfl (by rw [same])
          by_cases again : d = '\\' ∧ text.head? = some '\''
          · obtain ⟨rfl, second⟩ := again
            obtain ⟨more, rfl⟩ := List.head?_eq_some_iff.1 second
            rw [unescapeChars_quote (by decide), List.cons_prefix_cons] at first
            exact absurd first.1 (by decide)
          · have other : d = '\\' → ∀ e ∈ text.head?, isQuote e = false := by
              rintro rfl e found
              have notSingle : e ≠ '\'' := fun same => again ⟨rfl, by rw [← same]; exact found⟩
              have notSecond : e ≠ '"' := by
                rintro rfl
                obtain ⟨more, rfl⟩ := List.head?_eq_some_iff.1 (show text.head? = some '"' from found)
                exact rest ⟨[], more, rfl⟩
              simp [isQuote, notSingle, notSecond]
            rw [unescapeChars_cons other, List.cons_prefix_cons] at first
            exact notDouble first.1.symm

/-! ## Characters -/

/-- `c = '\\' ∨ c ∈ text`: the characters of an escaped text are those of the text and
backslashes. -/
theorem of_mem_escapeChars {text : List Char} {c : Char} (h : c ∈ escapeChars text) :
    c = '\\' ∨ c ∈ text := by
  induction text with
  | nil => cases h
  | cons d text ih =>
      rw [escapeChars] at h
      split at h <;> simp only [List.mem_cons] at h ⊢ <;> tauto

/-- The characters of a text without its escapes are those of the text. -/
theorem mem_of_mem_unescapeChars {text : List Char} {c : Char} (h : c ∈ unescapeChars text) :
    c ∈ text := by
  fun_induction unescapeChars text with
  | case1 => cases h
  | case2 text ih =>
      rcases List.mem_cons.1 h with rfl | h
      · simp
      · simp [ih h]
  | case3 text ih =>
      rcases List.mem_cons.1 h with rfl | h
      · simp
      · simp [ih h]
  | case4 d text single double ih =>
      rcases List.mem_cons.1 h with rfl | h
      · simp
      · simp [ih h]

/-- Escaping keeps a text legal. -/
theorem all_isChar_escapeChars {text : List Char} (h : text.all Xml.isChar) :
    (escapeChars text).all Xml.isChar := by
  rw [List.all_eq_true]
  intro c member
  rcases of_mem_escapeChars member with rfl | member
  · decide
  · exact List.all_eq_true.1 h c member

/-- So does unescaping. -/
theorem all_isChar_unescapeChars {text : List Char} (h : text.all Xml.isChar) :
    (unescapeChars text).all Xml.isChar := by
  rw [List.all_eq_true]
  exact fun c member => List.all_eq_true.1 h c (mem_of_mem_unescapeChars member)

end StringCatalog.Resource
