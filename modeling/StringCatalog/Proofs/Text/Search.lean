import Mathlib.Data.List.Infix
import StringCatalog.Text.Search

/-! # Replacing parts of a text

* **`Text.replace_append`**, **`Text.replace_cons`** — a replacement at the start of a text, and none.
* **`Text.replace_singleton`** — a character is replaced wherever it stands.
* **`Text.replace_eq_self_iff`** — a replacement by less leaves just the texts without the part. -/

namespace StringCatalog.Text

variable {old new : List Char}

/-- `replace old new [] = []`: nothing is put into the empty text. -/
@[simp] theorem replace_nil (old new : List Char) : replace old new [] = [] := rfl

/-- `replaceFrom old new skip text = replace old new (text.drop skip)`: the rest of an occurrence
is passed. -/
theorem replaceFrom_eq_drop (old new : List Char) (skip : Nat) (text : List Char) :
    replaceFrom old new skip text = replace old new (text.drop skip) := by
  induction skip generalizing text with
  | zero => rfl
  | succ skip ih =>
      cases text with
      | nil => rfl
      | cons c text => exact ih text

/-- **An occurrence at the start of a text is replaced,** and the search goes on behind it:
`replace old new (old ++ rest) = new ++ replace old new rest`. -/
theorem replace_append (some : old ≠ []) (rest : List Char) :
    replace old new (old ++ rest) = new ++ replace old new rest := by
  obtain ⟨c, part, rfl⟩ := List.exists_cons_of_ne_nil some
  have start : (c :: part).isPrefixOf (c :: (part ++ rest)) = true := by simp
  rw [List.cons_append, replace, replaceFrom, if_pos start, replaceFrom_eq_drop, List.length_cons,
    Nat.add_sub_cancel, List.drop_left]

/-- **A character at which no occurrence starts stays:**
`replace old new (c :: rest) = c :: replace old new rest`. -/
theorem replace_cons {c : Char} {rest : List Char} (h : ¬old <+: c :: rest) :
    replace old new (c :: rest) = c :: replace old new rest := by
  rw [replace, replaceFrom, if_neg (by simpa using h)]
  rfl

/-- **A character is replaced wherever it stands.** -/
theorem replace_singleton (c : Char) (new text : List Char) :
    replace [c] new text = text.flatMap fun d => if d = c then new else [d] := by
  induction text with
  | nil => rfl
  | cons d text ih =>
      rw [List.flatMap_cons, ← ih]
      split
      · next same => rw [← same]; exact replace_append (List.cons_ne_nil d []) text
      · next other => exact replace_cons (by simpa [eq_comm] using other)

/-- **A replacement by less makes a text shorter,** if there is anything to replace. -/
theorem length_replace (less : new.length < old.length) (text : List Char) :
    (replace old new text).length ≤ text.length ∧
      (old <:+: text → (replace old new text).length < text.length) := by
  -- an occurrence takes more than one character of the text at once
  induction size : text.length using Nat.strongRecOn generalizing text with
  | ind size ih =>
      cases text with
      | nil =>
          have none : ¬old <:+: [] := fun part => by
            rw [List.infix_nil.1 part] at less
            exact Nat.not_lt_zero _ less
          simp [none]
      | cons c rest =>
          by_cases start : old <+: c :: rest
          · obtain ⟨behind, shape⟩ := start
            have some : old ≠ [] := by
              rintro rfl
              exact Nat.not_lt_zero _ less
            have long := congrArg List.length shape
            rw [List.length_append, size] at long
            have shorter := (ih behind.length (by omega) behind rfl).1
            rw [← shape, replace_append some, List.length_append]
            omega
          · rw [List.length_cons] at size
            obtain ⟨most, fewer⟩ := ih rest.length (by omega) rest rfl
            rw [replace_cons start, List.length_cons, List.infix_cons_iff]
            refine ⟨by omega, fun part => ?_⟩
            have behind := fewer (part.resolve_left start)
            omega

/-- **A replacement by less leaves just the texts without the part:**
`replace old new text = text ↔ ¬old <:+: text`. -/
theorem replace_eq_self_iff (less : new.length < old.length) {text : List Char} :
    replace old new text = text ↔ ¬old <:+: text := by
  constructor
  · intro same part
    have shorter := (length_replace less text).2 part
    rw [same] at shorter
    exact Nat.lt_irrefl _ shorter
  · intro none
    induction text with
    | nil => rfl
    | cons c rest ih =>
        rw [List.infix_cons_iff, not_or] at none
        rw [replace_cons none.1, ih none.2]

end StringCatalog.Text
