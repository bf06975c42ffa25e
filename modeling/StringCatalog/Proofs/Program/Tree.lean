import StringCatalog.Program.Call
import StringCatalog.Program.Grammar.Statement
import StringCatalog.Proofs.Program.Lexer

/-! # Where the calls of a program stand

* **`Tree.All`** — a tree all of whose tokens have a property.
* **`Peg.all_of_run?`** — what is read from tokens with a property has it too.
* **`Tree.all_of_mem_calls`** — so do the calls in a tree.
* **`line_le_of_mem_calls`** — no call of a program stands beyond the line behind its last one. -/

namespace StringCatalog.Program

/-! ## Trees -/

/-- **A tree all of whose tokens have a property.** -/
inductive Tree.All (p : Token → Prop) : Tree → Prop where
  /-- A token with the property. -/
  | token {leaf : Token} (h : p leaf) : All p (.token leaf)
  /-- A form of such trees. -/
  | form {form : Form} {parts : List Tree} (h : ∀ part ∈ parts, All p part) : All p (.form form parts)

namespace Tree

variable {p : Token → Prop}

/-- The parts of such a tree are such trees. -/
theorem All.parts {tree : Tree} (h : tree.All p) : ∀ part ∈ tree.parts, part.All p := by
  cases h with
  | token => simp [Tree.parts]
  | form h => exact h

/-- All trees below some such trees are such trees. -/
theorem all_of_mem_levels {below : Nat} {trees : List Tree} (h : ∀ tree ∈ trees, tree.All p) :
    ∀ tree ∈ levels below trees, tree.All p := by
  induction below generalizing trees with
  | zero => exact h
  | succ below ih =>
      rw [levels, List.forall_mem_append]
      refine ⟨h, ih fun part member => ?_⟩
      obtain ⟨tree, there, inside⟩ := List.mem_flatMap.1 member
      exact (h tree there).parts part inside

/-- **The calls of such a tree** are such trees. -/
theorem all_of_mem_calls {tree call : Tree} (h : tree.All p) (member : call ∈ tree.calls) :
    call.All p := by
  have among := (List.mem_filter.1 (List.mem_mergeSort.1 member)).1
  exact all_of_mem_levels (List.forall_mem_singleton.2 h) call among

/-- **A tree starts where a token does,** or is empty: `tree.place.line ≤ line`. -/
theorem All.line_le {line : Nat} (some : 1 ≤ line) {tree : Tree}
    (h : tree.All fun token => token.place.line ≤ line) : tree.place.line ≤ line := by
  induction h with
  | token h => exact h
  | @form form parts h ih =>
      cases parts with
      | nil => exact some
      | cons first rest => exact ih first List.mem_cons_self

end Tree

/-! ## Reading -/

namespace Peg

variable {Rule : Type} {p : Token → Prop}

/-- **A parsing expression whose trees have a property:** only the rest of a chain has one. -/
def All (p : Token → Prop) : Peg Rule → Prop
  | .one _ | .rule _ | .nothing => True
  | .both first second | .either first second | .chain first second => first.All p ∧ second.All p
  | .many inner | .ahead inner | .notAhead inner | .build _ inner | .group _ inner
  | .only _ inner => inner.All p
  | .grow tree tail => tree.All p ∧ tail.All p

/-- **What is read from tokens with a property has it,** and so have the tokens that are left. -/
theorem all_of_run? {rules : Rule → Peg Rule} (known : ∀ rule, (rules rule).All p) {steps : Nat}
    {peg : Peg Rule} (h : peg.All p) {tokens rest : List Token} (tokens_all : ∀ token ∈ tokens, p token)
    {trees : List Tree} (read : run? rules steps peg tokens = some (trees, rest)) :
    (∀ tree ∈ trees, tree.All p) ∧ ∀ token ∈ rest, p token := by
  induction steps generalizing peg tokens trees rest with
  | zero => cases read
  | succ steps ih =>
      cases peg with
      | one wanted =>
          cases tokens with
          | nil => cases read
          | cons token tokens =>
              rw [List.forall_mem_cons] at tokens_all
              rw [run?] at read
              split at read
              · cases read
                exact ⟨List.forall_mem_singleton.2 (.token tokens_all.1), tokens_all.2⟩
              · cases read
      | rule wanted => exact ih (known wanted) tokens_all read
      | nothing =>
          cases read
          exact ⟨by simp, tokens_all⟩
      | both first second =>
          rw [run?] at read
          split at read
          · cases read
          · next before middle one =>
            obtain ⟨begins, between⟩ := ih h.1 tokens_all one
            obtain ⟨⟨more, left⟩, two, same⟩ := Option.map_eq_some_iff.1 read
            cases same
            obtain ⟨ends, remains⟩ := ih h.2 between two
            exact ⟨List.forall_mem_append.2 ⟨begins, ends⟩, remains⟩
      | either first second =>
          rw [run?] at read
          split at read
          · next result one =>
            cases read
            exact ih h.1 tokens_all one
          · exact ih h.2 tokens_all read
      | many inner =>
          have inner_all : inner.All p := h
          rw [run?] at read
          split at read
          · cases read
            exact ⟨by simp, tokens_all⟩
          · next before middle one =>
            obtain ⟨begins, between⟩ := ih inner_all tokens_all one
            obtain ⟨⟨more, left⟩, two, same⟩ := Option.map_eq_some_iff.1 read
            cases same
            obtain ⟨ends, remains⟩ := @ih (.many inner) h _ _ between _ two
            exact ⟨List.forall_mem_append.2 ⟨begins, ends⟩, remains⟩
      | ahead inner =>
          obtain ⟨-, -, same⟩ := Option.map_eq_some_iff.1 read
          cases same
          exact ⟨by simp, tokens_all⟩
      | notAhead inner =>
          rw [run?] at read
          split at read
          · cases read
          · cases read
            exact ⟨by simp, tokens_all⟩
      | build form inner =>
          obtain ⟨⟨inside, left⟩, one, same⟩ := Option.map_eq_some_iff.1 read
          cases same
          have inner_all : inner.All p := h
          obtain ⟨parts, remains⟩ := ih inner_all tokens_all one
          exact ⟨List.forall_mem_singleton.2 (.form parts), remains⟩
      | group form inner =>
          have inner_all : inner.All p := h
          rw [run?] at read
          split at read
          · cases read
          · next one =>
            cases read
            exact ih inner_all tokens_all one
          · next one =>
            cases read
            obtain ⟨parts, remains⟩ := ih inner_all tokens_all one
            exact ⟨List.forall_mem_singleton.2 (.form parts), remains⟩
      | only condition inner =>
          have inner_all : inner.All p := h
          rw [run?] at read
          split at read
          · cases read
          · next one =>
            split at read
            · cases read
              exact ih inner_all tokens_all one
            · cases read
      | chain first tail =>
          rw [run?] at read
          split at read
          · next tree middle one =>
            obtain ⟨begins, between⟩ := ih h.1 tokens_all one
            exact @ih (.grow tree tail) ⟨List.forall_mem_singleton.1 begins, h.2⟩ _ _ between _ read
          · cases read
      | grow tree tail =>
          rw [run?] at read
          split at read
          · next form parts middle one =>
            obtain ⟨begins, between⟩ := ih h.2 tokens_all one
            have grown : (Tree.form form (tree :: parts)).All p :=
              .form (List.forall_mem_cons.2 ⟨h.1, (List.forall_mem_singleton.1 begins).parts⟩)
            exact @ih (.grow _ tail) ⟨grown, h.2⟩ _ _ between _ read
          · cases read
            exact ⟨List.forall_mem_singleton.2 h.1, tokens_all⟩

/-- Whether there is no rest of a chain in an expression. -/
def hasNoRest : Peg Rule → Bool
  | .one _ | .rule _ | .nothing => true
  | .both first second | .either first second | .chain first second =>
      first.hasNoRest && second.hasNoRest
  | .many inner | .ahead inner | .notAhead inner | .build _ inner | .group _ inner
  | .only _ inner => inner.hasNoRest
  | .grow _ _ => false

/-- An expression without the rest of a chain has no trees. -/
theorem all_of_hasNoRest {peg : Peg Rule} (h : peg.hasNoRest = true) : peg.All p := by
  induction peg with
  | one | rule | nothing => trivial
  | both first second one two | either first second one two | chain first second one two =>
      rw [hasNoRest, Bool.and_eq_true] at h
      exact ⟨one h.1, two h.2⟩
  | many inner ih | ahead inner ih | notAhead inner ih | build form inner ih | group form inner ih
  | only condition inner ih => exact ih h
  | grow tree tail => cases h

end Peg

/-- The rules of the grammar have no trees in them. -/
theorem rules_all (p : Token → Prop) (rule : Rule) : (rules rule).All p := by
  apply Peg.all_of_hasNoRest
  cases rule <;> rfl

/-- **No call of a program stands beyond the line behind its last one.** -/
theorem line_le_of_mem_calls {text : List Char} {tree : Tree} (parsed : parse? text = some tree) :
    ∀ call ∈ tree.calls, call.place.line ≤ (Text.splitNewlines text).length + 1 := by
  unfold parse? at parsed
  split at parsed
  · cases parsed
  · next tokens read =>
    split at parsed
    · next run =>
      cases parsed
      have program : (Peg.build .program (.many (.rule .statement)) : Peg Rule).All
          fun token => token.place.line ≤ (Text.splitNewlines text).length + 1 := trivial
      obtain ⟨whole, -⟩ := Peg.all_of_run? (rules_all _) program (line_le_of_tokens? read) run
      intro call member
      exact (Tree.all_of_mem_calls (List.forall_mem_singleton.1 whole) member).line_le (Nat.le_add_left 1 _)
    · cases parsed

end StringCatalog.Program
