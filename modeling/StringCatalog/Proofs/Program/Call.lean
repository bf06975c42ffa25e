import Mathlib.Data.List.Basic
import Mathlib.Data.List.Perm.Basic
import StringCatalog.Program.Call

/-! # The calls of a tree

* **`Tree.nodes`** — all parts of a tree at any depth.
* **`Tree.perm_breadthFirst`** — going through a tree by levels meets each of them once.
* **`Place.isUpTo_trans`, `Place.isUpTo_total`** — places are in order.
* **`Tree.perm_calls`, `Tree.pairwise_calls`, `Tree.filter_calls`** — the calls of a tree are all those at
  any depth, in the order of their places, and those at one place in the order of their levels. -/

namespace StringCatalog.Program

/-! ## All parts -/

namespace Tree

mutual

/-- **All parts of a tree at any depth,** itself included. -/
def nodes : Tree → List Tree
  | .token leaf => [.token leaf]
  | .form kind parts => .form kind parts :: nodesOfAll parts

/-- All parts of several trees. -/
def nodesOfAll : List Tree → List Tree
  | [] => []
  | tree :: rest => nodes tree ++ nodesOfAll rest

end

/-- `tree.nodes = tree :: nodesOfAll tree.parts`: the parts of a tree are itself and those of its
parts. -/
theorem nodes_eq (tree : Tree) : tree.nodes = tree :: nodesOfAll tree.parts := by
  cases tree <;> rfl

/-- `nodesOfAll (first ++ second) = nodesOfAll first ++ nodesOfAll second`. -/
theorem nodesOfAll_append (first second : List Tree) :
    nodesOfAll (first ++ second) = nodesOfAll first ++ nodesOfAll second := by
  induction first with
  | nil => rfl
  | cons tree first ih => rw [List.cons_append, nodesOfAll, nodesOfAll, ih, List.append_assoc]

/-- `depthOfAll (first ++ second) = max (depthOfAll first) (depthOfAll second)`. -/
theorem depthOfAll_append (first second : List Tree) :
    depthOfAll (first ++ second) = max (depthOfAll first) (depthOfAll second) := by
  induction first with
  | nil => exact (Nat.zero_max _).symm
  | cons tree first ih => rw [List.cons_append, depthOfAll, depthOfAll, ih, Nat.max_assoc]

/-- `depthOfAll (trees.flatMap parts) = depthOfAll trees - 1`: the parts of several trees reach one
level less far. -/
theorem depthOfAll_flatMap_parts (trees : List Tree) :
    depthOfAll (trees.flatMap parts) = depthOfAll trees - 1 := by
  induction trees with
  | nil => rfl
  | cons tree trees ih =>
      have own : depthOfAll tree.parts = tree.depth - 1 := by cases tree <;> rfl
      rw [List.flatMap_cons, depthOfAll_append, own, ih, depthOfAll]
      omega

/-- `trees.flatMap parts = []`: trees that reach no level have no parts. -/
theorem flatMap_parts_eq_nil {trees : List Tree} (flat : depthOfAll trees = 0) :
    trees.flatMap parts = [] := by
  refine List.flatMap_eq_nil_iff.2 fun tree member => ?_
  induction trees with
  | nil => cases member
  | cons first trees ih =>
      rw [depthOfAll, Nat.max_eq_zero_iff] at flat
      rcases List.mem_cons.1 member with rfl | later
      · cases tree with
        | token => rfl
        | form kind parts => exact absurd flat.1 (Nat.succ_ne_zero _)
      · exact ih flat.2 later

/-- The parts of several trees are these trees and the parts of theirs. -/
theorem perm_nodesOfAll (trees : List Tree) :
    (nodesOfAll trees).Perm (trees ++ nodesOfAll (trees.flatMap parts)) := by
  induction trees with
  | nil => exact .nil
  | cons tree trees ih =>
      rw [nodesOfAll, nodes_eq, List.flatMap_cons, nodesOfAll_append, List.cons_append, List.cons_append]
      refine .cons tree ?_
      calc nodesOfAll tree.parts ++ nodesOfAll trees
        _ |>.Perm (nodesOfAll tree.parts ++ (trees ++ nodesOfAll (trees.flatMap parts))) :=
          ih.append_left _
        _ |>.Perm (trees ++ (nodesOfAll tree.parts ++ nodesOfAll (trees.flatMap parts))) := by
          rw [← List.append_assoc, ← List.append_assoc]
          exact List.perm_append_comm.append_right _

/-- **Going on by levels** meets all parts of some trees, if it goes far enough. -/
theorem perm_levels {below : Nat} {trees : List Tree} (far : depthOfAll trees ≤ below) :
    (levels below trees).Perm (nodesOfAll trees) := by
  induction below generalizing trees with
  | zero =>
      have alone := perm_nodesOfAll trees
      rw [flatMap_parts_eq_nil (Nat.le_zero.1 far), nodesOfAll, List.append_nil] at alone
      exact alone.symm
  | succ below ih =>
      have next : depthOfAll (trees.flatMap parts) ≤ below := by
        rw [depthOfAll_flatMap_parts]
        omega
      exact ((ih next).append_left trees).trans (perm_nodesOfAll trees).symm

/-- **Going through a tree by levels** meets each of its parts once. -/
theorem perm_breadthFirst (tree : Tree) : tree.breadthFirst.Perm tree.nodes := by
  have one : depthOfAll [tree] ≤ tree.depth := by simp [depthOfAll]
  have all := perm_levels one
  rwa [nodesOfAll, nodesOfAll, List.append_nil] at all

end Tree

/-! ## Places -/

namespace Place

/-- `place.isUpTo place`: the order of places is reflexive. -/
theorem isUpTo_refl (place : Place) : place.isUpTo place = true := by simp [isUpTo]

/-- `first.isUpTo second` is the order of lines, and within a line that of columns. -/
theorem isUpTo_iff {first second : Place} :
    first.isUpTo second = true ↔
      first.line < second.line ∨ first.line = second.line ∧ first.column ≤ second.column := by
  simp [isUpTo]

/-- `first.isUpTo third = true`: the order of places is transitive. -/
theorem isUpTo_trans {first second third : Place} (one : first.isUpTo second = true)
    (other : second.isUpTo third = true) : first.isUpTo third = true := by
  rw [isUpTo_iff] at one other ⊢
  omega

/-- `(first.isUpTo second || second.isUpTo first) = true`: of two places one is up to the other. -/
theorem isUpTo_total (first second : Place) :
    (first.isUpTo second || second.isUpTo first) = true := by
  rw [Bool.or_eq_true, isUpTo_iff, isUpTo_iff]
  omega

end Place

/-! ## Calls -/

namespace Tree

/-- Whether a tree starts before another one, or at its place: the order in which calls are sorted. -/
def startsUpTo (first second : Tree) : Bool :=
  first.place.isUpTo second.place

/-- `startsUpTo first third = true`: the order in which trees start is transitive. -/
theorem startsUpTo_trans (first second third : Tree) (one : startsUpTo first second = true)
    (other : startsUpTo second third = true) : startsUpTo first third = true :=
  Place.isUpTo_trans one other

/-- `(startsUpTo first second || startsUpTo second first) = true`: of two trees one starts up to
where the other does. -/
theorem startsUpTo_total (first second : Tree) :
    (startsUpTo first second || startsUpTo second first) = true :=
  first.place.isUpTo_total second.place

/-- `tree.calls` is the list of calls in breadth-first order, sorted by where they start. -/
theorem calls_eq (tree : Tree) :
    tree.calls = (tree.breadthFirst.filter (·.isForm .call)).mergeSort startsUpTo := rfl

/-- **The calls of a tree are all calls at any depth,** each once. -/
theorem perm_calls (tree : Tree) : tree.calls.Perm (tree.nodes.filter (·.isForm .call)) :=
  (List.mergeSort_perm _ _).trans (tree.perm_breadthFirst.filter _)

/-- **They are in the order of their places.** -/
theorem pairwise_calls (tree : Tree) :
    tree.calls.Pairwise fun first second => first.place.isUpTo second.place = true :=
  List.pairwise_mergeSort startsUpTo_trans startsUpTo_total _

/-- **Those at one place are in the order of their levels.** -/
theorem filter_calls (tree : Tree) (place : Place) :
    tree.calls.filter (·.place = place) =
      (tree.breadthFirst.filter (·.isForm .call)).filter (·.place = place) := by
  rw [calls_eq]
  generalize tree.breadthFirst.filter (·.isForm .call) = found
  have alike : (found.filter (·.place = place)).Pairwise fun first second =>
      startsUpTo first second = true := by
    refine List.pairwise_of_forall_mem_list fun first one second other => ?_
    have first_place : first.place = place := by simpa using (List.mem_filter.1 one).2
    have second_place : second.place = place := by simpa using (List.mem_filter.1 other).2
    rw [startsUpTo, first_place, second_place]
    exact place.isUpTo_refl
  -- a part that is in order already is kept by sorting, and nothing is added to it
  have kept := (List.sublist_mergeSort startsUpTo_trans startsUpTo_total alike
    List.filter_sublist).filter fun call => call.place = place
  rw [List.filter_filter] at kept
  simp only [Bool.and_self] at kept
  have length := ((List.mergeSort_perm found startsUpTo).filter fun call => call.place = place).length_eq
  exact (kept.eq_of_length length.symm).symm

end Tree

end StringCatalog.Program
