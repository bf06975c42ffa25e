import StringCatalog.Program.Tree
import StringCatalog.Text.Normal

/-! # Calls in a program

* **`Tree.callee?`** — the name of what a call calls, if it has one.
* **`Tree.positional`** — the arguments of a call that have no names.
* **`Tree.literal?`** — the wording of a string that is written out.
* **`Tree.calls`** — the calls of a tree in the order of their places. -/

namespace StringCatalog.Program.Tree

/-- **The name of what a call calls,** in its normal form: the name itself, or that of a part. -/
def callee? (call : Tree) : Option String :=
  let spelling? : Tree → Option String
    | .token ⟨_, .word text⟩ =>
        if (Lexeme.word text).isName then some (String.ofList (Text.normalForm text.toList)) else none
    | _ => none
  match call.parts with
  | [] => none
  | called :: _ =>
      match called.unwrapped with
      | .form .member [_, _, name] => spelling? name
      | tree => spelling? tree

/-- **The arguments of a call that have no names,** those with one star included. -/
def positional (call : Tree) : List Tree :=
  (members (call.parts.drop 1)).filter fun argument =>
    !(argument.isForm .keyword || argument.isForm .unpacked)

/-- The code points of a token that is a string of characters. -/
def points? : Tree → Option (List Text.CodePoint)
  | .token ⟨_, .text value⟩ => some value
  | _ => none

/-- **The wording of a string that is written out,** perhaps in parentheses: that of adjacent strings
joined, if all are strings of characters without fields. -/
def literal? (tree : Tree) : Option Text.Wording :=
  match tree.unwrapped with
  | .form .strings parts => (parts.mapM points?).map fun points => .ofCodePoints points.flatten
  | _ => none

/-- **The calls of a tree,** those at one place the outer ones first. -/
def calls (tree : Tree) : List Tree :=
  (tree.breadthFirst.filter (·.isForm .call)).mergeSort fun first second =>
    first.place.isUpTo second.place

end StringCatalog.Program.Tree
