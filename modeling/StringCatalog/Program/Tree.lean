import StringCatalog.Program.Token

/-! # Syntax trees

What the tokens of a program make up:

* **`Form`** — the kinds of syntactic forms that matter, and **`Tree`**, tokens under forms.
* **`Tree.place`** — where a tree starts.
* **`Tree.unwrapped`** — a tree without the parentheses around it.
* **`Tree.level`, `Tree.breadthFirst`** — all parts of a tree, the outer ones first. -/

namespace StringCatalog.Program

/-- **A kind of syntactic form.** -/
inductive Form where
  /-- A whole program. -/
  | program
  /-- A statement. -/
  | statement
  /-- A call: what is called, and the arguments in parentheses. -/
  | call
  /-- A part with a name: what it is a part of, a point, the name. -/
  | member
  /-- A part with an index. -/
  | item
  /-- Adjacent strings. -/
  | strings
  /-- A string with fields. -/
  | fields
  /-- What stands in parentheses. -/
  | parenthesized
  /-- What stands in square brackets. -/
  | list
  /-- What stands in braces. -/
  | braces
  /-- Several expressions with commas. -/
  | sequence
  /-- An expression with a star before it. -/
  | starred
  /-- An expression with two stars before it. -/
  | unpacked
  /-- An expression with a name or parameter that it is for. -/
  | keyword
  /-- A key with its value. -/
  | entry
  /-- An expression that is given a name. -/
  | naming
  /-- An element with the loops that produce it. -/
  | production
  /-- One of these loops. -/
  | loop
  /-- What a function hands out. -/
  | yielding
  /-- A parameter. -/
  | parameter
  /-- The end of the parameters that have no names. -/
  | slash
  /-- Any other expression. -/
  | operation
  deriving DecidableEq, Repr

/-- **A syntax tree.** -/
inductive Tree where
  /-- A token. -/
  | token (token : Token)
  /-- A form with its parts. -/
  | form (form : Form) (parts : List Tree)
  deriving Repr

namespace Tree

/-- **Where a tree starts:** at its first token. -/
def place : Tree → Place
  | .token leaf => leaf.place
  | .form _ [] => .start
  | .form _ (first :: _) => first.place

/-- The parts of a form. -/
def parts : Tree → List Tree
  | .token _ => []
  | .form _ parts => parts

/-- Whether a tree is a form of some kind. -/
def isForm (wanted : Form) : Tree → Bool
  | .token _ => false
  | .form own _ => own == wanted

/-- Whether a tree is a token with some mark. -/
def isSymbol (mark : String) : Tree → Bool
  | .token leaf => leaf.lexeme == .symbol mark
  | .form _ _ => false

/-- **A tree without the parentheses around it.** Around several expressions, around none and around
a production they make a value of their own and stay. -/
def unwrapped : Tree → Tree
  | .form .parenthesized [_, inner, _] => inner.unwrapped
  | tree => tree

/-- Whether a tree is a bracket or a comma. -/
def isSeparator (tree : Tree) : Bool :=
  ["(", ")", "[", "]", "\x7b", "\x7d", ","].any tree.isSymbol

/-- Trees without the brackets and commas around them. -/
def members (trees : List Tree) : List Tree :=
  trees.filter fun tree => !tree.isSeparator

/-! ## All parts -/

mutual

/-- How many forms stand within each other in a tree. -/
def depth : Tree → Nat
  | .token _ => 0
  | .form _ parts => depthOfAll parts + 1

/-- How many forms stand within each other in the deepest of several trees. -/
def depthOfAll : List Tree → Nat
  | [] => 0
  | tree :: rest => max (depth tree) (depthOfAll rest)

end

/-- The trees from some level on, for so many levels below it. -/
def levels : Nat → List Tree → List Tree
  | 0, trees => trees
  | below + 1, trees => trees ++ levels below (trees.flatMap parts)

/-- **All parts of a tree,** itself included, those of one level before those of the next. -/
def breadthFirst (tree : Tree) : List Tree :=
  levels tree.depth [tree]

end Tree

end StringCatalog.Program
