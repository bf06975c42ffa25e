import StringCatalog.Program.Tree

/-! # Parsing expressions

A grammar is a table of parsing expressions, in which the first alternative that fits is taken:

* **`Match`** — what a single token is matched with.
* **`Peg`** — a parsing expression with references to rules.
* **`Peg.run?`** — what an expression reads from some tokens, in a bounded number of steps. -/

namespace StringCatalog.Program

/-- **What a single token is matched with.** -/
inductive Match where
  /-- A word with this spelling. -/
  | word (spelling : String)
  /-- Any name. -/
  | name
  /-- A mark with this spelling. -/
  | symbol (spelling : String)
  /-- Any number. -/
  | number
  /-- A number that is not imaginary. -/
  | real
  /-- A number that is imaginary. -/
  | imaginary
  /-- A string of characters. -/
  | text
  /-- A string of bytes. -/
  | bytes
  /-- A lexeme that stands for itself. -/
  | exactly (lexeme : Lexeme)
  deriving DecidableEq, Repr

/-- Whether a lexeme is matched. -/
def Match.accepts : Match → Lexeme → Bool
  | .word spelling, lexeme => lexeme == .word spelling
  | .name, lexeme => lexeme.isName
  | .symbol spelling, lexeme => lexeme == .symbol spelling
  | .number, .number _ => true
  | .real, .number isImaginary => !isImaginary
  | .imaginary, .number isImaginary => isImaginary
  | .text, .text _ => true
  | .bytes, lexeme => lexeme == .bytes
  | .exactly wanted, lexeme => lexeme == wanted
  | _, _ => false

/-- **A parsing expression.** -/
inductive Peg (Rule : Type) where
  /-- A single token. -/
  | one (wanted : Match)
  /-- What a rule reads. -/
  | rule (rule : Rule)
  /-- Nothing. -/
  | nothing
  /-- One after the other. -/
  | both (first second : Peg Rule)
  /-- The first of two that fits. -/
  | either (first second : Peg Rule)
  /-- As often as it fits. -/
  | many (inner : Peg Rule)
  /-- Nothing, if the expression would fit here. -/
  | ahead (inner : Peg Rule)
  /-- Nothing, if the expression would not fit here. -/
  | notAhead (inner : Peg Rule)
  /-- A form of all that is read. -/
  | build (form : Form) (inner : Peg Rule)
  /-- A form of all that is read, if that is more than one tree. -/
  | group (form : Form) (inner : Peg Rule)
  /-- The same, if a condition holds for what is read. -/
  | only (condition : List Tree → Bool) (inner : Peg Rule)
  /-- A tree, put in front of the parts of a form that follows, as often as one does. -/
  | chain (first tail : Peg Rule)
  /-- The rest of a chain behind a tree. -/
  | grow (tree : Tree) (tail : Peg Rule)

namespace Peg

variable {Rule : Type}

/-! ## Shorthands -/

/-- A word. -/
def word (spelling : String) : Peg Rule := .one (.word spelling)

/-- A mark. -/
def symbol (spelling : String) : Peg Rule := .one (.symbol spelling)

/-- A name. -/
def name : Peg Rule := .one .name

/-- One after the other. -/
def all : List (Peg Rule) → Peg Rule
  | [] => .nothing
  | [peg] => peg
  | peg :: rest => .both peg (all rest)

/-- The first that fits; there is at least one. -/
def first : List (Peg Rule) → Peg Rule
  | [] => .notAhead .nothing
  | [peg] => peg
  | peg :: rest => .either peg (first rest)

/-- It, or nothing. -/
def opt (peg : Peg Rule) : Peg Rule := .either peg .nothing

/-- At least once. -/
def oneOrMore (peg : Peg Rule) : Peg Rule := .both peg (.many peg)

/-- One or several with a separator between them. -/
def separated (separator peg : Peg Rule) : Peg Rule :=
  .both peg (.many (.both separator peg))

/-- A comma. -/
def comma : Peg Rule := symbol ","

/-- One or several with commas between them, and perhaps one behind the last. -/
def listed (peg : Peg Rule) : Peg Rule := .both (separated comma peg) (opt comma)

/-! ## Reading -/

/-- **What an expression reads from some tokens:** trees, and the tokens that are left. -/
def run? (rules : Rule → Peg Rule) : Nat → Peg Rule → List Token → Option (List Tree × List Token)
  | 0, _, _ => none
  | steps + 1, peg, tokens =>
      match peg with
      | .one wanted =>
          match tokens with
          | [] => none
          | token :: rest => if wanted.accepts token.lexeme then some ([.token token], rest) else none
      | .rule wanted => run? rules steps (rules wanted) tokens
      | .nothing => some ([], tokens)
      | .both first second =>
          match run? rules steps first tokens with
          | none => none
          | some (trees, rest) =>
              (run? rules steps second rest).map fun (more, rest) => (trees ++ more, rest)
      | .either first second =>
          match run? rules steps first tokens with
          | some result => some result
          | none => run? rules steps second tokens
      | .many inner =>
          match run? rules steps inner tokens with
          | none => some ([], tokens)
          | some (trees, rest) =>
              (run? rules steps (.many inner) rest).map fun (more, rest) => (trees ++ more, rest)
      | .ahead inner => (run? rules steps inner tokens).map fun _ => ([], tokens)
      | .notAhead inner => if (run? rules steps inner tokens).isSome then none else some ([], tokens)
      | .build form inner =>
          (run? rules steps inner tokens).map fun (trees, rest) => ([.form form trees], rest)
      | .group form inner =>
          match run? rules steps inner tokens with
          | none => none
          | some ([tree], rest) => some ([tree], rest)
          | some (trees, rest) => some ([.form form trees], rest)
      | .only condition inner =>
          match run? rules steps inner tokens with
          | none => none
          | some (trees, rest) => if condition trees then some (trees, rest) else none
      | .chain first tail =>
          match run? rules steps first tokens with
          | some ([tree], rest) => run? rules steps (.grow tree tail) rest
          | _ => none
      | .grow tree tail =>
          match run? rules steps tail tokens with
          | some ([.form form parts], rest) =>
              run? rules steps (.grow (.form form (tree :: parts)) tail) rest
          | _ => some ([tree], tokens)

end Peg

end StringCatalog.Program
