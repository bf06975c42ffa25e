import StringCatalog.Program.Grammar.Pattern
import StringCatalog.Program.Lexer

/-! # The grammar of statements

* **`Grammar.simple`** — statements that stand within a line.
* **`Grammar.compound`** — statements with blocks.
* **`rules`** — the grammar: what each rule reads.
* **`parse?`** — the tree of a program's text. -/

namespace StringCatalog.Program

namespace Grammar

open Peg

/-! ## Within a line -/

/-- A value in an assignment. -/
def assigned : Peg Rule := first [.rule .yielding, .rule .expressions]

/-- **An assignment, or expressions alone.** -/
def assignment : Peg Rule :=
  .only isAssignment (all [.rule .expressions, first [
    all [symbol ":", .rule .expression, opt (all [symbol "=", assigned])],
    all [first (updateMarks.map symbol), assigned],
    .many (all [symbol "=", assigned])]])

/-- Another name for something. -/
def newName : Peg Rule := opt (all [word "as", name])

/-- A name with the names of parts behind it. -/
def dottedName : Peg Rule := separated (symbol ".") name

/-- Names that are taken from somewhere. -/
def taken : Peg Rule := separated comma (all [name, newName])

/-- Points before a name. -/
def points : Peg Rule := first [symbol ".", symbol "..."]

/-- Names made known. -/
def imports : Peg Rule :=
  first [all [word "import", separated comma (all [dottedName, newName])],
    all [word "from", first [all [.many points, dottedName], oneOrMore points], word "import",
      first [symbol "*", all [symbol "(", taken, opt comma, symbol ")"],
        all [taken, .notAhead comma]]]]

/-- What is deleted. -/
def erased : Peg Rule :=
  all [listed (.only areErasable (.rule .primary)),
    .ahead (first [symbol ";", .one (.exactly .lineEnd)])]

/-- **A statement within a line.** -/
def simple : Peg Rule :=
  first [all [word "return", opt (.rule .expressions)], imports,
    all [word "raise", opt (all [.rule .expression, opt (all [word "from", .rule .expression])])],
    word "pass", all [word "del", erased], .rule .yielding,
    all [word "assert", .rule .expression, opt (all [comma, .rule .expression])], word "break",
    word "continue", all [first [word "global", word "nonlocal"], separated comma name],
    assignment]

/-- The statements of a line. -/
def simpleLine : Peg Rule :=
  all [separated (symbol ";") (.build .statement simple), opt (symbol ";"),
    .one (.exactly .lineEnd)]

/-! ## With blocks -/

/-- A block behind its colon. -/
def body : Peg Rule := all [symbol ":", .rule .block]

/-- A block on lines of its own with something other than statements. -/
def indented (inner : Peg Rule) : Peg Rule :=
  all [.one (.exactly .lineEnd), .one (.exactly .indent), oneOrMore inner, .one (.exactly .dedent)]

/-- The block for all other cases. -/
def otherwise : Peg Rule := opt (all [word "else", body])

/-- A choice by conditions. -/
def choice : Peg Rule :=
  all [word "if", .rule .naming, body, .many (all [word "elif", .rule .naming, body]), otherwise]

/-- A loop over values. -/
def iteration : Peg Rule :=
  all [opt (word "async"), word "for", targets, word "in", .rule .expressions, body, otherwise]

/-- A loop with a condition. -/
def repetition : Peg Rule := all [word "while", .rule .naming, body, otherwise]

/-- The block that is run in any case. -/
def ending : Peg Rule := all [word "finally", body]

/-- A block for some faults. -/
def handler : Peg Rule :=
  all [word "except", opt (all [.rule .expression, newName]), body]

/-- A block for some faults out of several. -/
def groupHandler : Peg Rule :=
  all [word "except", symbol "*", .rule .expression, newName, body]

/-- A block with what to do about its faults. -/
def trial : Peg Rule :=
  all [word "try", body, first [ending, all [oneOrMore handler, otherwise, opt ending],
    all [oneOrMore groupHandler, otherwise, opt ending]]]

/-- A resource that is opened, and the target for it. -/
def resource : Peg Rule :=
  all [.rule .expression, opt (all [word "as", target,
    .ahead (first [comma, symbol ")", symbol ":"])])]

/-- A block with resources, which may stand in parentheses. -/
def opening : Peg Rule :=
  all [opt (word "async"), word "with",
    first [all [symbol "(", listed resource, symbol ")", symbol ":"],
      all [separated comma resource, symbol ":"]], .rule .block]

/-- A function. -/
def function : Peg Rule :=
  all [opt (word "async"), word "def", name, symbol "(", opt (parameters true), symbol ")",
    opt (all [symbol "->", .rule .expression]), body]

/-- A class. -/
def classDefinition : Peg Rule :=
  all [word "class", name, opt (.only arePlainArguments argumentList), body]

/-- A function or a class, with what is said about it on the lines before. -/
def definition : Peg Rule :=
  all [.many (all [symbol "@", .rule .naming, .one (.exactly .lineEnd)]),
    first [function, classDefinition]]

/-- A choice by patterns. -/
def selection : Peg Rule :=
  all [word "match", .group .sequence (.only areExpressions (listed element)), symbol ":",
    indented (all [word "case", casePattern, opt (all [word "if", .rule .naming]), body])]

/-- **A statement with blocks.** -/
def compound : Peg Rule :=
  .build .statement
    (first [choice, iteration, repetition, trial, opening, definition, selection])

/-- **A statement, or those of a line.** -/
def statement : Peg Rule := first [compound, simpleLine]

/-- **A block:** statements on lines of their own, or behind the colon. -/
def block : Peg Rule := first [indented (.rule .statement), simpleLine]

end Grammar

/-- **What each rule reads.** -/
def rules : Rule → Peg Rule
  | .expression => Grammar.expression
  | .naming => Grammar.naming
  | .condition => Grammar.condition
  | .calculation => Grammar.calculation
  | .primary => Grammar.primary
  | .parenthesized => Grammar.parenthesized
  | .yielding => Grammar.yielding
  | .expressions => Grammar.expressions
  | .pattern => Grammar.pattern
  | .block => Grammar.block
  | .statement => Grammar.statement

/-- The steps that reading some tokens can take within each other. Between two tokens no rule is
come to twice, so that the steps before the next token are fewer than the grammar has parts. -/
def stepBound (tokens : List Token) : Nat :=
  2000 * (tokens.length + 1)

/-- **The tree of a program's text,** if it is a program. -/
def parse? (text : List Char) : Option Tree :=
  match tokens? text with
  | none => none
  | some tokens =>
      match Peg.run? rules (stepBound tokens) (.build .program (.many (.rule .statement))) tokens with
      | some ([tree], []) => some tree
      | _ => none

end StringCatalog.Program
