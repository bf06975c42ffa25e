import StringCatalog.Program.Condition
import StringCatalog.Program.Peg

/-! # The grammar of expressions

* **`Rule`** — the rules that refer to each other.
* **`Grammar.expression`, `Grammar.atom`, `Grammar.primary`** — expressions from the loosest to the
  tightest.
* **`Grammar.argumentList`, `Grammar.parameters`** — what calls and functions have in parentheses.

Operators that stand between operands are read in one list each, for how tightly they bind decides
nothing here: at what places calls stand does not hang on it, nor what is an expression. -/

namespace StringCatalog.Program

/-- **The rules of the grammar.** -/
inductive Rule where
  /-- An expression. -/
  | expression
  /-- An expression that may be given a name. -/
  | naming
  /-- Comparisons joined by words. -/
  | condition
  /-- Operands with operators. -/
  | calculation
  /-- An atom with calls, parts and indices behind it. -/
  | primary
  /-- Anything in parentheses. -/
  | parenthesized
  /-- What a function hands out. -/
  | yielding
  /-- One or several expressions with commas, which may have stars. -/
  | expressions
  /-- A pattern. -/
  | pattern
  /-- A block of statements. -/
  | block
  /-- A statement. -/
  | statement
  deriving DecidableEq, Repr

namespace Grammar

open Peg

/-! ## Elements -/

/-- An expression with a star, if that may be the case, or one that may be given a name. -/
def element : Peg Rule :=
  first [.build .starred (all [symbol "*", .rule .calculation]), .rule .naming]

/-- A target of a loop or of an opened resource. -/
def target : Peg Rule :=
  .only (fun trees => trees.all isStarTarget)
    (first [.build .starred (all [symbol "*", .rule .primary]), .rule .primary])

/-- One or several targets with commas. -/
def targets : Peg Rule := listed target

/-- A loop that produces elements. -/
def loop : Peg Rule :=
  .build .loop (all [opt (word "async"), word "for", targets, word "in", .rule .condition,
    .many (all [word "if", .rule .condition])])

/-- What stands behind the first element in brackets: loops, or more elements. -/
def elementsAfter (next : Peg Rule) : Peg Rule :=
  first [oneOrMore loop, all [.many (all [comma, next]), opt comma]]

/-- Anything in parentheses. -/
def parenthesized : Peg Rule :=
  .build .parenthesized (.only areParenthesized (all [symbol "(",
    opt (first [.rule .yielding, all [element, elementsAfter element]]), symbol ")"]))

/-- Anything in square brackets. -/
def list : Peg Rule :=
  .build .list (.only areListed
    (all [symbol "[", opt (all [element, elementsAfter element]), symbol "]"]))

/-- A member of what stands in braces. -/
def bracedElement : Peg Rule :=
  first [.build .unpacked (all [symbol "**", .rule .calculation]),
    .build .starred (all [symbol "*", .rule .calculation]),
    .group .entry (.only isEntryKey (all [.rule .naming, opt (all [symbol ":", .rule .expression])]))]

/-- Anything in braces. -/
def braces : Peg Rule :=
  .build .braces (.only areBraced
    (all [symbol "\x7b", opt (all [bracedElement, elementsAfter bracedElement]), symbol "\x7d"]))

/-- A string with fields. -/
def fieldString : Peg Rule :=
  .build .fields (all [.one (.exactly .openFields), .many (.rule .parenthesized),
    .one (.exactly .closeFields)])

/-- Adjacent strings. -/
def strings : Peg Rule :=
  .build .strings (.only areAlike (oneOrMore (first [.one .text, .one .bytes, fieldString])))

/-- The words for single values. -/
def constant : Peg Rule :=
  first [word "None", word "True", word "False"]

/-- What stands for itself. -/
def atom : Peg Rule :=
  first [name, strings, .one .number, .rule .parenthesized, list, braces, symbol "...", constant]

/-! ## Calls, parts and indices -/

/-- An argument of a call. -/
def argument : Peg Rule :=
  first [.build .unpacked (all [symbol "**", .rule .expression]),
    .build .starred (all [symbol "*", .rule .expression]),
    .build .keyword (all [name, symbol "=", .rule .expression]),
    .group .production (all [.rule .naming, .many loop])]

/-- Arguments in parentheses. -/
def argumentList : Peg Rule :=
  all [symbol "(", opt (listed argument), symbol ")"]

/-- What stands behind the colon of a range. -/
def rangeEnd : Peg Rule :=
  all [symbol ":", opt (.rule .expression), opt (all [symbol ":", opt (.rule .expression)])]

/-- An index or a range of indices. -/
def index : Peg Rule :=
  first [.build .starred (all [symbol "*", .rule .expression]),
    .group .operation (first [rangeEnd, .only isEntryKey (all [.rule .naming, opt rangeEnd])])]

/-- **An atom with calls, parts and indices behind it.** -/
def primary : Peg Rule :=
  .chain atom (first [.build .member (all [symbol ".", name]),
    .build .call (.only areArguments argumentList),
    .build .item (all [symbol "[", listed index, symbol "]"])])

/-! ## Operators -/

/-- A primary with the signs before it. -/
def operand : Peg Rule :=
  .group .operation (all [.many (first [symbol "-", symbol "+", symbol "~"]), opt (word "await"),
    .rule .primary])

/-- The operators of arithmetic. -/
def arithmetic : Peg Rule :=
  first (["+", "-", "*", "/", "//", "%", "@", "**", "<<", ">>", "&", "^", "|"].map symbol)

/-- **Operands with operators.** -/
def calculation : Peg Rule :=
  .group .operation (separated arithmetic operand)

/-- The comparisons. -/
def comparison : Peg Rule :=
  first [symbol "==", symbol "!=", symbol "<=", symbol "<", symbol ">=", symbol ">",
    all [word "not", word "in"], word "in", all [word "is", opt (word "not")]]

/-- Calculations that are compared, perhaps turned around. -/
def compared : Peg Rule :=
  .group .operation
    (all [.many (word "not"), separated comparison (.rule .calculation)])

/-- **Comparisons joined by words.** -/
def condition : Peg Rule :=
  .group .operation (separated (first [word "and", word "or"]) compared)

/-! ## Parameters -/

/-- A name and what may be said about it. -/
def annotated (isTyped : Bool) (remark : Peg Rule) : Peg Rule :=
  if isTyped then all [name, opt (all [symbol ":", remark])] else name

/-- A parameter of a function. -/
def parameter (isTyped : Bool) : Peg Rule :=
  first [.build .slash (symbol "/"),
    .build .unpacked (all [symbol "**", annotated isTyped (.rule .expression)]),
    .build .starred (all [symbol "*", opt (annotated isTyped
      (first [.build .starred (all [symbol "*", .rule .calculation]), .rule .expression]))]),
    .build .parameter (all [annotated isTyped (.rule .expression),
      opt (all [symbol "=", .rule .expression])])]

/-- **The parameters of a function.** -/
def parameters (isTyped : Bool) : Peg Rule :=
  .only areParameters (listed (parameter isTyped))

/-! ## Expressions -/

/-- A function without a name. -/
def lambda : Peg Rule :=
  .build .operation
    (all [word "lambda", opt (parameters false), symbol ":", .rule .expression])

/-- **An expression.** -/
def expression : Peg Rule :=
  first [lambda, .group .operation (all [.rule .condition,
    opt (all [word "if", .rule .condition, word "else", .rule .expression])])]

/-- **An expression that may be given a name.** -/
def naming : Peg Rule :=
  first [.build .naming (all [name, symbol ":=", .rule .expression]),
    all [.rule .expression, .notAhead (symbol ":=")]]

/-- An expression that may have a star. -/
def starExpression : Peg Rule :=
  first [.build .starred (all [symbol "*", .rule .calculation]), .rule .expression]

/-- **One or several expressions with commas.** -/
def expressions : Peg Rule := .group .sequence (listed starExpression)

/-- **What a function hands out.** -/
def yielding : Peg Rule :=
  .build .yielding (all [word "yield",
    first [all [word "from", .rule .expression], opt (.rule .expressions)]])

end Grammar

end StringCatalog.Program
