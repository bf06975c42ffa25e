import StringCatalog.Program.Grammar.Expression

/-! # The grammar of patterns

What the cases of a choice are compared with: numbers, strings, names, objects, and several of these
in brackets. -/

namespace StringCatalog.Program.Grammar

open Peg

/-- A name that is given to what is found; an underscore is none. -/
def captured : Peg Rule := all [.notAhead (word "_"), name]

/-- A number with its sign, or a sum of a real number and an imaginary one. -/
def numberPattern : Peg Rule :=
  .build .operation (first [
    all [opt (symbol "-"), .one .real, first [symbol "+", symbol "-"], .one .imaginary],
    all [opt (symbol "-"), .one .number, .notAhead (first [symbol "+", symbol "-"])]])

/-- A value that is written out. -/
def literalPattern : Peg Rule := first [numberPattern, strings, constant]

/-- A name with at least so many names of parts behind it. -/
def path (isLong : Bool) : Peg Rule :=
  let part : Peg Rule := all [symbol ".", name]
  all [name, if isLong then oneOrMore part else .many part]

/-- A member of a pattern with several, which may take more than one value. -/
def patternElement : Peg Rule :=
  first [.build .starred (all [symbol "*", name]), .rule .pattern]

/-- One or several patterns with commas. -/
def patternList : Peg Rule := listed patternElement

/-- The parts of an object. -/
def objectPart : Peg Rule :=
  first [.build .keyword (all [name, symbol "=", .rule .pattern]), .rule .pattern]

/-- A name, a part with its path, or an object of some kind. -/
def namePattern : Peg Rule :=
  .build .operation (all [path false, first [
    all [symbol "(", .only areObjectParts (opt (listed objectPart)), symbol ")"],
    .notAhead (first [symbol ".", symbol "(", symbol "="])]])

/-- An entry of a pattern in braces. -/
def entryPattern : Peg Rule :=
  first [.build .unpacked (all [symbol "**", captured]),
    .build .entry (all [first [literalPattern, path true], symbol ":", .rule .pattern])]

/-- A pattern without alternatives. -/
def closedPattern : Peg Rule :=
  first [literalPattern, namePattern,
    .build .parenthesized
      (.only areParenthesized (all [symbol "(", opt patternList, symbol ")"])),
    .build .list (all [symbol "[", opt patternList, symbol "]"]),
    .build .braces (.only isRestLast
      (all [symbol "\x7b", opt (listed entryPattern), symbol "\x7d"]))]

/-- **A pattern,** with alternatives and a name for what is found. -/
def pattern : Peg Rule :=
  .build .operation (all [separated (symbol "|") closedPattern, opt (all [word "as", captured,
    .notAhead (first [symbol ".", symbol "(", symbol "="])])])

/-- The pattern of a case, which may be several without brackets. -/
def casePattern : Peg Rule := .group .sequence (.only areExpressions patternList)

end StringCatalog.Program.Grammar
