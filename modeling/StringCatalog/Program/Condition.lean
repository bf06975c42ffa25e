import StringCatalog.Program.Tree

/-! # Conditions on syntax trees

What a grammar asks for beyond the order of tokens:

* **`isTarget`, `areTargets`** — what values can be given to, in an assignment or a loop.
* **`isPlainTarget`** — what a single value can be given to.
* **`isErasable`** — what can be deleted.
* **`inCallOrder`, `inSignatureOrder`** — in which order arguments and parameters come. -/

namespace StringCatalog.Program

/-! ## Targets -/

mutual

/-- **What a value can be given to:** a name, a part of something, or several of these in brackets,
some with a star. A single one with a star does not stand in parentheses. -/
def isTarget : Tree → Bool
  | .token leaf => leaf.lexeme.isName
  | .form .member _ => true
  | .form .item _ => true
  | .form .list parts => areTargetParts parts
  | .form .parenthesized [_, inner, _] => isTarget inner
  | .form .parenthesized parts => areTargetParts parts
  | .form _ _ => false

/-- Whether trees between brackets and commas are targets, some perhaps with a star. -/
def areTargetParts : List Tree → Bool
  | [] => true
  | .form .starred [_, inner] :: rest => isTarget inner && areTargetParts rest
  | tree :: rest => (tree.isSeparator || isTarget tree) && areTargetParts rest

end

/-- A target that may have a star. -/
def isStarTarget : Tree → Bool
  | .form .starred [_, inner] => isTarget inner
  | tree => isTarget tree

/-- **What values can be given to:** one target, or several with commas. -/
def areTargets : Tree → Bool
  | .form .sequence parts => areTargetParts parts
  | tree => isStarTarget tree

/-- **What a single value can be given to:** a name or a part of something, perhaps in
parentheses. -/
def isPlainTarget : Tree → Bool
  | .token leaf => leaf.lexeme.isName
  | .form .member _ => true
  | .form .item _ => true
  | .form .parenthesized [_, inner, _] => isPlainTarget inner
  | .form _ _ => false

mutual

/-- **What can be deleted:** a name, a part of something, or several of these in brackets. -/
def isErasable : Tree → Bool
  | .token leaf => leaf.lexeme.isName
  | .form .member _ => true
  | .form .item _ => true
  | .form .list parts => areErasable parts
  | .form .parenthesized parts => areErasable parts
  | .form _ _ => false

/-- Whether trees between brackets and commas can all be deleted. -/
def areErasable : List Tree → Bool
  | [] => true
  | tree :: rest => (tree.isSeparator || isErasable tree) && areErasable rest

end

/-! ## Brackets -/

/-- Whether the parts in parentheses go together: an expression with a star needs a comma, and it is
not produced by loops. -/
def areParenthesized (parts : List Tree) : Bool :=
  match parts with
  | [_, inner, _] => !inner.isForm .starred
  | _ :: first :: second :: _ => !(first.isForm .starred && second.isForm .loop)
  | _ => true

/-- Whether the parts in square brackets go together. -/
def areListed (parts : List Tree) : Bool :=
  match parts with
  | _ :: first :: second :: _ => !(first.isForm .starred && second.isForm .loop)
  | _ => true

/-- Whether the parts in braces go together: all with keys or none, and loops produce neither what
has a star nor what has two. -/
def areBraced (parts : List Tree) : Bool :=
  let members := Tree.members parts
  let isKeyed (tree : Tree) : Bool := tree.isForm .entry || tree.isForm .unpacked
  if members.any (·.isForm .loop) then
    !(members.any fun tree => tree.isForm .starred || tree.isForm .unpacked)
  else members.all isKeyed || !members.any isKeyed

/-- Whether an entry has no naming for its key. -/
def isEntryKey (parts : List Tree) : Bool :=
  match parts with
  | [_] => true
  | key :: _ => !key.isForm .naming
  | [] => false

/-- Whether several expressions with commas stand where only in company one may have a star. -/
def areExpressions (parts : List Tree) : Bool :=
  match parts with
  | [single] => !single.isForm .starred
  | _ => true

/-! ## Arguments and parameters -/

/-- How far the arguments of a call have come. -/
inductive CallStage where
  /-- Arguments without names may come. -/
  | positions
  /-- There was one with a name. -/
  | names
  /-- There was one with two stars. -/
  | unpackings
  deriving DecidableEq, Repr

/-- **Whether arguments are in order:** those without names first, none with one star behind one
with two. -/
def inCallOrder : CallStage → List Tree → Bool
  | _, [] => true
  | stage, tree :: rest =>
      if tree.isForm .keyword then
        inCallOrder (if stage == .positions then .names else stage) rest
      else if tree.isForm .unpacked then inCallOrder .unpackings rest
      else if tree.isForm .starred then stage != .unpackings && inCallOrder stage rest
      else stage == .positions && inCallOrder stage rest

/-- Whether the arguments in parentheses go together: they are in order, and one that loops produce
stands alone. -/
def areArguments (parts : List Tree) : Bool :=
  if parts.any (·.isForm .production) then parts.length == 3
  else inCallOrder .positions (Tree.members parts)

/-- Whether the arguments in parentheses go together where none is produced by loops. -/
def arePlainArguments (parts : List Tree) : Bool :=
  areArguments parts && !parts.any (·.isForm .production)

/-- How far the parameters of a function have come. -/
inductive SignatureStage where
  /-- Nothing has come, or parameters without defaults. -/
  | plain (isEmpty hasSlash : Bool)
  /-- There was a default. -/
  | defaults (hasSlash : Bool)
  /-- There was a star alone, and no name behind it. -/
  | star
  /-- There was a star, and a name. -/
  | names
  /-- Nothing may come. -/
  | done
  deriving DecidableEq, Repr

/-- Whether a parameter has a default. -/
def hasDefault (tree : Tree) : Bool :=
  tree.parts.any (·.isSymbol "=")

/-- The stage behind a parameter, if it may stand there. -/
def SignatureStage.next? (stage : SignatureStage) (tree : Tree) : Option SignatureStage :=
  if tree.isForm .slash then
    match stage with
    | .plain false false => some (.plain false true)
    | .defaults false => some (.defaults true)
    | _ => none
  else if tree.isForm .starred then
    match stage with
    | .plain _ _ | .defaults _ => some (if tree.parts.length == 1 then .star else .names)
    | _ => none
  else if tree.isForm .unpacked then
    match stage with
    | .star | .done => none
    | _ => some .done
  else
    match stage with
    | .plain _ hasSlash =>
        some (if hasDefault tree then .defaults hasSlash else .plain false hasSlash)
    | .defaults hasSlash => if hasDefault tree then some (.defaults hasSlash) else none
    | .star | .names => some .names
    | .done => none

/-- **Whether parameters are in order:** behind one with a default only such ones up to a star; a
slash behind at least one; a name behind a star alone; two stars last. -/
def inSignatureOrder : SignatureStage → List Tree → Bool
  | stage, [] => stage != .star
  | stage, tree :: rest =>
      match stage.next? tree with
      | some next => inSignatureOrder next rest
      | none => false

/-- Whether several parameters with commas are in order. -/
def areParameters (parts : List Tree) : Bool :=
  inSignatureOrder (.plain true false) (Tree.members parts)

/-! ## Statements -/

/-- The marks that change a value and keep it. -/
def updateMarks : List String :=
  ["+=", "-=", "*=", "@=", "/=", "%=", "&=", "|=", "^=", "<<=", ">>=", "**=", "//="]

/-- Whether what stands before each equals sign can be given values. -/
def areAssigned : List Tree → Bool
  | target :: equals :: value :: rest =>
      equals.isSymbol "=" && areTargets target && areAssigned (value :: rest)
  | _ => true

/-- Whether an assignment gives values to what can have them. -/
def isAssignment (parts : List Tree) : Bool :=
  match parts with
  | target :: mark :: _ =>
      if mark.isSymbol ":" || updateMarks.any mark.isSymbol then isPlainTarget target
      else areAssigned parts
  | _ => true

/-- Whether adjacent strings are all of characters or all of bytes. -/
def areAlike (parts : List Tree) : Bool :=
  let isBytes : Tree → Bool
    | .token leaf => leaf.lexeme == .bytes
    | .form _ _ => false
  parts.all isBytes || !parts.any isBytes

/-- Whether the entries of a pattern leave what takes the rest to the end. -/
def isRestLast (parts : List Tree) : Bool :=
  match (Tree.members parts).reverse with
  | [] => true
  | _ :: before => !before.any (·.isForm .unpacked)

/-- Whether the parts of a pattern for an object come without names first. -/
def areObjectParts (parts : List Tree) : Bool :=
  inCallOrder .positions (Tree.members parts)

end StringCatalog.Program
