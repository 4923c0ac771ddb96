import ProbeCatalog.Syntax.Grammar.Pattern

/-!
# The grammar of statements

A simple line may hold several statements, so the parser for a statement gives a
list. A rule with blocks takes that parser as `self`; the number of tokens bounds
the depth of blocks.
-/
namespace ProbeCatalog.Syntax.Statement

open ProbeCatalog.Syntax.Parser
open Expression (isTarget starredOr tupleOf)

/-! ### Simple statements -/

/-- The right side of an assignment. -/
def assigned (expr : ExprParser) : Parser Expr := do
  let value ← if ← atReserved "yield" then Expression.yielded expr else expr .starExpressions
  pure value.value

/-- A target that is neither a tuple nor a list. -/
def isSingleTarget : Expr → Bool
  | .name _ | .attribute _ _ | .subscript _ _ => true
  | _ => false

/-- A target of `del`. -/
def isDeletable : Expr → Bool
  | .name _ | .attribute _ _ | .subscript _ _ => true
  | .tuple items | .list items => areDeletable items
  | _ => false
where
  areDeletable : List Expr → Bool
    | [] => true
    | e :: es => isDeletable e && areDeletable es

/-- The operator inside an updating assignment. -/
def augmentedOp? : String → Option BinaryOp
  | "+=" => some .add
  | "-=" => some .sub
  | "*=" => some .mul
  | "@=" => some .matMul
  | "/=" => some .div
  | "%=" => some .mod
  | "&=" => some .bitAnd
  | "|=" => some .bitOr
  | "^=" => some .bitXor
  | "<<=" => some .shiftLeft
  | ">>=" => some .shiftRight
  | "**=" => some .pow
  | "//=" => some .floorDiv
  | _ => none

/-- An expression on its own, or an assignment of one of the three kinds. -/
def assignment (expr : ExprParser) : Parser Stmt := do
  let bracketed ← atSymbol "("
  let first ← assigned expr
  if ← symbol? ":" then
    ensure (isSingleTarget first)
    let hint ← expr .expression
    let value ← if ← symbol? "=" then do pure (some (← assigned expr)) else pure none
    let isName := match first with
      | .name _ => true
      | _ => false
    pure (.annAssign first hint.value value (bracketed && isName))
  else
    match ← maybe (operator augmentedOp?) with
    | some op =>
      ensure (isSingleTarget first)
      let value ← assigned expr
      pure (.augAssign first op value)
    | none =>
      let rest ← many (do symbol "="; assigned expr)
      match rest.getLast? with
      | none => pure (.expression first)
      | some value =>
        let targets := first :: rest.dropLast
        ensure (targets.all isTarget)
        pure (.assign targets value)

/-- A dotted name as it stands in an import. -/
def dottedName : Parser String := do
  let names ← sepBy1 "." name
  pure (".".intercalate names)

/-- The name something is bound to, if one is given. -/
def boundAs : Parser (Option String) := do
  if ← reserved? "as" then
    let id ← name
    pure (some id)
  else pure none

/-- Something imported, with the name it gets. -/
def imported (subject : Parser String) : Parser ImportedName := do
  let id ← subject
  let as_ ← boundAs
  pure ⟨id, as_⟩

/-- The import of modules. -/
def importing : Parser Stmt := do
  reserved "import"
  let names ← sepBy1 "," (imported dottedName)
  pure (.importing names)

/-- Dots in front of a module, one or three to a token. -/
def dots : Parser Nat := do
  let counts ← many (operator fun
    | "." => some 1
    | "..." => some 3
    | _ => none)
  pure (counts.foldr (· + ·) 0)

/-- What is imported from a module. -/
def importedNames : Parser (List ImportedName) := do
  if ← symbol? "*" then pure [⟨"*", none⟩]
  else if ← symbol? "(" then
    let (names, _) ← commaList (imported name)
    symbol ")"
    pure names
  else sepBy1 "," (imported name)

/-- The import of names from a module. -/
def importingFrom : Parser Stmt := do
  reserved "from"
  let level ← dots
  let module ← if level ≠ 0 && (← atReserved "import") then pure none
    else do pure (some (← dottedName))
  reserved "import"
  let names ← importedNames
  pure (.importingFrom level module names)

/-- A rule's value, if the rule applies. -/
def valueOf (rule : Parser (Located Expr)) : Parser (Option Expr) := do
  let value ← maybe rule
  pure (value.map (·.value))

/-- The raising of an exception. -/
def raising (expr : ExprParser) : Parser Stmt := do
  reserved "raise"
  match ← valueOf (expr .expression) with
  | none => pure (.raising none none)
  | some exception =>
    let cause ← if ← reserved? "from" then do pure (some (← expr .expression).value)
      else pure none
    pure (.raising (some exception) cause)

/-- The deletion of targets. -/
def deleting (expr : ExprParser) : Parser Stmt := do
  reserved "del"
  let (targets, _) ← commaList (expr .bitOr)
  let targets := targets.map (·.value)
  ensure (targets.all isDeletable)
  pure (.delete targets)

/-- An assertion. -/
def asserting (expr : ExprParser) : Parser Stmt := do
  reserved "assert"
  let test ← expr .expression
  let message ← if ← symbol? "," then do pure (some (← expr .expression).value) else pure none
  pure (.assertion test.value message)

/-- A simple statement without its place. -/
def simpleStmt (expr : ExprParser) : Parser Stmt := do
  if ← reserved? "pass" then pure .pass
  else if ← reserved? "break" then pure .breakLoop
  else if ← reserved? "continue" then pure .continueLoop
  else if ← reserved? "return" then
    let value ← valueOf (expr .starExpressions)
    pure (.returning value)
  else if ← atReserved "raise" then raising expr
  else if ← atReserved "import" then importing
  else if ← atReserved "from" then importingFrom
  else if ← atReserved "del" then deleting expr
  else if ← atReserved "assert" then asserting expr
  else if ← reserved? "global" then
    let names ← sepBy1 "," name
    pure (.globals names)
  else if ← reserved? "nonlocal" then
    let names ← sepBy1 "," name
    pure (.nonlocals names)
  else assignment expr

/-- A simple statement. -/
def simple (expr : ExprParser) : Parser (Located Stmt) := do
  let start ← position
  let stmt ← simpleStmt expr
  pure ⟨start, stmt⟩

/-- Simple statements on one line. -/
def simpleLine (expr : ExprParser) : Parser Block := do
  let stmts ← sepBy1 ";" (simple expr)
  let _ ← symbol? ";"
  expect .newline
  pure stmts

/-! ### Compound statements -/

/-- The statements after a colon: an indented block, or the rest of the line. -/
def block (expr : ExprParser) (self : Parser Block) : Parser Block := do
  symbol ":"
  match ← maybe (expect .newline) with
  | some _ =>
    expect .indent
    let stmts ← many1 self
    expect .dedent
    pure stmts.flatten
  | none => simpleLine expr

/-- An `else` block, if one stands here. -/
def elseBlock (expr : ExprParser) (self : Parser Block) : Parser Block := do
  if ← reserved? "else" then block expr self else pure []

/-- What follows `if` or `elif`; a further `elif` is a branch of its own. `bound` is the
number of branches that may follow. -/
def branch (expr : ExprParser) (self : Parser Block) : Nat → Parser Stmt
  | 0 => failure
  | bound + 1 => do
    let test ← expr .named
    let body ← block expr self
    let start ← position
    if ← reserved? "elif" then
      let next ← branch expr self bound
      pure (.branch test.value body [⟨start, next⟩])
    else
      let orelse ← elseBlock expr self
      pure (.branch test.value body orelse)

/-- A loop on a condition, after its keyword. -/
def whileLoop (expr : ExprParser) (self : Parser Block) : Parser Stmt := do
  let test ← expr .named
  let body ← block expr self
  let orelse ← elseBlock expr self
  pure (.whileLoop test.value body orelse)

/-- A loop over a source, after its keyword. -/
def forLoop (expr : ExprParser) (self : Parser Block) (isAsync : Bool) : Parser Stmt := do
  let target ← Expression.loopTargets expr
  reserved "in"
  let source ← expr .starExpressions
  let body ← block expr self
  let orelse ← elseBlock expr self
  pure (.forLoop isAsync target source.value body orelse)

/-- A resource of a `with` statement. -/
def withItem (expr : ExprParser) : Parser WithItem := do
  let context ← expr .expression
  if ← reserved? "as" then
    let target ← starredOr expr .bitOr (expr .bitOr)
    ensure (isTarget target.value)
    pure ⟨context.value, some target.value⟩
  else pure ⟨context.value, none⟩

/-- Resources in brackets, which the colon of the block follows directly. -/
def bracketedItems (expr : ExprParser) : Parser (List WithItem) := do
  symbol "("
  let (items, _) ← commaList (withItem expr)
  symbol ")"
  ensure (← atSymbol ":")
  pure items

/-- A block with resources, after its keyword. Round brackets belong to the list of
resources where that reading works, and else to the first resource. -/
def withBlock (expr : ExprParser) (self : Parser Block) (isAsync : Bool) : Parser Stmt := do
  let items ← either (bracketedItems expr) (sepBy1 "," (withItem expr))
  let body ← block expr self
  pure (.withBlock isAsync items body)

/-- A handler of exceptions. -/
def handler (expr : ExprParser) (self : Parser Block) (grouped : Bool) : Parser Handler := do
  reserved "except"
  if grouped then symbol "*" else pure ()
  if !grouped && (← atSymbol ":") then
    let body ← block expr self
    pure ⟨none, none, body⟩
  else
    let type ← expr .expression
    let id ← boundAs
    let body ← block expr self
    pure ⟨some type.value, id, body⟩

/-- A block with handlers, after its keyword. All handlers are of one kind, and there is
a handler or a final block. -/
def tryBlock (expr : ExprParser) (self : Parser Block) : Parser Stmt := do
  let body ← block expr self
  let plain ← many (handler expr self false)
  let grouped ← if plain.isEmpty then many (handler expr self true) else pure []
  let handlers := plain ++ grouped
  let orelse ← if handlers.isEmpty then pure [] else elseBlock expr self
  let final ← if ← reserved? "finally" then block expr self else pure []
  ensure (!handlers.isEmpty || !final.isEmpty)
  pure (.tryBlock (!grouped.isEmpty) body handlers orelse final)

/-- The subject of `match`. -/
def subject (expr : ExprParser) : Parser Expr := do
  let start ← position
  let (items, trailing) ← commaList (Expression.item expr)
  let value := (tupleOf start items trailing).value
  ensure (!Expression.isStarred value)
  pure value

/-- One case of a `match` statement. -/
def caseBlock (expr : ExprParser) (pattern : Parser Pattern) (self : Parser Block) :
    Parser Case := do
  word "case"
  let p ← Matching.openSequence pattern
  let guard ← if ← reserved? "if" then do pure (some (← expr .named).value) else pure none
  let body ← block expr self
  pure ⟨p, guard, body⟩

/-- A `match` statement; its words are names elsewhere. -/
def matching (expr : ExprParser) (pattern : Parser Pattern) (self : Parser Block) :
    Parser Stmt := do
  word "match"
  let value ← subject expr
  symbol ":"
  expect .newline
  expect .indent
  let cases ← many1 (caseBlock expr pattern self)
  expect .dedent
  pure (.matching value cases)

/-- The definition of a class with the decorators above it. -/
def classDef (expr : ExprParser) (self : Parser Block) (decorators : List (Located Expr)) :
    Parser Stmt := do
  reserved "class"
  let id ← name
  let (bases, keywords) ←
    if ← symbol? "(" then Expression.arguments expr false else pure ([], [])
  let body ← block expr self
  pure (.classDef ⟨id, bases, keywords, body, decorators⟩)

/-- The definition of a function with the decorators above it. -/
def functionDef (expr : ExprParser) (self : Parser Block) (decorators : List (Located Expr))
    (isAsync : Bool) : Parser Stmt := do
  reserved "def"
  let id ← name
  symbol "("
  let params ← Expression.parameters expr true ")"
  let returns ← if ← symbol? "->" then do pure (some (← expr .expression)) else pure none
  let body ← block expr self
  pure (.functionDef ⟨isAsync, id, params, returns, body, decorators⟩)

/-- A decorator with its line end. -/
def decorator (expr : ExprParser) : Parser (Located Expr) := do
  symbol "@"
  let value ← expr .named
  expect .newline
  pure value

/-- A class or function with its decorators. The place is that of the definition. -/
def definition (expr : ExprParser) (self : Parser Block) : Parser (Located Stmt) := do
  let decorators ← many (decorator expr)
  let start ← position
  let stmt ←
    if ← atReserved "class" then classDef expr self decorators
    else
      let isAsync ← reserved? "async"
      functionDef expr self decorators isAsync
  pure ⟨start, stmt⟩

/-- A statement that begins with `async` and defines nothing. -/
def asyncBlock (expr : ExprParser) (self : Parser Block) : Parser Stmt := do
  reserved "async"
  if ← reserved? "for" then forLoop expr self true
  else
    reserved "with"
    withBlock expr self true

/-- The next two tokens are the given reserved words. -/
def atReservedTwo (v w : String) : Parser Bool := fun tokens =>
  match tokens with
  | a :: b :: _ => some (a.value = .reserved v ∧ b.value = .reserved w, tokens)
  | _ => some (false, tokens)

/-- A statement with blocks that begins with a reserved word. -/
def compound (expr : ExprParser) (self : Parser Block) : Parser Stmt := do
  if ← reserved? "if" then fun tokens => branch expr self tokens.length tokens
  else if ← reserved? "while" then whileLoop expr self
  else if ← reserved? "for" then forLoop expr self false
  else if ← reserved? "with" then withBlock expr self false
  else if ← reserved? "try" then tryBlock expr self
  else asyncBlock expr self

/-- The next token begins a definition. -/
def atDefinition : Parser Bool := do
  pure ((← atSymbol "@") || (← atReserved "class") || (← atReserved "def") ||
    (← atReservedTwo "async" "def"))

/-- The reserved words that begin other statements with blocks. -/
def compoundWords : List String := ["if", "while", "for", "with", "try", "async"]

/-- The next token begins another statement with blocks. -/
def atCompound : Parser Bool := fun tokens =>
  some (compoundWords.any fun w => tokens.head?.any (·.value = .reserved w), tokens)

/-- The next token is the name by which a `match` statement begins. -/
def atMatch : Parser Bool := fun tokens =>
  some (tokens.head?.any (·.value = .name "match".toList), tokens)

/-- The statements of one logical line and the blocks that belong to it. -/
def rule (expr : ExprParser) (pattern : Parser Pattern) (self : Parser Block) : Parser Block := do
  let start ← position
  if ← atDefinition then
    let stmt ← definition expr self
    pure [stmt]
  else if ← atCompound then
    let stmt ← compound expr self
    pure [⟨start, stmt⟩]
  else if ← atMatch then
    either (do let stmt ← matching expr pattern self; pure [⟨start, stmt⟩]) (simpleLine expr)
  else simpleLine expr

/-- The grammar of statements, to a given depth. -/
def parse (expr : ExprParser) (pattern : Parser Pattern) : Nat → Parser Block
  | 0 => failure
  | depth + 1 => rule expr pattern (parse expr pattern depth)

end ProbeCatalog.Syntax.Statement
