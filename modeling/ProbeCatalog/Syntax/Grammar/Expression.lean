import ProbeCatalog.Syntax.Grammar.Parser
import ProbeCatalog.Syntax.Formatted

/-!
# The grammar of expressions

One definition per rule of the grammar. A rule that contains expressions again, of
whatever kind, takes the parser for them as `self`; `Expression.parse` ties the knot.
Every use of `self` follows a token that its rule has taken, and the source of a field
in a formatted string is shorter than the string, so the length of a source bounds
the depth of the recursion.

An expression is given with its place. Brackets around a whole expression leave no
trace, and its place is then the one inside them.
-/
namespace ProbeCatalog.Syntax

/-- The kinds of expression that other expressions contain. -/
inductive Goal where
  /-- Expressions, some perhaps starred, that commas make a tuple. -/
  | starExpressions
  /-- An expression, or a name bound to one on the way. -/
  | named
  | expression
  | disjunction
  | inversion
  | bitOr
  | factor
  deriving DecidableEq

/-- A parser for each kind of expression. -/
abbrev ExprParser := Goal → Parser (Located Expr)

namespace Expression

open ProbeCatalog.Syntax.Parser
open Literal (numberValue? decodeText decodeOctets)
open Formatted (split resolve joinLiterals)
open Lexer (lexLines)

/-- The target of an assignment: a name, an attribute, an item, or a list of targets,
of which one may be starred directly. -/
def isTarget : Expr → Bool
  | .name _ | .attribute _ _ | .subscript _ _ => true
  | .tuple items | .list items => areTargets items
  | .starred value => isPlainTarget value
  | _ => false
where
  areTargets : List Expr → Bool
    | [] => true
    | e :: es => isTarget e && areTargets es
  isPlainTarget : Expr → Bool
    | .name _ | .attribute _ _ | .subscript _ _ => true
    | .tuple items | .list items => areTargets items
    | _ => false

/-- One item as it is, several or one with a comma as a tuple. -/
def tupleOf (start : Position) (items : List (Located Expr)) (trailing : Bool) : Located Expr :=
  match items, trailing with
  | [item], false => item
  | _, _ => ⟨start, .tuple (items.map (·.value))⟩

/-- A starred value, of the given kind. -/
def starred (self : ExprParser) (goal : Goal) : Parser (Located Expr) := do
  let start ← position
  symbol "*"
  let value ← self goal
  pure ⟨start, .starred value.value⟩

/-- A rule, or a starred value before it is tried. -/
def starredOr (self : ExprParser) (goal : Goal) (rule : Parser (Located Expr)) :
    Parser (Located Expr) := do
  if ← atSymbol "*" then starred self goal else rule

/-! ### Operators -/

/-- Operands joined from the left by the operators that `meaning` knows. -/
def leftChain (meaning : String → Option BinaryOp) (operand : Parser (Located Expr)) :
    Parser (Located Expr) := do
  let start ← position
  let first ← operand
  let rest ← many (do
    let op ← operator meaning
    let right ← operand
    pure (op, right.value))
  pure (rest.foldl (fun left (op, right) => ⟨start, .binary op left.value right⟩) first)

/-- Operands joined by a reserved word; one operand stays as it is. -/
def wordChain (w : String) (op : BoolOp) (operand : Parser (Located Expr)) :
    Parser (Located Expr) := do
  let start ← position
  let first ← operand
  let rest ← many (do reserved w; operand)
  match rest with
  | [] => pure first
  | _ => pure ⟨start, .bool op (first.value :: rest.map (·.value))⟩

/-- The operators of products. -/
def termOp? : String → Option BinaryOp
  | "*" => some .mul
  | "/" => some .div
  | "//" => some .floorDiv
  | "%" => some .mod
  | "@" => some .matMul
  | _ => none

/-- The operators of sums. -/
def sumOp? : String → Option BinaryOp
  | "+" => some .add
  | "-" => some .sub
  | _ => none

/-- The operators that shift bits. -/
def shiftOp? : String → Option BinaryOp
  | "<<" => some .shiftLeft
  | ">>" => some .shiftRight
  | _ => none

/-- The operator for bits in both. -/
def bitAndOp? : String → Option BinaryOp
  | "&" => some .bitAnd
  | _ => none

/-- The operator for bits in one. -/
def bitXorOp? : String → Option BinaryOp
  | "^" => some .bitXor
  | _ => none

/-- The operator for bits in either. -/
def bitOrOp? : String → Option BinaryOp
  | "|" => some .bitOr
  | _ => none

/-- The operators in front of an operand. -/
def signOp? : String → Option UnaryOp
  | "+" => some .plus
  | "-" => some .minus
  | "~" => some .invert
  | _ => none

/-- The comparisons that are written with a symbol. -/
def compareOp? : String → Option CompareOp
  | "==" => some .eq
  | "!=" => some .notEq
  | "<" => some .lt
  | "<=" => some .le
  | ">" => some .gt
  | ">=" => some .ge
  | _ => none

/-- A comparison operator, of symbols or of reserved words. -/
def comparison : Parser CompareOp := do
  if ← reserved? "in" then pure .member
  else if ← reserved? "not" then
    reserved "in"
    pure .notMember
  else if ← reserved? "is" then
    if ← reserved? "not" then pure .isNot else pure .is
  else operator compareOp?

/-! ### Strings -/

/-- The pieces of one literal among those of a formatted string. -/
def piecesOf (read : List Char → Option Expr) (literal : StringLiteral) : Option (List Piece) :=
  if literal.isFormatted then do
    let raw ← split literal.isRaw literal.body
    resolve literal.isRaw read raw
  else (decodeText literal.isRaw literal.body).map fun text => [.literal text]

/-- The value of adjacent string literals. All or none of them denote octets. -/
def joinStrings (read : List Char → Option Expr) (literals : List StringLiteral) : Option Expr :=
  if literals.all (·.isBytes) then do
    let parts ← literals.mapM fun l => decodeOctets l.isRaw l.body
    pure (.constant (.bytes parts.flatten))
  else if literals.any (·.isBytes) then none
  else if literals.any (·.isFormatted) then do
    let parts ← literals.mapM (piecesOf read)
    pure (.formatted (joinLiterals parts.flatten))
  else do
    let parts ← literals.mapM fun l => decodeText l.isRaw l.body
    pure (.constant (.string parts.flatten (literals.head?.any (·.isMarked))))

/-- The expression of a field. Its source is read between brackets, so that it may be
broken into lines and begin with blanks. -/
def readField (self : ExprParser) (source : List Char) : Option Expr := do
  let tokens ← lexLines ('(' :: (source ++ [')', '\n']))
  let (value, _) ← self .starExpressions tokens
  pure value.value

/-- A string literal. -/
def stringLiteral : Parser StringLiteral := fun tokens =>
  match tokens with
  | ⟨_, .string literal⟩ :: rest => some (literal, rest)
  | _ => none

/-- Adjacent string literals. -/
def strings (self : ExprParser) : Parser Expr := do
  let literals ← many1 stringLiteral
  match joinStrings (readField self) literals with
  | some value => pure value
  | none => failure

/-! ### Brackets -/

/-- The targets of a loop. -/
def loopTargets (self : ExprParser) : Parser Expr := do
  let start ← position
  let (items, trailing) ← commaList (starredOr self .bitOr (self .bitOr))
  let target := (tupleOf start items trailing).value
  ensure (isTarget target)
  pure target

/-- A clause of a comprehension. -/
def clause (self : ExprParser) : Parser Clause := do
  let isAsync ← reserved? "async"
  reserved "for"
  let target ← loopTargets self
  reserved "in"
  let source ← self .disjunction
  let conditions ← many (do reserved "if"; self .disjunction)
  pure ⟨isAsync, target, source.value, conditions.map (·.value)⟩

/-- Clauses, if a clause begins here. -/
def clauses? (self : ExprParser) : Parser (Option (List Clause)) := do
  if (← atReserved "for") || (← atReserved "async") then
    let clauses ← many1 (clause self)
    pure (some clauses)
  else pure none

/-- An item of a list or a tuple in brackets. -/
def item (self : ExprParser) : Parser (Located Expr) := starredOr self .bitOr (self .named)

/-- The expression is an unpacking. -/
def isStarred : Expr → Bool
  | .starred _ => true
  | _ => false

/-- The items after a first one, up to the closing symbol. -/
def furtherItems (self : ExprParser) (close : String) : Parser (List (Located Expr)) := do
  if ← symbol? "," then commaListTo close (item self)
  else
    symbol close
    pure []

/-- A yielded value. -/
def yielded (self : ExprParser) : Parser (Located Expr) := do
  let start ← position
  reserved "yield"
  if ← reserved? "from" then
    let value ← self .expression
    pure ⟨start, .yieldFrom value.value⟩
  else
    let value ← maybe (self .starExpressions)
    pure ⟨start, .yield (value.map (·.value))⟩

/-- What round brackets hold: nothing or items (a tuple), one expression, or a
generator. -/
def round (self : ExprParser) : Parser (Located Expr) := do
  let start ← position
  symbol "("
  if ← symbol? ")" then pure ⟨start, .tuple []⟩
  else if ← atReserved "yield" then
    let value ← yielded self
    symbol ")"
    pure value
  else
    let first ← item self
    match ← clauses? self with
    | some clauses =>
      ensure (!isStarred first.value)
      symbol ")"
      pure ⟨start, .generator first.value clauses⟩
    | none =>
      if ← atSymbol "," then
        let rest ← furtherItems self ")"
        pure ⟨start, .tuple (first.value :: rest.map (·.value))⟩
      else
        symbol ")"
        ensure (!isStarred first.value)
        pure first

/-- What square brackets hold at the start of an expression: a list. -/
def square (self : ExprParser) : Parser (Located Expr) := do
  let start ← position
  symbol "["
  if ← symbol? "]" then pure ⟨start, .list []⟩
  else
    let first ← item self
    match ← clauses? self with
    | some clauses =>
      ensure (!isStarred first.value)
      symbol "]"
      pure ⟨start, .listComp first.value clauses⟩
    | none =>
      let rest ← furtherItems self "]"
      pure ⟨start, .list (first.value :: rest.map (·.value))⟩

/-- An item of a dictionary. -/
def dictItem (self : ExprParser) : Parser (Option Expr × Expr) := do
  if ← symbol? "**" then
    let value ← self .bitOr
    pure (none, value.value)
  else
    let key ← self .expression
    symbol ":"
    let value ← self .expression
    pure (some key.value, value.value)

/-- The items of a dictionary after a first one, up to the closing brace. -/
def furtherDictItems (self : ExprParser) : Parser (List (Option Expr × Expr)) := do
  if ← symbol? "," then commaListTo "\x7d" (dictItem self)
  else
    symbol "\x7d"
    pure []

/-- What braces hold: a dictionary or a set. -/
def curly (self : ExprParser) : Parser (Located Expr) := do
  let start ← position
  symbol "\x7b"
  if ← symbol? "\x7d" then pure ⟨start, .dict []⟩
  else if ← atSymbol "**" then
    let first ← dictItem self
    let rest ← furtherDictItems self
    pure ⟨start, .dict (first :: rest)⟩
  else
    let isBound ← atNameThen ":="
    let first ← item self
    if ← symbolIf (!isBound && !isStarred first.value) ":" then
      let value ← self .expression
      match ← clauses? self with
      | some clauses =>
        symbol "\x7d"
        pure ⟨start, .dictComp first.value value.value clauses⟩
      | none =>
        let rest ← furtherDictItems self
        pure ⟨start, .dict ((some first.value, value.value) :: rest)⟩
    else
      match ← clauses? self with
      | some clauses =>
        ensure (!isStarred first.value)
        symbol "\x7d"
        pure ⟨start, .setComp first.value clauses⟩
      | none =>
        let rest ← furtherItems self "\x7d"
        pure ⟨start, .set (first.value :: rest.map (·.value))⟩

/-! ### Atoms and what may follow them -/

/-- A literal that is no string. -/
def literal? : Token → Option Constant
  | .reserved "None" => some .none
  | .reserved "True" => some .true
  | .reserved "False" => some .false
  | .symbol "..." => some .ellipsis
  | .number spelling => numberValue? spelling
  | _ => none

/-- Takes one such literal. -/
def literal : Parser Constant := fun tokens =>
  match tokens with
  | t :: rest => (literal? t.value).map fun c => (c, rest)
  | [] => none

/-- An expression without operators and without trailers. -/
def atom (self : ExprParser) : Parser (Located Expr) := do
  let start ← position
  if ← atSymbol "(" then round self
  else if ← atSymbol "[" then square self
  else if ← atSymbol "\x7b" then curly self
  else
    match ← maybe name with
    | some id => pure ⟨start, .name id⟩
    | none =>
      match ← maybe literal with
      | some c => pure ⟨start, .constant c⟩
      | none =>
        let value ← strings self
        pure ⟨start, value⟩

/-- An argument of a call. -/
inductive Argument where
  | positional (value : Expr)
  | keyword (k : Keyword)

/-- The value of an argument without a keyword. -/
def Argument.positional? : Argument → Option Expr
  | .positional value => some value
  | .keyword _ => none

/-- The keyword and the value of an argument that has one. -/
def Argument.keyword? : Argument → Option Keyword
  | .positional _ => none
  | .keyword k => some k

/-- The argument unpacks a mapping. -/
def Argument.isUnpacking : Argument → Bool
  | .keyword ⟨none, _⟩ => true
  | _ => false

/-- Takes one argument of a call. -/
def argument (self : ExprParser) : Parser Argument := do
  if ← atSymbol "*" then
    let value ← starred self .expression
    pure (.positional value.value)
  else if ← symbol? "**" then
    let value ← self .expression
    pure (.keyword ⟨none, value.value⟩)
  else if ← atNameThen "=" then
    let key ← name
    symbol "="
    let value ← self .expression
    pure (.keyword ⟨some key, value.value⟩)
  else
    let value ← self .named
    pure (.positional value.value)

/-- The order of arguments: no plain one after a keyword, no starred one after an
unpacked mapping. -/
def inOrder : List Argument → Bool
  | [] => true
  | .positional _ :: rest => inOrder rest
  | .keyword k :: rest =>
    (rest.all fun
      | .positional value => k.name.isSome && isStarred value
      | .keyword _ => true) && inOrder rest

/-- The arguments of a call or of a class, after the opening bracket. A generator as
the only argument of a call needs no brackets of its own. -/
def arguments (self : ExprParser) (isCall : Bool) : Parser (List Expr × List Keyword) := do
  if ← symbol? ")" then pure ([], [])
  else
    let first ← argument self
    match first, ← clauses? self with
    | .positional value, some clauses =>
      ensure (isCall && !isStarred value)
      symbol ")"
      pure ([.generator value clauses], [])
    | .keyword _, some _ => failure
    | _, none =>
      let rest ←
        if ← symbol? "," then commaListTo ")" (argument self) else do symbol ")"; pure []
      let args := first :: rest
      ensure (inOrder args)
      pure (args.filterMap Argument.positional?, args.filterMap Argument.keyword?)

/-- A bound of a slice, which may be missing. -/
def bound (self : ExprParser) : Parser (Option Expr) := do
  if (← atSymbol ":") || (← atSymbol ",") || (← atSymbol "]") then pure none
  else
    let value ← self .expression
    pure (some value.value)

/-- What follows the first bound of a slice, from the colon on. -/
def sliceFrom (self : ExprParser) (lower : Option Expr) : Parser Expr := do
  symbol ":"
  let upper ← bound self
  let step ← if ← symbol? ":" then bound self else pure none
  pure (.slice lower upper step)

/-- An index or a slice. -/
def index (self : ExprParser) : Parser (Located Expr) := do
  let start ← position
  if ← atSymbol "*" then starred self .expression
  else if ← atSymbol ":" then
    let value ← sliceFrom self none
    pure ⟨start, value⟩
  else
    let isBound ← atNameThen ":="
    let value ← self .named
    if !isBound && (← atSymbol ":") then
      let slice ← sliceFrom self (some value.value)
      pure ⟨start, slice⟩
    else pure value

/-- The content of the brackets of a subscript. A single starred index is a tuple. -/
def indices (self : ExprParser) : Parser Expr := do
  let start ← position
  let (items, trailing) ← commaList (index self)
  pure (tupleOf start items (trailing || items.any (isStarred ·.value))).value

/-- An attribute, a call or a subscript, as a function of what it is applied to. -/
def trailer (self : ExprParser) : Parser (Expr → Expr) := do
  if ← symbol? "." then
    let id ← name
    pure fun value => .attribute value id
  else if ← symbol? "(" then
    let (args, keywords) ← arguments self true
    pure fun function => .call function args keywords
  else
    symbol "["
    let i ← indices self
    symbol "]"
    pure fun value => .subscript value i

/-- An atom with attributes, calls and subscripts. -/
def primary (self : ExprParser) : Parser (Located Expr) := do
  let start ← position
  let first ← atom self
  let trailers ← many (trailer self)
  pure (trailers.foldl (fun value apply => ⟨start, apply value.value⟩) first)

/-- A power; it associates to the right. -/
def power (self : ExprParser) : Parser (Located Expr) := do
  let start ← position
  let base ←
    if ← reserved? "await" then do
      let value ← primary self
      pure ⟨start, .await value.value⟩
    else primary self
  if ← symbol? "**" then
    let exponent ← self .factor
    pure ⟨start, .binary .pow base.value exponent.value⟩
  else pure base

/-- An operand with its signs. -/
def factor (self : ExprParser) : Parser (Located Expr) := do
  let start ← position
  match ← maybe (operator signOp?) with
  | some op =>
    let operand ← self .factor
    pure ⟨start, .unary op operand.value⟩
  | none => power self

/-- Arithmetic on bits, and all that binds tighter. -/
def bitOr (self : ExprParser) : Parser (Located Expr) :=
  leftChain bitOrOp? <| leftChain bitXorOp? <| leftChain bitAndOp? <| leftChain shiftOp? <|
    leftChain sumOp? <| leftChain termOp? <| factor self

/-- A chain of comparisons. -/
def compared (self : ExprParser) : Parser (Located Expr) := do
  let start ← position
  let left ← bitOr self
  let rest ← many (do
    let op ← comparison
    let right ← bitOr self
    pure (op, right.value))
  match rest with
  | [] => pure left
  | _ => pure ⟨start, .compare left.value rest⟩

/-- A truth value, maybe inverted. -/
def inversion (self : ExprParser) : Parser (Located Expr) := do
  let start ← position
  if ← reserved? "not" then
    let operand ← self .inversion
    pure ⟨start, .unary .not operand.value⟩
  else compared self

/-- A choice of truth values. -/
def disjunction (self : ExprParser) : Parser (Located Expr) :=
  wordChain "or" .or <| wordChain "and" .and <| inversion self

/-! ### Parameters -/

/-- What stands between the commas of a parameter list. -/
inductive ParamItem where
  | plain (p : Param)
  /-- The slash that ends the parameters taken by position only. -/
  | slash
  /-- The bare star that begins the parameters taken by keyword only. -/
  | star
  | variadic (p : Param)
  | variadicKeyword (p : Param)

/-- A name with its annotation. `isTyped` tells whether annotations are allowed, and
`starGoal` which starred annotation is. -/
def paramName (self : ExprParser) (isTyped isStarTyped : Bool) : Parser Param := do
  let pos ← position
  let id ← name
  let hint ←
    if ← symbolIf isTyped ":" then do
      let value ←
        if isStarTyped then starredOr self .bitOr (self .expression) else self .expression
      pure (some value.value)
    else pure none
  pure ⟨pos, id, hint, none⟩

/-- Takes one item of a list of parameters; only some lists carry annotations. -/
def paramItem (self : ExprParser) (isTyped : Bool) : Parser ParamItem := do
  if ← symbol? "/" then pure .slash
  else if ← symbol? "**" then
    let p ← paramName self isTyped false
    pure (.variadicKeyword p)
  else if ← symbol? "*" then
    if ← atSymbol "," then pure .star
    else
      let p ← paramName self isTyped true
      pure (.variadic p)
  else
    let p ← paramName self isTyped false
    if ← symbol? "=" then
      let value ← self .expression
      pure (.plain { p with default := some value })
    else pure (.plain p)

/-- The plain parameters in front, and the items after them. -/
def plainRun : List ParamItem → List Param × List ParamItem
  | .plain p :: rest => ((p :: (plainRun rest).1), (plainRun rest).2)
  | rest => ([], rest)

/-- Once a parameter has a default value, all later ones do. -/
def defaultsLast : List Param → Bool
  | [] => true
  | p :: ps => (p.default.isNone || ps.all (·.default.isSome)) && defaultsLast ps

/-- The parameters from the star on. -/
def assembleRest (positionalOnly positional : List Param) (items : List ParamItem) :
    Option Params :=
  let ending (variadic : Option Param) (keywordOnly : List Param) : List ParamItem → Option Params
    | [] => some ⟨positionalOnly, positional, variadic, keywordOnly, none⟩
    | [.variadicKeyword p] => some ⟨positionalOnly, positional, variadic, keywordOnly, some p⟩
    | _ => none
  match items with
  | .star :: rest =>
    let (keywordOnly, rest) := plainRun rest
    if keywordOnly.isEmpty then none else ending none keywordOnly rest
  | .variadic p :: rest =>
    let (keywordOnly, rest) := plainRun rest
    ending (some p) keywordOnly rest
  | rest => ending none [] rest

/-- Parameters from their items, if these are in order. -/
def assemble (items : List ParamItem) : Option Params :=
  let (first, rest) := plainRun items
  match rest with
  | .slash :: rest =>
    let (second, rest) := plainRun rest
    if first.isEmpty || !defaultsLast (first ++ second) then none
    else assembleRest first second rest
  | rest => if defaultsLast first then assembleRest [] first rest else none

/-- The parameters of a function up to a closing symbol, which is taken. -/
def parameters (self : ExprParser) (isTyped : Bool) (close : String) : Parser Params := do
  let items ← commaListTo close (paramItem self isTyped)
  match assemble items with
  | some params => pure params
  | none => failure

/-! ### Whole expressions -/

/-- A function in one expression. -/
def lambda (self : ExprParser) : Parser (Located Expr) := do
  let start ← position
  reserved "lambda"
  let params ← parameters self false ":"
  let body ← self .expression
  pure ⟨start, .lambda params body.value⟩

/-- An expression that is neither an unpacking nor a naming. -/
def expression (self : ExprParser) : Parser (Located Expr) := do
  if ← atReserved "lambda" then lambda self
  else
    let start ← position
    let body ← disjunction self
    let choice ← maybe (do
      reserved "if"
      let test ← self .disjunction
      reserved "else"
      let orelse ← self .expression
      pure (test.value, orelse.value))
    match choice with
    | some (test, orelse) => pure ⟨start, .conditional test body.value orelse⟩
    | none => pure body

/-- An expression that may give its value a name. -/
def named (self : ExprParser) : Parser (Located Expr) := do
  if ← atNameThen ":=" then
    let start ← position
    let id ← name
    symbol ":="
    let value ← self .expression
    pure ⟨start, .named id value.value⟩
  else expression self

/-- Expressions and unpackings between commas: one is itself, more are a tuple. -/
def starExpressions (self : ExprParser) : Parser (Located Expr) := do
  let start ← position
  let (items, trailing) ← commaList (starredOr self .bitOr (expression self))
  pure (tupleOf start items trailing)

/-- Expressions, none of them starred, that commas make a tuple. -/
def plainExpressions (self : ExprParser) : Parser (Located Expr) := do
  let start ← position
  let (items, trailing) ← commaList (expression self)
  pure (tupleOf start items trailing)

/-- The rule of each kind of expression. -/
def rule (self : ExprParser) : ExprParser
  | .starExpressions => starExpressions self
  | .named => named self
  | .expression => expression self
  | .disjunction => disjunction self
  | .inversion => inversion self
  | .bitOr => bitOr self
  | .factor => factor self

/-- The grammar of expressions, to a given depth. -/
def parse : Nat → ExprParser
  | 0, _ => failure
  | depth + 1, goal => rule (parse depth) goal

end Expression

end ProbeCatalog.Syntax
