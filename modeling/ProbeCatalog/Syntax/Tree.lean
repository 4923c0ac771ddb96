import ProbeCatalog.Text.CodePoint
import ProbeCatalog.Decimal.Binary64

/-!
# Syntax trees

The abstract syntax of Python 3.11 sources, of which provider declarations are
a part. Blanks, comments and redundant brackets are gone. A place in the source
is kept only where a rejection can point at it: at statements, parameters,
decorators, default values and return annotations.

Types that occur inside statements and hold statements again take the statement
type as a parameter (`ClassOf`, `FunctionOf`); the declarations themselves are
their instances `ClassDecl` and `FunctionDecl`. Types inside expressions do the
same with the expression type.
-/
namespace ProbeCatalog.Syntax

/-- A place in a source: the line, counted from one, and the octets of UTF-8 that
precede it in this line. -/
structure Position where
  line : Nat
  column : Nat
  deriving DecidableEq

/-- Something with its place in the source. -/
structure Located (α : Type) where
  pos : Position
  value : α

/-- The value of a literal. -/
inductive Constant where
  | none
  | true
  | false
  | ellipsis
  | integer (n : Nat)
  | float (x : Binary64)
  | imaginary (x : Binary64)
  /-- A string; `marked` records the letter `u` in front of it. -/
  | string (text : Text) (marked : Bool)
  | bytes (octets : List UInt8)

/-- Operators in front of one operand. -/
inductive UnaryOp where
  | invert | not | plus | minus
  deriving DecidableEq

/-- Operators between two operands. -/
inductive BinaryOp where
  | add | sub | mul | matMul | div | mod | shiftLeft | shiftRight | bitOr | bitXor | bitAnd
  | floorDiv | pow
  deriving DecidableEq

/-- Operators between truth values. -/
inductive BoolOp where
  | and | or
  deriving DecidableEq

/-- Comparisons. -/
inductive CompareOp where
  | eq | notEq | lt | le | gt | ge | is | isNot | member | notMember
  deriving DecidableEq

/-- How a field of a formatted string turns its value into text. -/
inductive Conversion where
  | str | repr | ascii
  deriving DecidableEq

/-- A keyword argument; without a name it unpacks a mapping. -/
structure KeywordOf (ε : Type) where
  name : Option String
  value : ε

/-- One `for` clause of a comprehension with its conditions. -/
structure ClauseOf (ε : Type) where
  isAsync : Bool
  target : ε
  source : ε
  conditions : List ε

/-- A parameter of a function. -/
structure ParamOf (ε : Type) where
  pos : Position
  name : String
  hint : Option ε
  default : Option (Located ε)

/-- The parameters of a function, by the way they take an argument. -/
structure ParamsOf (ε : Type) where
  positionalOnly : List (ParamOf ε)
  positional : List (ParamOf ε)
  variadic : Option (ParamOf ε)
  keywordOnly : List (ParamOf ε)
  variadicKeyword : Option (ParamOf ε)

/-- A part of a formatted string: literal text or a field, whose format is itself
a formatted string. -/
inductive PieceOf (ε : Type) where
  | literal (text : Text)
  | field (value : ε) (conversion : Option Conversion) (format : Option (List (PieceOf ε)))

/-- Expressions. -/
inductive Expr where
  | constant (c : Constant)
  | name (id : String)
  | attribute (value : Expr) (name : String)
  | subscript (value index : Expr)
  | call (function : Expr) (args : List Expr) (keywords : List (KeywordOf Expr))
  | unary (op : UnaryOp) (operand : Expr)
  | binary (op : BinaryOp) (left right : Expr)
  | bool (op : BoolOp) (operands : List Expr)
  | compare (left : Expr) (rest : List (CompareOp × Expr))
  | conditional (test body orelse : Expr)
  | lambda (params : ParamsOf Expr) (body : Expr)
  | named (target : String) (value : Expr)
  | tuple (items : List Expr)
  | list (items : List Expr)
  | set (items : List Expr)
  /-- An item without a key unpacks a mapping. -/
  | dict (items : List (Option Expr × Expr))
  | listComp (item : Expr) (clauses : List (ClauseOf Expr))
  | setComp (item : Expr) (clauses : List (ClauseOf Expr))
  | dictComp (key value : Expr) (clauses : List (ClauseOf Expr))
  | generator (item : Expr) (clauses : List (ClauseOf Expr))
  | await (value : Expr)
  | yield (value : Option Expr)
  | yieldFrom (value : Expr)
  | starred (value : Expr)
  | slice (lower upper step : Option Expr)
  | formatted (pieces : List (PieceOf Expr))

/-- A keyword argument. -/
abbrev Keyword := KeywordOf Expr

/-- A clause of a comprehension. -/
abbrev Clause := ClauseOf Expr

/-- A parameter. -/
abbrev Param := ParamOf Expr

/-- The parameters of a function. -/
abbrev Params := ParamsOf Expr

/-- A piece of a formatted string. -/
abbrev Piece := PieceOf Expr

/-- Patterns of `case` blocks. -/
inductive Pattern where
  | value (e : Expr)
  | singleton (c : Constant)
  | wildcard
  | capture (name : String)
  | named (pattern : Pattern) (name : String)
  | either (patterns : List Pattern)
  | sequence (patterns : List Pattern)
  | star (name : Option String)
  | mapping (items : List (Expr × Pattern)) (rest : Option String)
  | record (head : Expr) (positional : List Pattern) (keywords : List (String × Pattern))

/-- A dotted name in an import and the name it is bound to, if another. -/
structure ImportedName where
  name : String
  boundAs : Option String

/-- A resource of a `with` statement. -/
structure WithItem where
  context : Expr
  target : Option Expr

/-- A class definition. -/
structure ClassOf (σ : Type) where
  name : String
  bases : List Expr
  keywords : List Keyword
  body : List (Located σ)
  decorators : List (Located Expr)

/-- A function definition. -/
structure FunctionOf (σ : Type) where
  isAsync : Bool
  name : String
  params : Params
  returns : Option (Located Expr)
  body : List (Located σ)
  decorators : List (Located Expr)

/-- An `except` block. -/
structure HandlerOf (σ : Type) where
  type : Option Expr
  name : Option String
  body : List (Located σ)

/-- A `case` block. -/
structure CaseOf (σ : Type) where
  pattern : Pattern
  guard : Option Expr
  body : List (Located σ)

/-- Statements. -/
inductive Stmt where
  | functionDef (f : FunctionOf Stmt)
  | classDef (c : ClassOf Stmt)
  | returning (value : Option Expr)
  | delete (targets : List Expr)
  | assign (targets : List Expr) (value : Expr)
  | augAssign (target : Expr) (op : BinaryOp) (value : Expr)
  /-- `bracketed` records brackets around a target that is a name. -/
  | annAssign (target hint : Expr) (value : Option Expr) (bracketed : Bool)
  | forLoop (isAsync : Bool) (target source : Expr) (body orelse : List (Located Stmt))
  | whileLoop (test : Expr) (body orelse : List (Located Stmt))
  | branch (test : Expr) (body orelse : List (Located Stmt))
  | withBlock (isAsync : Bool) (items : List WithItem) (body : List (Located Stmt))
  | matching (subject : Expr) (cases : List (CaseOf Stmt))
  | raising (exception cause : Option Expr)
  /-- `grouped` tells `except*` blocks from `except` blocks. -/
  | tryBlock (grouped : Bool) (body : List (Located Stmt)) (handlers : List (HandlerOf Stmt))
      (orelse final : List (Located Stmt))
  | assertion (test : Expr) (message : Option Expr)
  | importing (names : List ImportedName)
  | importingFrom (level : Nat) (module : Option String) (names : List ImportedName)
  | globals (names : List String)
  | nonlocals (names : List String)
  | expression (value : Expr)
  | pass
  | breakLoop
  | continueLoop

/-- Statements in a row. -/
abbrev Block := List (Located Stmt)

/-- The definition of a class. -/
abbrev ClassDecl := ClassOf Stmt

/-- The definition of a function. -/
abbrev FunctionDecl := FunctionOf Stmt

/-- A handler of exceptions. -/
abbrev Handler := HandlerOf Stmt

/-- A case of a `match` statement. -/
abbrev Case := CaseOf Stmt

namespace ParamsOf

variable {ε : Type}

/-- No parameters. -/
def empty : ParamsOf ε := ⟨[], [], none, [], none⟩

/-- The parameters that take an argument by position, in order. -/
def byPosition (params : ParamsOf ε) : List (ParamOf ε) :=
  params.positionalOnly ++ params.positional

end ParamsOf

end ProbeCatalog.Syntax
