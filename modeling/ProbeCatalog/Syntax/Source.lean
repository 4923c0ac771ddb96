import ProbeCatalog.Syntax.Grammar.Statement

/-!
# Reading sources

`parseModule` reads a whole source as statements and `parseExpression` a text as one
expression. Both refuse what does not fit the grammar, without saying why. Names need
not be bound and control flow need not make sense: only the form counts.
-/
namespace ProbeCatalog.Syntax

open ProbeCatalog.Syntax.Parser

/-- The grammars for a source of a given length. -/
def exprParser (length : Nat) : ExprParser := Expression.parse (length + 1)

/-- The grammar of statements, for a source of a given length. -/
def stmtParser (length : Nat) : Parser Block :=
  let expr := exprParser length
  Statement.parse expr (Matching.parse expr (length + 1)) (length + 1)

/-- A source, to its end. -/
def moduleParser (length : Nat) : Parser Block := do
  let stmts ← many (stmtParser length)
  expect .finish
  pure stmts.flatten

/-- The statements of a source. -/
def parseModule (source : List Char) : Option Block := do
  let cs := Lexer.endLastLine (unifyLineEnds source)
  let tokens ← Lexer.lexLines cs
  let (block, _) ← moduleParser cs.length tokens
  pure block

/-- One expression, or several with commas between them, to the end of the text. -/
def expressionParser (length : Nat) : Parser Expr := do
  let value ← Expression.plainExpressions (exprParser length)
  let _ ← many (expect .newline)
  expect .finish
  pure value.value

/-- The expression that a text holds. It begins at the start of its line. -/
def parseExpression (source : List Char) : Option Expr := do
  let cs := unifyLineEnds source
  let tokens ← Lexer.lexLines cs
  let (value, _) ← expressionParser cs.length tokens
  pure value

end ProbeCatalog.Syntax
