import ProbeCatalog.Syntax.Tree

/-!
# Tokens

What the characters of a source are grouped into before its grammar applies.
Lines and their indentation appear as tokens of their own.
-/
namespace ProbeCatalog.Syntax

/-- A string literal as it is spelled: the letters in front of it, and what
stands between its quotes. -/
structure StringLiteral where
  /-- The letter `r`: backslashes stand for themselves. -/
  isRaw : Bool
  /-- The letter `b`: the literal denotes octets. -/
  isBytes : Bool
  /-- The letter `f`: the literal holds fields. -/
  isFormatted : Bool
  /-- The small letter `u`. -/
  isMarked : Bool
  body : List Char
  deriving DecidableEq

/-- What the lexer makes of a source. -/
inductive Token where
  | name (spelling : List Char)
  | reserved (spelling : String)
  | symbol (spelling : String)
  | number (spelling : List Char)
  | string (literal : StringLiteral)
  | newline
  | indent
  | dedent
  | finish
  deriving DecidableEq

/-- A token with its place. -/
abbrev Lexeme := Located Token

/-- The words that are no names. -/
def reservedWords : List String :=
  ["False", "None", "True", "and", "as", "assert", "async", "await", "break", "class",
   "continue", "def", "del", "elif", "else", "except", "finally", "for", "from", "global",
   "if", "import", "in", "is", "lambda", "nonlocal", "not", "or", "pass", "raise", "return",
   "try", "while", "with", "yield"]

/-- Operators and delimiters, each before those that it begins with. -/
def symbols : List String :=
  ["**=", "//=", ">>=", "<<=", "...", "!=", "%=", "&=", "**", "*=", "+=", "-=", "->", "//",
   "/=", ":=", "<<", "<=", "==", ">=", ">>", "@=", "^=", "|=", "%", "&", "(", ")", "*", "+",
   ",", "-", ".", "/", ":", ";", "<", "=", ">", "@", "[", "]", "^", "\x7b", "|", "\x7d", "~"]

/-- The place after some characters of a source. -/
def Position.advance (p : Position) : List Char → Position
  | [] => p
  | '\n' :: cs => advance ⟨p.line + 1, 0⟩ cs
  | c :: cs => advance ⟨p.line, p.column + c.utf8Size⟩ cs

end ProbeCatalog.Syntax
