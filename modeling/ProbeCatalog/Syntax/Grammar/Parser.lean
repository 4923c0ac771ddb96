import ProbeCatalog.Syntax.Token
import ProbeCatalog.Text.Normal

/-!
# Parsers

A parser takes tokens and gives a result with the tokens it left, or refuses. It
says nothing about why: a source that does not fit the grammar is only that.
Repetition is bounded by the number of tokens, each round using up one at least.
-/
namespace ProbeCatalog.Syntax

/-- A parser with results of type `α`. -/
abbrev Parser (α : Type) := StateT (List Lexeme) Option α

namespace Parser

variable {α β : Type}

/-- The place of the next token. -/
def position : Parser Position := fun tokens =>
  match tokens with
  | [] => some (⟨0, 0⟩, [])
  | t :: _ => some (t.pos, tokens)

/-- The next token is the given symbol. It stays. -/
def atSymbol (s : String) : Parser Bool := fun tokens =>
  some (tokens.head?.any (·.value = .symbol s), tokens)

/-- The next token is the given reserved word. It stays. -/
def atReserved (w : String) : Parser Bool := fun tokens =>
  some (tokens.head?.any (·.value = .reserved w), tokens)

/-- The next token is a name and the one after it the given symbol. Both stay. -/
def atNameThen (s : String) : Parser Bool := fun tokens =>
  match tokens with
  | ⟨_, .name _⟩ :: t :: _ => some (t.value = .symbol s, tokens)
  | _ => some (false, tokens)

/-- Takes one given token. -/
def expect (t : Token) : Parser Unit := fun tokens =>
  match tokens with
  | u :: rest => if u.value = t then some ((), rest) else none
  | [] => none

/-- Takes a symbol. -/
def symbol (s : String) : Parser Unit := expect (.symbol s)

/-- Takes a reserved word. -/
def reserved (w : String) : Parser Unit := expect (.reserved w)

/-- Takes a word that is reserved only at this place. -/
def word (w : String) : Parser Unit := expect (.name w.toList)

/-- Takes a symbol if it stands here, and tells whether it did. -/
def symbol? (s : String) : Parser Bool := fun tokens =>
  match tokens with
  | u :: rest => if u.value = .symbol s then some (true, rest) else some (false, tokens)
  | [] => some (false, [])

/-- Takes a symbol if a condition holds and it stands here, and tells whether it did. -/
def symbolIf (b : Bool) (s : String) : Parser Bool := if b then symbol? s else pure false

/-- Takes a reserved word if it stands here, and tells whether it did. -/
def reserved? (w : String) : Parser Bool := fun tokens =>
  match tokens with
  | u :: rest => if u.value = .reserved w then some (true, rest) else some (false, tokens)
  | [] => some (false, [])

/-- Takes a name, in the form that all its spellings share. -/
def name : Parser String := fun tokens =>
  match tokens with
  | ⟨_, .name spelling⟩ :: rest => some (String.ofList (Normal.compose spelling), rest)
  | _ => none

/-- Takes a symbol that a function gives a meaning, with the meaning. -/
def operator (meaning : String → Option α) : Parser α := fun tokens =>
  match tokens with
  | ⟨_, .symbol s⟩ :: rest => (meaning s).map fun a => (a, rest)
  | _ => none

/-- Applies a parser if it succeeds, and takes nothing otherwise. -/
def maybe (p : Parser α) : Parser (Option α) := fun tokens =>
  match p tokens with
  | some (a, rest) => some (some a, rest)
  | none => some (none, tokens)

/-- The first parser, or the second where the first refuses. -/
def either (p q : Parser α) : Parser α := fun tokens =>
  match p tokens with
  | some result => some result
  | none => q tokens

/-- Applies a parser as often as it succeeds, `bound` times at most. -/
def manyWithin (p : Parser α) : Nat → Parser (List α)
  | 0, tokens => some ([], tokens)
  | bound + 1, tokens =>
    match p tokens with
    | none => some ([], tokens)
    | some (a, rest) => (manyWithin p bound rest).map fun (as, rest) => (a :: as, rest)

/-- Applies a parser as often as it succeeds. -/
def many (p : Parser α) : Parser (List α) := fun tokens => manyWithin p tokens.length tokens

/-- Applies a parser as often as it succeeds, once at least. -/
def many1 (p : Parser α) : Parser (List α) := do
  let first ← p
  let rest ← many p
  pure (first :: rest)

/-- Items with a symbol between them, one at least. -/
def sepBy1 (s : String) (p : Parser α) : Parser (List α) := do
  let first ← p
  let rest ← many (do symbol s; p)
  pure (first :: rest)

/-- Items with commas between them, one at least; a comma may follow the last, which
the flag tells. -/
def commaList (p : Parser α) : Parser (List α × Bool) := do
  let items ← sepBy1 "," p
  let trailing ← symbol? ","
  pure (items, trailing)

/-- Items with commas between them up to a closing symbol, which is taken. There may
be none; a comma may follow the last. -/
def commaListTo (close : String) (p : Parser α) : Parser (List α) := do
  if ← symbol? close then pure []
  else
    let (items, _) ← commaList p
    symbol close
    pure items

/-- Refuses unless a condition holds. -/
def ensure (b : Bool) : Parser Unit := fun tokens => if b then some ((), tokens) else none

end Parser

end ProbeCatalog.Syntax
