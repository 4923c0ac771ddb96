import ProbeCatalog.Syntax.Grammar.Expression

/-!
# The grammar of patterns

What may stand after `case`. A name is a capture, a dotted name a value; the lone
underscore matches anything.
-/
namespace ProbeCatalog.Syntax.Matching

open ProbeCatalog.Syntax.Parser
open Literal (numberValue?)

/-- The underscore that matches anything. -/
def underscore : Parser Unit := word "_"

/-- The next token is the underscore. -/
def atUnderscore : Parser Bool := fun tokens =>
  some (tokens.head?.any (·.value = .name ['_']), tokens)

/-- No attribute, call or keyword follows. -/
def endsName : Parser Bool := do
  pure (!(← atSymbol ".") && !(← atSymbol "(") && !(← atSymbol "="))

/-- The name that a pattern binds. -/
def captured : Parser String := do
  ensure (!(← atUnderscore))
  let id ← name
  ensure (← endsName)
  pure id

/-- A dotted name as an expression. -/
def dotted : Parser Expr := do
  let first ← name
  let rest ← many (do symbol "."; name)
  pure (rest.foldl .attribute (.name first))

/-- The literal is an imaginary number. -/
def isImaginary : Constant → Bool
  | .imaginary _ => true
  | _ => false

/-- A number without a sign. -/
def unsigned : Parser Constant := fun tokens =>
  match tokens with
  | ⟨_, .number spelling⟩ :: rest => (numberValue? spelling).map fun c => (c, rest)
  | _ => none

/-- A number that may have a minus sign, or the sum or difference of a real and an
imaginary number. -/
def numeric : Parser Expr := do
  let isNegative ← symbol? "-"
  let c ← unsigned
  let first := if isNegative then .unary .minus (.constant c) else .constant c
  match ← maybe (operator Expression.sumOp?) with
  | none => pure first
  | some op =>
    ensure (!isImaginary c)
    let part ← unsigned
    ensure (isImaginary part)
    pure (.binary op first (.constant part))

/-- The next token begins a number. -/
def atNumeric : Parser Bool := fun tokens =>
  some (tokens.head?.any (fun t =>
    match t.value with
    | .number _ => true
    | .symbol s => s = "-"
    | _ => false), tokens)

/-- The next token is a string. -/
def atString : Parser Bool := fun tokens =>
  some (tokens.head?.any (fun t =>
    match t.value with
    | .string _ => true
    | _ => false), tokens)

/-- One of the three constants that are words. -/
def singleton : Parser Constant := do
  if ← reserved? "None" then pure .none
  else if ← reserved? "True" then pure .true
  else
    reserved "False"
    pure .false

/-- A key of a mapping: a literal or a dotted name with one dot at least. -/
def key (expr : ExprParser) : Parser Expr := do
  if ← atNumeric then numeric
  else if ← atString then Expression.strings expr
  else
    match ← maybe singleton with
    | some c => pure (.constant c)
    | none =>
      let value ← dotted
      match value with
      | .attribute _ _ => pure value
      | _ => failure

/-- A pattern, or a star with the name that takes all remaining items. -/
def item (self : Parser Pattern) : Parser Pattern := do
  if ← symbol? "*" then
    if ← atUnderscore then
      underscore
      pure (.star none)
    else
      let id ← captured
      pure (.star (some id))
  else self

/-- The pattern takes the rest of a sequence. -/
def isStar : Pattern → Bool
  | .star _ => true
  | _ => false

/-- Items after a first one: none, or those behind a comma. The flag tells whether a
comma made this a sequence. -/
def furtherItems (self : Parser Pattern) : Parser (List Pattern × Bool) := do
  if ← symbol? "," then
    match ← maybe (commaList (item self)) with
    | some (items, _) => pure (items, true)
    | none => pure ([], true)
  else pure ([], false)

/-- A sequence without brackets, or a single pattern. -/
def openSequence (self : Parser Pattern) : Parser Pattern := do
  let first ← item self
  let (rest, isSequence) ← furtherItems self
  if isSequence then pure (.sequence (first :: rest))
  else
    ensure (!isStar first)
    pure first

/-- What follows the opening brace of a mapping. -/
def mapping (expr : ExprParser) (self : Parser Pattern) : Parser Pattern := do
  let entry : Parser (Expr × Pattern) := do
    let k ← key expr
    symbol ":"
    let p ← self
    pure (k, p)
  let items ← maybe (sepBy1 "," entry)
  let items := items.getD []
  let comma ← if items.isEmpty then pure true else symbol? ","
  if ← symbolIf comma "**" then
    let rest ← captured
    let _ ← symbol? ","
    symbol "\x7d"
    pure (.mapping items (some rest))
  else
    symbol "\x7d"
    pure (.mapping items none)

/-- An argument of a class pattern, with its keyword if it has one. -/
def argument (self : Parser Pattern) : Parser (Option String × Pattern) := do
  if ← atNameThen "=" then
    let key ← name
    symbol "="
    let p ← self
    pure (some key, p)
  else
    let p ← self
    pure (none, p)

/-- Once an argument has a keyword, all later ones do. -/
def keywordsLast : List (Option String × Pattern) → Bool
  | [] => true
  | (key, _) :: rest => (key.isNone || rest.all (·.1.isSome)) && keywordsLast rest

/-- A pattern that begins with a name. -/
def named (self : Parser Pattern) : Parser Pattern := do
  if ← atUnderscore then
    underscore
    pure .wildcard
  else
    let head ← dotted
    if ← symbol? "(" then
      let args ← commaListTo ")" (argument self)
      ensure (keywordsLast args)
      let positional := args.filterMap fun (key, p) => if key.isNone then some p else none
      let keywords := args.filterMap fun (key, p) => key.map (·, p)
      pure (.record head positional keywords)
    else
      ensure (← endsName)
      match head with
      | .name id => pure (.capture id)
      | _ => pure (.value head)

/-- A pattern without alternatives. -/
def closed (expr : ExprParser) (self : Parser Pattern) : Parser Pattern := do
  if ← atNumeric then
    let value ← numeric
    pure (.value value)
  else if ← atString then
    let value ← Expression.strings expr
    pure (.value value)
  else if ← symbol? "(" then
    if ← symbol? ")" then pure (.sequence [])
    else
      let p ← openSequence self
      symbol ")"
      pure p
  else if ← symbol? "[" then
    let items ← commaListTo "]" (item self)
    pure (.sequence items)
  else if ← symbol? "\x7b" then mapping expr self
  else
    match ← maybe singleton with
    | some c => pure (.singleton c)
    | none => named self

/-- A pattern with its alternatives and the name that it may bind as a whole. -/
def whole (expr : ExprParser) (self : Parser Pattern) : Parser Pattern := do
  let alternatives ← sepBy1 "|" (closed expr self)
  let p := match alternatives with
    | [single] => single
    | _ => .either alternatives
  if ← reserved? "as" then
    let id ← captured
    pure (.named p id)
  else pure p

/-- The grammar of patterns, to a given depth. -/
def parse (expr : ExprParser) : Nat → Parser Pattern
  | 0 => failure
  | depth + 1 => whole expr (parse expr depth)

end ProbeCatalog.Syntax.Matching
