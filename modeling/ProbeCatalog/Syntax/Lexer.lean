import ProbeCatalog.Syntax.Token
import ProbeCatalog.Text.Identifier
import ProbeCatalog.Text.Lines

/-!
# From characters to tokens

`lex` groups a source into tokens. It refuses a source with an unclosed string or
bracket, a malformed number, a character outside the language or inconsistent
indentation; nothing is refused later that could be refused here.

Each recogniser takes the characters at the start of a token and returns the
token's own characters and what follows them.
-/
namespace ProbeCatalog.Syntax.Lexer

/-- A character that may stand inside a word; non-ASCII characters are judged with
the whole word. -/
def isWordChar (c : Char) : Bool :=
  Identifier.isAsciiLetter c || c.isDigit || c = '_' || 128 ≤ c.toNat

/-- A character that may start a word. -/
def isWordStart (c : Char) : Bool := isWordChar c && !c.isDigit

/-- Digits, with single underscores allowed between them and in front. An
underscore that no digit follows is refused. -/
def digitRun (isDigit : Char → Bool) : List Char → Option (List Char × List Char)
  | [] => some ([], [])
  | '_' :: c :: cs =>
    if isDigit c then (digitRun isDigit cs).map fun (run, rest) => ('_' :: c :: run, rest)
    else none
  | c :: cs =>
    if c = '_' then none
    else if isDigit c then (digitRun isDigit cs).map fun (run, rest) => (c :: run, rest)
    else some ([], c :: cs)

/-- The reserved words that may follow a number without a blank. -/
def numberFollowers : List String := ["and", "else", "for", "if", "in", "is", "or"]

/-- No word runs into the end of a number, save a reserved word that may. -/
def endsNumber (cs : List Char) : Bool :=
  match cs with
  | [] => true
  | c :: _ => !isWordChar c || numberFollowers.any fun word => word.toList.isPrefixOf cs

/-- The digits in base eight. -/
def isOctalDigit (c : Char) : Bool := '0' ≤ c && c ≤ '7'

/-- The digits in base two. -/
def isBinaryDigit (c : Char) : Bool := c = '0' || c = '1'

/-- The digits of a based number after its two first characters. -/
def basedNumber (isDigit : Char → Bool) (cs : List Char) : Option (List Char × List Char) :=
  match digitRun isDigit cs with
  | some ([], _) => none
  | found => found

/-- A fraction: a point and digits, of which there may be none. -/
def fraction (cs : List Char) : Option (List Char × List Char) :=
  match cs with
  | '.' :: c :: rest =>
    if c.isDigit then (digitRun Char.isDigit (c :: rest)).map fun (run, rest) => ('.' :: run, rest)
    else some (['.'], c :: rest)
  | ['.'] => some (['.'], [])
  | _ => some ([], cs)

/-- An exponent, if there is a whole one. -/
def exponent (cs : List Char) : Option (List Char × List Char) :=
  match cs with
  | e :: s :: c :: rest =>
    if e = 'e' || e = 'E' then
      if s.isDigit then
        (digitRun Char.isDigit (s :: c :: rest)).map fun (run, rest) => (e :: run, rest)
      else if (s = '+' || s = '-') && c.isDigit then
        (digitRun Char.isDigit (c :: rest)).map fun (run, rest) => (e :: s :: run, rest)
      else some ([], cs)
    else some ([], cs)
  | [e, s] => if (e = 'e' || e = 'E') && s.isDigit then some ([e, s], []) else some ([], cs)
  | _ => some ([], cs)

/-- The mark of an imaginary number, if it stands here. -/
def imaginaryMark : List Char → List Char × List Char
  | 'j' :: cs => (['j'], cs)
  | 'J' :: cs => (['J'], cs)
  | cs => ([], cs)

/-- A decimal number. A whole number does not begin with a zero unless it is zero. -/
def decimalNumber (cs : List Char) : Option (List Char × List Char) := do
  let (whole, cs) ← if cs.head? = some '.' then some ([], cs) else digitRun Char.isDigit cs
  let (part, cs) ← fraction cs
  let (power, cs) ← exponent cs
  let (mark, cs) := imaginaryMark cs
  let isWhole := part.isEmpty && power.isEmpty && mark.isEmpty
  if isWhole && whole.head? = some '0' && whole.any (fun c => c ≠ '0' && c ≠ '_') then none
  else some (whole ++ part ++ power ++ mark, cs)

/-- A number. -/
def number (cs : List Char) : Option (List Char × List Char) := do
  let (spelling, rest) ←
    match cs with
    | '0' :: b :: rest =>
      let based (isDigit : Char → Bool) :=
        (basedNumber isDigit rest).map fun (run, rest) => ('0' :: b :: run, rest)
      if b = 'x' || b = 'X' then based Table.isHexDigit
      else if b = 'o' || b = 'O' then based isOctalDigit
      else if b = 'b' || b = 'B' then based isBinaryDigit
      else decimalNumber cs
    | _ => decimalNumber cs
  if endsNumber rest then some (spelling, rest) else none

/-- The characters that close a string. -/
def closing (quote : Char) (isLong : Bool) : List Char :=
  if isLong then [quote, quote, quote] else [quote]

/-- The body of a string and what follows its closing quotes. A backslash keeps the
next character from closing the string; a short string stays on its line. -/
def stringBody (quote : Char) (isLong : Bool) : List Char → Option (List Char × List Char)
  | [] => none
  | '\\' :: c :: cs =>
    (stringBody quote isLong cs).map fun (body, rest) => ('\\' :: c :: body, rest)
  | c :: cs =>
    match (closing quote isLong).isPrefixOf? (c :: cs) with
    | some rest => some ([], rest)
    | none =>
      if c = '\n' && !isLong then none
      else (stringBody quote isLong cs).map fun (body, rest) => (c :: body, rest)

/-- The string literal that a word and a quote begin, if the word is one of the
letters or pairs of letters that may stand in front of a string. -/
def literalOf? (word : List Char) : Option StringLiteral :=
  let plain : StringLiteral := ⟨false, false, false, false, []⟩
  match word.map Char.toLower with
  | [] => some plain
  | ['u'] => some { plain with isMarked := word = ['u'] }
  | ['r'] => some { plain with isRaw := true }
  | ['b'] => some { plain with isBytes := true }
  | ['f'] => some { plain with isFormatted := true }
  | ['b', 'r'] | ['r', 'b'] => some { plain with isRaw := true, isBytes := true }
  | ['f', 'r'] | ['r', 'f'] => some { plain with isRaw := true, isFormatted := true }
  | _ => none

/-- A string whose letters have been read. The result holds the token, its
characters after the letters, and what follows. -/
def stringFrom (literal : StringLiteral) : List Char → Option (Token × List Char × List Char)
  | quote :: cs =>
    let isLong := [quote, quote].isPrefixOf cs
    let opening := closing quote isLong
    (stringBody quote isLong (cs.drop (opening.length - 1))).map fun (body, rest) =>
      (.string { literal with body }, opening ++ body ++ opening, rest)
  | [] => none

/-- The quote characters. -/
def isQuote (c : Char) : Bool := c = '\'' || c = '"'

/-- A word, or a string with letters in front. -/
def word (cs : List Char) : Option (Token × List Char × List Char) :=
  let letters := cs.takeWhile isWordChar
  let rest := cs.dropWhile isWordChar
  let literal? := if rest.head?.any isQuote then literalOf? letters else none
  match literal? with
  | some literal =>
    (stringFrom literal rest).map fun (token, own, rest) => (token, letters ++ own, rest)
  | none =>
    if letters.all (·.toNat < 128) then
      match reservedWords.find? (·.toList = letters) with
      | some reserved => some (.reserved reserved, letters, rest)
      | none => some (.name letters, letters, rest)
    else if Identifier.isIdentifier letters then some (.name letters, letters, rest)
    else none

/-- An operator or a delimiter. -/
def symbol (cs : List Char) : Option (Token × List Char × List Char) :=
  symbols.firstM fun spelling =>
    (spelling.toList.isPrefixOf? cs).map fun rest => (.symbol spelling, spelling.toList, rest)

/-- The token at the start of the characters, which are not blank. -/
def token (cs : List Char) : Option (Token × List Char × List Char) :=
  match cs with
  | [] => none
  | c :: rest =>
    if isWordStart c then word cs
    else if isQuote c then stringFrom ⟨false, false, false, false, []⟩ cs
    else if c.isDigit || (c = '.' && rest.head?.any Char.isDigit) then
      (number cs).map fun (own, rest) => (.number own, own, rest)
    else symbol cs

/-- The width of an indentation: with tab stops at multiples of eight, and with tabs
as wide as blanks. Two lines are compared only if both widths agree on the answer. -/
structure Margin where
  column : Nat
  alternate : Nat
  deriving DecidableEq

/-- No indentation. -/
def Margin.zero : Margin := ⟨0, 0⟩

/-- The most blocks that may be open at a time. -/
def maxIndents : Nat := 99

/-- The most brackets that may be open at a time. -/
def maxBrackets : Nat := 200

/-- Measures the indentation of a line. The first continued line with blanks decides
for the lines that continue it. -/
def margin (m : Margin) (continued : Nat) (pos : Position) :
    List Char → Option (Margin × Position × List Char)
  | ' ' :: cs =>
    margin ⟨m.column + 1, m.alternate + 1⟩ continued ⟨pos.line, pos.column + 1⟩ cs
  | '\t' :: cs =>
    margin ⟨(m.column / 8 + 1) * 8, m.alternate + 1⟩ continued ⟨pos.line, pos.column + 1⟩ cs
  | '\x0c' :: cs => margin .zero continued ⟨pos.line, pos.column + 1⟩ cs
  | '\\' :: '\n' :: cs =>
    if cs.isEmpty then none
    else margin m (if continued = 0 then m.column else continued) ⟨pos.line + 1, 0⟩ cs
  | cs =>
    if cs.head? = some '\\' then none
    else some (if continued = 0 then m else ⟨continued, continued⟩, pos, cs)

/-- Closes the blocks indented deeper than a line; the rest must end at its margin. -/
def closeBlocks (m : Margin) : List Margin → Option (List Token × List Margin)
  | [] => if m = .zero then some ([], []) else none
  | top :: outer =>
    if m.column < top.column then
      (closeBlocks m outer).map fun (tokens, open_) => (.dedent :: tokens, open_)
    else if m = top then some ([], top :: outer)
    else none

/-- The tokens that the margin of a line gives rise to, and the margins of the blocks
then open, innermost first. -/
def indentation (m : Margin) (blocks : List Margin) : Option (List Token × List Margin) :=
  let top := blocks.headD .zero
  if top.column < m.column then
    if m.alternate ≤ top.alternate || maxIndents ≤ blocks.length then none
    else some ([.indent], m :: blocks)
  else closeBlocks m blocks

/-- The closing bracket that an opening bracket asks for. -/
def partner? : String → Option String
  | "(" => some ")"
  | "[" => some "]"
  | "\x7b" => some "\x7d"
  | _ => none

/-- The brackets open after a token, innermost first, each by its closing partner. -/
def track (brackets : List String) : Token → Option (List String)
  | .symbol s =>
    match partner? s with
    | some close => if maxBrackets ≤ brackets.length then none else some (close :: brackets)
    | none =>
      if s = ")" || s = "]" || s = "\x7d" then
        match brackets with
        | close :: outer => if close = s then some outer else none
        | [] => none
      else some brackets
  | _ => some brackets

/-- What is known between two tokens: whether a line starts here, the margins of the
open blocks, and the open brackets. -/
structure LexState where
  atLineStart : Bool
  blocks : List Margin
  brackets : List String

/-- A blank inside a line. -/
def isInnerBlank (c : Char) : Bool := c = ' ' || c = '\t' || c = '\x0c'

/-- The tokens from a place on. Each step uses up a character at least, or ends the
blanks at the start of a line, so twice the length suffices as `fuel`. -/
def lexFrom : Nat → LexState → Position → List Char → Option (List Lexeme)
  | 0, _, _, _ => none
  | fuel + 1, st, pos, cs =>
    if st.atLineStart then do
      let (m, start, rest) ← margin .zero 0 pos cs
      match rest with
      | '#' :: _ =>
        let comment := rest.takeWhile (· ≠ '\n')
        match rest.dropWhile (· ≠ '\n') with
        | _ :: rest => lexFrom fuel st ⟨(start.advance comment).line + 1, 0⟩ rest
        | [] => lexFrom fuel { st with atLineStart := false } (start.advance comment) []
      | '\n' :: rest => lexFrom fuel st ⟨start.line + 1, 0⟩ rest
      | _ =>
        let (tokens, blocks) ← indentation m st.blocks
        let lexemes ← lexFrom fuel { st with atLineStart := false, blocks } start rest
        pure (tokens.map (⟨start, ·⟩) ++ lexemes)
    else
      match cs with
      | [] => if st.brackets.isEmpty then some [⟨pos, .finish⟩] else none
      | '#' :: _ =>
        let comment := cs.takeWhile (· ≠ '\n')
        lexFrom fuel st (pos.advance comment) (cs.dropWhile (· ≠ '\n'))
      | '\n' :: rest =>
        let next : Position := ⟨pos.line + 1, 0⟩
        if st.brackets.isEmpty then do
          let lexemes ← lexFrom fuel { st with atLineStart := true } next rest
          pure (⟨pos, .newline⟩ :: lexemes)
        else lexFrom fuel st next rest
      | '\\' :: '\n' :: rest =>
        if rest.isEmpty then none else lexFrom fuel st ⟨pos.line + 1, 0⟩ rest
      | c :: rest =>
        if isInnerBlank c then lexFrom fuel st ⟨pos.line, pos.column + 1⟩ rest
        else do
          let (t, own, rest) ← token cs
          let brackets ← track st.brackets t
          let lexemes ← lexFrom fuel { st with brackets } (pos.advance own) rest
          pure (⟨pos, t⟩ :: lexemes)

/-- The state before the first character. -/
def LexState.initial : LexState := ⟨true, [], []⟩

/-- The tokens of a text whose lines end in line feeds. A text with a null character
is no source. -/
def lexLines (cs : List Char) : Option (List Lexeme) :=
  if cs.contains '\x00' then none
  else lexFrom (2 * cs.length + 2) .initial ⟨1, 0⟩ cs

/-- Adds the line end that the last line lacks. -/
def endLastLine (cs : List Char) : List Char :=
  if cs.getLast? = some '\n' then cs else cs ++ ['\n']

end ProbeCatalog.Syntax.Lexer
