import ProbeCatalog.Syntax.Literal

/-!
# The parts of a formatted string

`split` cuts the body of a formatted string into literal text and fields. The
expression of a field stays text here: it is a source of its own, and the grammar
reads it later. Fields may stand in the format of a field, but no deeper.
-/
namespace ProbeCatalog.Syntax.Formatted

open Lexer (isQuote maxBrackets)
open Literal (decodeText)

/-- A part of a formatted string whose expression has not been read. -/
inductive RawPiece where
  | literal (body : List Char)
  /-- `shown` is the text of a field that also shows its own expression. -/
  | field (source : List Char) (shown : Option (List Char)) (conversion : Option Conversion)
      (format : Option (List RawPiece))

/-- Literal text up to a field, a doubled brace or the end. The flag tells that a
doubled brace ended it, of which one brace is kept. In a format (`isNested`) braces
are not doubled and a closing brace ends the text. Braces around the name of a
character belong to the text; `inName` is set between them. -/
def literalPart (isNested isRaw : Bool) :
    Bool → List Char → Option (List Char × Bool × List Char)
  | _, [] => some ([], false, [])
  | true, c :: cs => put c (literalPart isNested isRaw (c ≠ '\x7d') cs)
  | false, c :: cs =>
    if c = '\x7b' ∨ c = '\x7d' then
      if isNested then some ([], false, c :: cs)
      else if cs.head? = some c then some ([c], true, cs.drop 1)
      else if c = '\x7d' then none
      else some ([], false, c :: cs)
    else if c = '\\' ∧ !isRaw then
      match cs with
      | 'N' :: '\x7b' :: rest =>
        put '\\' (put 'N' (put '\x7b' (literalPart isNested isRaw true rest)))
      | d :: rest =>
        if d = '\x7b' ∨ d = '\x7d' then put '\\' (literalPart isNested isRaw false (d :: rest))
        else put '\\' (put d (literalPart isNested isRaw false rest))
      | [] => some (['\\'], false, [])
    else put c (literalPart isNested isRaw false cs)
where
  /-- Puts a character in front of the text found. -/
  put (c : Char) :
      Option (List Char × Bool × List Char) → Option (List Char × Bool × List Char) :=
    Option.map fun (text, doubled, rest) => (c :: text, doubled, rest)

/-- Inside which quotes a place in the expression of a field stands. -/
inductive QuoteState where
  | outside
  | short (quote : Char)
  | long (quote : Char)

/-- The bracket that closes another. -/
def closes (opening closing : Char) : Bool :=
  (opening = '(' && closing = ')') || (opening = '[' && closing = ']') ||
    (opening = '\x7b' && closing = '\x7d')

/-- The two characters are one comparison operator, which ends no expression. -/
def isComparison (c d : Char) : Bool := d = '=' && (c = '!' || c = '=' || c = '<' || c = '>')

/-- What a character inside the expression of a field does. -/
inductive FieldStep where
  /-- It has no place there. -/
  | refuse
  /-- It ends the expression. -/
  | stop
  /-- It belongs to the expression, with `extra` characters after it. -/
  | take (extra : Nat) (state : QuoteState) (brackets : List Char)

/-- The step at a character, given what follows it. `brackets` holds the brackets open
in the expression. Backslashes and comments have no place in it. -/
def fieldStep (state : QuoteState) (brackets : List Char) (c : Char) (cs : List Char) : FieldStep :=
  if c = '\\' then .refuse
  else match state with
  | .short quote => .take 0 (if c = quote then .outside else .short quote) brackets
  | .long quote =>
    if c = quote ∧ [quote, quote].isPrefixOf cs then .take 2 .outside brackets
    else .take 0 (.long quote) brackets
  | .outside =>
    if isQuote c then
      if [c, c].isPrefixOf cs then .take 2 (.long c) brackets else .take 0 (.short c) brackets
    else if c = '(' ∨ c = '[' ∨ c = '\x7b' then
      if maxBrackets ≤ brackets.length then .refuse else .take 0 .outside (c :: brackets)
    else if c = '#' then .refuse
    else match brackets with
    | [] =>
      if cs.head?.any (isComparison c) then .take 1 .outside []
      else if c = '!' ∨ c = ':' ∨ c = '\x7d' ∨ c = '=' then .stop
      else if c = ')' ∨ c = ']' then .refuse
      else .take 0 .outside []
    | opening :: outer =>
      if c = ')' ∨ c = ']' ∨ c = '\x7d' then
        if closes opening c then .take 0 .outside outer else .refuse
      else .take 0 .outside brackets

/-- The expression of a field and what follows it, from the character that ended it.
The first `extra` characters belong to the expression in any case. -/
def fieldSource : Nat → QuoteState → List Char → List Char → Option (List Char × List Char)
  | _, _, _, [] => none
  | extra + 1, state, brackets, c :: cs =>
    (fieldSource extra state brackets cs).map fun (source, rest) => (c :: source, rest)
  | 0, state, brackets, c :: cs =>
    match fieldStep state brackets c cs with
    | .refuse => none
    | .stop => some ([], c :: cs)
    | .take extra state brackets =>
      (fieldSource extra state brackets cs).map fun (source, rest) => (c :: source, rest)

/-- The blanks that may follow the sign by which a field shows its expression. -/
def isFieldBlank (c : Char) : Bool := c = ' ' || (9 ≤ c.toNat && c.toNat ≤ 13)

/-- The conversion that a letter stands for. -/
def conversionOf? : Char → Option Conversion
  | 's' => some .str
  | 'r' => some .repr
  | 'a' => some .ascii
  | _ => none

/-- The sign and blanks by which a field shows its expression, if it does. -/
def showMark : List Char → List Char × List Char
  | '=' :: cs => ('=' :: cs.takeWhile isFieldBlank, cs.dropWhile isFieldBlank)
  | cs => ([], cs)

/-- The conversion of a field, if it has one. -/
def conversionMark : List Char → Option (Option Conversion × List Char)
  | '!' :: c :: cs => (conversionOf? c).map fun conversion => (some conversion, cs)
  | ['!'] => none
  | cs => some (none, cs)

/-- The deepest level at which a field may stand: in the format of a field. -/
def maxFieldLevel : Nat := 1

/-- The pieces of a body, or of a format at a level above zero, and what follows:
nothing, or the brace that closes a format. `fuel` bounds the number of pieces at
all levels by the length of the body. -/
def splitFrom (isRaw : Bool) : Nat → Nat → List Char → Option (List RawPiece × List Char)
  | 0, _, _ => none
  | fuel + 1, level, cs => do
    let (text, doubled, rest) ← literalPart (level ≠ 0) isRaw false cs
    if doubled then
      let (pieces, rest) ← splitFrom isRaw fuel level rest
      pure (.literal text :: pieces, rest)
    else
      match rest with
      | '\x7b' :: rest =>
        if maxFieldLevel < level then none
        let (source, rest) ← fieldSource 0 .outside [] rest
        if source.all fun c => c = ' ' || c = '\t' || c = '\n' || c = '\x0c' then none
        let (mark, rest) := showMark rest
        let shown := if mark.isEmpty then none else some (source ++ mark)
        let (conversion, rest) ← conversionMark rest
        let (format, rest) ←
          match rest with
          | ':' :: rest => (splitFrom isRaw fuel (level + 1) rest).map fun (f, r) => (some f, r)
          | _ => some (none, rest)
        match rest with
        | '\x7d' :: rest =>
          let (pieces, rest) ← splitFrom isRaw fuel level rest
          pure (.literal text :: .field source shown conversion format :: pieces, rest)
        | _ => none
      | _ => pure ([.literal text], rest)

/-- The pieces of the body of a formatted string. -/
def split (isRaw : Bool) (body : List Char) : Option (List RawPiece) :=
  match splitFrom isRaw (body.length + 1) 0 body with
  | some (pieces, []) => some pieces
  | _ => none

/-- Adjacent literal pieces joined, empty ones dropped. -/
def joinLiterals {ε : Type} : List (PieceOf ε) → List (PieceOf ε)
  | [] => []
  | .literal t :: rest =>
    match joinLiterals rest with
    | .literal u :: joined => .literal (t ++ u) :: joined
    | joined => if t.isEmpty then joined else .literal t :: joined
  | piece :: rest => piece :: joinLiterals rest

/-- Reads the text and the expressions of pieces. -/
def resolve (isRaw : Bool) (read : List Char → Option Expr) :
    List RawPiece → Option (List Piece)
  | [] => some []
  | .literal body :: rest => do
    let text ← decodeText isRaw body
    let pieces ← resolve isRaw read rest
    pure (.literal text :: pieces)
  | .field source shown conversion format :: rest => do
    let value ← read source
    let format ← match format with
      | none => pure none
      | some pieces => (resolve isRaw read pieces).map fun pieces => some (joinLiterals pieces)
    let pieces ← resolve isRaw read rest
    match shown with
    | none => pure (.field value conversion format :: pieces)
    | some text =>
      let conversion := if conversion.isNone && format.isNone then some .repr else conversion
      pure (.literal (Text.ofChars text) :: .field value conversion format :: pieces)

end ProbeCatalog.Syntax.Formatted
