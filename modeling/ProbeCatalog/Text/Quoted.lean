import ProbeCatalog.Text.Printable

/-!
# Quoted text

A text between quotes, with escapes for what the quotes cannot show. `quoted` uses
one line and whichever quote saves escapes. `Quotation.of` looks for quotes, short or
long, that need as few backslashes as possible, and falls back on `quoted`.
-/
namespace ProbeCatalog

/-- A number in hexadecimal digits, filled up with zeros to a width. -/
def hexPadded (width n : Nat) : List Char :=
  let digits := Nat.toDigits 16 n
  List.replicate (width - digits.length) '0' ++ digits

/-- The escape of a code point by its number. -/
def numericEscape (n : Nat) : List Char :=
  if n < 0x100 then '\\' :: 'x' :: hexPadded 2 n
  else if n < 0x10000 then '\\' :: 'u' :: hexPadded 4 n
  else '\\' :: 'U' :: hexPadded 8 n

/-- The escape of a code point that is not shown as it is. -/
def escaped : CodePoint → List Char
  | .char '\\' => ['\\', '\\']
  | .char '\t' => ['\\', 't']
  | .char '\n' => ['\\', 'n']
  | .char '\r' => ['\\', 'r']
  | p => numericEscape p.toNat

/-- A code point as it is, or its escape. -/
def shown (p : CodePoint) : List Char :=
  match p with
  | .char c => if c ≠ '\\' ∧ isPrintable c then [c] else escaped p
  | .half _ => escaped p

/-- A code point between given quotes. -/
def shownBetween (quote : Char) (p : CodePoint) : List Char :=
  if p = .char quote then ['\\', quote] else shown p

/-- Double quotes if the text holds only the single ones, else single quotes. -/
def preferredQuote (hasSingle hasDouble : Bool) : Char :=
  if hasSingle && !hasDouble then '"' else '\''

/-- A text between quotes on one line, as quote, inner text and quote again. -/
def quotedParts (t : Text) : Char × List Char :=
  let quote := preferredQuote (t.contains (.char '\'')) (t.contains (.char '"'))
  (quote, t.flatMap (shownBetween quote))

/-- A text between quotes on one line. -/
def quoted (t : Text) : List Char :=
  let (quote, inner) := quotedParts t
  quote :: (inner ++ [quote])

/-- An octet between given quotes. -/
def octetBetween (quote : Char) (b : UInt8) : List Char :=
  let c := Char.ofNat b.toNat
  if c = quote ∨ c = '\\' then ['\\', c]
  else if 32 ≤ b.toNat ∧ b.toNat < 127 then [c]
  else escaped (.char c)

/-- Octets between quotes, ASCII characters shown as they are. -/
def quotedOctets (bs : List UInt8) : List Char :=
  let quote := preferredQuote (bs.contains 39) (bs.contains 34)
  'b' :: quote :: (bs.flatMap (octetBetween quote) ++ [quote])

/-- A list stands inside another. -/
def occursIn (part : List Char) : List Char → Bool
  | [] => part.isEmpty
  | c :: cs => part.isPrefixOf (c :: cs) || occursIn part cs

namespace Quotation

/-- The quotes that may be short or long, in order of preference. -/
def allQuotes : List (List Char) :=
  [['\''], ['"'], ['"', '"', '"'], ['\'', '\'', '\'']]

/-- The long quotes, in order of preference. -/
def longQuotes : List (List Char) := [['"', '"', '"'], ['\'', '\'', '\'']]

/-- A code point with an escape where needed. Line feeds and tabs are kept unless
`escapeBlanks` is set. -/
def escapeOne (escapeBlanks : Bool) (p : CodePoint) : List Char :=
  if !escapeBlanks && (p = .char '\n' || p = .char '\t') then
    match p with
    | .char c => [c]
    | .half _ => []
  else shown p

/-- The inner text and the quotes it may stand between. The quotes come from the given
ones unless none of them is fit. -/
def of (quotes : List (List Char)) (escapeBlanks : Bool) (t : Text) :
    List Char × List (List Char) :=
  let inner := t.flatMap (escapeOne escapeBlanks)
  let fit := quotes.filter fun q =>
    (!inner.contains '\n' || longQuotes.contains q) && !occursIn q inner
  match fit, inner.getLast? with
  | [], _ =>
    let (quote, inner) := quotedParts t
    (inner, [(quotes.find? (·.contains quote)).getD [quote]])
  | fit, none => ([], fit)
  | fit, some last =>
    let ordered := fit.filter (·.head? ≠ some last) ++ fit.filter (·.head? = some last)
    if ordered.head?.any (·.head? = some last) then (inner.dropLast ++ ['\\', last], ordered)
    else (inner, ordered)

/-- A text between the first quotes fit for it. -/
def write (quotes : List (List Char)) (t : Text) : List Char :=
  let (inner, fit) := of quotes false t
  let quote := fit.headD []
  quote ++ inner ++ quote

end Quotation

end ProbeCatalog
