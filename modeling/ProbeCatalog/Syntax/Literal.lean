import ProbeCatalog.Syntax.Token
import ProbeCatalog.Syntax.Lexer
import ProbeCatalog.Text.Table
import ProbeCatalog.Text.CharacterName

/-!
# The values of literals

`numberValue?` reads the spelling of a number, `decodeText` and `decodeOctets` the
bodies of strings with their escapes. A decoded body is never longer than its
spelling.
-/
namespace ProbeCatalog.Syntax.Literal

open Lexer (isOctalDigit)

/-- The most decimal digits that a whole number may be read from or written with. -/
def maxDigits : Nat := 4300

/-- The number written by decimal digits. -/
def decimalValue (digits : List Char) : Nat :=
  digits.foldl (fun n c => 10 * n + (c.toNat - '0'.toNat)) 0

/-- The number written by digits of a base of at most sixteen. -/
def basedValue (base : Nat) (digits : List Char) : Nat :=
  digits.foldl (fun n c => base * n + Table.hexDigit c) 0

/-- The magnitude of a decimal number with a fraction and an exponent, which both may
be missing. -/
def magnitude (cs : List Char) : Binary64 :=
  let isE (c : Char) : Bool := c = 'e' || c = 'E'
  let mantissa := cs.takeWhile (!isE ·)
  let power := (cs.dropWhile (!isE ·)).drop 1
  let whole := mantissa.takeWhile (· ≠ '.')
  let part := (mantissa.dropWhile (· ≠ '.')).drop 1
  let exponent : Int :=
    match power with
    | '-' :: digits => -(decimalValue digits : Int)
    | '+' :: digits => decimalValue digits
    | digits => decimalValue digits
  Binary64.ofDecimal (decimalValue (whole ++ part)) (exponent - part.length)

/-- The value of a whole decimal number, unless it has too many digits. -/
def wholeValue? (digits : List Char) : Option Constant :=
  if maxDigits < digits.length ∧ digits.any (· ≠ '0') then none
  else some (.integer (decimalValue digits))

/-- The value of a number. -/
def numberValue? (spelling : List Char) : Option Constant :=
  let cs := spelling.filter (· ≠ '_')
  let decimal : Option Constant :=
    if cs.any fun c => c = 'j' || c = 'J' then some (.imaginary (magnitude cs.dropLast))
    else if cs.any fun c => c = '.' || c = 'e' || c = 'E' then some (.float (magnitude cs))
    else wholeValue? cs
  match cs with
  | '0' :: b :: digits =>
    if b = 'x' || b = 'X' then some (.integer (basedValue 16 digits))
    else if b = 'o' || b = 'O' then some (.integer (basedValue 8 digits))
    else if b = 'b' || b = 'B' then some (.integer (basedValue 2 digits))
    else decimal
  | _ => decimal

/-- The character that a backslash and one character denote. -/
def simpleEscape? : Char → Option Char
  | '\\' => some '\\'
  | '\'' => some '\''
  | '"' => some '"'
  | 'a' => some '\x07'
  | 'b' => some '\x08'
  | 'f' => some '\x0c'
  | 'n' => some '\n'
  | 'r' => some '\r'
  | 't' => some '\t'
  | 'v' => some '\x0b'
  | _ => none

/-- The code point that exactly `count` hexadecimal digits write, and what follows. -/
def hexEscape (count : Nat) (cs : List Char) : Option (CodePoint × List Char) :=
  let digits := cs.take count
  if digits.length = count ∧ digits.all Table.isHexDigit then
    (CodePoint.ofNat? (Table.hex digits)).map fun p => (p, cs.drop count)
  else none

/-- The one to three octal digits in front, as a number, and what follows. -/
def octalEscape (cs : List Char) : Nat × List Char :=
  let digits := (cs.take 3).takeWhile isOctalDigit
  (basedValue 8 digits, cs.drop digits.length)

/-- The character named between braces, and what follows. -/
def namedEscape : List Char → Option (CodePoint × List Char)
  | '\x7b' :: cs =>
    let name := cs.takeWhile (· ≠ '\x7d')
    match cs.dropWhile (· ≠ '\x7d') with
    | _ :: rest => do
      let n ← CharacterName.lookup? name
      let p ← CodePoint.ofNat? n
      pure (p, rest)
    | [] => none
  | _ => none

/-- What a backslash and the characters after it denote. A backslash that begins no
escape stands for itself. -/
def escape : List Char → Option (Text × List Char)
  | [] => some ([.char '\\'], [])
  | '\n' :: cs => some ([], cs)
  | 'x' :: cs => (hexEscape 2 cs).map fun (p, rest) => ([p], rest)
  | 'u' :: cs => (hexEscape 4 cs).map fun (p, rest) => ([p], rest)
  | 'U' :: cs => (hexEscape 8 cs).map fun (p, rest) => ([p], rest)
  | 'N' :: cs => (namedEscape cs).map fun (p, rest) => ([p], rest)
  | c :: cs =>
    if isOctalDigit c then
      let (n, rest) := octalEscape (c :: cs)
      (CodePoint.ofNat? n).map fun p => ([p], rest)
    else match simpleEscape? c with
      | some d => some ([.char d], cs)
      | none => some ([.char '\\', .char c], cs)

/-- Reads a body with escapes; `fuel` is its length. -/
def unescape : Nat → List Char → Option Text
  | _, [] => some []
  | 0, _ => none
  | fuel + 1, '\\' :: cs => do
    let (denoted, rest) ← escape cs
    let text ← unescape fuel rest
    pure (denoted ++ text)
  | fuel + 1, c :: cs => (unescape fuel cs).map (.char c :: ·)

/-- The text that the body of a string denotes. -/
def decodeText (isRaw : Bool) (body : List Char) : Option Text :=
  if isRaw then some (Text.ofChars body) else unescape body.length body

/-- What a backslash and the characters after it denote among octets: neither names
nor long code points are known there. -/
def octetEscape : List Char → Option (List UInt8 × List Char)
  | [] => some ([92], [])
  | '\n' :: cs => some ([], cs)
  | 'x' :: cs => (hexEscape 2 cs).map fun (p, rest) => ([UInt8.ofNat p.toNat], rest)
  | c :: cs =>
    if isOctalDigit c then
      let (n, rest) := octalEscape (c :: cs)
      some ([UInt8.ofNat n], rest)
    else match simpleEscape? c with
      | some d => some ([UInt8.ofNat d.toNat], cs)
      | none => some ([92, UInt8.ofNat c.toNat], cs)

/-- Reads a body of octets with escapes; `fuel` is its length. -/
def unescapeOctets : Nat → List Char → Option (List UInt8)
  | _, [] => some []
  | 0, _ => none
  | fuel + 1, '\\' :: cs => do
    let (denoted, rest) ← octetEscape cs
    let octets ← unescapeOctets fuel rest
    pure (denoted ++ octets)
  | fuel + 1, c :: cs => (unescapeOctets fuel cs).map (UInt8.ofNat c.toNat :: ·)

/-- The octets that the body of a string denotes. Its characters are ASCII. -/
def decodeOctets (isRaw : Bool) (body : List Char) : Option (List UInt8) :=
  if body.any fun c => 128 ≤ c.toNat then none
  else if isRaw then some (body.map fun c => UInt8.ofNat c.toNat)
  else unescapeOctets body.length body

end ProbeCatalog.Syntax.Literal
