import ProbeCatalog.Json.Value
import ProbeCatalog.Text.Table

/-!
# Reading JSON

`read` takes a text for one value with blanks around it. Beside plain JSON it knows
`NaN` and the infinities. A fault names its place, counted in characters from zero, and
what was expected there; the first fault wins.
-/
namespace ProbeCatalog.Json

/-- What is wrong with a text. -/
inductive Problem where
  | expectedValue
  | expectedKey
  | expectedColon
  | expectedComma
  | extraData
  | unterminatedString
  | controlCharacter
  | badEscape
  | badUnitEscape
  | byteOrderMark
  deriving DecidableEq

/-- Why a text could not be read. -/
inductive ReadFault where
  | malformed (problem : Problem) (position : Nat)
  /-- A whole number has more digits than may be read. -/
  | longNumber
  deriving DecidableEq

/-- What is wrong, without the place. -/
def Problem.message : Problem → String
  | .expectedValue => "Expecting value"
  | .expectedKey => "Expecting property name enclosed in double quotes"
  | .expectedColon => "Expecting ':' delimiter"
  | .expectedComma => "Expecting ',' delimiter"
  | .extraData => "Extra data"
  | .unterminatedString => "Unterminated string starting at"
  | .controlCharacter => "Invalid control character at"
  | .badEscape => "Invalid \\escape"
  | .badUnitEscape => "Invalid \\uXXXX escape"
  | .byteOrderMark => "Unexpected UTF-8 BOM (decode using utf-8-sig)"

/-- The wording of a problem at a place of a text: line and column count from one. -/
def problemMessage (text : List Char) (problem : Problem) (position : Nat) : String :=
  let before := text.take position
  let line := before.count '\n' + 1
  let column := (before.reverse.takeWhile (· ≠ '\n')).length + 1
  problem.message ++ ": line " ++ toString line ++ " column " ++ toString column ++
    " (char " ++ toString position ++ ")"

/-- A place of a text: its position and what follows. -/
structure Cursor where
  position : Nat
  rest : List Char

/-- A result, or why there is none. -/
abbrev Result := Except ReadFault

/-- There is no result, because of a problem at a position. -/
def fail {α : Type} (problem : Problem) (position : Nat) : Result α :=
  .error (.malformed problem position)

/-- The place a number of characters further on. -/
def Cursor.skip (c : Cursor) (n : Nat) : Cursor := ⟨c.position + n, c.rest.drop n⟩

/-- The four blanks of the format. -/
def isJsonBlank (c : Char) : Bool := c = ' ' || c = '\t' || c = '\n' || c = '\r'

/-- The place after the blanks. -/
def Cursor.skipBlanks (c : Cursor) : Cursor := c.skip (c.rest.takeWhile isJsonBlank).length

/-- The number that four hexadecimal digits write, if they stand in front of another
character. -/
def unit? (cs : List Char) : Option Nat :=
  let digits := cs.take 4
  if 4 < cs.length ∧ digits.all Table.isHexDigit then some (Table.hex digits) else none

/-- The character that a backslash and a letter stand for. -/
def simpleEscape? : Char → Option Char
  | '"' => some '"'
  | '\\' => some '\\'
  | '/' => some '/'
  | 'b' => some '\x08'
  | 'f' => some '\x0c'
  | 'n' => some '\n'
  | 'r' => some '\r'
  | 't' => some '\t'
  | _ => none

/-- The code point of a sixteen-bit unit. -/
def ofUnit (n : Nat) : CodePoint := (CodePoint.ofNat? n).getD (.char '\x00')

/-- The second half of a surrogate pair as an escape in front of another character:
nothing if no escape stands here, a fault if its digits are wrong, and its unit. -/
def secondUnit (c : Cursor) : Result (Option Nat) :=
  match c.rest with
  | '\\' :: 'u' :: cs =>
    if 4 < cs.length then
      match unit? cs with
      | some n => .ok (some n)
      | none => fail .badUnitEscape (c.position + 1)
    else .ok none
  | _ => .ok none

/-- What a backslash and the characters after it denote. The place is that of the
character after the backslash, `start` that of the opening quote. -/
def escapeAt (start : Nat) (c : Cursor) : Result (CodePoint × Cursor) :=
  match c.rest with
  | [] => fail .unterminatedString start
  | 'u' :: cs =>
    match unit? cs with
    | none => fail .badUnitEscape c.position
    | some n =>
      let after := c.skip 5
      if 0xD800 ≤ n ∧ n < 0xDC00 then do
        match ← secondUnit after with
        | some m =>
          if 0xDC00 ≤ m ∧ m < 0xE000 then
            pure (ofUnit (0x10000 + (n - 0xD800) * 0x400 + (m - 0xDC00)), after.skip 6)
          else pure (ofUnit n, after)
        | none => pure (ofUnit n, after)
      else pure (ofUnit n, after)
  | d :: _ =>
    match simpleEscape? d with
    | some e => pure (.char e, c.skip 1)
    | none => fail .badEscape (c.position - 1)

/-- A string after its opening quote, which stood at `start`. `fuel` bounds its
length. -/
def stringFrom (start : Nat) : Nat → Cursor → Result (Text × Cursor)
  | 0, _ => fail .unterminatedString start
  | fuel + 1, c =>
    match c.rest with
    | [] => fail .unterminatedString start
    | '"' :: _ => pure ([], c.skip 1)
    | '\\' :: _ => do
      let (p, after) ← escapeAt start (c.skip 1)
      let (t, after) ← stringFrom start fuel after
      pure (p :: t, after)
    | d :: _ =>
      if d.toNat < 32 then fail .controlCharacter c.position
      else do
        let (t, after) ← stringFrom start fuel (c.skip 1)
        pure (.char d :: t, after)

/-- The most digits that a whole number may be read from. -/
def maxDigits : Nat := 4300

/-- The digits of a whole number. No digit follows a zero in front. -/
def wholeSpelling : List Char → List Char
  | '0' :: _ => ['0']
  | cs => cs.takeWhile Char.isDigit

/-- A point and digits, if both stand here. -/
def fractionSpelling : List Char → List Char
  | '.' :: cs =>
    let digits := cs.takeWhile Char.isDigit
    if digits.isEmpty then [] else '.' :: digits
  | _ => []

/-- The letter of an exponent, its sign and its digits, if it is one that stands here. -/
def exponentSpelling : List Char → List Char
  | [] => []
  | e :: cs =>
    if e = 'e' ∨ e = 'E' then
      let sign := cs.takeWhile fun c => c = '+' || c = '-'
      let digits := (cs.drop sign.length).takeWhile Char.isDigit
      if 1 < sign.length ∨ digits.isEmpty then [] else e :: (sign ++ digits)
    else []

/-- The characters of a number without a sign: its whole part, and its fraction with its
exponent. -/
def unsignedSpelling (cs : List Char) : Option (List Char × List Char) :=
  let whole := wholeSpelling cs
  let cs := cs.drop whole.length
  let fraction := fractionSpelling cs
  let exponent := exponentSpelling (cs.drop fraction.length)
  if whole.isEmpty then none else some (whole, fraction ++ exponent)

/-- The characters of a number, up to its fraction and from there on. -/
def numberSpelling : List Char → Option (List Char × List Char)
  | '-' :: cs => (unsignedSpelling cs).map fun (whole, more) => ('-' :: whole, more)
  | cs => unsignedSpelling cs

/-- The number that digits write. -/
def digitsValue (digits : List Char) : Nat :=
  digits.foldl (fun n c => 10 * n + (c.toNat - '0'.toNat)) 0

/-- The number written by digits, which a minus sign may precede. -/
def integerOf : List Char → Int
  | '-' :: digits => -(digitsValue digits : Int)
  | digits => digitsValue digits

/-- A number. -/
def numberAt (c : Cursor) : Result (Json × Cursor) :=
  match numberSpelling c.rest with
  | none => fail .expectedValue c.position
  | some (whole, []) =>
    if maxDigits < (whole.filter Char.isDigit).length then .error .longNumber
    else pure (.integer (integerOf whole), c.skip whole.length)
  | some (whole, more) => pure (.real (whole ++ more), c.skip (whole ++ more).length)

/-- The words that are values. -/
def words : List (String × Json) :=
  [("null", .null), ("true", .bool true), ("false", .bool false), ("NaN", .real "NaN".toList),
   ("Infinity", .real "Infinity".toList), ("-Infinity", .real "-Infinity".toList)]

/-- A word that is a value, if one stands here. -/
def wordAt? (c : Cursor) : Option (Json × Cursor) :=
  (words.find? fun (w, _) => w.toList.isPrefixOf c.rest).map fun (w, v) => (v, c.skip w.length)

mutual

/-- A value. `fuel` bounds the number of values and separators. -/
def valueAt : Nat → Cursor → Result (Json × Cursor)
  | 0, c => fail .expectedValue c.position
  | fuel + 1, c =>
    match c.rest with
    | '"' :: _ => do
      let (t, after) ← stringFrom c.position (c.rest.length + 1) (c.skip 1)
      pure (.string t, after)
    | '[' :: _ => do
      let inner := (c.skip 1).skipBlanks
      if inner.rest.head? = some ']' then pure (.array [], inner.skip 1)
      else
        let (items, after) ← itemsAt fuel inner
        pure (.array items, after)
    | '\x7b' :: _ => do
      let inner := (c.skip 1).skipBlanks
      if inner.rest.head? = some '\x7d' then pure (.object [], inner.skip 1)
      else
        let (fields, after) ← fieldsAt fuel [] inner
        pure (.object fields, after)
    | _ =>
      match wordAt? c with
      | some result => pure result
      | none => numberAt c

/-- The items of an array, one at least, and the closing bracket. -/
def itemsAt : Nat → Cursor → Result (List Json × Cursor)
  | 0, c => fail .expectedValue c.position
  | fuel + 1, c => do
    let (v, after) ← valueAt fuel c
    let after := after.skipBlanks
    match after.rest with
    | ']' :: _ => pure ([v], after.skip 1)
    | ',' :: _ =>
      let (vs, after) ← itemsAt fuel (after.skip 1).skipBlanks
      pure (v :: vs, after)
    | _ => fail .expectedComma after.position

/-- The fields of an object after those in `done`, one at least, and the closing brace.
Of two fields with one key the later gives the value. -/
def fieldsAt : Nat → List (Text × Json) → Cursor → Result (List (Text × Json) × Cursor)
  | 0, _, c => fail .expectedKey c.position
  | fuel + 1, done, c => do
    if c.rest.head? ≠ some '"' then fail .expectedKey c.position
    let (key, after) ← stringFrom c.position (c.rest.length + 1) (c.skip 1)
    let after := after.skipBlanks
    if after.rest.head? ≠ some ':' then fail .expectedColon after.position
    let (v, after) ← valueAt fuel (after.skip 1).skipBlanks
    let after := after.skipBlanks
    let done := setField key v done
    match after.rest with
    | '\x7d' :: _ => pure (done, after.skip 1)
    | ',' :: _ => fieldsAt fuel done (after.skip 1).skipBlanks
    | _ => fail .expectedComma after.position

end

/-- The value that a text holds. -/
def read (text : List Char) : Result Json := do
  if text.head? = some '\uFEFF' then fail .byteOrderMark 0
  let (v, after) ← valueAt (2 * text.length + 1) (Cursor.skipBlanks ⟨0, text⟩)
  let after := after.skipBlanks
  if after.rest.isEmpty then pure v else fail .extraData after.position

end ProbeCatalog.Json
