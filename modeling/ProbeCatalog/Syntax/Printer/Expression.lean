import ProbeCatalog.Syntax.Tree
import ProbeCatalog.Text.Quoted
import ProbeCatalog.Decimal.Shortest

/-!
# The canonical text of expressions

An expression is written with single blanks and with the brackets that its place asks
for: each place names a `Level`, and what binds more loosely is put in brackets. Two
expressions have no text: a whole number with too many digits, and a formatted string
whose field would need a backslash.
-/
namespace ProbeCatalog.Syntax

/-- How tightly an expression binds, the loosest first. -/
inductive Level where
  | named | tuple | yield | test | or | and | not | compare | bitOr | bitXor | bitAnd | shift
  | sum | term | factor | power | await | atom
  deriving DecidableEq

namespace Level

/-- The rank of a level. -/
def rank : Level → Nat
  | .named => 0 | .tuple => 1 | .yield => 2 | .test => 3 | .or => 4 | .and => 5 | .not => 6
  | .compare => 7 | .bitOr => 8 | .bitXor => 9 | .bitAnd => 10 | .shift => 11 | .sum => 12
  | .term => 13 | .factor => 14 | .power => 15 | .await => 16 | .atom => 17

/-- The next tighter level; the tightest is its own. -/
def next : Level → Level
  | .named => .tuple | .tuple => .yield | .yield => .test | .test => .or | .or => .and
  | .and => .not | .not => .compare | .compare => .bitOr | .bitOr => .bitXor
  | .bitXor => .bitAnd | .bitAnd => .shift | .shift => .sum | .sum => .term | .term => .factor
  | .factor => .power | .power => .await | .await => .atom | .atom => .atom

end Level

/-- How tightly the operator binds. -/
def UnaryOp.level : UnaryOp → Level
  | .not => .not
  | _ => .factor

/-- The operator with the blank it needs. -/
def UnaryOp.text : UnaryOp → String
  | .invert => "~"
  | .not => "not "
  | .plus => "+"
  | .minus => "-"

/-- How tightly the operator binds. -/
def BinaryOp.level : BinaryOp → Level
  | .add | .sub => .sum
  | .mul | .matMul | .div | .mod | .floorDiv => .term
  | .shiftLeft | .shiftRight => .shift
  | .bitOr => .bitOr
  | .bitXor => .bitXor
  | .bitAnd => .bitAnd
  | .pow => .power

/-- The operator without blanks. -/
def BinaryOp.text : BinaryOp → String
  | .add => "+" | .sub => "-" | .mul => "*" | .matMul => "@" | .div => "/" | .mod => "%"
  | .shiftLeft => "<<" | .shiftRight => ">>" | .bitOr => "|" | .bitXor => "^" | .bitAnd => "&"
  | .floorDiv => "//" | .pow => "**"

/-- The levels of the operands: the operator is repeated without brackets on the side
to which it associates. -/
def BinaryOp.operandLevels (op : BinaryOp) : Level × Level :=
  if op = .pow then (op.level.next, op.level) else (op.level, op.level.next)

/-- How tightly the operator binds. -/
def BoolOp.level : BoolOp → Level
  | .and => .and
  | .or => .or

/-- The operator without blanks. -/
def BoolOp.text : BoolOp → String
  | .and => "and"
  | .or => "or"

/-- The comparison without blanks. -/
def CompareOp.text : CompareOp → String
  | .eq => "==" | .notEq => "!=" | .lt => "<" | .le => "<=" | .gt => ">" | .ge => ">="
  | .is => "is" | .isNot => "is not" | .member => "in" | .notMember => "not in"

/-- The letter that asks for the conversion. -/
def Conversion.letter : Conversion → Char
  | .str => 's'
  | .repr => 'r'
  | .ascii => 'a'

namespace Printer

/-- Why a tree has no text. -/
inductive Unprintable where
  /-- A whole number has more decimal digits than may be written. -/
  | longNumber
  /-- A field of a formatted string would need a backslash. -/
  | fieldWithBackslash
  deriving DecidableEq

/-- Text, or the reason why there is none. -/
abbrev Printed (α : Type) := Except Unprintable α

/-- The bound below which whole numbers are written. -/
def numberBound : Nat := Nat.pow 10 4300

/-- Real numbers are positional while the point is at most sixteen digits right and
four digits left of the first digit, and whole ones show that they are real. -/
def realLayout : Decimal.Layout := ⟨-4, 16, true⟩

/-- Imaginary numbers are written in the same way, without the mark of whole ones. -/
def imaginaryLayout : Decimal.Layout := ⟨-4, 16, false⟩

/-- A magnitude in a layout. The infinite one is written as a number too large for the
format, which reads back as infinite. -/
def magnitude (layout : Decimal.Layout) : Binary64 → String
  | .finite m q => layout.write (Decimal.shortest m q)
  | .infinite => "1e309"

/-- A literal. Without backslashes if `plain` is set and that can be done. -/
def constant (plain : Bool) : Constant → Printed String
  | .none => pure "None"
  | .true => pure "True"
  | .false => pure "False"
  | .ellipsis => pure "..."
  | .integer n => if n < numberBound then pure (toString n) else throw .longNumber
  | .float x => pure (magnitude realLayout x)
  | .imaginary x => pure (magnitude imaginaryLayout x ++ "j")
  | .string text marked =>
    let written := if plain then Quotation.write Quotation.allQuotes text else quoted text
    pure (String.ofList (if marked then 'u' :: written else written))
  | .bytes octets => pure (String.ofList (quotedOctets octets))

/-- Brackets around an expression of a level at a place of a level. -/
def bracketed (place own : Level) (s : String) : String :=
  if own.rank < place.rank then "(" ++ s ++ ")" else s

/-- Items with commas between them; one item alone has a comma after it. -/
def itemsView : List String → String
  | [item] => item ++ ","
  | items => ", ".intercalate items

/-- The literal text of a formatted string, its braces doubled. -/
def doubleBraces (t : Text) : Text :=
  t.flatMap fun p => if p = .char '\x7b' || p = .char '\x7d' then [p, p] else [p]

/-- A field from the text of its expression. -/
def field (value : String) (conversion : Option Conversion) (format : Option Text) :
    Printed Text :=
  if value.toList.contains '\\' then throw .fieldWithBackslash
  else
    let gap := if value.toList.head? = some '\x7b' then [' '] else []
    let mark := match conversion with
      | none => []
      | some c => ['!', c.letter]
    let format := match format with
      | none => []
      | some t => .char ':' :: t
    pure (Text.ofChars ('\x7b' :: gap ++ value.toList ++ mark) ++ format ++ [.char '\x7d'])

/-- Quotes that are fit for all parts of a formatted string, with the parts between
them. Line breaks are escaped in literal parts only. -/
def commonQuotes :
    List (List Char) → List (Text × Bool) → Option (List (List Char) × List Char)
  | quotes, [] => some (quotes, [])
  | quotes, (t, isLiteral) :: parts =>
    let (inner, fit) := Quotation.of quotes isLiteral t
    if fit.any quotes.contains then
      (commonQuotes fit parts).map fun (quotes, rest) => (quotes, inner ++ rest)
    else none

/-- A text inside single quotes, with every other quote as it is. -/
def insideSingle (t : Text) : List Char := t.flatMap (shownBetween '\'')

/-- A formatted string from its parts; the flag tells the literal ones. Where no quotes
fit all parts, long single quotes are used and escapes stand everywhere. -/
def formatted (parts : List (Text × Bool)) : String :=
  let (quote, inner) := match commonQuotes Quotation.allQuotes parts with
    | some (quotes, inner) => (quotes.headD [], inner)
    | none => (['\'', '\'', '\''], parts.flatMap fun (t, _) => insideSingle t)
  String.ofList ('f' :: quote ++ inner ++ quote)

/-- A formatted string without backslashes if that can be done. -/
def plainFormatted (t : Text) : String :=
  String.ofList ('f' :: Quotation.write Quotation.allQuotes t)

/-- A whole number or a truth value, which a point may not follow directly. -/
def isWhole : Expr → Bool
  | .constant (.integer _) | .constant .true | .constant .false => true
  | _ => false

mutual

/-- An expression at a place of a level. -/
def expr (plain : Bool) (level : Level) : Expr → Printed String
  | .constant c => constant plain c
  | .name id => pure id
  | .attribute value id => do
    let s ← expr plain .atom value
    pure (s ++ (if isWhole value then " ." else ".") ++ id)
  | .subscript value (.tuple (item :: items)) => do
    let s ← expr plain .atom value
    let is ← exprs plain .test (item :: items)
    pure (s ++ "[" ++ itemsView is ++ "]")
  | .subscript value index => do
    let s ← expr plain .atom value
    let i ← expr plain .test index
    pure (s ++ "[" ++ i ++ "]")
  | .call function args ks => do
    let s ← expr plain .atom function
    let as ← exprs plain .test args
    let ks ← keywords plain ks
    pure (s ++ "(" ++ ", ".intercalate (as ++ ks) ++ ")")
  | .unary op operand => do
    let s ← expr plain op.level operand
    pure (bracketed level op.level (op.text ++ s))
  | .binary op left right => do
    let l ← expr plain op.operandLevels.1 left
    let r ← expr plain op.operandLevels.2 right
    pure (bracketed level op.level (l ++ " " ++ op.text ++ " " ++ r))
  | .bool op values => do
    let ss ← operands plain op.level.next values
    pure (bracketed level op.level ((" " ++ op.text ++ " ").intercalate ss))
  | .compare left rest => do
    let s ← expr plain Level.compare.next left
    let ss ← comparisons plain rest
    pure (bracketed level .compare (s ++ ss))
  | .conditional test body orelse => do
    let b ← expr plain Level.test.next body
    let t ← expr plain Level.test.next test
    let o ← expr plain .test orelse
    pure (bracketed level .test (b ++ " if " ++ t ++ " else " ++ o))
  | .lambda ps body => do
    let s ← parameters plain ps
    let b ← expr plain .test body
    pure (bracketed level .test ("lambda" ++ (if s.isEmpty then "" else " " ++ s) ++ ": " ++ b))
  | .named target value => do
    let s ← expr plain .atom value
    pure (bracketed level .named (target ++ " := " ++ s))
  | .tuple items => do
    let ss ← exprs plain .test items
    let s := itemsView ss
    pure (if items.isEmpty then "()" else bracketed level .tuple s)
  | .list items => do
    let ss ← exprs plain .test items
    pure ("[" ++ ", ".intercalate ss ++ "]")
  | .set items => do
    let ss ← exprs plain .test items
    pure ("\x7b" ++ (if items.isEmpty then "*()" else ", ".intercalate ss) ++ "\x7d")
  | .dict items => do
    let ss ← dictItems plain items
    pure ("\x7b" ++ ", ".intercalate ss ++ "\x7d")
  | .listComp item cs => do
    let s ← expr plain .test item
    let c ← clauses plain cs
    pure ("[" ++ s ++ c ++ "]")
  | .setComp item cs => do
    let s ← expr plain .test item
    let c ← clauses plain cs
    pure ("\x7b" ++ s ++ c ++ "\x7d")
  | .dictComp key value cs => do
    let k ← expr plain .test key
    let v ← expr plain .test value
    let c ← clauses plain cs
    pure ("\x7b" ++ k ++ ": " ++ v ++ c ++ "\x7d")
  | .generator item cs => do
    let s ← expr plain .test item
    let c ← clauses plain cs
    pure ("(" ++ s ++ c ++ ")")
  | .await value => do
    let s ← expr plain .atom value
    pure (bracketed level .await ("await " ++ s))
  | .yield none => pure (bracketed level .yield "yield")
  | .yield (some value) => do
    let s ← expr plain .atom value
    pure (bracketed level .yield ("yield " ++ s))
  | .yieldFrom value => do
    let s ← expr plain .atom value
    pure (bracketed level .yield ("yield from " ++ s))
  | .starred value => do
    let s ← expr plain .bitOr value
    pure ("*" ++ s)
  | .slice lower upper step => do
    let l ← maybe plain "" lower
    let u ← maybe plain "" upper
    let s ← maybe plain ":" step
    pure (l ++ ":" ++ u ++ s)
  | .formatted ps =>
    if plain then do
      let t ← pieces ps
      pure (plainFormatted t)
    else do
      let ts ← parts ps
      pure (formatted ts)

/-- Expressions at places of one level. -/
def exprs (plain : Bool) (level : Level) : List Expr → Printed (List String)
  | [] => pure []
  | e :: es => do
    let s ← expr plain level e
    let ss ← exprs plain level es
    pure (s :: ss)

/-- The operands of a logical operator. Each is at a place one level tighter than the
one before it. -/
def operands (plain : Bool) (level : Level) : List Expr → Printed (List String)
  | [] => pure []
  | e :: es => do
    let s ← expr plain level e
    let ss ← operands plain level.next es
    pure (s :: ss)

/-- An expression after a mark, or nothing. -/
def maybe (plain : Bool) (mark : String) : Option Expr → Printed String
  | none => pure ""
  | some e => do
    let s ← expr plain .test e
    pure (mark ++ s)

/-- The comparisons after the first operand. -/
def comparisons (plain : Bool) : List (CompareOp × Expr) → Printed String
  | [] => pure ""
  | (op, e) :: rest => do
    let s ← expr plain Level.compare.next e
    let ss ← comparisons plain rest
    pure (" " ++ op.text ++ " " ++ s ++ ss)

/-- Keyword arguments and unpacked mappings. -/
def keywords (plain : Bool) : List Keyword → Printed (List String)
  | [] => pure []
  | ⟨id, value⟩ :: ks => do
    let s ← expr plain .test value
    let ss ← keywords plain ks
    let head := match id with
      | none => "**"
      | some id => id ++ "="
    pure ((head ++ s) :: ss)

/-- The items of a mapping. -/
def dictItems (plain : Bool) : List (Option Expr × Expr) → Printed (List String)
  | [] => pure []
  | (none, value) :: items => do
    let s ← expr plain .bitOr value
    let ss ← dictItems plain items
    pure (("**" ++ s) :: ss)
  | (some key, value) :: items => do
    let k ← expr plain .test key
    let s ← expr plain .test value
    let ss ← dictItems plain items
    pure ((k ++ ": " ++ s) :: ss)

/-- The clauses of a comprehension. -/
def clauses (plain : Bool) : List Clause → Printed String
  | [] => pure ""
  | ⟨isAsync, target, source, conditions⟩ :: cs => do
    let t ← expr plain .tuple target
    let s ← expr plain Level.test.next source
    let is ← exprs plain Level.test.next conditions
    let rest ← clauses plain cs
    let head := (if isAsync then " async for " else " for ") ++ t ++ " in " ++ s
    pure (head ++ String.join (is.map (" if " ++ ·)) ++ rest)

/-- A parameter with its annotation and its default value. -/
def param (plain : Bool) : Param → Printed String
  | ⟨_, id, hint, none⟩ => do
    let a ← maybe plain ": " hint
    pure (id ++ a)
  | ⟨_, id, hint, some ⟨_, value⟩⟩ => do
    let a ← maybe plain ": " hint
    let d ← expr plain .test value
    pure (id ++ a ++ "=" ++ d)

/-- Parameters, each with its annotation and its default value. -/
def params (plain : Bool) : List Param → Printed (List String)
  | [] => pure []
  | p :: ps => do
    let s ← param plain p
    let ss ← params plain ps
    pure (s :: ss)

/-- A parameter after a mark, as the only item of a list, or an empty list. -/
def maybeParam (plain : Bool) (mark : String) : Option Param → Printed (List String)
  | none => pure []
  | some p => do
    let s ← param plain p
    pure [mark ++ s]

/-- The parameters of a function. -/
def parameters (plain : Bool) : Params → Printed String
  | ⟨positionalOnly, positional, variadic, keywordOnly, variadicKeyword⟩ => do
    let po ← params plain positionalOnly
    let p ← params plain positional
    let v ← maybeParam plain "*" variadic
    let ko ← params plain keywordOnly
    let vk ← maybeParam plain "**" variadicKeyword
    let slash := if po.isEmpty then [] else ["/"]
    let star := if v.isEmpty && !ko.isEmpty then ["*"] else v
    pure (", ".intercalate (po ++ slash ++ p ++ star ++ ko ++ vk))

/-- The inner text of a formatted string. -/
def pieces : List Piece → Printed Text
  | [] => pure []
  | .literal t :: ps => do
    let rest ← pieces ps
    pure (doubleBraces t ++ rest)
  | .field value conversion none :: ps => do
    let v ← expr true Level.test.next value
    let s ← field v conversion none
    let rest ← pieces ps
    pure (s ++ rest)
  | .field value conversion (some format) :: ps => do
    let v ← expr true Level.test.next value
    let f ← pieces format
    let s ← field v conversion (some f)
    let rest ← pieces ps
    pure (s ++ rest)

/-- The inner texts of the pieces of a formatted string, with a flag for the literal
ones. -/
def parts : List Piece → Printed (List (Text × Bool))
  | [] => pure []
  | .literal t :: ps => do
    let rest ← parts ps
    pure ((doubleBraces t, true) :: rest)
  | .field value conversion none :: ps => do
    let v ← expr true Level.test.next value
    let s ← field v conversion none
    let rest ← parts ps
    pure ((s, false) :: rest)
  | .field value conversion (some format) :: ps => do
    let v ← expr true Level.test.next value
    let f ← pieces format
    let s ← field v conversion (some f)
    let rest ← parts ps
    pure ((s, false) :: rest)

end

end Printer

end ProbeCatalog.Syntax
