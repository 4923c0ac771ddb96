import ProbeCatalog.Decimal.Binary64

/-!
# The shortest decimal that reads back

Of the decimals that read back as a given magnitude `shortest` takes one with
the fewest digits, among these the nearest, and on a tie the even one. `Layout`
says how its digits are written down.
-/
namespace ProbeCatalog

/-- The decimal `0.d₁d₂… * 10 ^ point`; the last digit is not zero. -/
structure Decimal where
  digits : List Char
  point : Int

namespace Decimal

/-- The number of decimal digits; zero has none. -/
def width (n : Nat) : Nat := if n = 0 then 0 else (Nat.toDigits 10 n).length

/-- The exponent `p` with `10 ^ (p - 1) ≤ num / den < 10 ^ p`. -/
def pointOf (num den : Nat) : Int :=
  if den ≤ num then width (num / den) else 1 - (width ((den + num - 1) / num - 1) : Int)

/-- The digits of a number without its trailing zeros. -/
def trimmedDigits (n : Nat) : List Char :=
  ((Nat.toDigits 10 n).reverse.dropWhile (· = '0')).reverse

/-- A grid point `candidate * 10 ^ scale` against the ends of an interval, all
brought to one denominator. -/
structure Grid where
  /-- One step of the grid. -/
  unit : Nat
  /-- Ends of the interval and the value itself, in the same denominator. -/
  low : Nat
  value : Nat
  high : Nat
  closed : Bool

/-- The grid point lies in the interval. -/
def Grid.holds (g : Grid) (candidate : Nat) : Bool :=
  let c := candidate * g.unit
  if g.closed then g.low ≤ c && c ≤ g.high else g.low < c && c < g.high

/-- The grid point nearest to the value that lies in the interval, if one does. -/
def Grid.nearest? (g : Grid) : Option Nat :=
  let below := g.value / g.unit
  let above := below + 1
  let toBelow := g.value - below * g.unit
  let toAbove := above * g.unit - g.value
  let belowFirst := toBelow < toAbove || (toBelow = toAbove && below % 2 = 0)
  match g.holds below, g.holds above with
  | true, true => some (if belowFirst then below else above)
  | true, false => some below
  | false, true => some above
  | false, false => none

/-- The grid of the decimals with `count` digits around `significand * 2 ^ exponent`. -/
def gridOf (significand : Nat) (exponent : Int) (point : Int) (count : Nat) : Grid :=
  let e := exponent - 2
  let up := Nat.pow 2 e.toNat
  let down := Nat.pow 2 (-e).toNat
  let scale := point - count
  let tenUp := Nat.pow 10 scale.toNat
  let tenDown := Nat.pow 10 (-scale).toNat
  let at_ (quarters : Nat) : Nat := quarters * up * tenDown
  let narrow := significand = Nat.pow 2 52 && Binary64.minExponent < exponent
  { unit := tenUp * down
    low := at_ (4 * significand - if narrow then 1 else 2)
    value := at_ (4 * significand)
    high := at_ (4 * significand + 2)
    closed := significand % 2 = 0 }

/-- Tries `count`, `count + 1`, … digits, at most `tries` times. Seventeen digits
always suffice. -/
def search (significand : Nat) (exponent point : Int) : Nat → Nat → Decimal
  | 0, _ => ⟨['0'], 1⟩
  | tries + 1, count =>
    match (gridOf significand exponent point count).nearest? with
    | some n =>
      let carry : Int := if width n = count + 1 then 1 else 0
      ⟨trimmedDigits n, point + carry⟩
    | none => search significand exponent point tries (count + 1)

/-- The shortest decimal that reads back as `significand * 2 ^ exponent`. -/
def shortest (significand : Nat) (exponent : Int) : Decimal :=
  if significand = 0 then ⟨['0'], 1⟩
  else
    let num := significand * Nat.pow 2 exponent.toNat
    let den := Nat.pow 2 (-exponent).toNat
    search significand exponent (pointOf num den) 17 1

/-- How a decimal is written. -/
structure Layout where
  /-- Positional notation is used while `lowest < point ≤ highest`. -/
  lowest : Int
  highest : Int
  /-- A whole number in positional notation ends in `.0`. -/
  wholeMark : Bool

/-- An exponent with its sign and at least two digits. -/
def exponentText (e : Int) : String :=
  let digits := toString e.natAbs
  (if e < 0 then "-" else "+") ++ (if digits.length < 2 then "0" ++ digits else digits)

/-- A decimal in a layout. -/
def Layout.write (layout : Layout) (d : Decimal) : String :=
  let n : Int := d.digits.length
  if layout.lowest < d.point ∧ d.point ≤ layout.highest then
    if d.point ≤ 0 then
      "0." ++ String.ofList (List.replicate (-d.point).toNat '0' ++ d.digits)
    else if n ≤ d.point then
      String.ofList (d.digits ++ List.replicate (d.point - n).toNat '0') ++
        (if layout.wholeMark then ".0" else "")
    else
      String.ofList (d.digits.take d.point.toNat) ++ "." ++
        String.ofList (d.digits.drop d.point.toNat)
  else
    let exponent := "e" ++ exponentText (d.point - 1)
    match d.digits with
    | [] => "0"
    | [digit] => String.ofList [digit] ++ exponent
    | digit :: rest => String.ofList (digit :: '.' :: rest) ++ exponent

end Decimal

end ProbeCatalog
