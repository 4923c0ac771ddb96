/-!
# Binary floating point of 64 bits

A literal such as `6.02e23` denotes the nearest number of the IEEE 754 double
format, a tie going to the even significand. Literals carry no sign, so only
magnitudes occur, and a literal beyond the largest finite number is infinite.
All arithmetic is exact.
-/
namespace ProbeCatalog

/-- A magnitude of the double format. -/
inductive Binary64 where
  /-- The number `significand * 2 ^ exponent`, with the exponent least in the
  format for a significand below `2 ^ 53`. -/
  | finite (significand : Nat) (exponent : Int)
  | infinite
  deriving DecidableEq

namespace Binary64

/-- The least exponent of the format. -/
def minExponent : Int := -1074

/-- The exponent of the largest finite numbers. -/
def maxExponent : Int := 971

/-- The quotient rounded to the nearest integer, a tie to the even one. -/
def roundDiv (num den : Nat) : Nat :=
  let quotient := num / den
  let twice := 2 * (num % den)
  if twice < den then quotient
  else if den < twice then quotient + 1
  else quotient + quotient % 2

/-- The exponent of the highest power of two that is at most `num / den`. -/
def floorLog2 (num den : Nat) : Int :=
  let e : Int := (Nat.log2 num : Int) - Nat.log2 den
  let reached :=
    if 0 ≤ e then den * Nat.pow 2 e.toNat ≤ num else den ≤ num * Nat.pow 2 (-e).toNat
  if reached then e else e - 1

/-- The magnitude nearest to `num / den`. -/
def ofRatio (num den : Nat) : Binary64 :=
  if num = 0 then .finite 0 minExponent
  else
    let q := max (floorLog2 num den - 52) minExponent
    let m :=
      if 0 ≤ q then roundDiv num (den * Nat.pow 2 q.toNat)
      else roundDiv (num * Nat.pow 2 (-q).toNat) den
    let (m, q) := if m = Nat.pow 2 53 then (Nat.pow 2 52, q + 1) else (m, q)
    if q ≤ maxExponent then .finite m q else .infinite

/-- The magnitude nearest to `digits * 10 ^ exponent`. Numbers far outside the
range of the format are settled without computing their power of ten. -/
def ofDecimal (digits : Nat) (exponent : Int) : Binary64 :=
  let size : Int := (Nat.toDigits 10 digits).length + exponent
  if digits = 0 ∨ size < -400 then .finite 0 minExponent
  else if 400 < size then .infinite
  else if 0 ≤ exponent then ofRatio (digits * Nat.pow 10 exponent.toNat) 1
  else ofRatio digits (Nat.pow 10 (-exponent).toNat)

end Binary64

end ProbeCatalog
