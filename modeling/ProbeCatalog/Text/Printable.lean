import ProbeCatalog.Text.CodePoint
import ProbeCatalog.Text.Table
import ProbeCatalog.Text.PrintableTable

/-!
# Printable characters

The characters that a quoted text shows as they are. Blanks other than the
plain one, controls, unassigned characters and lone halves are shown by escapes.
-/
namespace ProbeCatalog

/-- The ranges of printable characters above ASCII. -/
def printableRanges : List (Nat × Nat) := Table.ranges PrintableTable.printable

/-- The character is shown as it is. -/
def isPrintable (c : Char) : Bool :=
  if c.toNat < 128 then 32 ≤ c.toNat && c.toNat < 127
  else Table.covers printableRanges c.toNat

/-- The code point is shown as it is; a lone half never is. -/
def CodePoint.isPrintable : CodePoint → Bool
  | .char c => ProbeCatalog.isPrintable c
  | .half _ => false

end ProbeCatalog
