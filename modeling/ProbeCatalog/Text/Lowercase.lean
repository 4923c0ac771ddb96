import ProbeCatalog.Text.Table
import ProbeCatalog.Text.LowercaseTable

/-!
# Lower case

The lower-case form of a text, character by character. A form may have several
characters (`İ` becomes `i` and a dot above) and may be ASCII although the
character is not (the Kelvin sign becomes `k`). Of the two small sigmas the
medial one is written everywhere.
-/
namespace ProbeCatalog

/-- Lower-case forms above ASCII, where they differ from the character. -/
def lowercaseForms : List (Nat × List Nat) := Table.entries LowercaseTable.lowercase

/-- The lower-case form of a character. -/
def lowerChar (c : Char) : List Char :=
  if c.toNat < 128 then [c.toLower]
  else match lowercaseForms.lookup c.toNat with
    | some form => form.map Char.ofNat
    | none => [c]

/-- The lower-case form of a text. -/
def lower (cs : List Char) : List Char := cs.flatMap lowerChar

end ProbeCatalog
