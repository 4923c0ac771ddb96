import ProbeCatalog.Text.Table
import ProbeCatalog.Text.UppercaseTable

/-!
# Upper case

The upper-case form of a text, character by character. A form may have several
characters: `ß` becomes `SS`.
-/
namespace ProbeCatalog

/-- Upper-case forms above ASCII, where they differ from the character. -/
def uppercaseForms : List (Nat × List Nat) := Table.entries UppercaseTable.uppercase

/-- The upper-case form of a character. -/
def upperChar (c : Char) : List Char :=
  if c.toNat < 128 then [c.toUpper]
  else match uppercaseForms.lookup c.toNat with
    | some form => form.map Char.ofNat
    | none => [c]

/-- The upper-case form of a text. -/
def upper (cs : List Char) : List Char := cs.flatMap upperChar

end ProbeCatalog
