import ProbeCatalog.Terminal.WidthTable
import ProbeCatalog.Text.Table

/-!
# Glyphs

A glyph is a character that is printed, with the tags that are open around it. Tabs are
printed as blanks up to the next multiple of eight cells.
-/
namespace ProbeCatalog

/-- A character with the tags around it. Glyphs with a tag between them belong to different
runs, which are written one by one. -/
structure Glyph where
  char : Char
  run : Nat
  tags : List String
  deriving DecidableEq

namespace Glyph

/-- A character outside of all tags. -/
def plain (c : Char) : Glyph := ⟨c, 0, []⟩

/-- Numbers of characters that take no cell. -/
def zeroWidth : List (Nat × Nat) := Table.ranges WidthTable.zeroWidth

/-- Numbers of characters that take two cells. -/
def doubleWidth : List (Nat × Nat) := Table.ranges WidthTable.doubleWidth

/-- The cells that a character takes. -/
def cells (g : Glyph) : Nat :=
  let n := g.char.toNat
  if 32 ≤ n ∧ n < 127 then 1
  else if Table.covers zeroWidth n then 0
  else if Table.covers doubleWidth n then 2
  else 1

/-- The cells that glyphs take together. -/
def width (gs : List Glyph) : Nat := gs.foldr (fun g total => g.cells + total) 0

/-- A control that is not sent to a terminal: bell, backspace, vertical tab, form feed or
carriage return. -/
def isMuted (c : Char) : Bool := [7, 8, 11, 12, 13].contains c.toNat

/-- Blanks in the place of tabs, on a line of which some cells are taken. -/
def expandTabs (taken : Nat) : List Glyph → List Glyph
  | [] => []
  | g :: gs =>
    if g.char = '\t' then
      let blanks := 8 - taken % 8
      List.replicate blanks { g with char := ' ' } ++ expandTabs (taken + blanks) gs
    else g :: expandTabs (taken + g.cells) gs

/-- The lines of glyphs, cut at line feeds. -/
def lines : List Glyph → List (List Glyph)
  | [] => [[]]
  | g :: gs =>
    if g.char = '\n' then [] :: lines gs
    else match lines gs with
      | [] => [[g]]
      | line :: rest => (g :: line) :: rest

end Glyph

end ProbeCatalog
