import ProbeCatalog.Terminal.Glyph
import ProbeCatalog.Text.Lines

/-!
# Breaking lines

A line is broken between words so that each part fits into a number of cells. A word that
is too long for any line begins a line of its own and is cut where the line is full.
Blanks stay with the word before them.
-/
namespace ProbeCatalog.Wrap

/-- The glyph is a blank. -/
def isGap (g : Glyph) : Bool := isBlank g.char

/-- Glyphs without the blanks at their end. -/
def withoutGap (gs : List Glyph) : List Glyph := (gs.reverse.dropWhile isGap).reverse

/-- Cuts a line into words, each with the blanks after it; the first has also the blanks
before it. Fuel of the length of the line is enough. -/
def words : Nat → List Glyph → List (List Glyph)
  | 0, _ => []
  | _, [] => []
  | fuel + 1, gs =>
    let (lead, rest) := gs.span isGap
    let (letters, rest) := rest.span (!isGap ·)
    let (gap, rest) := rest.span isGap
    (lead ++ letters ++ gap) :: words fuel rest

/-- Cuts glyphs where a line of some cells is full. The line so far is carried along, in
reverse, with its width. -/
def chop (limit : Nat) (line : List Glyph) (taken : Nat) : List Glyph → List (List Glyph)
  | [] => [line.reverse]
  | g :: gs =>
    if limit < taken + g.cells then line.reverse :: chop limit [g] g.cells gs
    else chop limit (g :: line) (taken + g.cells) gs

/-- Puts words on lines. The line so far is carried along, with the cells that count
against the next word. -/
def fill (limit : Nat) (line : List Glyph) (taken : Nat) : List (List Glyph) → List (List Glyph)
  | [] => [line]
  | word :: rest =>
    let size := Glyph.width (withoutGap word)
    if taken + size ≤ limit then
      fill limit (line ++ word) (taken + Glyph.width word) rest
    else if limit < size then
      let parts := chop limit [] 0 word
      let last := parts.getLastD []
      (if line.isEmpty then [] else [line]) ++ parts.dropLast ++
        fill limit last (Glyph.width last) rest
    else line :: fill limit word (Glyph.width word) rest

/-- Drops blanks at the end of a line that do not fit. -/
def trimTo (limit : Nat) (line : List Glyph) : List Glyph :=
  let kept := withoutGap line
  let gaps := line.drop kept.length
  let excess := Glyph.width line - limit
  kept ++ gaps.take (gaps.length - excess)

/-- The parts of a line. -/
def breakLine (limit : Nat) (line : List Glyph) : List (List Glyph) :=
  (fill limit [] 0 (words line.length line)).map (trimTo limit)

/-- The lines of glyphs, each broken to fit. -/
def wrap (limit : Nat) (gs : List Glyph) : List (List Glyph) :=
  (Glyph.lines gs).flatMap fun line => breakLine limit (Glyph.expandTabs 0 line)

end ProbeCatalog.Wrap
