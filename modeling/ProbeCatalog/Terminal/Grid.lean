import ProbeCatalog.Terminal.Markup
import ProbeCatalog.Terminal.Wrap

/-!
# Grids

A table with borders, a header and lines between its rows. The cells of a column take a
number of terminal cells, and a blank on either side. Their texts are marked up.
-/
namespace ProbeCatalog.Grid

/-- A column. -/
structure Column where
  title : String
  width : Nat
  /-- Texts stand at the right end of the cell. -/
  toRight : Bool

/-- The characters of a border. -/
structure Border where
  left : String
  line : String
  crossing : String
  right : String

/-- The border above the header. -/
def top : Border := ⟨"┏", "━", "┳", "┓"⟩

/-- The border below the header. -/
def belowHeader : Border := ⟨"┡", "━", "╇", "┩"⟩

/-- The border between rows. -/
def betweenRows : Border := ⟨"├", "─", "┼", "┤"⟩

/-- The border below the last row. -/
def bottom : Border := ⟨"└", "─", "┴", "┘"⟩

/-- A text some times over. -/
def times (n : Nat) (s : String) : String := String.join (List.replicate n s)

/-- A border as it is printed. -/
def Border.write (b : Border) (columns : List Column) : String :=
  b.left ++ b.crossing.intercalate (columns.map fun c => times (c.width + 2) b.line) ++
    b.right ++ "\n"

/-- A line of text in a cell, filled up with blanks. -/
def fill (c : Column) (line : List Glyph) : String :=
  if c.toRight then
    let kept := Wrap.withoutGap line
    times (c.width - Glyph.width kept) " " ++ Markup.write kept
  else Markup.write line ++ times (c.width - Glyph.width line) " "

/-- The style of the header. -/
def headerStyle : Style := Style.null.setAttribute .bold true

/-- The cell of a column's title. -/
def title (c : Column) : String :=
  headerStyle.write " " ++ headerStyle.write (fill c (c.title.toList.map Glyph.plain)) ++
    headerStyle.write " "

/-- The header. -/
def header (columns : List Column) : String :=
  top.write columns ++ "┃" ++ "┃".intercalate (columns.map title) ++ "┃\n" ++
    belowHeader.write columns

/-- The lines of a cell. -/
def cellLines (c : Column) (text : String) : Except Markup.Fault (List (List Glyph)) :=
  (Markup.render text).map (Wrap.wrap c.width)

/-- A line of a row: a line of each cell, or blanks where a cell has no more. -/
def rowLine (cells : List (Column × List (List Glyph))) (i : Nat) : String :=
  "│ " ++ " │ ".intercalate (cells.map fun (c, lines) => fill c (lines.getD i [])) ++ " │\n"

/-- A row. -/
def row (columns : List Column) (texts : List String) : Except Markup.Fault String := do
  let cells ← (columns.zip texts).mapM fun (c, text) => (cellLines c text).map (c, ·)
  let height := (cells.map (·.2.length)).foldl max 1
  pure (String.join ((List.range height).map (rowLine cells)))

/-- A grid of rows. -/
def write (columns : List Column) (rows : List (List String)) : Except Markup.Fault String := do
  let written ← rows.mapM (row columns)
  pure (header columns ++ (betweenRows.write columns).intercalate written ++
    bottom.write columns)

end ProbeCatalog.Grid
