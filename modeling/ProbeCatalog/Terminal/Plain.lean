import ProbeCatalog.Terminal.Emoji
import ProbeCatalog.Terminal.Glyph

/-!
# Plain printing

Text that is printed as it is, but for emoji codes and tabs. Lines are not broken.
-/
namespace ProbeCatalog.Terminal

/-- What printing a text sends to a terminal. -/
def plain (text : String) : String :=
  let shown := (Emoji.replace text.toList).filter (!Glyph.isMuted ·)
  let printed := (Glyph.lines (shown.map Glyph.plain)).map fun line =>
    String.ofList ((Glyph.expandTabs 0 line).map (·.char))
  "\n".intercalate printed ++ "\n"

end ProbeCatalog.Terminal
