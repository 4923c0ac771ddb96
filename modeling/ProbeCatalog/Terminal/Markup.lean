import ProbeCatalog.Terminal.Emoji
import ProbeCatalog.Terminal.Glyph
import ProbeCatalog.Terminal.Style

/-!
# Markup

In the cells of a table, words in square brackets are tags that set the style of what
follows until they are closed. Tags that name no style have no effect. A backslash before
a tag makes it text.
-/
namespace ProbeCatalog.Markup

/-- A closing tag has no opening one. -/
inductive Fault where
  | unopened
  deriving DecidableEq

/-- A piece of marked-up text. -/
inductive Piece where
  | text (cs : List Char)
  | tag (name : List Char)

/-- The first character of a tag may be this one. -/
def mayBegin (c : Char) : Bool := ('a' ≤ c && c ≤ 'z') || c = '#' || c = '/' || c = '@'

/-- Cuts at the closing bracket, unless another bracket opens before it. -/
def closing? : List Char → Option (List Char × List Char)
  | [] => none
  | c :: cs =>
    if c = ']' then some ([], cs)
    else if c = '[' then none
    else (closing? cs).map fun (inner, rest) => (c :: inner, rest)

/-- The tag that an opening bracket begins, and what follows it. -/
def tag? : List Char → Option (List Char × List Char)
  | [] => none
  | c :: cs =>
    if mayBegin c then (closing? cs).map fun (inner, rest) => (c :: inner, rest) else none

/-- Puts text in front of pieces. -/
def consText (cs : List Char) (pieces : List Piece) : List Piece :=
  if cs.isEmpty then pieces else .text cs :: pieces

/-- The pieces of a text. The text since the last tag is carried along, in reverse, and the
number of backslashes at its end. Fuel of the length of the text is enough. -/
def piecesFrom : Nat → List Char → Nat → List Char → List Piece
  | 0, read, _, _ => consText read.reverse []
  | _, read, _, [] => consText read.reverse []
  | fuel + 1, read, slashes, c :: cs =>
    if c = '\\' then piecesFrom fuel (c :: read) (slashes + 1) cs
    else if c = '[' then
      match tag? cs with
      | none => piecesFrom fuel (c :: read) 0 cs
      | some (name, rest) =>
        let before := consText (read.drop slashes).reverse
        let halved := consText (List.replicate (slashes / 2) '\\')
        if slashes % 2 = 1 then
          before (halved (.text ('[' :: (name ++ [']'])) :: piecesFrom fuel [] 0 rest))
        else before (halved (.tag name :: piecesFrom fuel [] 0 rest))
    else piecesFrom fuel (c :: read) 0 cs

/-- A text cut into tags and what stands between them. -/
def pieces (cs : List Char) : List Piece := piecesFrom cs.length [] 0 cs

/-- Opening brackets without the backslash before them. -/
def unescape : List Char → List Char
  | '\\' :: '[' :: cs => '[' :: unescape cs
  | c :: cs => c :: unescape cs
  | [] => []

/-- The name of a tag, which ends at an equals sign. -/
def nameOf (tag : List Char) : List Char := tag.takeWhile (· ≠ '=')

/-- Open tags, the last opened first, without the last of a name. -/
def close? (name : String) : List (String × String) → Option (List (String × String))
  | [] => none
  | t :: ts => if t.1 = name then some ts else (close? name ts).map (t :: ·)

/-- The glyphs of pieces, with open tags: the names that close them and the styles that
they set. -/
def glyphs (run : Nat) (opened : List (String × String)) : List Piece → Except Fault (List Glyph)
  | [] => .ok []
  | .text cs :: rest => do
    let shown := (Emoji.replace (unescape cs)).filter (!Glyph.isMuted ·)
    let later ← glyphs run opened rest
    pure (shown.map (⟨·, run, opened.reverse.map (·.2)⟩) ++ later)
  | .tag tag :: rest =>
    match nameOf tag with
    | '/' :: name =>
      let remaining :=
        if (trim name).isEmpty then opened.tail?
        else close? (Style.normalName (trim name)) opened
      match remaining with
      | none => .error .unopened
      | some opened => glyphs (run + 1) opened rest
    | name =>
      let normal := Style.normalName name
      let style :=
        if name = tag then normal
        else normal ++ " " ++ String.ofList (tag.drop (name.length + 1))
      glyphs (run + 1) ((normal, style) :: opened) rest

/-- The glyphs of a marked-up text. -/
def render (text : String) : Except Fault (List Glyph) := glyphs 0 [] (pieces text.toList)

/-- The style of names, each over those before it. -/
def styleOf (tags : List String) : Style :=
  tags.foldl (fun s tag => s.andThen ((Style.ofName? tag).getD .null)) .null

/-- The glyphs at the head that belong to one run, and the rest. -/
def splitRun (run : Nat) : List Glyph → List Char × List Glyph
  | [] => ([], [])
  | g :: gs =>
    if g.run = run then
      let (cs, rest) := splitRun run gs
      (g.char :: cs, rest)
    else ([], g :: gs)

/-- Glyphs as they are sent to a terminal. Fuel of their number is enough. -/
def writeFrom : Nat → List Glyph → String
  | 0, _ => ""
  | _, [] => ""
  | fuel + 1, g :: gs =>
    let (cs, rest) := splitRun g.run gs
    (styleOf g.tags).write (String.ofList (g.char :: cs)) ++ writeFrom fuel rest

/-- Glyphs as they are sent to a terminal. -/
def write (gs : List Glyph) : String := writeFrom gs.length gs

end ProbeCatalog.Markup
