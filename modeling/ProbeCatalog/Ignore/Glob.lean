/-!
# Glob patterns

A pattern of an ignore file, taken apart into pieces that match one after another, and
an ending. A match takes the first way there is, each piece as much of the path as it
can; the ending tells whether that way ends at the path itself or at a directory that
the path is inside.
-/
namespace ProbeCatalog

/-- The characters listed between brackets, single ones and ranges, or all the others. -/
structure CharSet where
  negated : Bool
  ranges : List (Char × Char)
  deriving DecidableEq

namespace CharSet

/-- The set holds a character. -/
def holds (s : CharSet) (c : Char) : Bool :=
  s.ranges.any (fun (low, high) => low ≤ c && c ≤ high) != s.negated

/-- Every range of the set runs upwards. -/
def isOrdered (s : CharSet) : Bool := s.ranges.all fun (low, high) => low ≤ high

end CharSet

/-- What a match ends at: the path itself, or a directory that the path is inside. -/
inductive Reach where
  | path
  | directory
  deriving DecidableEq

namespace Glob

/-- A piece of a pattern. -/
inductive Piece where
  | literal (c : Char)
  /-- One character other than a slash. -/
  | one
  | oneOf (s : CharSet)
  /-- Any characters other than slashes, or none. -/
  | many
  /-- Some characters other than slashes. -/
  | name
  /-- Directories and the slash after them, or nothing. -/
  | ancestors
  /-- Any characters, and then one other than a line break. -/
  | anything
  deriving DecidableEq

/-- What a pattern asks for after its pieces. -/
inductive Ending where
  /-- Nothing more. -/
  | free
  /-- A slash, so that what is matched is a directory. -/
  | inside
  /-- A slash, or the end of the path. -/
  | edge
  deriving DecidableEq

/-- What is left after any number of characters of a kind, the least first. -/
def after (kind : Char → Bool) : List Char → List (List Char)
  | [] => [[]]
  | c :: cs => if kind c then after kind cs ++ [c :: cs] else [c :: cs]

/-- What is left after one character of a kind. -/
def afterOne (kind : Char → Bool) : List Char → List (List Char)
  | [] => []
  | c :: cs => if kind c then [cs] else []

/-- What is left after a slash, for all slashes on the first line, the last first. -/
def afterSlashes : List Char → List (List Char)
  | [] => []
  | c :: cs =>
    if c = '\n' then [] else afterSlashes cs ++ (if c = '/' then [cs] else [])

/-- Any character but a slash. -/
def isNoSlash (c : Char) : Bool := c ≠ '/'

/-- Any character but a line break. -/
def isNoBreak (c : Char) : Bool := c ≠ '\n'

/-- What a piece may leave of a path, in order of preference. -/
def Piece.rests : Piece → List Char → List (List Char)
  | .literal c, path => afterOne (· = c) path
  | .one, path => afterOne isNoSlash path
  | .oneOf s, path => afterOne s.holds path
  | .many, path => after isNoSlash path
  | .name, path => (afterOne isNoSlash path).flatMap (after isNoSlash)
  | .ancestors, path => (afterOne isNoBreak path).flatMap afterSlashes ++ [path]
  | .anything, path => afterOne isNoBreak (path.dropWhile (!isNoBreak ·))

/-- Nothing is left, or only a last line break. -/
def isEnd (path : List Char) : Bool := path.isEmpty || path = ['\n']

/-- What an ending takes the match to reach, if it is as asked for. -/
def Ending.reach? : Ending → List Char → Option Reach
  | .free, _ => some .path
  | .inside, '/' :: _ => some .directory
  | .inside, _ => none
  | .edge, '/' :: _ => some .directory
  | .edge, path => if isEnd path then some .path else none

/-- What pieces and an ending reach, if they match a path from its beginning. -/
def reach? (ending : Ending) : List Piece → List Char → Option Reach
  | [], path => ending.reach? path
  | p :: ps, path => (p.rests path).findSome? (reach? ending ps)

end Glob

/-- A pattern of an ignore file. -/
structure Glob where
  pieces : List Glob.Piece
  ending : Glob.Ending
  deriving DecidableEq

/-- What a pattern reaches of a path, if it matches. -/
def Glob.match? (g : Glob) (path : List Char) : Option Reach := Glob.reach? g.ending g.pieces path

end ProbeCatalog
