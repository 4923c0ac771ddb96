import ProbeCatalog.Ignore.Glob
import ProbeCatalog.Text.Quoted
import ProbeCatalog.Text.Lines
import ProbeCatalog.Text.Table

/-!
# Rules of ignore files

A line of an ignore file gives a rule: what it matches is left out, or brought back if
the line is negated. Blank lines and comments give none, and neither does a pattern with
brackets that are not closed.
-/
namespace ProbeCatalog

/-- Why a line that is to give a rule gives none. -/
inductive PatternFault where
  /-- The line makes no pattern. -/
  | invalid (line : List Char)
  /-- The brackets hold a range that runs downwards. -/
  | downwardRange
  deriving DecidableEq

/-- A rule of an ignore file. -/
structure IgnoreRule where
  leavesOut : Bool
  glob : Glob
  deriving DecidableEq

namespace IgnoreRule

open Glob

/-! ### Brackets -/

/-- The ranges of what stands between brackets. A hyphen at the end is itself. -/
def ranges : List Char → List (Char × Char)
  | low :: '-' :: high :: rest => (low, high) :: ranges rest
  | c :: rest => (c, c) :: ranges rest
  | [] => []

/-- Cuts at the first closing bracket: what stands before it and after it. -/
def closing? : List Char → Option (List Char × List Char)
  | [] => none
  | ']' :: rest => some ([], rest)
  | c :: rest => (closing? rest).map fun (inner, rest) => (c :: inner, rest)

/-- The negation at the head of brackets, and the rest. -/
def negation : List Char → Bool × List Char
  | '!' :: rest => (true, rest)
  | '^' :: rest => (true, rest)
  | cs => (false, cs)

/-- The set that an opening bracket begins, and what follows the closing one. A closing
bracket at the head stands for itself. -/
def brackets? (cs : List Char) : Option (CharSet × List Char) :=
  let (negated, cs) := negation cs
  match cs with
  | ']' :: rest =>
    (closing? rest).map fun (inner, rest) => (⟨negated, ranges (']' :: inner)⟩, rest)
  | cs => (closing? cs).map fun (inner, rest) => (⟨negated, ranges inner⟩, rest)

/-! ### Segments -/

/-- What keeps a segment from being read. -/
inductive SegmentFault where
  | openBracket
  | lastBackslash
  deriving DecidableEq

/-- The pieces of a segment. Fuel of the segment's length is enough. -/
def segmentPieces : Nat → List Char → Except SegmentFault (List Piece)
  | 0, _ => .ok []
  | _, [] => .ok []
  | _, ['\\'] => .error .lastBackslash
  | fuel + 1, '\\' :: c :: rest => (segmentPieces fuel rest).map (.literal c :: ·)
  | fuel + 1, '*' :: rest => (segmentPieces fuel rest).map (.many :: ·)
  | fuel + 1, '?' :: rest => (segmentPieces fuel rest).map (.one :: ·)
  | fuel + 1, '[' :: rest =>
    match brackets? rest with
    | none => .error .openBracket
    | some (s, rest) => (segmentPieces fuel rest).map (.oneOf s :: ·)
  | fuel + 1, c :: rest => (segmentPieces fuel rest).map (.literal c :: ·)

/-- A segment that stands for any directories. -/
def deep : List Char := ['*', '*']

/-- The pieces of a segment, which is not a deep one. -/
def pieces (segment : List Char) : Except SegmentFault (List Piece) :=
  if segment = ['*'] then .ok [.name] else segmentPieces segment.length segment

/-- The slash before a segment, if it is still owed. -/
def owed (slash : Bool) : List Piece := if slash then [.literal '/'] else []

/-- The pattern of segments, with or without a slash before them. -/
def assemble (ofDirectory : Bool) :
    Bool → List (List Char) → Except SegmentFault (List Piece × Ending)
  | _, [] => .ok ([], .edge)
  | slash, [segment] =>
    if segment = deep then
      .ok (if ofDirectory then ([], .inside) else ([.literal '/'], .free))
    else do
      let own ← pieces segment
      pure (owed slash ++ own, .edge)
  | slash, segment :: rest =>
    if segment = deep then do
      let (later, ending) ← assemble ofDirectory false rest
      pure (.literal '/' :: .ancestors :: later, ending)
    else do
      let own ← pieces segment
      let (later, ending) ← assemble ofDirectory true rest
      pure (owed slash ++ own ++ later, ending)

/-- The pattern of the segments of a whole line. -/
def globOf (ofDirectory : Bool) (segments : List (List Char)) : Except SegmentFault Glob :=
  if segments = [deep] then
    .ok (if ofDirectory then ⟨[.name], .inside⟩ else ⟨[.anything], .free⟩)
  else if segments = [deep, ['*']] then .ok ⟨[.anything], .free⟩
  else match segments with
    | first :: rest =>
      if first = deep then do
        let (later, ending) ← assemble ofDirectory false rest
        pure ⟨.ancestors :: later, ending⟩
      else do
        let (all, ending) ← assemble ofDirectory false segments
        pure ⟨all, ending⟩
    | [] => .ok ⟨[], .edge⟩

/-! ### Lines -/

/-- The segments of a line, beginning at the root of the project. A single segment may
be at any depth. -/
def anchored : List (List Char) → List (List Char)
  | [] :: rest => rest
  | [segment] => if segment = deep then [segment] else [deep, segment]
  | [segment, []] => if segment = deep then [segment, []] else [deep, segment, []]
  | segments => segments

/-- An empty last segment, after a slash at the end, stands for all in a directory. -/
def opened : List (List Char) → List (List Char)
  | [] => []
  | [[]] => [deep]
  | segment :: rest => segment :: opened rest

/-- One deep segment for several in a row. -/
def collapsed : List (List Char) → List (List Char)
  | [] => []
  | segment :: rest =>
    if segment = deep ∧ rest.head? = some deep then collapsed rest
    else segment :: collapsed rest

/-- A line without the blanks at its end. A blank after a backslash is kept. -/
def stripped (line : List Char) : List Char :=
  match line.reverse with
  | ' ' :: '\\' :: _ => line
  | _ => trimEnd line

/-- The sets in a pattern. -/
def sets (g : Glob) : List CharSet :=
  g.pieces.filterMap fun p => match p with
    | .oneOf s => some s
    | _ => none

/-- The rule of a pattern without its negation. -/
def ofPattern (line : List Char) (leavesOut : Bool) (pattern : List Char) :
    Except PatternFault (Option IgnoreRule) :=
  let segments := Table.cut '/' pattern
  let ofDirectory := segments.getLast? = some []
  match collapsed (opened (anchored segments)) with
  | [] => .error (.invalid line)
  | all =>
    match globOf ofDirectory all with
    | .error .openBracket => .ok none
    | .error .lastBackslash => .error (.invalid line)
    | .ok g =>
      if (sets g).all CharSet.isOrdered then .ok (some ⟨leavesOut, g⟩)
      else .error .downwardRange

/-- The rule of a line, if it has one. -/
def ofLine (line : List Char) : Except PatternFault (Option IgnoreRule) :=
  match stripped line with
  | [] => .ok none
  | '#' :: _ => .ok none
  | ['/'] => .ok none
  | '!' :: pattern => ofPattern line false pattern
  | pattern => ofPattern line true pattern

/-- The rules of lines. -/
def ofLines : List (List Char) → Except PatternFault (List IgnoreRule)
  | [] => .ok []
  | line :: lines => do
    let rule ← ofLine line
    let rules ← ofLines lines
    pure (rule.toList ++ rules)

/-- The rule matches a path and reaches as far. -/
def reaches (reach : Reach) (path : List Char) (r : IgnoreRule) : Bool :=
  r.glob.match? path = some reach

/-- What the rules make of a path: left out, brought back, or nothing. The last rule that
matches the path itself counts, and where there is none, the last that matches a
directory around it. -/
def verdict (rules : List IgnoreRule) (path : List Char) : Option Bool :=
  let latest := rules.reverse
  ((latest.find? (reaches .path path)).or (latest.find? (reaches .directory path))).map
    (·.leavesOut)

end IgnoreRule

/-- The wording of the fault of a line that makes no pattern. -/
def PatternFault.invalidMessage (line : List Char) : String :=
  "Invalid git pattern: " ++ String.ofList (quoted (Text.ofChars line))

end ProbeCatalog
