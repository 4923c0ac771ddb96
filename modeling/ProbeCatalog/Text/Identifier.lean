import ProbeCatalog.Text.Table
import ProbeCatalog.Text.IdentifierTable

/-!
# Identifiers

Which characters start an identifier and which may follow. ASCII is decided
directly; the tables are consulted for the rest.
-/
namespace ProbeCatalog.Identifier

/-- The ranges of starting characters above ASCII. -/
def startRanges : List (Nat × Nat) := Table.ranges IdentifierTable.start

/-- The ranges of following characters above ASCII. -/
def followingRanges : List (Nat × Nat) := Table.ranges IdentifierTable.following

/-- An ASCII letter. -/
def isAsciiLetter (c : Char) : Bool := c.isUpper || c.isLower

/-- A character that may start an identifier. -/
def isStart (c : Char) : Bool :=
  isAsciiLetter c || c = '_' || (128 ≤ c.toNat && Table.covers startRanges c.toNat)

/-- A character that may stand in an identifier after its start. -/
def isFollowing (c : Char) : Bool :=
  isAsciiLetter c || c.isDigit || c = '_' ||
    (128 ≤ c.toNat && Table.covers followingRanges c.toNat)

/-- The text is an identifier. -/
def isIdentifier : List Char → Bool
  | [] => false
  | c :: cs => isStart c && cs.all isFollowing

/-- The text is an identifier of ASCII characters alone. -/
def isAsciiIdentifier : List Char → Bool
  | [] => false
  | c :: cs => (isAsciiLetter c || c = '_') &&
      cs.all fun d => isAsciiLetter d || d.isDigit || d = '_'

end ProbeCatalog.Identifier
