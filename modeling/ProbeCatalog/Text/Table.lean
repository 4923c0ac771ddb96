/-!
# Tables of code points

The larger character tables are written as hexadecimal words in a string. This
module reads them: `RangeTable` for a property of characters, `MapTable` for a
function from characters to character sequences.
-/
namespace ProbeCatalog.Table

/-- Cuts a list at every occurrence of a separator; the pieces may be empty. -/
def cut (sep : Char) : List Char → List (List Char)
  | [] => [[]]
  | c :: cs =>
    if c = sep then [] :: cut sep cs
    else match cut sep cs with
      | [] => [[c]]
      | piece :: pieces => (c :: piece) :: pieces

/-- The words of a table: what stands between its blanks and line breaks. -/
def words (s : String) : List (List Char) :=
  ((cut '\n' s.toList).flatMap (cut ' ')).filter (!·.isEmpty)

/-- The value of a hexadecimal digit; other characters count as zero. -/
def hexDigit (c : Char) : Nat :=
  if c.isDigit then c.toNat - '0'.toNat
  else if 'a' ≤ c ∧ c ≤ 'f' then c.toNat - 'a'.toNat + 10
  else if 'A' ≤ c ∧ c ≤ 'F' then c.toNat - 'A'.toNat + 10
  else 0

/-- A hexadecimal digit. -/
def isHexDigit (c : Char) : Bool :=
  c.isDigit || ('a' ≤ c && c ≤ 'f') || ('A' ≤ c && c ≤ 'F')

/-- The number written by hexadecimal digits. -/
def hex (cs : List Char) : Nat := cs.foldl (fun n c => 16 * n + hexDigit c) 0

/-- Reads `3a-3f` as a pair of bounds and `3a` as the one-element range. -/
def range (word : List Char) : Nat × Nat :=
  match cut '-' word with
  | [low, high] => (hex low, hex high)
  | _ => (hex word, hex word)

/-- Reads a table of ranges. -/
def ranges (s : String) : List (Nat × Nat) := (words s).map range

/-- Some range of the table holds the number. -/
def covers (table : List (Nat × Nat)) (n : Nat) : Bool :=
  table.any fun (low, high) => low ≤ n && n ≤ high

/-- Reads `3a=61,62` as an entry that sends `3a` to the sequence `61 62`. -/
def entry (word : List Char) : Nat × List Nat :=
  match cut '=' word with
  | [key, value] => (hex key, (cut ',' value).map hex)
  | _ => (hex word, [])

/-- Reads a table of entries. -/
def entries (s : String) : List (Nat × List Nat) := (words s).map entry

end ProbeCatalog.Table
