import ProbeCatalog.Text.CharacterNameTable
import ProbeCatalog.Text.Table

/-!
# Names of characters

The character of a name. The names of ideographs hold their numbers, and the names of
syllables the sounds they are composed of; all others are listed. Listed names may be
written in small letters.
-/
namespace ProbeCatalog.CharacterName

/-! ### Listed names -/

/-- An entry of the table: the words shared with the entry before, the other words, and the
number. -/
def entry (word : List Char) : Nat × List (List Char) × Nat :=
  match Table.cut '=' word with
  | [shared :: name, value] => (Table.hexDigit shared, Table.cut '_' name, Table.hex value)
  | _ => (0, [], 0)

/-- The number of a name among entries. The words of the entry before are carried along. -/
def search (name : List (List Char)) :
    List (List Char) → List (Nat × List (List Char) × Nat) → Option Nat
  | _, [] => none
  | before, (shared, own, value) :: rest =>
    let words := before.take shared ++ own
    if words = name then some value else search name words rest

/-- The number of a listed name. -/
def listed? (name : List Char) : Option Nat :=
  match name with
  | [] => none
  | first :: _ =>
    search (Table.cut ' ' name) []
      ((Table.words (CharacterNameTable.namesWith first)).map entry)

/-! ### Names by rule -/

/-- What follows the head of a list, if that is as given. -/
def after? (head cs : List Char) : Option (List Char) :=
  if head.isPrefixOf cs then some (cs.drop head.length) else none

/-- The numbers of ideographs. -/
def ideographs : List (Nat × Nat) :=
  Table.ranges "3400-4dbf 4e00-9fff 20000-2a6df 2a700-2b738 2b740-2b81d 2b820-2cea1 2ceb0-2ebe0
30000-3134a"

/-- A hexadecimal digit without small letters. -/
def isCapitalDigit (c : Char) : Bool := c.isDigit || ('A' ≤ c && c ≤ 'F')

/-- The ideograph of a number. -/
def ideograph? (digits : List Char) : Option Nat :=
  if (digits.length = 4 ∨ digits.length = 5) ∧ digits.all isCapitalDigit ∧
      Table.covers ideographs (Table.hex digits) then
    some (Table.hex digits)
  else none

/-- The sounds that a syllable begins with. -/
def leads : List String :=
  ["G", "GG", "N", "D", "DD", "R", "M", "B", "BB", "S", "SS", "", "J", "JJ", "C", "K", "T", "P",
    "H"]

/-- The vowels of syllables. -/
def vowels : List String :=
  ["A", "AE", "YA", "YAE", "EO", "E", "YEO", "YE", "O", "WA", "WAE", "OE", "YO", "U", "WEO", "WE",
    "WI", "YU", "EU", "YI", "I"]

/-- The sounds that a syllable ends with. -/
def tails : List String :=
  ["", "G", "GG", "GS", "N", "NJ", "NH", "D", "L", "LG", "LM", "LB", "LS", "LT", "LP", "LH", "M",
    "B", "BS", "S", "SS", "NG", "J", "C", "K", "T", "P", "H"]

/-- The longer of two sounds that a text may begin with. -/
def longer (best : Option (Nat × Nat)) (index size : Nat) : Option (Nat × Nat) :=
  match best with
  | none => some (index, size)
  | some (_, s) => if s < size then some (index, size) else best

/-- The longest sound that a text begins with: its place in the list and its length. -/
def soundFrom (cs : List Char) (index : Nat) (best : Option (Nat × Nat)) :
    List String → Option (Nat × Nat)
  | [] => best
  | sound :: rest =>
    if sound.toList.isPrefixOf cs then
      soundFrom cs (index + 1) (longer best index sound.length) rest
    else soundFrom cs (index + 1) best rest

/-- The longest sound that a text begins with, and what follows it. -/
def sound? (sounds : List String) (cs : List Char) : Option (Nat × List Char) :=
  (soundFrom cs 0 none sounds).map fun (index, size) => (index, cs.drop size)

/-- The syllable of its sounds. -/
def syllable? (cs : List Char) : Option Nat := do
  let (lead, cs) ← sound? leads cs
  let (vowel, cs) ← sound? vowels cs
  let (tail, cs) ← sound? tails cs
  if cs.isEmpty then some (0xAC00 + (lead * 21 + vowel) * 28 + tail) else none

/-- The number of the character with a given name. -/
def lookup? (name : List Char) : Option Nat :=
  match after? "CJK UNIFIED IDEOGRAPH-".toList name with
  | some digits => ideograph? digits
  | none =>
    match (after? "HANGUL SYLLABLE ".toList name).bind syllable? with
    | some n => some n
    | none => listed? (name.map Char.toUpper)

end ProbeCatalog.CharacterName
