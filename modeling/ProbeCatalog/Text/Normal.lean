import ProbeCatalog.Text.Table
import ProbeCatalog.Text.NormalTable

/-!
# Compatibility normal form

Two spellings of an identifier that differ only in compatibility (a ligature
and its letters, a full-width letter and the plain one) are one identifier.
`Normal.compose` gives the form they share: decompose fully, order the marks,
compose again. ASCII text is its own normal form and skips the tables.
-/
namespace ProbeCatalog.Normal

/-- Full compatibility decompositions by character. -/
def decompositions : List (Nat × List Nat) := Table.entries NormalTable.decompositions

/-- The combining classes other than zero, by range. -/
def classRanges : List ((Nat × Nat) × Nat) :=
  (Table.words NormalTable.combiningClasses).map fun word =>
    match Table.cut '=' word with
    | [key, value] => (Table.range key, Table.hex value)
    | _ => ((1, 0), 0)

/-- The primary composites: a pair of characters and the character it composes to. -/
def composites : List ((Nat × Nat) × Nat) :=
  (Table.entries NormalTable.composites).map fun (whole, parts) =>
    match parts with
    | [a, b] => ((a, b), whole)
    | _ => ((0, 0), 0)

/-- The combining class of a character. -/
def combiningClass (n : Nat) : Nat :=
  match classRanges.find? fun ((low, high), _) => low ≤ n && n ≤ high with
  | some (_, k) => k
  | none => 0

/-- A Hangul syllable as its conjoining letters. -/
def hangulParts (n : Nat) : List Nat :=
  let i := n - 0xAC00
  let lead := 0x1100 + i / 588
  let vowel := 0x1161 + (i % 588) / 28
  if i % 28 = 0 then [lead, vowel] else [lead, vowel, 0x11A7 + i % 28]

/-- The full compatibility decomposition of one character. -/
def decomposeOne (n : Nat) : List Nat :=
  if n < 128 then [n]
  else if 0xAC00 ≤ n ∧ n ≤ 0xD7A3 then hangulParts n
  else match decompositions.lookup n with
    | some parts => parts
    | none => [n]

/-- Puts a mark before the marks of higher class that precede it. The list is
reversed: its head is the last character so far. -/
def insertMark (k n : Nat) : List (Nat × Nat) → List (Nat × Nat)
  | [] => [(k, n)]
  | (j, m) :: rest => if k < j then (j, m) :: insertMark k n rest else (k, n) :: (j, m) :: rest

/-- Characters with their classes, the marks after each starter in order of class. -/
def ordered (ns : List Nat) : List (Nat × Nat) :=
  (ns.foldl (fun done n =>
    let k := combiningClass n
    if k = 0 then (k, n) :: done else insertMark k n done) []).reverse

/-- The character that two characters compose to. -/
def compositeOf? (a b : Nat) : Option Nat :=
  if 0x1100 ≤ a ∧ a ≤ 0x1112 ∧ 0x1161 ≤ b ∧ b ≤ 0x1175 then
    some (0xAC00 + ((a - 0x1100) * 21 + (b - 0x1161)) * 28)
  else if 0xAC00 ≤ a ∧ a ≤ 0xD7A3 ∧ (a - 0xAC00) % 28 = 0 ∧ 0x11A8 ≤ b ∧ b ≤ 0x11C2 then
    some (a + (b - 0x11A7))
  else
    composites.lookup (a, b)

/-- Composes each character with the last starter unless something between the
two blocks it. `marks` holds what stands after the starter, in reverse. -/
def composeFrom (starter : Nat) (marks : List (Nat × Nat)) : List (Nat × Nat) → List Nat
  | [] => starter :: (marks.reverse.map (·.2))
  | (k, n) :: rest =>
    let blocked := match marks with
      | [] => false
      | (j, _) :: _ => j = 0 || j ≥ k
    let composite := if blocked then none else compositeOf? starter n
    match composite with
    | some c => composeFrom c marks rest
    | none =>
      if k = 0 then
        starter :: (marks.reverse.map (·.2)) ++ composeFrom n [] rest
      else
        composeFrom starter ((k, n) :: marks) rest

/-- Composition of a list of characters with their classes. -/
def composeAll : List (Nat × Nat) → List Nat
  | [] => []
  | (k, n) :: rest => if k = 0 then composeFrom n [] rest else n :: composeAll rest

/-- The compatibility composition of a text. -/
def compose (cs : List Char) : List Char :=
  if cs.all (·.toNat < 128) then cs
  else
    (composeAll (ordered (cs.flatMap fun c => decomposeOne c.toNat))).map Char.ofNat

end ProbeCatalog.Normal
