import ProbeCatalog.Json.Value
import ProbeCatalog.Text.Quoted

/-!
# Writing JSON

Values are written in ASCII, the fields of an object in the order of their keys. A
character above the sixteen-bit range is written as a surrogate pair. `compact` uses
one line; `pretty` breaks lines and indents.
-/
namespace ProbeCatalog.Json

/-- The escape of a sixteen-bit unit. -/
def unitEscape (n : Nat) : List Char := '\\' :: 'u' :: hexPadded 4 n

/-- A code point inside a string. -/
def writeCodePoint (p : CodePoint) : List Char :=
  match p with
  | .char '"' => ['\\', '"']
  | .char '\\' => ['\\', '\\']
  | .char '\n' => ['\\', 'n']
  | .char '\r' => ['\\', 'r']
  | .char '\t' => ['\\', 't']
  | .char '\x08' => ['\\', 'b']
  | .char '\x0c' => ['\\', 'f']
  | p =>
    let n := p.toNat
    if 32 ≤ n ∧ n < 127 then [Char.ofNat n]
    else if n < 0x10000 then unitEscape n
    else
      let offset := n - 0x10000
      unitEscape (0xD800 + offset / 0x400) ++ unitEscape (0xDC00 + offset % 0x400)

/-- A string between its quotes. -/
def writeString (t : Text) : String :=
  String.ofList ('"' :: (t.flatMap writeCodePoint ++ ['"']))

/-- The order of keys: by the numbers of their code points. -/
def keyLe : Text → Text → Bool
  | [], _ => true
  | _ :: _, [] => false
  | p :: ps, q :: qs => p.toNat < q.toNat || (p.toNat = q.toNat && keyLe ps qs)

/-- Fields in the order of their keys. -/
def sortFields (fields : List (Text × String)) : List (Text × String) :=
  fields.mergeSort fun a b => keyLe a.1 b.1

mutual

/-- A value on one line. -/
def compact : Json → String
  | .null => "null"
  | .bool b => if b then "true" else "false"
  | .integer n => toString n
  | .real spelling => String.ofList spelling
  | .string t => writeString t
  | .array items => "[" ++ ", ".intercalate (compactItems items) ++ "]"
  | .object fields =>
    let written := (sortFields (compactFields fields)).map fun (key, s) =>
      writeString key ++ ": " ++ s
    "\x7b" ++ ", ".intercalate written ++ "\x7d"

/-- Items, each on one line. -/
def compactItems : List Json → List String
  | [] => []
  | v :: vs => compact v :: compactItems vs

/-- Fields in their own order, each value on one line. -/
def compactFields : List (Text × Json) → List (Text × String)
  | [] => []
  | (key, v) :: fields => (key, compact v) :: compactFields fields

end

/-- A line break and the indentation of a depth. -/
def lineBreak (depth : Nat) : String := "\n" ++ String.ofList (List.replicate (2 * depth) ' ')

/-- Written items on lines of their own between brackets; no items, no lines. -/
def enclose (depth : Nat) (opening closing : String) (items : List String) : String :=
  if items.isEmpty then opening ++ closing
  else
    opening ++ lineBreak (depth + 1) ++ ("," ++ lineBreak (depth + 1)).intercalate items ++
      lineBreak depth ++ closing

mutual

/-- A value on lines of its own at a depth. -/
def prettyAt (depth : Nat) : Json → String
  | .null => "null"
  | .bool b => if b then "true" else "false"
  | .integer n => toString n
  | .real spelling => String.ofList spelling
  | .string t => writeString t
  | .array items => enclose depth "[" "]" (prettyItems (depth + 1) items)
  | .object fields =>
    let written := (sortFields (prettyFields (depth + 1) fields)).map fun (key, s) =>
      writeString key ++ ": " ++ s
    enclose depth "\x7b" "\x7d" written

/-- Items at a depth. -/
def prettyItems (depth : Nat) : List Json → List String
  | [] => []
  | v :: vs => prettyAt depth v :: prettyItems depth vs

/-- Fields in their own order, the values at a depth. -/
def prettyFields (depth : Nat) : List (Text × Json) → List (Text × String)
  | [] => []
  | (key, v) :: fields => (key, prettyAt depth v) :: prettyFields depth fields

end

/-- A value with line breaks, indented by two blanks for each depth. -/
def pretty (v : Json) : String := prettyAt 0 v

end ProbeCatalog.Json
