import ProbeCatalog.Cache.Row
import ProbeCatalog.Provider.Record

/-!
# The table of the cache

Rows are kept by the unique names of providers, one for each. What is to be stored is
first made into rows; if that fails for one of them, nothing is stored at all.
-/
namespace ProbeCatalog.Cache

/-- A provider to be stored. The place where it was found may be incomplete. -/
structure Submission where
  file : Option String
  line : Option Int
  provider : Provider

/-- Why a submission makes no row. -/
inductive RowFault where
  /-- The line number does not fit into the table. -/
  | lineRange
  | noFile
  | noLine
  deriving DecidableEq

/-- The line numbers that fit into a table. -/
def fits (line : Int) : Bool :=
  decide (-9223372036854775808 ≤ line ∧ line ≤ 9223372036854775807)

/-- The octets of a provider's record. -/
def payloadOf (p : Provider) : List UInt8 := Record.serialize p

/-- The row of a submission. -/
def rowOf (s : Submission) : Except RowFault CacheRow :=
  if s.line.any (!fits ·) then .error .lineRange
  else match s.file, s.line with
    | none, _ => .error .noFile
    | _, none => .error .noLine
    | some file, some line =>
      .ok ⟨s.provider.uniqueName, s.provider.name, s.provider.hash, file, line,
        payloadOf s.provider⟩

/-- Sets a row, in the place of the row of the same key if there is one. -/
def insert (row : CacheRow) : List CacheRow → List CacheRow
  | [] => [row]
  | r :: rows => if r.key = row.key then row :: rows else r :: insert row rows

/-- Stores submissions, all of them or none. -/
def insertAll (submissions : List Submission) (rows : List CacheRow) :
    Except RowFault (List CacheRow) :=
  (submissions.mapM rowOf).map fun new => new.foldl (fun rows row => insert row rows) rows

/-- The row of a key. -/
def find? (key : String) (rows : List CacheRow) : Option CacheRow := rows.find? (·.key = key)

/-- The keys of all rows in order. -/
def keys (rows : List CacheRow) : List String :=
  (rows.map (·.key)).mergeSort fun a b => decide (a ≤ b)

/-- Overwrites the payload of a key. -/
def setPayload (key : String) (octets : List UInt8) (rows : List CacheRow) : List CacheRow :=
  rows.map fun r => if r.key = key then { r with payload := octets } else r

end ProbeCatalog.Cache
