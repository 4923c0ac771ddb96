import ProbeCatalog.Cache.Table
import ProbeCatalog.Project.Disk

/-!
# The cache on a disk

A cache is a file that holds a table. A missing or an empty file is taken for a cache
without rows, and becomes one when it is used.
-/
namespace ProbeCatalog.Cache

/-- Why a cache does not answer. -/
inductive Fault where
  /-- There is no place for the file, or a directory stands there. -/
  | unopened
  /-- The file holds something else. -/
  | notTable
  | row (f : RowFault)
  /-- The record that was asked for is damaged. -/
  | record (f : LoadFault)

/-- The rows in what stands at the place of a cache. -/
def rowsIn : Option Entry → Except Fault (List CacheRow)
  | none => .ok []
  | some (.table rows) => .ok rows
  | some (.file octets) => if octets.isEmpty then .ok [] else .error .notTable
  | some (.directory _) => .error .unopened

/-- Opens a cache: the disk on which the table exists, its place and its rows. -/
def openTable (d : Disk) (r : Route) : Except Fault (Disk × Path × List CacheRow) :=
  match d.spot? r with
  | none => .error .unopened
  | some place =>
    (rowsIn (d.root.at? place)).map fun rows => (d.set place (.table rows), place, rows)

/-- Stores providers and tells how many were given. -/
def store (d : Disk) (r : Route) (submissions : List Submission) : Disk × Except Fault Nat :=
  match openTable d r with
  | .error f => (d, .error f)
  | .ok (d, place, rows) =>
    match insertAll submissions rows with
    | .error f => (d, .error (.row f))
    | .ok rows => (d.set place (.table rows), .ok submissions.length)

/-- Loads the provider of a unique name, if it is there. -/
def load (d : Disk) (r : Route) (key : String) : Disk × Except Fault (Option Provider) :=
  match openTable d r with
  | .error f => (d, .error f)
  | .ok (d, _, rows) =>
    match find? key rows with
    | none => (d, .ok none)
    | some row => (d, ((Record.read row.payload).map some).mapError .record)

/-- The unique names in a cache, in order. -/
def list (d : Disk) (r : Route) : Disk × Except Fault (List String) :=
  match openTable d r with
  | .error f => (d, .error f)
  | .ok (d, _, rows) => (d, .ok (keys rows))

/-- The wording of the faults that are reported to users. -/
def RowFault.message : RowFault → String
  | .lineRange => "line number out of range"
  | .noFile => "NOT NULL constraint failed: providers.file_path"
  | .noLine => "NOT NULL constraint failed: providers.lineno"

/-- The wording for a place without a cache. -/
def unopenedMessage : String := "unable to open database file"

/-- The wording for a file that is no cache. -/
def notTableMessage : String := "file is not a database"

end ProbeCatalog.Cache
