import ProbeCatalog.Cache.Row
import ProbeCatalog.Text.Lines
import ProbeCatalog.Text.Quoted
import ProbeCatalog.Text.Utf8

/-!
# Directory trees

A project is a tree of directories and files. A path names an entry by the names on the
way to it; paths are ordered name by name, so what a directory holds comes right after
it and before names that merely begin with its name.
-/
namespace ProbeCatalog

/-- The names on the way to an entry. -/
abbrev Path := List String

namespace Path

/-- The names with slashes between them. -/
def text (p : Path) : String := "/".intercalate p

/-- The order of paths, name by name. -/
def le : Path → Path → Bool
  | [], _ => true
  | _ :: _, [] => false
  | a :: p, b :: q => decide (a < b) || (a = b && le p q)

end Path

/-- What stands under a name. -/
inductive Entry where
  | file (octets : List UInt8)
  /-- A file that holds the rows of a cache. -/
  | table (rows : List CacheRow)
  | directory (entries : List (String × Entry))

namespace Entry

mutual

/-- The entries below an entry, with the paths to them. -/
def contents : Entry → List (Path × Entry)
  | .file _ | .table _ => []
  | .directory entries => contentsOf entries

/-- Named entries and all that is below them, with the paths. -/
def contentsOf : List (String × Entry) → List (Path × Entry)
  | [] => []
  | (name, e) :: rest =>
    ([name], e) :: (contents e).map (fun (path, inner) => (name :: path, inner)) ++ contentsOf rest

end

/-- The entries below an entry whose names are as asked for, in the order of paths. -/
def find (isWanted : String → Bool) (e : Entry) : List (Path × Entry) :=
  ((contents e).filter fun (path, _) => path.getLast?.any isWanted).mergeSort
    fun a b => a.1.le b.1

/-- Why an entry gives no text. -/
inductive ReadFault where
  /-- A directory stands at the path. -/
  | directory (path : String)
  | notUtf8 (f : Utf8.Fault)
  deriving DecidableEq

/-- The wording of a fault. -/
def ReadFault.message : ReadFault → String
  | .directory path =>
    "[Errno 21] Is a directory: " ++ String.ofList (quoted (Text.ofString path))
  | .notUtf8 f => f.message

/-- The text of an entry that is known by a path, with line feeds at the ends of lines.
The rows of a cache are no text; they read as a character that no source holds. -/
def read (path : String) : Entry → Except ReadFault (List Char)
  | .directory _ => .error (.directory path)
  | .table _ => .ok ['\x00']
  | .file octets =>
    match Utf8.decode octets with
    | .error f => .error (.notUtf8 f)
    | .ok text => .ok (unifyLineEnds text)

end Entry

end ProbeCatalog
