import ProbeCatalog.Project.Tree

/-!
# Places in a tree

Looking up what stands at a path, and putting something there.
-/
namespace ProbeCatalog.Entry

/-- An empty directory. -/
def empty : Entry := .directory []

/-- The entry is a directory. -/
def isDirectory : Entry → Bool
  | .directory _ => true
  | .file _ | .table _ => false

/-- The entries of a directory; a file has none. -/
def entries : Entry → List (String × Entry)
  | .directory entries => entries
  | .file _ | .table _ => []

/-- Sets the entry of a name. -/
def setIn (name : String) (e : Entry) : List (String × Entry) → List (String × Entry)
  | [] => [(name, e)]
  | (n, old) :: rest => if n = name then (n, e) :: rest else (n, old) :: setIn name e rest

/-- What stands at a path. -/
def at? : Path → Entry → Option Entry
  | [], e => some e
  | name :: rest, e => (e.entries.lookup name).bind (at? rest)

/-- Puts an entry at a path, with the directories that lead there. Files in the way give
place to directories. -/
def put (new : Entry) : Path → Entry → Entry
  | [], _ => new
  | name :: rest, e =>
    .directory (setIn name (put new rest ((e.entries.lookup name).getD empty)) e.entries)

end ProbeCatalog.Entry
