import ProbeCatalog.Project.Tree
import ProbeCatalog.Text.Table

/-!
# Routes

A route is a path as a user writes it: from the root or from where one is, possibly up
and down again. Empty names and single dots are dropped, the way up is kept.
-/
namespace ProbeCatalog

/-- Where a route begins. -/
inductive Anchor where
  /-- The current directory. -/
  | here
  | root
  /-- The root, written with two slashes. -/
  | doubleRoot
  deriving DecidableEq

/-- The beginning of a written route. -/
def Anchor.text : Anchor → String
  | .here => ""
  | .root => "/"
  | .doubleRoot => "//"

/-- A way to an entry. -/
structure Route where
  anchor : Anchor
  names : List String
  deriving DecidableEq

namespace Route

/-- The name that leads up. -/
def up : String := ".."

/-- Where the text of a route begins. -/
def anchorOf : List Char → Anchor
  | '/' :: '/' :: '/' :: _ => .root
  | '/' :: '/' :: _ => .doubleRoot
  | '/' :: _ => .root
  | _ => .here

/-- A name that leads elsewhere. -/
def isStep (name : List Char) : Bool := !name.isEmpty && name != ['.']

/-- The route that a text gives. -/
def ofText (text : List Char) : Route :=
  ⟨anchorOf text, ((Table.cut '/' text).filter isStep).map String.ofList⟩

/-- The text of a route; a dot if it leads nowhere. -/
def text (r : Route) : String :=
  match r with
  | ⟨.here, []⟩ => "."
  | ⟨anchor, names⟩ => anchor.text ++ Path.text names

/-- Goes on along a path. -/
def join (r : Route) (p : Path) : Route := { r with names := r.names ++ p }

/-- The route without its last name. -/
def parent (r : Route) : Route := { r with names := r.names.dropLast }

end Route

end ProbeCatalog
