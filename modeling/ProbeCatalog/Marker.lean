import ProbeCatalog.Syntax.Statements
import ProbeCatalog.Declaration

/-!
# Markers

A class is marked as a provider by a decorator whose last name is a marker, with or
without arguments. A source may import a marker under another name, which then counts
as a marker there.
-/
namespace ProbeCatalog.Marker

open Syntax

/-- The markers where none are given. -/
def defaults : List String := ["tracer"]

/-- A decorator without the arguments it is called with. -/
def withoutCall : Expr → Expr
  | .call function _ _ => function
  | e => e

/-- The decorator is one of the markers. -/
def marks (names : List String) (decorator : Expr) : Bool :=
  (lastSegment (withoutCall decorator)).any names.contains

/-- What follows the last dot of a dotted name. -/
def tail (name : String) : String :=
  String.ofList ((name.toList.reverse.takeWhile (· ≠ '.')).reverse)

/-- The name that a marker is imported under, if it is imported here under another. -/
def alias? (names : List String) (i : ImportedName) : Option String :=
  if names.contains (tail i.name) then i.boundAs else none

/-- The names that markers are imported under, in the order of the imports. -/
def aliases (names : List String) (block : Block) : List String :=
  (everyImport block).filterMap (alias? names)

/-- The class has a decorator that a predicate takes for a marker. -/
def isMarked (isMarker : Expr → Bool) (c : Located ClassDecl) : Bool :=
  c.value.decorators.any fun d => isMarker d.value

end ProbeCatalog.Marker
