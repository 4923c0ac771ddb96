import ProbeCatalog.Rejection
import ProbeCatalog.Syntax.Source

/-!
# Class declarations

A declaration is read from a source that holds one class and nothing else, and written
back as its canonical text, from which blanks, comments and line breaks are gone.
-/
namespace ProbeCatalog

open Syntax

namespace Declaration

/-- The class that a source declares. -/
def parse (source : List Char) : Except Rejection (Located ClassDecl) :=
  match parseModule source with
  | none => .error ⟨.ofClass .unreadable, none⟩
  | some [⟨pos, .classDef c⟩] => .ok ⟨pos, c⟩
  | some block => .error ⟨.ofClass .notOneClass, block.head?.map Site.ofStmt⟩

/-- The canonical text of a class. -/
def text (c : ClassDecl) : Printer.Printed String := Printer.statementText (.classDef c)

end Declaration

/-- The segments of a name or of a chain of attributes that begins with a name. -/
def dottedSegments : Expr → Option (List String)
  | .name id => some [id]
  | .attribute value id => (dottedSegments value).map (· ++ [id])
  | _ => none

/-- A dotted name, if the expression is one. -/
def dottedName (e : Expr) : Option String := (dottedSegments e).map ".".intercalate

/-- The last segment of a dotted name. -/
def lastSegment (e : Expr) : Option String := (dottedSegments e).bind (·.getLast?)

end ProbeCatalog
