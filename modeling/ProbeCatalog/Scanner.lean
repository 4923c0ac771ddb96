import ProbeCatalog.Marker
import ProbeCatalog.Provider.Basic

/-!
# Scanning sources

The candidates of a source are its marked classes, at any depth; an inner class comes
before the class around it. Those that are providers are described, the others passed
over.
-/
namespace ProbeCatalog

open Syntax

/-- How providers are looked for: by the names of markers, with the names they are
imported under, or by a predicate on decorators. -/
inductive MarkerRule where
  | names (names : List String)
  | predicate (isMarker : Expr → Bool)

/-- The predicate on the decorators of a source. -/
def MarkerRule.predicateFor (rule : MarkerRule) (block : Block) : Expr → Bool :=
  match rule with
  | .names given => Marker.marks (given ++ Marker.aliases given block)
  | .predicate isMarker => isMarker

namespace Scanner

/-- The marked classes of a source. -/
def candidates (rule : MarkerRule) (block : Block) : List (Located ClassDecl) :=
  (everyClass block).filter (Marker.isMarked (rule.predicateFor block))

/-- The providers among candidates. A candidate without a canonical text stops the scan. -/
def accepted (extractor : Extractor) :
    List (Located ClassDecl) → Except Printer.Unprintable (List Provider)
  | [] => .ok []
  | c :: cs =>
    match Provider.ofClass extractor c with
    | .error (.unprintable u) => .error u
    | .error (.rejected _) => accepted extractor cs
    | .ok p => (accepted extractor cs).map (p :: ·)

/-- The providers of a source. -/
def scan (extractor : Extractor) (rule : MarkerRule) (block : Block) :
    Except Printer.Unprintable (List Provider) :=
  accepted extractor (candidates rule block)

end Scanner

end ProbeCatalog
