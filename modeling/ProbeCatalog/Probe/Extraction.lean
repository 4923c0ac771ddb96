import ProbeCatalog.Probe.Hint
import ProbeCatalog.Text.Identifier
import ProbeCatalog.Text.Uppercase

/-!
# From methods to probes

A method is a probe if it only declares: a plain name, annotated arguments taken by
position, no decorator but `staticmethod`, no value and nothing done in its body.
`extract` checks the rules in order and rejects by the first that is broken.
-/
namespace ProbeCatalog

open Syntax

/-- Turns a method of a class into a probe, or fails in some way. -/
abbrev ExtractorOf (ε : Type) := Located ClassDecl → Located FunctionDecl → Except ε Probe

/-- Turns a method of a class into a probe, or rejects it. -/
abbrev Extractor := ExtractorOf Rejection

/-- A statement that does nothing: `pass`, a string or an ellipsis. -/
def isFiller : Stmt → Bool
  | .pass => true
  | .expression (.constant (.string _ _)) => true
  | .expression (.constant .ellipsis) => true
  | _ => false

namespace Extraction

/-- Names of a first argument that belong to the class. -/
def receiverNames : List String := ["self", "cls"]

/-- The one decorator that probes may have. -/
def allowedDecorator : String := "staticmethod"

/-- A name that begins and ends with two underscores. -/
def isSpecial (name : List Char) : Bool :=
  ['_', '_'].isPrefixOf name && ['_', '_'].isSuffixOf name

/-- Rejects a method by one of its rules, at a site. -/
def reject {α : Type} (fault : MethodFault) (site : Site) : Except Rejection α :=
  .error ⟨.ofMethod fault, some site⟩

/-- Passes unless something is found that breaks a rule. -/
def forbid {α : Type} (found : Option α) (fault : MethodFault) (site : α → Site) :
    Except Rejection Unit :=
  match found with
  | some a => reject fault (site a)
  | none => .ok ()

/-- An argument from a parameter. -/
def argument (p : Param) : Except Rejection Argument :=
  match p.hint with
  | none => reject (.unannotated p.name) (.ofParam p)
  | some hint =>
    match Hint.resolve hint with
    | none => reject (.unsupported p.name) (.ofParam p)
    | some type => .ok ⟨p.name, type⟩

/-- The parameters with a default value, of those taken by position. -/
def defaults (params : Params) : List (Located Expr) := params.byPosition.filterMap (·.default)

/-- The return annotation, unless it says that nothing is returned. -/
def returned (f : FunctionDecl) : Option (Located Expr) :=
  f.returns.filter (!Hint.isNone ·.value)

end Extraction

open Extraction in
/-- The probe that a method declares. -/
def extract : Extractor := fun _ method => do
  let f := method.value
  let here (broken : Bool) (fault : MethodFault) : Except Rejection Unit :=
    if broken then reject fault (.ofFunction method) else .ok ()
  here f.isAsync .async
  here (!Identifier.isAsciiIdentifier f.name.toList) .name
  here (isSpecial f.name.toList) .special
  forbid (f.decorators.find? fun d => dottedName d.value ≠ some allowedDecorator) .decorator
    .ofExpr
  let params := f.params
  let positional := params.byPosition
  forbid (positional.head?.filter fun p => receiverNames.contains p.name) .receiver .ofParam
  here (params.variadic.isSome || params.variadicKeyword.isSome) .variadic
  forbid params.keywordOnly.head? .keywordOnly .ofParam
  forbid (defaults params).head? .default .ofExpr
  here (maxProbeArguments < positional.length) .tooManyArguments
  forbid (returned f) .returns .ofExpr
  forbid (f.body.find? (!isFiller ·.value)) .implementation .ofStmt
  let args ← positional.mapM argument
  pure ⟨f.name, args⟩

/-- The extractor that takes every method for a probe without arguments, named after
the method in upper case. -/
def extractLoudly : Extractor := fun _ method =>
  .ok ⟨Text.ofChars (upper method.value.name.toList), []⟩

end ProbeCatalog
