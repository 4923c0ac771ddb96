import ProbeCatalog.Syntax.Printer.Statement
import ProbeCatalog.Text.Lines

/-!
# Rejections

Why a declaration cannot be lowered to probes, and where. `ClassFault` holds what is
wrong with a class, `MethodFault` what is wrong with one of its methods; the wording
of each is given here and nowhere else.
-/
namespace ProbeCatalog

open Syntax

/-- What keeps a text or a class from being a provider. -/
inductive ClassFault where
  /-- The text is no source. -/
  | unreadable
  /-- The text does not hold one class and nothing else. -/
  | notOneClass
  | typeParameters
  | otherContents
  deriving DecidableEq

/-- What keeps a method from being a probe. -/
inductive MethodFault where
  | async
  | name
  | special
  | decorator
  | receiver
  | variadic
  | keywordOnly
  | default
  | tooManyArguments
  | returns
  | implementation
  | unannotated (argument : String)
  | unsupported (argument : String)
  deriving DecidableEq

/-- The reason for a rejection. -/
inductive Fault where
  | ofClass (f : ClassFault)
  | ofMethod (f : MethodFault)
  deriving DecidableEq

/-- The most arguments of a probe. -/
def maxProbeArguments : Nat := 12

/-- The reason in words. -/
def ClassFault.reason : ClassFault → String
  | .unreadable => "Expected a class declaration: source does not parse"
  | .notOneClass => "Expected a class declaration"
  | .typeParameters => "Provider classes must not take any type parameters"
  | .otherContents => "Provider classes must consist entirely of methods, no other contents"

/-- The reason in words. -/
def MethodFault.reason : MethodFault → String
  | .async => "Probe methods must not be async"
  | .name => "Probe names must be ASCII identifiers"
  | .special => "Probe methods must not be special methods"
  | .decorator => "Probe methods must not have decorators other than staticmethod"
  | .receiver => "Probe methods must not take a self or cls parameter"
  | .variadic => "Probe methods must not take variadic arguments"
  | .keywordOnly => "Probe methods must take positional arguments only"
  | .default => "Probe arguments must not have default values"
  | .tooManyArguments =>
    "Probe methods cannot have more than " ++ toString maxProbeArguments ++ " arguments"
  | .returns => "Probe methods must not return a value"
  | .implementation => "Probe methods must not have an implementation"
  | .unannotated argument => "Probe argument '" ++ argument ++ "' must have a type annotation"
  | .unsupported argument => "Probe argument '" ++ argument ++ "' has an unsupported type"

/-- The reason in words. -/
def Fault.reason : Fault → String
  | .ofClass f => f.reason
  | .ofMethod f => f.reason

/-- What a rejection points at: its place, and the head of its canonical text if it
has a text. -/
structure Site where
  pos : Position
  source : Option String
  deriving DecidableEq

namespace Site

/-- The first line of a text that is no decorator. -/
def head (text : String) : Option String :=
  match (lines text.toList).find? (·.head? ≠ some '@') with
  | some line => some (String.ofList line)
  | none => if text.isEmpty then none else some text

/-- A site from a place and the text of what stands there. -/
def of (pos : Position) (text : Printer.Printed String) : Site :=
  ⟨pos, match text with
    | .ok s => head s
    | .error _ => none⟩

/-- The site of a statement. -/
def ofStmt (s : Located Stmt) : Site := of s.pos (Printer.statementText s.value)

/-- The site of a class: its keyword, not its decorators. -/
def ofClass (c : Located ClassDecl) : Site := ofStmt ⟨c.pos, .classDef c.value⟩

/-- The site of a function: its keyword, not its decorators. -/
def ofFunction (f : Located FunctionDecl) : Site := ofStmt ⟨f.pos, .functionDef f.value⟩

/-- The site of an expression. -/
def ofExpr (e : Located Expr) : Site := of e.pos (Printer.expressionText e.value)

/-- The site of a parameter. -/
def ofParam (p : Param) : Site := of p.pos (Printer.paramText p)

end Site

/-- A declaration is turned down. -/
structure Rejection where
  fault : Fault
  site : Option Site
  deriving DecidableEq

namespace Rejection

/-- The reason, the line and the text at fault, as far as they are known. -/
def message (r : Rejection) : String :=
  match r.site with
  | none => r.fault.reason
  | some site =>
    r.fault.reason ++ " (line " ++ toString site.pos.line ++ ")" ++
      match site.source with
      | none => ""
      | some s => if s.isEmpty then "" else ": " ++ s

end Rejection

end ProbeCatalog
