import ProbeCatalog.Probe.Extraction
import ProbeCatalog.Provider.Name

/-!
# Providers

A provider is a class all of whose contents are probes. `Provider.ofClass` checks a
class and describes it; the description holds the canonical text, its hash, the name
and the probes, and may be stored without the class.
-/
namespace ProbeCatalog

open Syntax

/-- Why there is no provider for a class. -/
inductive Refusal where
  | rejected (r : Rejection)
  /-- The class is in order, but it has no canonical text. -/
  | unprintable (u : Printer.Unprintable)

/-- A provider and its probes. The declaration is carried along; it is no part of what
is compared or stored. -/
structure Provider where
  name : String
  hash : String
  canonicalText : String
  declaration : ClassDecl
  probes : List Probe

namespace Provider

/-- The name qualified by the hash. -/
def uniqueName (p : Provider) : String := Name.unique p.name p.hash

/-- The name of the class that declares the provider. -/
def className (p : Provider) : String := p.declaration.name

/-- The class is meant for use outside its module. -/
def isPublic (p : Provider) : Bool := p.declaration.name.toList.head? ≠ some '_'

/-- Two descriptions say the same. -/
def same (p q : Provider) : Bool :=
  p.name = q.name && p.hash = q.hash && p.canonicalText = q.canonicalText && p.probes = q.probes

/-- The description without probes, and the probes. -/
def separate (p : Provider) : Provider × List Probe := ({ p with probes := [] }, p.probes)

/-- Names of base classes that give a class type parameters. -/
def genericBases : List String := ["Generic", "Protocol"]

/-- A base class that gives type parameters. -/
def isGenericBase : Expr → Bool
  | .subscript head _ => (lastSegment head).any genericBases.contains
  | _ => false

/-- The class takes type parameters. -/
def hasTypeParameters (c : ClassDecl) : Bool := c.bases.any isGenericBase

/-- The function that a statement defines. -/
def method? : Located Stmt → Option (Located FunctionDecl)
  | ⟨pos, .functionDef f⟩ => some ⟨pos, f⟩
  | _ => none

/-- The functions defined in the body of a class itself. -/
def methods (c : ClassDecl) : List (Located FunctionDecl) := c.body.filterMap method?

/-- A statement that is neither a method nor a filler. -/
def isForeign (s : Located Stmt) : Bool := !isFiller s.value && (method? s).isNone

/-- The probes of a class, with an extractor that may fail in a way of its own. The class and
its members are checked before any method is looked into. -/
def findProbesBy {ε : Type} (extractor : ExtractorOf ε) (c : Located ClassDecl) :
    Except (Rejection ⊕ ε) (List Probe) :=
  if hasTypeParameters c.value then
    .error (.inl ⟨.ofClass .typeParameters, some (.ofClass c)⟩)
  else match c.value.body.find? isForeign with
    | some member => .error (.inl ⟨.ofClass .otherContents, some (.ofStmt member)⟩)
    | none => ((methods c.value).mapM (extractor c)).mapError .inr

/-- The probes of a class, with an extractor that fails as the class does. -/
def findProbes (extractor : Extractor) (c : Located ClassDecl) : Except Rejection (List Probe) :=
  (findProbesBy extractor c).mapError (Sum.elim id id)

/-- The description of a class with given probes. -/
def describe (c : ClassDecl) (probes : List Probe) : Except Refusal Provider :=
  match Declaration.text c with
  | .error u => .error (.unprintable u)
  | .ok text => .ok ⟨Name.ofClass c.name, Name.hashOf text, text, c, probes⟩

/-- The provider that a class declares. -/
def ofClass (extractor : Extractor) (c : Located ClassDecl) : Except Refusal Provider :=
  match findProbes extractor c with
  | .error r => .error (.rejected r)
  | .ok probes => describe c.value probes

/-- The provider that a source declares. -/
def ofSource (extractor : Extractor) (source : List Char) : Except Refusal Provider :=
  match Declaration.parse source with
  | .error r => .error (.rejected r)
  | .ok c => ofClass extractor c

end Provider

end ProbeCatalog
