import ProbeCatalog.Text.CodePoint

/-!
# Probes

A probe has a name and arguments; each argument has the type it was declared with and
the type it is lowered to. Texts may hold lone halves of surrogate pairs, because
probes are also read from stored records.
-/
namespace ProbeCatalog

/-- The type of an argument: as declared, without the mark that it may be missing, and
as lowered. -/
structure ArgType where
  declared : Text
  lowered : Text
  nullable : Bool
  deriving DecidableEq

/-- An argument of a probe. -/
structure Argument where
  name : Text
  type : ArgType
  deriving DecidableEq

/-- A probe. The place of an argument is its slot. -/
structure Probe where
  name : Text
  args : List Argument
  deriving DecidableEq

/-- The types of the arguments, in order. -/
def Probe.argTypes (p : Probe) : List ArgType := p.args.map (·.type)

end ProbeCatalog
