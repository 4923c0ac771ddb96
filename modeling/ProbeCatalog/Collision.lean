import ProbeCatalog.Provider.Basic

/-!
# Name collisions

Providers of one name and different contents collide. Their unique names still differ.
-/
namespace ProbeCatalog

/-- A name that providers share which are not the same, with their unique names in
order. -/
structure Collision where
  name : String
  uniqueNames : List String
  deriving DecidableEq

namespace Collision

/-- The strings of a list in order, each once. -/
def distinct (names : List String) : List String :=
  (names.mergeSort fun a b => decide (a ≤ b)).eraseDups

/-- The unique names of the providers of a name. -/
def uniqueNamesOf (name : String) (providers : List Provider) : List String :=
  distinct ((providers.filter (·.name = name)).map Provider.uniqueName)

/-- The collision of a name, if it has one. -/
def of? (providers : List Provider) (name : String) : Option Collision :=
  let uniqueNames := uniqueNamesOf name providers
  if 1 < uniqueNames.length then some ⟨name, uniqueNames⟩ else none

/-- The collisions among providers, in the order of their names. -/
def find (providers : List Provider) : List Collision :=
  (distinct (providers.map (·.name))).filterMap (of? providers)

end Collision

end ProbeCatalog
