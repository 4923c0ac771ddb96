/-!
# Rows of the cache

What is kept of a provider that was found: the names and the place, and its record as
octets.
-/
namespace ProbeCatalog

/-- A row of the cache. The key is the unique name of the provider. -/
structure CacheRow where
  key : String
  name : String
  hash : String
  file : String
  line : Int
  payload : List UInt8
  deriving DecidableEq

end ProbeCatalog
