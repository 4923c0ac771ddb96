import ProbeCatalog.Text.CodePoint

/-!
# JSON values

Strings are texts, since an escape in a JSON string may name half a surrogate pair. A
real number is kept as it is spelled: records hold none, and only its being there is
ever told.
-/
namespace ProbeCatalog

/-- A JSON value. The fields of an object are listed once each. -/
inductive Json where
  | null
  | bool (b : Bool)
  | integer (n : Int)
  | real (spelling : List Char)
  | string (t : Text)
  | array (items : List Json)
  | object (fields : List (Text × Json))

namespace Json

/-- Sets a field. A field that is there keeps its place and takes the new value. -/
def setField (key : Text) (value : Json) : List (Text × Json) → List (Text × Json)
  | [] => [(key, value)]
  | (k, v) :: fields =>
    if k = key then (k, value) :: fields else (k, v) :: setField key value fields

/-- The value of a field. -/
def field? (key : Text) (fields : List (Text × Json)) : Option Json := fields.lookup key

/-- The word by which messages call the kind of a value. -/
def kind : Json → String
  | .null => "NoneType"
  | .bool _ => "bool"
  | .integer _ => "int"
  | .real _ => "float"
  | .string _ => "str"
  | .array _ => "list"
  | .object _ => "dict"

end Json

end ProbeCatalog
