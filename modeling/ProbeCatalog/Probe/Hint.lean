import ProbeCatalog.Probe.Basic
import ProbeCatalog.Declaration

/-!
# Annotations

The types that an argument may be declared with, and what they are lowered to. Text
and octets may be declared as possibly missing, in any of three ways; a string
literal stands for the annotation it holds.
-/
namespace ProbeCatalog.Hint

open Syntax

/-- Names of types with what they are lowered to. -/
def supported : List (String × String) :=
  [("bool", "uint8_t"), ("int", "int64_t"), ("str", "char *"), ("bytes", "char *"),
   ("c_bool", "uint8_t"), ("c_int8", "int8_t"), ("c_uint8", "uint8_t"), ("c_int16", "int16_t"),
   ("c_uint16", "uint16_t"), ("c_int32", "int32_t"), ("c_uint32", "uint32_t"),
   ("c_int64", "int64_t"), ("c_uint64", "uint64_t"), ("c_size_t", "size_t"),
   ("c_ssize_t", "ssize_t"), ("c_char_p", "char *")]

/-- The type that may be missing without being declared so. -/
def alwaysNullable : String := "c_char_p"

/-- The types that may be declared as possibly missing. -/
def optionalTypes : List Text := ["str", "bytes"]

/-- The type of a name. -/
def typeOf? (name : String) : Option ArgType :=
  (supported.lookup name).map fun lowered => ⟨name, lowered, name = alwaysNullable⟩

/-- The modules that a name may be prefixed with. -/
def modules : List (List Char) := ["ctypes.".toList, "typing.".toList]

/-- A dotted name without the module in front of it, which is taken away once. -/
def withoutModule (name : String) : String :=
  match modules.firstM (·.isPrefixOf? name.toList) with
  | some rest => String.ofList rest
  | none => name

/-- A dotted name without the module in front of it, if the expression is one. -/
def typeName (e : Expr) : Option String := (dottedName e).map withoutModule

/-- The literal for a missing value. -/
def isNone : Expr → Bool
  | .constant .none => true
  | _ => false

/-- A type as possibly missing, where that is allowed. -/
def nullable (t : ArgType) : Option ArgType :=
  if t.declared ∈ optionalTypes then some { t with nullable := true } else none

/-- A bound on the steps that an annotation takes. A literal is longer than the
annotation it holds weighs. -/
def weight : Expr → Nat
  | .constant (.string t _) => t.length + 1
  | .subscript _ index => weight index + 1
  | .binary _ left right => weight left + weight right + 1
  | _ => 1

/-- The type that an annotation stands for, found in a number of steps. -/
def resolveWithin : Nat → Expr → Option ArgType
  | 0, _ => none
  | steps + 1, .constant (.string t _) => do
    let cs ← t.toChars?
    let e ← parseExpression cs
    resolveWithin steps e
  | _ + 1, .name id => typeOf? (withoutModule id)
  | _ + 1, .attribute value id => do
    let name ← typeName (.attribute value id)
    typeOf? name
  | steps + 1, .subscript head index =>
    if typeName head = some "Optional" then (resolveWithin steps index).bind nullable else none
  | steps + 1, .binary .bitOr left right =>
    if isNone right then (resolveWithin steps left).bind nullable
    else if isNone left then (resolveWithin steps right).bind nullable
    else none
  | _ + 1, _ => none

/-- The type that an annotation stands for, if it is supported. -/
def resolve (e : Expr) : Option ArgType := resolveWithin (weight e) e

end ProbeCatalog.Hint
