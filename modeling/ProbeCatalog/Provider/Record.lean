import ProbeCatalog.Provider.Basic
import ProbeCatalog.Json.Reader
import ProbeCatalog.Json.Writer

/-!
# Stored providers

A provider is stored as a JSON object, without its class. Reading parses the canonical
text again and compares hash and name, so that a record that was damaged is refused
rather than trusted. Other fields than those written here are ignored.
-/
namespace ProbeCatalog

open Syntax

/-- The version that records are marked with. -/
def recordVersion : Nat := 1

/-- What is wrong with a record. -/
inductive FormatFault where
  | notUtf8 (f : Utf8.Fault)
  | notJson (text : List Char) (problem : Json.Problem) (position : Nat)
  | notList
  | notProvider
  | notProbe
  | notArgument
  | missing (field : String)
  | mistyped (field expected actual : String)
  | notClass (r : Rejection)
  | hashMismatch (name stored : Text) (computed : String)
  | nameMismatch (stored : Text) (computed : String)

/-- Why a stored text gives no provider. -/
inductive LoadFault where
  | format (f : FormatFault)
  /-- The text holds a whole number that is too long to be read. -/
  | longNumber

/-- The wording of a fault. -/
def FormatFault.message : FormatFault → Text
  | .notUtf8 f => Text.ofString ("Invalid provider JSON: " ++ f.message)
  | .notJson text problem position =>
    Text.ofString ("Invalid provider JSON: " ++ Json.problemMessage text problem position)
  | .notList => "Provider list payload must be a JSON array"
  | .notProvider => "Provider payload must be a JSON object"
  | .notProbe => "Probe payload must be a JSON object"
  | .notArgument => "Probe argument payload must be a JSON object"
  | .missing field => Text.ofString ("Missing field '" ++ field ++ "'")
  | .mistyped field expected actual =>
    Text.ofString ("Field '" ++ field ++ "' must be of type " ++ expected ++ ", got " ++ actual)
  | .notClass r =>
    Text.ofString ("Stored canonical text is not a class declaration: " ++ r.message)
  | .hashMismatch name stored computed =>
    Text.ofString "Hash mismatch for provider '" ++ name ++ Text.ofString "': stored " ++ stored ++
      Text.ofString (", computed " ++ computed)
  | .nameMismatch stored computed =>
    Text.ofString "Name mismatch for provider: stored '" ++ stored ++
      Text.ofString ("', declaration gives '" ++ computed ++ "'")

namespace Record

/-! ### Writing -/

/-- An argument as a JSON value. -/
def ofArgument (a : Argument) : Json :=
  .object [("name", .string a.name), ("python_type", .string a.type.declared),
    ("c_type", .string a.type.lowered), ("nullable", .bool a.type.nullable)]

/-- A probe as a JSON value. -/
def ofProbe (p : Probe) : Json :=
  .object [("name", .string p.name), ("args", .array (p.args.map ofArgument))]

/-- A provider as a JSON value. -/
def ofProvider (p : Provider) : Json :=
  .object [("version", .integer recordVersion), ("name", .string p.name),
    ("hash", .string p.hash), ("canonical_text", .string p.canonicalText),
    ("probes", .array (p.probes.map ofProbe))]

/-- A provider as JSON text. -/
def write (p : Provider) : String := Json.compact (ofProvider p)

/-- Providers as the JSON text of an array. -/
def writeAll (ps : List Provider) : String := Json.compact (.array (ps.map ofProvider))

/-- A provider as octets. -/
def serialize (p : Provider) : List UInt8 := Utf8.encode (write p).toList

/-- Providers as octets. -/
def serializeAll (ps : List Provider) : List UInt8 := Utf8.encode (writeAll ps).toList

/-! ### Reading -/

/-- The fields of a record. -/
abbrev Fields := List (Text × Json)

/-- The value of a field that has to be there. -/
def require (fields : Fields) (key : String) : Except FormatFault Json :=
  match Json.field? key fields with
  | none => .error (.missing key)
  | some v => .ok v

/-- The text in a field. -/
def requireText (fields : Fields) (key : String) : Except FormatFault Text := do
  match ← require fields key with
  | .string t => pure t
  | v => throw (.mistyped key "str" v.kind)

/-- The items in a field. -/
def requireItems (fields : Fields) (key : String) : Except FormatFault (List Json) := do
  match ← require fields key with
  | .array items => pure items
  | v => throw (.mistyped key "list" v.kind)

/-- The truth value in a field. -/
def requireBool (fields : Fields) (key : String) : Except FormatFault Bool := do
  match ← require fields key with
  | .bool b => pure b
  | v => throw (.mistyped key "bool" v.kind)

/-- The argument that a value describes. Fields are looked at in the order in which they
are written above, so that the first fault is the one that is told. -/
def toArgument : Json → Except FormatFault Argument
  | .object fields => do
    let name ← requireText fields "name"
    let declared ← requireText fields "python_type"
    let lowered ← requireText fields "c_type"
    let nullable ← requireBool fields "nullable"
    pure ⟨name, declared, lowered, nullable⟩
  | _ => throw .notArgument

/-- The probe that a value describes; its arguments are looked at before its name. -/
def toProbe : Json → Except FormatFault Probe
  | .object fields => do
    let items ← requireItems fields "args"
    let args ← items.mapM toArgument
    let name ← requireText fields "name"
    pure ⟨name, args⟩
  | _ => throw .notProbe

/-- The class that a stored text declares. A text with lone halves is no source. -/
def parseText (t : Text) : Except FormatFault (String × ClassDecl) :=
  match t.toChars? with
  | none => .error (.notClass ⟨.ofClass .unreadable, none⟩)
  | some cs =>
    match Declaration.parse cs with
    | .ok c => .ok (String.ofList cs, c.value)
    | .error r => .error (.notClass r)

/-- The provider that a JSON value stores. -/
def toProvider : Json → Except FormatFault Provider
  | .object fields => do
    let name ← requireText fields "name"
    let hash ← requireText fields "hash"
    let text ← requireText fields "canonical_text"
    let items ← requireItems fields "probes"
    let (source, declaration) ← parseText text
    let computed := Name.hashOf source
    if Text.ofString computed ≠ hash then throw (.hashMismatch name hash computed)
    let expected := Name.ofClass declaration.name
    if Text.ofString expected ≠ name then throw (.nameMismatch name expected)
    let probes ← items.mapM toProbe
    pure ⟨expected, computed, source, declaration, probes⟩
  | _ => throw .notProvider

/-- The value of JSON text given in octets. -/
def decode (octets : List UInt8) : Except LoadFault Json :=
  match Utf8.decode octets with
  | .error f => .error (.format (.notUtf8 f))
  | .ok text =>
    match Json.read text with
    | .error (.malformed problem position) => .error (.format (.notJson text problem position))
    | .error .longNumber => .error .longNumber
    | .ok v => .ok v

/-- A result whose faults are those of a record's form. -/
def lift {α : Type} (r : Except FormatFault α) : Except LoadFault α := r.mapError .format

/-- The provider that octets store. -/
def read (octets : List UInt8) : Except LoadFault Provider := do
  let v ← decode octets
  lift (toProvider v)

/-- The providers that octets store as an array. -/
def readAll (octets : List UInt8) : Except LoadFault (List Provider) := do
  let v ← decode octets
  match v with
  | .array items => lift (items.mapM toProvider)
  | _ => lift (throw .notList)

end Record

end ProbeCatalog
