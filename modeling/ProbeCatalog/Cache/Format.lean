import ProbeCatalog.Cache.Row
import ProbeCatalog.Json.Reader
import ProbeCatalog.Json.Writer
import ProbeCatalog.Text.Utf8

/-!
# Cache files

The rows of a cache as octets of a file: a JSON array with an object for each row. The
payload, which need not be text, is written as a list of numbers.
-/
namespace ProbeCatalog.Cache.Format

/-- A row as a JSON value. -/
def ofRow (r : CacheRow) : Json :=
  .object [("key", .string r.key), ("name", .string r.name), ("hash", .string r.hash),
    ("file", .string r.file), ("line", .integer r.line),
    ("payload", .array (r.payload.map fun b => .integer b.toNat))]

/-- Rows as the octets of a file. -/
def encode (rows : List CacheRow) : List UInt8 :=
  Utf8.encode (Json.compact (.array (rows.map ofRow))).toList

/-- The string in a field. -/
def string? (fields : List (Text × Json)) (key : String) : Option String :=
  match Json.field? key fields with
  | some (.string t) => t.toString?
  | _ => none

/-- The whole number in a field. -/
def integer? (fields : List (Text × Json)) (key : String) : Option Int :=
  match Json.field? key fields with
  | some (.integer n) => some n
  | _ => none

/-- An octet that a JSON value is. -/
def octet? : Json → Option UInt8
  | .integer n => if 0 ≤ n ∧ n < 256 then some (UInt8.ofNat n.toNat) else none
  | _ => none

/-- The octets in a field. -/
def octets? (fields : List (Text × Json)) (key : String) : Option (List UInt8) :=
  match Json.field? key fields with
  | some (.array items) => items.mapM octet?
  | _ => none

/-- The row that a JSON value is. -/
def row? : Json → Option CacheRow
  | .object fields => do
    let key ← string? fields "key"
    let name ← string? fields "name"
    let hash ← string? fields "hash"
    let file ← string? fields "file"
    let line ← integer? fields "line"
    let payload ← octets? fields "payload"
    pure ⟨key, name, hash, file, line, payload⟩
  | _ => none

/-- The rows in the octets of a file, if they are a cache. -/
def decode? (octets : List UInt8) : Option (List CacheRow) :=
  match Utf8.decode octets with
  | .error _ => none
  | .ok text =>
    match Json.read text with
    | .ok (.array items) => items.mapM row?
    | _ => none

end ProbeCatalog.Cache.Format
