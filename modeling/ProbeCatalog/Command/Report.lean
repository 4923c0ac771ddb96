import ProbeCatalog.Analysis
import ProbeCatalog.Collision
import ProbeCatalog.Provider.Record
import ProbeCatalog.Terminal.Grid
import ProbeCatalog.Terminal.Plain

/-!
# Reports

What commands print: the JSON report of a scan, the table of providers, and lines about
errors, collisions and rejected candidates.
-/
namespace ProbeCatalog.Report

/-! ### JSON -/

/-- A provider that was found, as a JSON value. -/
def ofDiscovered (d : Discovered) : Json :=
  .object [("file_path", .string d.file), ("lineno", .integer d.line),
    ("unique_name", .string d.provider.uniqueName), ("spec", Record.ofProvider d.provider)]

/-- A file that could not be used, as a JSON value. -/
def ofError (e : FileError) : Json :=
  .object [("file_path", .string e.file), ("message", .string e.message)]

/-- The report of a scan. -/
def ofScan (providers : List Discovered) (errors : List FileError) : Json :=
  .object [("providers", .array (providers.map ofDiscovered)),
    ("errors", .array (errors.map ofError))]

/-- The line numbers of providers have no more digits than whole numbers are written with. -/
def isWritable (providers : List Discovered) : Bool :=
  providers.all fun d => decide (d.line < Nat.pow 10 Json.maxDigits)

/-! ### The table of providers -/

/-- The columns of the table. -/
def columns : List Grid.Column :=
  [⟨"file_path", 11, false⟩, ⟨"line", 5, true⟩, ⟨"name", 10, false⟩,
    ⟨"unique_name", 16, false⟩, ⟨"probes", 22, false⟩]

/-- The characters of a text without halves of surrogate pairs. -/
def shown (t : Text) : List Char := t.filterMap CodePoint.toChar?

/-- A probe as the table shows it: its name and the types it takes. -/
def probeLine (p : Probe) : String :=
  String.ofList (shown (p.name ++ Text.ofString "(" ++
    (Text.ofString ", ").intercalate (p.args.map (·.type.lowered)) ++ Text.ofString ")"))

/-- The row of a provider. -/
def rowOf (d : Discovered) : List String :=
  [d.file, toString d.line, d.provider.name, d.provider.uniqueName,
    "\n".intercalate (d.provider.probes.map probeLine)]

/-- The style of the line above the table. -/
def ruleStyle : Style := { Style.null with color := colorNumber? "cyan" }

/-- The line above the table. -/
def rule : String :=
  ruleStyle.write (Grid.times 34 "-" ++ " ") ++ "providers" ++
    ruleStyle.write (" " ++ Grid.times 35 "-") ++ "\n"

/-- The table of providers. -/
def table (providers : List Discovered) : Except Markup.Fault String :=
  (Grid.write columns (providers.map rowOf)).map (rule ++ ·)

/-! ### Lines -/

/-- A text between quotes. -/
def quotedString (s : String) : String := String.ofList (quoted (Text.ofString s))

/-- The line about a file that could not be used. -/
def errorLine (e : FileError) : String :=
  "analyzer_error: AnalyzerError(file_path=" ++ quotedString e.file ++ ", message=" ++
    quotedString e.message ++ ")\n"

/-- The line about a collision. -/
def collisionLine (c : Collision) : String :=
  "name_collision: " ++ c.name ++ " -> " ++ ", ".intercalate c.uniqueNames ++ "\n"

/-- The line about a candidate that is no provider. -/
def diagnosticLine (d : Diagnostic) : String :=
  d.file ++ ":" ++ toString d.line ++ ": " ++ d.className ++ ": " ++ d.message

/-- What is printed if all candidates are providers. -/
def allValid : String := "All provider candidates are valid."

/-- What is printed about candidates that are no providers. -/
def diagnostics (ds : List Diagnostic) : String :=
  if ds.isEmpty then Terminal.plain allValid
  else String.join (ds.map fun d => Terminal.plain (diagnosticLine d))

end ProbeCatalog.Report
