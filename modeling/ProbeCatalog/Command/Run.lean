import ProbeCatalog.Cache.File
import ProbeCatalog.Collision
import ProbeCatalog.Command.Arguments
import ProbeCatalog.Command.Report

/-!
# Commands

`run` carries out a command line on a disk: it scans or checks a project, or shows what is
in a cache. It prints, ends with a code, and may leave files behind.
-/
namespace ProbeCatalog.Command

/-- What a command prints, and the code it ends with. Messages may quote damaged records,
so they may hold halves of surrogate pairs. -/
structure Outcome where
  code : Nat
  output : String
  messages : Text

/-- Why a command breaks off. -/
inductive Fault where
  | analysis (f : Analysis.Fault)
  | cache (f : Cache.Fault)
  | markup (f : Markup.Fault)
  /-- A line number has too many digits to be written. -/
  | longNumber

/-- The code of a command line or a path that is not in order. -/
def badUse : Nat := 2

/-- An outcome that only has a message. -/
def refusal (code : Nat) (messages : Text) : Outcome := ⟨code, "", messages⟩

/-- The message about a path where nothing is. -/
def noPath (r : Route) : Text := Text.ofString ("Path does not exist: " ++ r.text ++ "\n")

/-- The markers that are given, or else the usual ones. -/
def markersOf (given : List String) : List String :=
  if given.isEmpty then Marker.defaults else given

/-- The analyzer of a command that is given markers. -/
def analyzerFor (markers : List String) : Analysis.Analyzer := ⟨extract, markersOf markers, none⟩

/-- The lines about files that could not be used. -/
def errorLines (errors : List FileError) : String := String.join (errors.map Report.errorLine)

/-- The lines about collisions among providers. -/
def collisionLines (providers : List Discovered) : String :=
  String.join ((Collision.find (providers.map (·.provider))).map Report.collisionLine)

/-- What is stored of a provider that was found. -/
def submissionOf (d : Discovered) : Cache.Submission := ⟨some d.file, some d.line, d.provider⟩

/-- The message of a fault of the cache, if users are told of it. -/
def cacheMessage? : Cache.Fault → Option String
  | .notTable => some Cache.notTableMessage
  | .row .noFile => some (Cache.RowFault.message .noFile)
  | .row .noLine => some (Cache.RowFault.message .noLine)
  | .row .lineRange => none
  | .unopened => none
  | .record _ => none

/-- Stores providers in the cache at a route, if there is one. The result is the message to
end with, if that fails. -/
def storeIn (d : Disk) (cache : Option String) (providers : List Discovered) :
    Disk × Except Fault (Option String) :=
  match cache with
  | none => (d, .ok none)
  | some text =>
    match Cache.store d (Route.ofText text.toList) (providers.map submissionOf) with
    | (d, .ok _) => (d, .ok none)
    | (d, .error f) =>
      match cacheMessage? f with
      | some message => (d, .ok (some ("Failed to write cache: " ++ message ++ "\n")))
      | none => (d, .error (.cache f))

/-- The outcome if the report cannot be written to its file. -/
def unwritten (output messages : String) : Outcome :=
  refusal badUse
    (Text.ofString (messages ++ "Failed to write JSON output file: " ++ output ++ "\n"))

/-- What becomes of a report with a line number that is too long to be written. Directories that
lead to the file of the report are made before. -/
def unreported (d : Disk) (form : Form) (output : Option String) (messages : String) :
    Disk × Except Fault Outcome :=
  match form, output with
  | .json, some text =>
    let r := Route.ofText text.toList
    match d.makeWay (d.start r) r.parent.names with
    | (d, true) => (d, .error .longNumber)
    | (d, false) => (d, .ok (unwritten text messages))
  | _, _ => (d, .error .longNumber)

/-- Prints the report of a scan, or writes it to a file. -/
def report (d : Disk) (form : Form) (output : Option String) (providers : List Discovered)
    (errors : List FileError) (messages : String) : Disk × Except Fault Outcome :=
  if !Report.isWritable providers then unreported d form output messages
  else match form, output with
    | .table, _ =>
      match Report.table providers with
      | .error e => (d, .error (.markup e))
      | .ok table => (d, .ok ⟨0, table, messages⟩)
    | .json, none =>
      (d, .ok ⟨0, Terminal.plain (Json.pretty (Report.ofScan providers errors)), messages⟩)
    | .json, some text =>
      let octets := Utf8.encode (Json.pretty (Report.ofScan providers errors)).toList
      match d.write (Route.ofText text.toList) octets with
      | (d, true) => (d, .ok ⟨0, "", messages⟩)
      | (d, false) => (d, .ok (unwritten text messages))

/-- Scans the project at a route. -/
def scan (d : Disk) (path : String) (form : Form) (output cache : Option String)
    (markers : List String) : Disk × Except Fault Outcome :=
  let r := Route.ofText path.toList
  match d.entry? r with
  | none => (d, .ok (refusal badUse (noPath r)))
  | some project =>
    match Analysis.analyze (analyzerFor markers) r project with
    | .error f => (d, .error (.analysis f))
    | .ok (providers, errors) =>
      let messages := errorLines errors ++ collisionLines providers
      match storeIn d cache providers with
      | (d, .error f) => (d, .error f)
      | (d, .ok (some message)) => (d, .ok (refusal badUse (Text.ofString (messages ++ message))))
      | (d, .ok none) => report d form output providers errors messages

/-- Tells which candidates of the project at a route are no providers. -/
def check (d : Disk) (path : String) (markers : List String) : Except Fault Outcome :=
  let r := Route.ofText path.toList
  match d.entry? r with
  | none => .ok (refusal badUse (noPath r))
  | some project => do
    let (diagnostics, errors) ←
      (Analysis.diagnose (analyzerFor markers) r project).mapError .analysis
    pure ⟨if diagnostics.isEmpty then 0 else 1, Report.diagnostics diagnostics,
      errorLines errors⟩

/-- The outcome of a fault of the cache that is being shown. -/
def showFault (f : Cache.Fault) : Except Fault Outcome :=
  match f with
  | .record (.format e) =>
    .ok (refusal badUse (Text.ofString "Cached provider is corrupted: " ++ e.message ++
      Text.ofString "\n"))
  | f =>
    match cacheMessage? f with
    | some message =>
      .ok (refusal badUse (Text.ofString ("Failed to read cache: " ++ message ++ "\n")))
    | none => .error (.cache f)

/-- Shows the names in a cache. -/
def showNames (d : Disk) (r : Route) : Disk × Except Fault Outcome :=
  match Cache.list d r with
  | (d, .error f) => (d, showFault f)
  | (d, .ok names) =>
    let value := Json.array (names.map fun n => .string (Text.ofString n))
    (d, .ok ⟨0, Terminal.plain (Json.pretty value), []⟩)

/-- Shows a provider in a cache. -/
def showProvider (d : Disk) (r : Route) (name : String) : Disk × Except Fault Outcome :=
  match Cache.load d r name with
  | (d, .error f) => (d, showFault f)
  | (d, .ok none) => (d, .ok (refusal 1 (Text.ofString ("Provider not found: " ++ name ++ "\n"))))
  | (d, .ok (some p)) => (d, .ok ⟨0, Terminal.plain (Json.pretty (Record.ofProvider p)), []⟩)

/-- Shows what is in a cache. -/
def showCache (d : Disk) (cache : String) (name : Option String) : Disk × Except Fault Outcome :=
  let r := Route.ofText cache.toList
  match d.entry? r, name with
  | none, _ =>
    (d, .ok (refusal badUse (Text.ofString ("Cache does not exist: " ++ r.text ++ "\n"))))
  | some _, none => showNames d r
  | some _, some name => showProvider d r name

/-- Carries out a request. -/
def perform (d : Disk) : Request → Disk × Except Fault Outcome
  | .scan path form output cache markers => scan d path form output cache markers
  | .check path markers => (d, check d path markers)
  | .show cache name => showCache d cache name

/-- Carries out a command line. -/
def run (d : Disk) (words : List String) : Disk × Except Fault Outcome :=
  match request? words with
  | none => (d, .ok (refusal badUse []))
  | some request => perform d request

end ProbeCatalog.Command
