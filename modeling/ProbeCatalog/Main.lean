import ProbeCatalog.Cache.Format
import ProbeCatalog.Command.Run

/-!
# The program

Reads the files that a command line is about, carries it out on a disk that holds them, and
writes the files that it leaves.
-/
namespace ProbeCatalog.Program

/-- The text of a place. -/
def placeText (place : Path) : String := "/" ++ place.text

/-- The files that are read when a project is looked at. -/
def isRead (name : String) : Bool := Analysis.isSourceName name || name = Ignore.fileName

/-- The octets of a file. -/
def octetsOf (place : String) : IO (List UInt8) := do
  let bytes ← IO.FS.readBinFile place
  pure bytes.toList

/-- What stands at a place. Directories are entered as deep as the fuel allows, and files
that a project makes no use of count as empty. -/
def snapshot (name : String) : Nat → String → IO Entry
  | 0, _ => pure (.file [])
  | fuel + 1, place => do
    let real ← IO.FS.realPath place
    match (← real.metadata).type with
    | .dir =>
      let children ← real.readDir
      let entries ← children.toList.mapM fun child => do
        let e ← snapshot child.fileName fuel (place ++ "/" ++ child.fileName)
        pure (child.fileName, e)
      pure (.directory entries)
    | .file => do
      if isRead name then
        let octets ← octetsOf place
        pure (.file octets)
      else pure (.file [])
    | _ => pure (.file [])

/-- The deepest directories that are looked at. -/
def maxDepth : Nat := 256

/-- What stands at a place, if anything does. -/
def snapshot? (fuel : Nat) (place : Path) : IO (Option Entry) := do
  try
    let e ← snapshot (place.getLastD "") fuel (placeText place)
    pure (some e)
  catch _ => pure none

/-- The place that a route leads to from a directory. -/
def placeOf (current : Path) (r : Route) : Path :=
  let start := match r.anchor with
    | .here => current
    | .root | .doubleRoot => []
  r.names.foldl (fun place name => if name = Route.up then place.dropLast else place ++ [name])
    start

/-- Adds what stands at a place and above it to a disk. -/
def addWay (d : Disk) (place : Path) : IO Disk :=
  (List.range (place.length + 1)).foldlM (fun d n => do
    let here := place.take n
    if (d.root.at? here).isSome then pure d
    else match ← snapshot? 1 here with
      | some (.directory _) => pure (d.set here .empty)
      | some e => pure (d.set here e)
      | none => pure d) d

/-- Adds the project at a route to a disk. -/
def addProject (d : Disk) (text : String) : IO Disk := do
  let place := placeOf d.current (Route.ofText text.toList)
  match ← snapshot? maxDepth place with
  | some e => pure (d.set place e)
  | none => pure d

/-- Adds the cache at a route to a disk. -/
def addCache (d : Disk) (text : String) : IO Disk := do
  let place := placeOf d.current (Route.ofText text.toList)
  let d ← addWay d place
  match d.root.at? place with
  | some (.file _) =>
    let octets ← octetsOf (placeText place)
    match Cache.Format.decode? octets with
    | some rows => pure (d.set place (.table rows))
    | none => pure (d.set place (.file octets))
  | _ => pure d

/-- The disk that a request is carried out on. -/
def diskFor (current : Path) (request : Command.Request) : IO Disk := do
  let d : Disk := (⟨.empty, current⟩ : Disk).set current .empty
  match request with
  | .scan path _ output cache _ =>
    let d ← addProject d path
    let d ← match cache with
      | some text => addCache d text
      | none => pure d
    match output with
    | some text => addWay d (placeOf current (Route.ofText text.toList))
    | none => pure d
  | .check path _ => addProject d path
  | .show cache _ => addCache d cache

/-- Writes a file with the directories that lead to it. -/
def save (place : Path) (octets : List UInt8) : IO Unit := do
  IO.FS.createDirAll (placeText place.dropLast)
  IO.FS.writeBinFile (placeText place) (ByteArray.mk octets.toArray)

/-- Writes the file at a route, if the disk holds a cache or a report there. -/
def saveAt (d : Disk) (text : String) : IO Unit := do
  let place := placeOf d.current (Route.ofText text.toList)
  match d.root.at? place with
  | some (.table rows) => save place (Cache.Format.encode rows)
  | some (.file (b :: bs)) => save place (b :: bs)
  | _ => pure ()

/-- Writes the files that a request leaves. -/
def saveFiles (d : Disk) : Command.Request → IO Unit
  | .scan _ _ output cache _ => do
    cache.forM (saveAt d)
    output.forM (saveAt d)
  | .check _ _ => pure ()
  | .show cache _ => saveAt d cache

/-- The wording of what breaks a command off. -/
def faultMessage : Command.Fault → String
  | .analysis (.pattern (.invalid line)) => PatternFault.invalidMessage line
  | .analysis (.pattern .downwardRange) => "Invalid range in a pattern"
  | .analysis (.unprintable _) => "A class has no canonical text"
  | .cache .unopened => Cache.unopenedMessage
  | .cache .notTable => Cache.notTableMessage
  | .cache (.row f) => f.message
  | .cache (.record _) => "A record holds a number that is too long"
  | .markup .unopened => "A file name closes a tag that it does not open"
  | .longNumber => "A line number is too long to be written"

/-- Carries out a request on the files of the computer. -/
def carryOut (request : Command.Request) : IO UInt32 := do
  let here ← IO.FS.realPath "."
  let d ← diskFor (Route.ofText here.toString.toList).names request
  let (d, result) := Command.perform d request
  saveFiles d request
  match result with
  | .ok outcome =>
    IO.print outcome.output
    IO.eprint (String.ofList (outcome.messages.map fun p => p.toChar?.getD '?'))
    pure (UInt32.ofNat outcome.code)
  | .error f =>
    IO.eprintln (faultMessage f)
    pure 1

end ProbeCatalog.Program

/-- Carries out the command line. -/
def main (words : List String) : IO UInt32 :=
  match ProbeCatalog.Command.request? words with
  | none => pure (UInt32.ofNat ProbeCatalog.Command.badUse)
  | some request => ProbeCatalog.Program.carryOut request
