import ProbeCatalog.Project.Place
import ProbeCatalog.Project.Route

/-!
# Disks

All files there are, and the directory one is in. Routes are followed as far as there
are directories; writing may make those that are missing.
-/
namespace ProbeCatalog

/-- A tree of files with a current directory. -/
structure Disk where
  root : Entry
  current : Path

namespace Disk

/-- Follows names from a directory to an existing entry. -/
def follow (root : Entry) (place : Path) : List String → Option Path
  | [] => some place
  | name :: rest =>
    if name = Route.up then follow root place.dropLast rest
    else match root.at? (place ++ [name]) with
      | none => none
      | some e =>
        if e.isDirectory || rest.isEmpty then follow root (place ++ [name]) rest else none

/-- The place that a route begins at. -/
def start (d : Disk) (r : Route) : Path :=
  match r.anchor with
  | .here => d.current
  | .root | .doubleRoot => []

/-- The place of what stands at a route, if anything does. -/
def locate (d : Disk) (r : Route) : Option Path := follow d.root (d.start r) r.names

/-- What stands at a route. -/
def entry? (d : Disk) (r : Route) : Option Entry := (d.locate r).bind (d.root.at? ·)

/-- The place for a file at a route, in a directory that exists. -/
def spot? (d : Disk) (r : Route) : Option Path := do
  let name ← r.names.getLast?
  let directory ← d.locate r.parent
  let e ← d.root.at? directory
  if e.isDirectory && name ≠ Route.up then some (directory ++ [name]) else none

/-- Puts an entry at a place. -/
def set (d : Disk) (place : Path) (e : Entry) : Disk := { d with root := Entry.put e place d.root }

/-- Follows names from a directory, making the directories that are missing. A file in
the way ends it. -/
def makeWay (d : Disk) (place : Path) : List String → Disk × Bool
  | [] => (d, true)
  | name :: rest =>
    if name = Route.up then d.makeWay place.dropLast rest
    else
      let next := place ++ [name]
      match d.root.at? next with
      | none => (d.set next .empty).makeWay next rest
      | some e => if e.isDirectory then d.makeWay next rest else (d, false)

/-- Writes a file at a route, making the directories that lead there. Tells whether it
was written. -/
def write (d : Disk) (r : Route) (octets : List UInt8) : Disk × Bool :=
  match d.makeWay (d.start r) r.parent.names with
  | (d, false) => (d, false)
  | (d, true) =>
    match d.spot? r with
    | none => (d, false)
    | some place =>
      if (d.root.at? place).any Entry.isDirectory then (d, false)
      else (d.set place (.file octets), true)

end Disk

end ProbeCatalog
