import ProbeCatalog.Ignore.Rule
import ProbeCatalog.Project.Route

/-!
# Ignored paths

The rules of a project are those of its ignore files in the order of their paths. The
lines of a file in a directory are first given the path of the directory as scope. A
path is ignored if the rules leave out the path itself or a directory on the way to it.
-/
namespace ProbeCatalog.Ignore

/-- The head of a character list if it is a given character, and the rest. -/
def splitMark (mark : Char) : List Char → List Char × List Char
  | [] => ([], [])
  | c :: cs => if c = mark then ([mark], cs) else ([], c :: cs)

/-- A line that the scope is not put into: blank, a comment, or with an escaped mark. -/
def isUnscoped (line : List Char) : Bool :=
  match trim line with
  | [] => true
  | '#' :: _ => true
  | _ => ['\\', '!'].isPrefixOf line || ['\\', '#'].isPrefixOf line

/-- A line of an ignore file in a directory, said from the root of the project. -/
def inScope (scope line : List Char) : List Char :=
  if scope.isEmpty || isUnscoped line then line
  else
    let (negation, pattern) := splitMark '!' line
    let (anchor, pattern) := splitMark '/' pattern
    negation ++ anchor ++ scope ++ (if pattern.isEmpty then [] else '/' :: pattern)

/-- The name of ignore files. -/
def fileName : String := ".gitignore"

/-- Why a project has no rules. -/
inductive Fault where
  | unread (f : Entry.ReadFault)
  | pattern (f : PatternFault)
  deriving DecidableEq

/-- The lines of an ignore file, scoped to its directory. -/
def linesOf (root : Route) (found : Path × Entry) :
    Except Entry.ReadFault (List (List Char)) := do
  let text ← found.2.read (root.join found.1).text
  pure ((lines text).map (inScope (Path.text found.1.dropLast).toList))

/-- The lines of all ignore files of a project that stands at a path. -/
def allLines (root : Route) (project : Entry) : Except Entry.ReadFault (List (List Char)) := do
  let files ← (project.find (· = fileName)).mapM (linesOf root)
  pure files.flatten

/-- The rules of a project that stands at a path. -/
def rulesOf (root : Route) (project : Entry) : Except Fault (List IgnoreRule) := do
  let all ← (allLines root project).mapError Fault.unread
  (IgnoreRule.ofLines (all.filter (!·.isEmpty))).mapError Fault.pattern

/-- A path as rules take it: without a slash, or else a dot and a slash, at its head. -/
def relative : List Char → List Char
  | '/' :: rest => rest
  | '.' :: '/' :: rest => rest
  | path => path

/-- The rules leave out a path. -/
def leavesOut (rules : List IgnoreRule) (path : List Char) : Bool :=
  IgnoreRule.verdict rules (relative path) = some true

/-- The rules leave out a path that goes on from a directory, or a directory on the way. -/
def excludesFrom (rules : List IgnoreRule) (directory : List Char) : List (List Char) → Bool
  | [] => false
  | [name] => leavesOut rules (directory ++ name)
  | name :: rest =>
    let inner := directory ++ name ++ ['/']
    leavesOut rules inner || excludesFrom rules inner rest

/-- What tells of the path of a file, as text, that the file is ignored. -/
abbrev Matcher := List Char → Bool

/-- A path is ignored. -/
def excludes (rules : List IgnoreRule) (path : List Char) : Bool :=
  excludesFrom rules [] ((Table.cut '/' path).filter (!·.isEmpty))

end ProbeCatalog.Ignore
