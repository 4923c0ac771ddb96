import ProbeCatalog.Ignore.Matcher
import ProbeCatalog.Scanner

/-!
# Analysing a project

The source files of a project are visited in the order of their paths; ignored files and
those of the version control are passed over. The candidates in each file are either
providers or rejected: `analyze` tells the providers, `diagnose` what is wrong with the
others. A file that cannot be read is an error of its own for both.
-/
namespace ProbeCatalog

open Syntax

/-- A provider and where it was found. -/
structure Discovered where
  file : String
  line : Nat
  provider : Provider

/-- A candidate that is no provider, and why. -/
structure Diagnostic where
  file : String
  className : String
  line : Nat
  message : String
  deriving DecidableEq

/-- A file that could not be used. -/
structure FileError where
  file : String
  message : String
  deriving DecidableEq

namespace Analysis

/-- What ends an analysis without a result. -/
inductive Fault where
  | pattern (f : PatternFault)
  | unprintable (u : Printer.Unprintable)

/-- What an analysis looks for and how. -/
structure Analyzer where
  extractor : Extractor
  markers : List String
  /-- What tells which files are ignored; if nothing does, the ignore files of the project. -/
  matcher : Option Ignore.Matcher

/-- The name of a source file. -/
def isSourceName (name : String) : Bool := ['.', 'p', 'y'].isSuffixOf name.toList

/-- The name of the directory of the version control. -/
def controlName : String := ".git"

/-- The matcher to go by, and the error if the ignore files could not be read. -/
def matcherFor (a : Analyzer) (root : Route) (project : Entry) :
    Except Fault (Ignore.Matcher × List FileError) :=
  match a.matcher with
  | some matcher => .ok (matcher, [])
  | none =>
    match Ignore.rulesOf root project with
    | .ok rules => .ok (Ignore.excludes rules, [])
    | .error (.unread f) => .ok (Ignore.excludes [], [⟨Ignore.fileName, f.message⟩])
    | .error (.pattern f) => .error (.pattern f)

/-- The source files to visit, in order. -/
def sourceFiles (matcher : Ignore.Matcher) (project : Entry) : List (Path × Entry) :=
  (project.find isSourceName).filter fun (path, _) =>
    !path.contains controlName && !matcher path.text.toList

/-- The block that a file holds. -/
def blockOf (root : Route) (path : Path) (e : Entry) : Except FileError Block :=
  match e.read (root.join path).text with
  | .error f => .error ⟨path.text, f.message⟩
  | .ok source =>
    match parseModule source with
    | none => .error ⟨path.text, "source does not parse"⟩
    | some block => .ok block

/-- What a look into a file gives, if nothing stops the analysis there. -/
abbrev Look (α : Type) := String → Block → Except Printer.Unprintable (List α)

/-- Visits files one after the other and looks into each that holds a block. The errors of
the others are noted on the way. -/
def visit {α : Type} (look : Look α) (root : Route) :
    List (Path × Entry) → Except Fault (List α × List FileError)
  | [] => .ok ([], [])
  | (path, e) :: files =>
    match blockOf root path e with
    | .error error => do
      let (found, errors) ← visit look root files
      pure (found, error :: errors)
    | .ok block => do
      let here ← (look path.text block).mapError Fault.unprintable
      let (found, errors) ← visit look root files
      pure (here ++ found, errors)

/-- Visits the source files of a project that stands at a path. -/
def visitAll {α : Type} (look : Look α) (a : Analyzer) (root : Route) (project : Entry) :
    Except Fault (List α × List FileError) := do
  let (matcher, unread) ← matcherFor a root project
  let (found, errors) ← visit look root (sourceFiles matcher project)
  pure (found, unread ++ errors)

/-- The files that hold blocks, in the order in which they are visited. -/
def parsedFiles (a : Analyzer) (root : Route) (project : Entry) :
    Except Fault (List (String × Block) × List FileError) :=
  visitAll (fun file block => .ok [(file, block)]) a root project

/-- The candidates of a file. -/
def candidatesOf (a : Analyzer) (block : Block) : List (Located ClassDecl) :=
  Scanner.candidates (.names a.markers) block

/-- The providers among the candidates of a file. -/
def discover (extractor : Extractor) (file : String) :
    List (Located ClassDecl) → Except Printer.Unprintable (List Discovered)
  | [] => .ok []
  | c :: cs =>
    match Provider.ofClass extractor c with
    | .error (.unprintable u) => .error u
    | .error (.rejected _) => discover extractor file cs
    | .ok p => (discover extractor file cs).map (⟨file, c.pos.line, p⟩ :: ·)

/-- What is wrong with a candidate of a file. It is told at the place that the rejection
names, or else at the candidate. -/
def diagnosticOf (file : String) (c : Located ClassDecl) (r : Rejection) : Diagnostic :=
  ⟨file, c.value.name, (r.site.map (·.pos.line)).getD c.pos.line, r.message⟩

/-- What is wrong with those candidates of a file that are no providers. -/
def refuse (extractor : Extractor) (file : String) :
    List (Located ClassDecl) → Except Printer.Unprintable (List Diagnostic)
  | [] => .ok []
  | c :: cs =>
    match Provider.ofClass extractor c with
    | .error (.unprintable u) => .error u
    | .ok _ => refuse extractor file cs
    | .error (.rejected r) => (refuse extractor file cs).map (diagnosticOf file c r :: ·)

/-- The providers of a project that stands at a path, and the files that could not be used. -/
def analyze (a : Analyzer) (root : Route) (project : Entry) :
    Except Fault (List Discovered × List FileError) :=
  visitAll (fun file block => discover a.extractor file (candidatesOf a block)) a root project

/-- The candidates of a project that are no providers, and the files that could not be used. -/
def diagnose (a : Analyzer) (root : Route) (project : Entry) :
    Except Fault (List Diagnostic × List FileError) :=
  visitAll (fun file block => refuse a.extractor file (candidatesOf a block)) a root project

/-- Settings that name no matcher of their own: either the ignore files count, or nothing is
ignored. -/
structure Setup where
  extractor : Extractor
  markers : List String
  respectsIgnore : Bool

/-- The analyzer of settings. -/
def Setup.analyzer (s : Setup) : Analyzer :=
  ⟨s.extractor, s.markers, if s.respectsIgnore then none else some (Ignore.excludes [])⟩

/-- All that an analysis and a diagnosis tell. -/
structure Findings where
  providers : List Discovered
  diagnostics : List Diagnostic
  errors : List FileError

/-- Analyses and diagnoses a project that stands at a path. -/
def survey (s : Setup) (root : Route) (project : Entry) : Except Fault Findings := do
  let (providers, errors) ← analyze s.analyzer root project
  let (diagnostics, _) ← diagnose s.analyzer root project
  pure ⟨providers, diagnostics, errors⟩

end Analysis

end ProbeCatalog
