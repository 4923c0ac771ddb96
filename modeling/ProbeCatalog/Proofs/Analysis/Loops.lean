import Mathlib.Data.List.Forall2
import ProbeCatalog.Analysis
import ProbeCatalog.Proofs.Outcome

/-!
# One judgement, three loops

Scanning a block, analysing a project and diagnosing it go through candidates on their own.
Whenever they have a result, each of them sorts the candidates by the same judgement: what the
one tells as a provider the other does not tell as rejected, and nothing is left out.
-/
namespace ProbeCatalog

open Syntax

namespace Analysis

variable (extractor : Extractor)

/-- The provider that a candidate is. -/
def provider? (c : Located ClassDecl) : Option Provider :=
  match Provider.ofClass extractor c with
  | .ok p => some p
  | .error _ => none

/-- A candidate in its file, told as a provider. -/
def discovered? : String × Located ClassDecl → Option Discovered
  | (file, c) => (provider? extractor c).map (⟨file, c.pos.line, ·⟩)

/-- A candidate in its file, told as rejected. -/
def diagnostic? : String × Located ClassDecl → Option Diagnostic
  | (file, c) =>
    match Provider.ofClass extractor c with
    | .error (.rejected r) => some (diagnosticOf file c r)
    | _ => none

/-- The judgement of a candidate comes to an end: it is a provider or it is rejected. -/
def Judged (c : Located ClassDecl) : Prop :=
  ∀ u, Provider.ofClass extractor c ≠ .error (.unprintable u)

variable {extractor}

/-- The loops have this form in common: what `tell` tells of each candidate, unless a
candidate is found that cannot be judged. -/
def sift {β : Type} (extractor : Extractor) (tell : Located ClassDecl → Option β) :
    List (Located ClassDecl) → Except Printer.Unprintable (List β)
  | [] => .ok []
  | c :: cs =>
    match Provider.ofClass extractor c with
    | .error (.unprintable u) => .error u
    | _ =>
      match tell c with
      | none => sift extractor tell cs
      | some b => (sift extractor tell cs).map (b :: ·)

lemma provider?_eq_some {c : Located ClassDecl} {p : Provider} :
    provider? extractor c = some p ↔ Provider.ofClass extractor c = .ok p := by
  rw [provider?]
  cases Provider.ofClass extractor c with
  | error r =>
    constructor
    · intro h; cases h
    · intro h; cases h
  | ok q => rw [Option.some.injEq, Except.ok.injEq]

lemma accepted_eq_sift (cs : List (Located ClassDecl)) :
    Scanner.accepted extractor cs = sift extractor (provider? extractor) cs := by
  induction cs with
  | nil => rfl
  | cons c cs ih =>
    rw [Scanner.accepted, sift, provider?]
    cases hc : Provider.ofClass extractor c with
    | error e => cases e with
      | unprintable u => rfl
      | rejected r => exact ih
    | ok p => simp only [ih]

lemma discover_eq_sift (file : String) (cs : List (Located ClassDecl)) :
    discover extractor file cs = sift extractor (fun c => discovered? extractor (file, c)) cs := by
  induction cs with
  | nil => rfl
  | cons c cs ih =>
    rw [discover, sift, discovered?, provider?]
    cases hc : Provider.ofClass extractor c with
    | error e => cases e with
      | unprintable u => rfl
      | rejected r => exact ih
    | ok p => simp only [ih, Option.map_some]

lemma refuse_eq_sift (file : String) (cs : List (Located ClassDecl)) :
    refuse extractor file cs = sift extractor (fun c => diagnostic? extractor (file, c)) cs := by
  induction cs with
  | nil => rfl
  | cons c cs ih =>
    rw [refuse, sift, diagnostic?]
    cases hc : Provider.ofClass extractor c with
    | error e => cases e with
      | unprintable u => rfl
      | rejected r => simp only [ih]
    | ok p => exact ih

lemma sift_of_judged {β : Type} (tell : Located ClassDecl → Option β)
    {cs : List (Located ClassDecl)} (h : ∀ c ∈ cs, Judged extractor c) :
    sift extractor tell cs = .ok (cs.filterMap tell) := by
  induction cs with
  | nil => rfl
  | cons c cs ih =>
    obtain ⟨hc, hcs⟩ := List.forall_mem_cons.mp h
    rw [sift, List.filterMap_cons, ih hcs]
    split
    · exact absurd ‹_› (hc _)
    · cases tell c <;> rfl

lemma judged_of_sift {β : Type} {tell : Located ClassDecl → Option β}
    {cs : List (Located ClassDecl)} {bs : List β} (h : sift extractor tell cs = .ok bs) :
    ∀ c ∈ cs, Judged extractor c := by
  induction cs generalizing bs with
  | nil => exact fun _ hc => nomatch hc
  | cons c cs ih =>
    rw [sift] at h
    split at h
    · cases h
    · rename_i hc
      refine List.forall_mem_cons.mpr ⟨hc, ?_⟩
      cases hcs : sift extractor tell cs with
      | error u => rw [hcs] at h; cases htell : tell c <;> rw [htell] at h <;> cases h
      | ok bs' => exact ih hcs

lemma sift_eq_ok {β : Type} {tell : Located ClassDecl → Option β} {cs : List (Located ClassDecl)}
    {bs : List β} :
    sift extractor tell cs = .ok bs ↔
      (∀ c ∈ cs, Judged extractor c) ∧ cs.filterMap tell = bs := by
  constructor
  · intro h
    have hjudged := judged_of_sift h
    rw [sift_of_judged tell hjudged] at h
    exact ⟨hjudged, Except.ok.inj h⟩
  · rintro ⟨h, rfl⟩
    exact sift_of_judged tell h

/-- A judged candidate is told by exactly one of the two. -/
lemma told_once {c : Located ClassDecl} (h : Judged extractor c) (file : String) :
    (discovered? extractor (file, c)).isSome ≠ (diagnostic? extractor (file, c)).isSome := by
  rw [discovered?, diagnostic?, provider?]
  cases hc : Provider.ofClass extractor c with
  | error e => cases e with
    | unprintable u => exact absurd hc (h u)
    | rejected r => simp
  | ok p => simp

/-! ### Visits -/

/-- The block of a file, told with the path of the file. -/
def parsed? (root : Route) (f : Path × Entry) : Option (String × Block) :=
  match blockOf root f.1 f.2 with
  | .ok block => some (f.1.text, block)
  | .error _ => none

/-- What is wrong with a file that holds no block. -/
def unparsed? (root : Route) (f : Path × Entry) : Option FileError :=
  match blockOf root f.1 f.2 with
  | .ok _ => none
  | .error e => some e

/-- A visit reads all files first, one may say, and then looks into those that hold blocks. -/
lemma visit_eq {β : Type} (look : Look β) (root : Route) (files : List (Path × Entry)) :
    visit look root files =
      (((files.filterMap (parsed? root)).mapM fun f => look f.1 f.2).mapError Fault.unprintable).map
        fun parts => (parts.flatten, files.filterMap (unparsed? root)) := by
  induction files with
  | nil => rfl
  | cons f files ih =>
    obtain ⟨path, e⟩ := f
    rw [visit, ih, List.filterMap_cons, List.filterMap_cons, parsed?, unparsed?]
    cases hblock : blockOf root path e with
    | error error =>
      cases (files.filterMap (parsed? root)).mapM fun f => look f.1 f.2 <;> rfl
    | ok block =>
      simp only [List.mapM_cons]
      cases look path.text block with
      | error u => rfl
      | ok part => cases (files.filterMap (parsed? root)).mapM fun f => look f.1 f.2 <;> rfl

lemma visit_eq_ok {β : Type} {look : Look β} {root : Route} {files : List (Path × Entry)}
    {found : List β} {errors : List FileError} (h : visit look root files = .ok (found, errors)) :
    (∃ parts, List.Forall₂ (fun f part => look f.1 f.2 = .ok part)
        (files.filterMap (parsed? root)) parts ∧ parts.flatten = found) ∧
      files.filterMap (unparsed? root) = errors := by
  rw [visit_eq] at h
  cases hparts : (files.filterMap (parsed? root)).mapM fun f => look f.1 f.2 with
  | error u => rw [hparts] at h; cases h
  | ok parts =>
    rw [hparts] at h
    cases h
    exact ⟨⟨parts, mapM_eq_ok.mp hparts, rfl⟩, rfl⟩

lemma visitAll_eq_ok {β : Type} {look : Look β} {a : Analyzer} {root : Route} {project : Entry}
    {found : List β} {errors : List FileError}
    (h : visitAll look a root project = .ok (found, errors)) :
    ∃ matcher unread more, matcherFor a root project = .ok (matcher, unread) ∧
      visit look root (sourceFiles matcher project) = .ok (found, more) ∧
      errors = unread ++ more := by
  obtain ⟨⟨matcher, unread⟩, hmatcher, h⟩ := bind_eq_ok.mp h
  obtain ⟨⟨found', more⟩, hvisit, h⟩ := bind_eq_ok.mp h
  cases h
  exact ⟨matcher, unread, more, hmatcher, hvisit, rfl⟩

lemma parsedFiles_eq {a : Analyzer} {root : Route} {project : Entry} {matcher : Ignore.Matcher}
    {unread : List FileError} (h : matcherFor a root project = .ok (matcher, unread)) :
    parsedFiles a root project =
      .ok ((sourceFiles matcher project).filterMap (parsed? root),
        unread ++ (sourceFiles matcher project).filterMap (unparsed? root)) := by
  have hparts (files : List (String × Block)) :
      (files.mapM fun f => (.ok [(f.1, f.2)] : Except Printer.Unprintable _)) =
        .ok (files.map fun f => [f]) := by
    rw [mapM_eq_ok]
    induction files with
    | nil => exact .nil
    | cons f files ih => exact .cons rfl ih
  simp only [parsedFiles, visitAll, h, bind, Except.bind, visit_eq, hparts]
  simp only [Except.mapError, Except.map, pure, Except.pure, ← List.flatMap_def,
    List.flatMap_singleton']

/-! ### Candidates of a whole project -/

/-- The candidates in parsed files, file after file, each with the path of its file. -/
def allCandidates (a : Analyzer) (files : List (String × Block)) :
    List (String × Located ClassDecl) :=
  files.flatMap fun f => (candidatesOf a f.2).map (f.1, ·)

/-- What visits to the files tell, said of the candidates of all of them. -/
lemma flatten_sifted {β : Type} {a : Analyzer} (tell : String × Located ClassDecl → Option β)
    {files : List (String × Block)} {parts : List (List β)}
    (h : List.Forall₂ (fun f part =>
      sift a.extractor (fun c => tell (f.1, c)) (candidatesOf a f.2) = .ok part) files parts) :
    (∀ f ∈ allCandidates a files, Judged a.extractor f.2) ∧
      parts.flatten = (allCandidates a files).filterMap tell := by
  induction h with
  | nil =>
    constructor
    · intro f hf
      cases hf
    · rfl
  | @cons f part files parts hpart _ ih =>
    obtain ⟨hjudged, rfl⟩ := sift_eq_ok.mp hpart
    rw [allCandidates, List.flatMap_cons, ← allCandidates]
    constructor
    · intro g hg
      rcases List.mem_append.mp hg with hg | hg
      · obtain ⟨c, hc, rfl⟩ := List.mem_map.mp hg
        exact hjudged c hc
      · exact ih.1 g hg
    · rw [List.flatten_cons, ih.2, List.filterMap_append, List.filterMap_map]
      rfl

/-- A part of the findings of an analysis is a scan of the block that it comes from. -/
lemma scan_of_discover {a : Analyzer} {file : String} {block : Block} {part : List Discovered}
    (h : discover a.extractor file (candidatesOf a block) = .ok part) :
    (∀ d ∈ part, d.file = file) ∧
      Scanner.scan a.extractor (.names a.markers) block = .ok (part.map (·.provider)) := by
  rw [discover_eq_sift, sift_eq_ok] at h
  obtain ⟨hjudged, rfl⟩ := h
  constructor
  · intro d hd
    obtain ⟨c, -, hd⟩ := List.mem_filterMap.mp hd
    obtain ⟨p, -, rfl⟩ := Option.map_eq_some_iff.mp hd
    rfl
  · rw [Scanner.scan, accepted_eq_sift, sift_eq_ok]
    refine ⟨hjudged, ?_⟩
    rw [List.map_filterMap]
    simp only [discovered?, Option.map_map, Function.comp_def, Option.map_id']
    rfl

/-- Providers and diagnostics told of parsed files: the candidates that are accepted and those
that are rejected, in the order of all candidates, each told once. The part of a file is what
the scan of its block gives. -/
structure Agreement (a : Analyzer) (files : List (String × Block)) (found : List Discovered)
    (told : List Diagnostic) : Prop where
  accepted : found = (allCandidates a files).filterMap (discovered? a.extractor)
  rejected : told = (allCandidates a files).filterMap (diagnostic? a.extractor)
  once : ∀ c ∈ allCandidates a files,
    (discovered? a.extractor c).isSome ≠ (diagnostic? a.extractor c).isSome
  scans : ∃ parts : List (List Discovered), found = parts.flatten ∧
    List.Forall₂ (fun f part => (∀ d ∈ part, d.file = f.1) ∧
      Scanner.scan a.extractor (.names a.markers) f.2 = .ok (part.map (·.provider))) files parts

lemma agreement {a : Analyzer} {root : Route} {project : Entry} {providers : List Discovered}
    {diagnostics : List Diagnostic} {errors errors' : List FileError}
    (ha : analyze a root project = .ok (providers, errors))
    (hd : diagnose a root project = .ok (diagnostics, errors')) :
    ∃ files, parsedFiles a root project = .ok (files, errors) ∧ errors' = errors ∧
      Agreement a files providers diagnostics := by
  obtain ⟨matcher, unread, more, hmatcher, hvisit, rfl⟩ := visitAll_eq_ok ha
  obtain ⟨matcher', unread', more', hmatcher', hvisit', rfl⟩ := visitAll_eq_ok hd
  rw [hmatcher] at hmatcher'
  cases hmatcher'
  obtain ⟨⟨parts, hparts, rfl⟩, rfl⟩ := visit_eq_ok hvisit
  obtain ⟨⟨parts', hparts', rfl⟩, rfl⟩ := visit_eq_ok hvisit'
  have hfound := flatten_sifted (discovered? a.extractor)
    (hparts.imp fun f part h => by rwa [← discover_eq_sift])
  have hrefused := flatten_sifted (diagnostic? a.extractor)
    (hparts'.imp fun f part h => by rwa [← refuse_eq_sift])
  refine ⟨_, parsedFiles_eq hmatcher, rfl, hfound.2, hrefused.2, ?_, parts, rfl, ?_⟩
  · exact fun c hc => told_once (hfound.1 c hc) c.1
  · exact hparts.imp fun f part h => scan_of_discover h

end Analysis

end ProbeCatalog
