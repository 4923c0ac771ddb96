import ProbeCatalog.Proofs.Analysis.Loops
import ProbeCatalog.Proofs.Project.Edits

/-!
# One source file of a project

Two projects that differ in one source file: all that an analysis tells of other files is the same
for both.
-/
namespace ProbeCatalog

open Syntax

/-- One source file of a project is added, changed or removed. -/
def SourceEdit (q : Path) (project project' : Entry) : Prop :=
  q.getLast?.any Analysis.isSourceName = true ∧
    ∃ es es', project = .directory es ∧ project' = .directory es' ∧ SameBut q es es'

namespace Analysis

/-- What is found in both projects away from the edited file is the same, as it reads. -/
lemma find_edited {q : Path} {project project' : Entry} (h : SourceEdit q project project')
    (root : Route) {wanted : String → Bool} (hw : Entry.Ordinary wanted) :
    ((project.find wanted).filter fun f => decide (f.1 ≠ q)).map (glance root) =
      ((project'.find wanted).filter fun f => decide (f.1 ≠ q)).map (glance root) := by
  obtain ⟨-, es, es', rfl, rfl, hes⟩ := h
  exact find_sameBut hes root hw

/-! ### Ignore files -/

/-- A source file is no ignore file. -/
lemma ignoreFiles_away {q : Path} (hq : q.getLast?.any isSourceName = true) (project : Entry) :
    ((project.find (· = Ignore.fileName)).filter fun f => decide (f.1 ≠ q)) =
      project.find (· = Ignore.fileName) := by
  rw [List.filter_eq_self]
  intro f hf
  rw [Entry.find, List.mem_mergeSort, List.mem_filter] at hf
  rw [decide_eq_true_eq]
  rintro rfl
  cases hlast : f.1.getLast? with
  | none => rw [hlast] at hq; cases hq
  | some name =>
    have hname : name = Ignore.fileName := by simpa [hlast] using hf.2
    rw [hlast, hname] at hq
    exact absurd hq (by decide)

lemma allLines_edited {q : Path} {project project' : Entry} (h : SourceEdit q project project')
    (root : Route) : Ignore.allLines root project = Ignore.allLines root project' := by
  have hlines (project : Entry) : (project.find (· = Ignore.fileName)).mapM (Ignore.linesOf root) =
      (((project.find (· = Ignore.fileName)).filter fun f => decide (f.1 ≠ q)).map
        (glance root)).mapM scopedLines := by
    rw [ignoreFiles_away h.1, List.mapM_map]
    rfl
  rw [Ignore.allLines, Ignore.allLines, hlines, hlines, find_edited h root ordinary_ignore]

lemma matcherFor_edited {q : Path} {project project' : Entry} (h : SourceEdit q project project')
    (a : Analyzer) (root : Route) : matcherFor a root project = matcherFor a root project' := by
  rw [matcherFor, matcherFor, Ignore.rulesOf, Ignore.rulesOf, allLines_edited h root]

/-! ### Source files -/

lemma sourceFiles_edited {q : Path} {project project' : Entry} (h : SourceEdit q project project')
    (matcher : Ignore.Matcher) (root : Route) :
    ((sourceFiles matcher project).filter fun f => decide (f.1 ≠ q)).map (glance root) =
      ((sourceFiles matcher project').filter fun f => decide (f.1 ≠ q)).map (glance root) := by
  have hfiles (project : Entry) :
      ((sourceFiles matcher project).filter fun f => decide (f.1 ≠ q)).map (glance root) =
        (((project.find isSourceName).filter fun f => decide (f.1 ≠ q)).map (glance root)).filter
          fun f => !f.1.contains controlName && !matcher f.1.text.toList := by
    rw [sourceFiles, List.filter_map, List.filter_filter, List.filter_filter]
    simp only [Bool.and_comm]
    rfl
  rw [hfiles, hfiles, find_edited h root ordinary_source]

/-- What is told of files other than the one at a path needs no look at that one. -/
lemma filterMap_away {β : Type} {tell : Path × Entry → Option β} {file : β → String}
    (hfile : ∀ f b, tell f = some b → file b = f.1.text) (q : Path)
    (files : List (Path × Entry)) :
    (files.filterMap tell).filter (fun b => decide (file b ≠ q.text)) =
      ((files.filter fun f => decide (f.1 ≠ q)).filterMap tell).filter
        fun b => decide (file b ≠ q.text) := by
  induction files with
  | nil => rfl
  | cons f files ih =>
    by_cases hq : f.1 = q
    · rw [List.filter_cons_of_neg (by simp [hq]), ← ih, List.filterMap_cons]
      cases htell : tell f with
      | none => rfl
      | some b =>
        have hb : file b = q.text := by rw [hfile f b htell, hq]
        rw [List.filter_cons_of_neg (by simp [hb])]
    · rw [List.filter_cons_of_pos (by simp [hq]), List.filterMap_cons, List.filterMap_cons]
      cases htell : tell f with
      | none => exact ih
      | some b => rw [List.filter_cons, List.filter_cons, ih]

/-- What is told of the other files of both projects is the same, if it is told from how the
files read. -/
lemma told_edited {β : Type} {q : Path} {project project' : Entry}
    (h : SourceEdit q project project') (matcher : Ignore.Matcher) (root : Route)
    {tell : Path × Entry → Option β} {file : β → String}
    (hfile : ∀ f b, tell f = some b → file b = f.1.text)
    (htell : ∃ g, tell = g ∘ glance root) :
    ((sourceFiles matcher project).filterMap tell).filter (fun b => decide (file b ≠ q.text)) =
      ((sourceFiles matcher project').filterMap tell).filter
        fun b => decide (file b ≠ q.text) := by
  obtain ⟨g, rfl⟩ := htell
  rw [filterMap_away hfile, filterMap_away hfile q (sourceFiles matcher project'),
    ← List.filterMap_map, ← List.filterMap_map, sourceFiles_edited h matcher root]

/-- The same of the candidates in files. -/
lemma allCandidates_away {β : Type} {tell : String × Located ClassDecl → Option β}
    {file : β → String} (hfile : ∀ c b, tell c = some b → file b = c.1) (a : Analyzer)
    (path : String) (files : List (String × Block)) :
    ((allCandidates a files).filterMap tell).filter (fun b => decide (file b ≠ path)) =
      (allCandidates a (files.filter fun f => decide (f.1 ≠ path))).filterMap tell := by
  have hpart (f : String × Block) :
      ∀ b ∈ ((candidatesOf a f.2).map (f.1, ·)).filterMap tell, file b = f.1 := by
    intro b hb
    obtain ⟨c, hc, hb⟩ := List.mem_filterMap.mp hb
    obtain ⟨_, -, rfl⟩ := List.mem_map.mp hc
    exact hfile _ b hb
  induction files with
  | nil => rfl
  | cons f files ih =>
    rw [allCandidates, List.flatMap_cons, ← allCandidates, List.filterMap_append,
      List.filter_append, ih]
    by_cases hf : f.1 = path
    · have hnone : (((candidatesOf a f.2).map (f.1, ·)).filterMap tell).filter
          (fun b => decide (file b ≠ path)) = [] := by
        rw [List.filter_eq_nil_iff]
        intro b hb
        simp [hpart f b hb, hf]
      rw [hnone, List.nil_append, List.filter_cons_of_neg (by simp [hf])]
    · have hall : (((candidatesOf a f.2).map (f.1, ·)).filterMap tell).filter
          (fun b => decide (file b ≠ path)) =
            ((candidatesOf a f.2).map (f.1, ·)).filterMap tell := by
        rw [List.filter_eq_self]
        intro b hb
        simp [hpart f b hb, hf]
      rw [hall, List.filter_cons_of_pos (by simp [hf]), allCandidates, allCandidates,
        List.flatMap_cons, List.filterMap_append]

/-! ### The parsed files of both projects -/

lemma parsed?_file (root : Route) (f : Path × Entry) (b : String × Block)
    (h : parsed? root f = some b) : b.1 = f.1.text := by
  rw [parsed?] at h
  split at h
  · cases h; rfl
  · cases h

lemma blockOf_file {root : Route} {path : Path} {e : Entry} {error : FileError}
    (h : blockOf root path e = .error error) : error.file = path.text := by
  rw [blockOf] at h
  split at h
  · cases h; rfl
  · split at h
    · cases h; rfl
    · cases h

lemma unparsed?_file (root : Route) (f : Path × Entry) (e : FileError)
    (h : unparsed? root f = some e) : e.file = f.1.text := by
  rw [unparsed?] at h
  split at h
  · cases h
  · rename_i hblock
    cases h
    exact blockOf_file hblock

/-- The block of a file, or what is wrong with it, told from how the file reads. -/
def blockFrom (f : Path × Except Entry.ReadFault (List Char)) : Except FileError Block :=
  match f.2 with
  | .error e => .error ⟨f.1.text, e.message⟩
  | .ok source =>
    match parseModule source with
    | none => .error ⟨f.1.text, "source does not parse"⟩
    | some block => .ok block

lemma blockOf_eq (root : Route) (f : Path × Entry) :
    blockOf root f.1 f.2 = blockFrom (glance root f) := rfl

/-- The error of a file that cannot be read or parsed. -/
def errorFrom (f : Path × Except Entry.ReadFault (List Char)) : Option FileError :=
  match blockFrom f with
  | .ok _ => none
  | .error e => some e

lemma parsedFiles_edited {q : Path} {project project' : Entry} (h : SourceEdit q project project')
    {a : Analyzer} {root : Route} {files files' : List (String × Block)}
    {errors errors' : List FileError} (hfiles : parsedFiles a root project = .ok (files, errors))
    (hfiles' : parsedFiles a root project' = .ok (files', errors')) :
    files.filter (fun f => decide (f.1 ≠ q.text)) = files'.filter (fun f => decide (f.1 ≠ q.text)) ∧
      errors.filter (fun e => decide (e.file ≠ q.text)) =
        errors'.filter fun e => decide (e.file ≠ q.text) := by
  obtain ⟨matcher, unread, -, hmatcher, -⟩ := visitAll_eq_ok hfiles
  have hmatcher' := hmatcher
  rw [matcherFor_edited h] at hmatcher'
  rw [parsedFiles_eq hmatcher] at hfiles
  rw [parsedFiles_eq hmatcher'] at hfiles'
  cases hfiles
  cases hfiles'
  have hparsed := told_edited h matcher root (parsed?_file root)
    ⟨fun f => (blockFrom f).toOption.map (f.1.text, ·), by
      funext f
      rw [parsed?, blockOf_eq]
      simp only [Function.comp_apply]
      cases blockFrom (glance root f) <;> rfl⟩
  have hunparsed := told_edited h matcher root (unparsed?_file root) ⟨errorFrom, rfl⟩
  refine ⟨hparsed, ?_⟩
  rw [List.filter_append, List.filter_append, hunparsed]

/-- The three loops of a project that is analysed and diagnosed. Both give the same errors;
the providers of the one and the diagnostics of the other are the candidates in all parsed
files, each told once, in order, and the part of each file is a scan of it. What is told of
other files stays the same when one source file is added, changed or removed. -/
theorem analyze_diagnose {a : Analyzer} {root : Route} {project : Entry}
    {found : List Discovered} {told : List Diagnostic} {errors errors' : List FileError}
    (ha : analyze a root project = .ok (found, errors))
    (hd : diagnose a root project = .ok (told, errors')) :
    errors' = errors ∧
    (∃ files, parsedFiles a root project = .ok (files, errors) ∧ Agreement a files found told) ∧
    (∀ q project' found₂ told₂ errors₂ errors₂', SourceEdit q project project' →
      analyze a root project' = .ok (found₂, errors₂) →
      diagnose a root project' = .ok (told₂, errors₂') →
      found.filter (fun d => decide (d.file ≠ q.text)) =
          found₂.filter (fun d => decide (d.file ≠ q.text)) ∧
        told.filter (fun d => decide (d.file ≠ q.text)) =
          told₂.filter (fun d => decide (d.file ≠ q.text)) ∧
        errors.filter (fun e => decide (e.file ≠ q.text)) =
          errors₂.filter fun e => decide (e.file ≠ q.text)) := by
  obtain ⟨files, hfiles, rfl, hagree⟩ := agreement ha hd
  refine ⟨rfl, ⟨files, hfiles, hagree⟩, ?_⟩
  intro q project' found₂ told₂ errors₂ errors₂' hedit ha₂ hd₂
  obtain ⟨files₂, hfiles₂, rfl, hagree₂⟩ := agreement ha₂ hd₂
  obtain ⟨hsame, herrors⟩ := parsedFiles_edited hedit hfiles hfiles₂
  have hfound : ∀ c d, discovered? a.extractor c = some d → d.file = c.1 := by
    intro c d hcd
    obtain ⟨p, -, rfl⟩ := Option.map_eq_some_iff.mp hcd
    rfl
  have htold : ∀ c d, diagnostic? a.extractor c = some d → d.file = c.1 := by
    intro c d hcd
    rw [diagnostic?] at hcd
    split at hcd
    · cases hcd; rfl
    · cases hcd
  refine ⟨?_, ?_, herrors⟩
  · rw [hagree.accepted, hagree₂.accepted, allCandidates_away hfound, allCandidates_away hfound,
      hsame]
  · rw [hagree.rejected, hagree₂.rejected, allCandidates_away htold, allCandidates_away htold,
      hsame]

/-- The analyzer that commands use when they are given no markers. -/
def usual : Analyzer := ⟨extract, Marker.defaults, none⟩

/-- The way to the directory one is in. -/
def here : Route := ⟨.here, []⟩

/-- A visit to a project without ignore files whose source files stand in order. -/
lemma visitAll_of_sorted {β : Type} (look : Look β) (project : Entry)
    (hi : ((Entry.contents project).filter fun f =>
      f.1.getLast?.any (· = Ignore.fileName)) = [])
    (hs : ((Entry.contents project).filter fun f => f.1.getLast?.any isSourceName).Pairwise
      fun a b => a.1.le b.1 = true) :
    visitAll look usual here project = visit look here
      (((Entry.contents project).filter fun f => f.1.getLast?.any isSourceName).filter
        fun (path, _) =>
          !path.contains controlName && !Ignore.excludes [] path.text.toList) := by
  have hignore : project.find (· = Ignore.fileName) = [] := by
    rw [Entry.find_of_sorted (by rw [hi]; exact .nil), hi]
  have hmatcher : matcherFor usual here project = .ok (Ignore.excludes [], []) := by
    simp only [matcherFor, usual, Ignore.rulesOf, Ignore.allLines, hignore]
    rfl
  rw [visitAll, hmatcher]
  simp only [bind, Except.bind, sourceFiles, Entry.find_of_sorted hs]
  generalize visit look here _ = r
  cases r with
  | error e => rfl
  | ok r => rfl

/-- A project with a provider in one file, and with a second file that does not parse. -/
def sample (files : Nat) : Entry :=
  .directory (([("a.py", .file (Utf8.encode "@tracer\nclass A:\n    pass\n".toList)),
    ("b.py", .file (Utf8.encode "class".toList))]).take files)

lemma analyze_sample (n : Nat) (hn : n < 3) : Succeeds (analyze usual here (sample n)) := by
  apply succeeds_of_isSome
  rw [analyze, visitAll_of_sorted]
  · revert n; decide +kernel
  · revert n; decide +kernel
  · revert n; decide +kernel

lemma diagnose_sample (n : Nat) (hn : n < 3) : Succeeds (diagnose usual here (sample n)) := by
  apply succeeds_of_isSome
  rw [diagnose, visitAll_of_sorted]
  · revert n; decide +kernel
  · revert n; decide +kernel
  · revert n; decide +kernel

lemma edit_sample : SourceEdit ["b.py"] (sample 1) (sample 2) :=
  ⟨by decide, _, _, rfl, rfl, .here [_] [] (.nothing _) (.file rfl)⟩

theorem analyze_diagnose_sample : ∃ found told errors found₂ told₂ errors₂,
    analyze usual here (sample 1) = .ok (found, errors) ∧
    diagnose usual here (sample 1) = .ok (told, errors) ∧
    analyze usual here (sample 2) = .ok (found₂, errors₂) ∧
    diagnose usual here (sample 2) = .ok (told₂, errors₂) ∧
    found.filter (fun d => decide (d.file ≠ Path.text ["b.py"])) =
      found₂.filter (fun d => decide (d.file ≠ Path.text ["b.py"])) := by
  obtain ⟨⟨found, errors⟩, ha⟩ := analyze_sample 1 (by decide)
  obtain ⟨⟨told, errors'⟩, hd⟩ := diagnose_sample 1 (by decide)
  obtain ⟨⟨found₂, errors₂⟩, ha₂⟩ := analyze_sample 2 (by decide)
  obtain ⟨⟨told₂, errors₂'⟩, hd₂⟩ := diagnose_sample 2 (by decide)
  obtain ⟨rfl, -, hlocal⟩ := analyze_diagnose ha hd
  obtain ⟨rfl, -⟩ := analyze_diagnose ha₂ hd₂
  exact ⟨found, told, _, found₂, told₂, _, ha, hd, ha₂, hd₂,
    (hlocal _ _ _ _ _ _ edit_sample ha₂ hd₂).1⟩

end Analysis

end ProbeCatalog
