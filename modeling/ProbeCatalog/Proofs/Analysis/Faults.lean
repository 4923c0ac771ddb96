import ProbeCatalog.Proofs.Analysis.Loops
import ProbeCatalog.Proofs.Analysis.Locality
import ProbeCatalog.Proofs.Provider.Canonical

/-!
# What an analysis survives

A file that cannot be read or parsed, a candidate that breaks a rule and ignore files that cannot
be read cost their own entries only. Two faults are not contained: a line of an ignore file that
makes no pattern, and a class in order whose head has no text. `Sound` says that a project has
neither, and then, and only then, does an analysis have a result.
-/
namespace ProbeCatalog

open Syntax

namespace Analysis

/-- Each line of the ignore files makes a rule or none, if all of the files can be read; and all
classes in order among the candidates have heads that can be printed. -/
structure Sound (a : Analyzer) (root : Route) (project : Entry) : Prop where
  lines : ∀ all, Ignore.allLines root project = .ok all →
    ∀ line ∈ all, line ≠ [] → Succeeds (IgnoreRule.ofLine line)
  heads : ∀ files errors, parsedFiles a root project = .ok (files, errors) →
    ∀ c ∈ allCandidates a files, ∀ probes,
      Provider.findProbes a.extractor c.2 = .ok probes → HeadRenders c.2.value

/-- The matcher that the ignore files of a project stand for, with the error that is noted. Files
that cannot be read count as if there were none. -/
inductive GoesBy (root : Route) (project : Entry) : Ignore.Matcher → List FileError → Prop
  | rules {rules : List IgnoreRule} (h : Ignore.rulesOf root project = .ok rules) :
    GoesBy root project (Ignore.excludes rules) []
  | unread {f : Entry.ReadFault} (h : Ignore.allLines root project = .error f) :
    GoesBy root project (Ignore.excludes []) [⟨Ignore.fileName, f.message⟩]

/-! ### Ignore files -/

lemma succeeds_ofLines {lines : List (List Char)} :
    Succeeds (IgnoreRule.ofLines lines) ↔ ∀ line ∈ lines, Succeeds (IgnoreRule.ofLine line) := by
  induction lines with
  | nil => exact iff_of_true ⟨[], rfl⟩ nofun
  | cons line lines ih =>
    rw [IgnoreRule.ofLines, succeeds_two, List.forall_mem_cons, ih]

lemma succeeds_mapError {ε ε' α : Type} {f : ε → ε'} {x : Except ε α} :
    Succeeds (x.mapError f) ↔ Succeeds x := by
  cases x with
  | error e => exact iff_of_false (fun ⟨_, h⟩ => nomatch h) (fun ⟨_, h⟩ => nomatch h)
  | ok a => exact iff_of_true ⟨a, rfl⟩ ⟨a, rfl⟩

/-- The lines make a matcher. -/
lemma matcherFor_of_lines {a : Analyzer} {root : Route} {project : Entry} (ha : a.matcher = none)
    (h : ∀ all, Ignore.allLines root project = .ok all →
      ∀ line ∈ all, line ≠ [] → Succeeds (IgnoreRule.ofLine line)) :
    ∃ matcher unread, matcherFor a root project = .ok (matcher, unread) ∧
      GoesBy root project matcher unread := by
  cases hall : Ignore.allLines root project with
  | error f =>
    refine ⟨_, _, ?_, .unread hall⟩
    simp only [matcherFor, ha, Ignore.rulesOf, hall, Except.mapError, bind, Except.bind]
  | ok all =>
    have hlines : Succeeds (IgnoreRule.ofLines (all.filter (!·.isEmpty))) := by
      rw [succeeds_ofLines]
      intro line hline
      obtain ⟨hmem, hne⟩ := List.mem_filter.mp hline
      exact h all hall line hmem (by simpa using hne)
    obtain ⟨rules, hrules⟩ := hlines
    have hok : Ignore.rulesOf root project = .ok rules := by
      simp only [Ignore.rulesOf, hall, Except.mapError, bind, Except.bind, hrules]
    refine ⟨_, _, ?_, .rules hok⟩
    simp only [matcherFor, ha, hok]

lemma lines_of_matcherFor {a : Analyzer} {root : Route} {project : Entry} (ha : a.matcher = none)
    (h : Succeeds (matcherFor a root project)) (all : List (List Char))
    (hall : Ignore.allLines root project = .ok all) :
    ∀ line ∈ all, line ≠ [] → Succeeds (IgnoreRule.ofLine line) := by
  have hlines : Succeeds (IgnoreRule.ofLines (all.filter (!·.isEmpty))) := by
    by_contra hno
    obtain ⟨f, hf⟩ := not_succeeds.mp hno
    obtain ⟨r, hr⟩ := h
    simp only [matcherFor, ha, Ignore.rulesOf, hall, Except.mapError, bind, Except.bind, hf] at hr
    cases hr
  rw [succeeds_ofLines] at hlines
  intro line hline hne
  exact hlines line (List.mem_filter.mpr ⟨hline, by simpa using hne⟩)

/-! ### Candidates -/

lemma judged_iff {c : Located ClassDecl} :
    Judged extract c ↔
      ∀ probes, Provider.findProbes extract c = .ok probes → HeadRenders c.value := by
  constructor
  · intro h probes hprobes
    rw [← succeeds_text hprobes]
    by_contra hno
    obtain ⟨u, hu⟩ := not_succeeds.mp hno
    exact h u (by simp only [Provider.ofClass, hprobes, Provider.describe, hu])
  · intro h u hu
    rw [Provider.ofClass] at hu
    split at hu
    · cases hu
    · rename_i probes hprobes
      obtain ⟨text, htext⟩ := (succeeds_text hprobes).mpr (h probes hprobes)
      rw [Provider.describe, htext] at hu
      cases hu

lemma succeeds_sift {β : Type} {extractor : Extractor} {tell : Located ClassDecl → Option β}
    {cs : List (Located ClassDecl)} :
    Succeeds (sift extractor tell cs) ↔ ∀ c ∈ cs, Judged extractor c := by
  constructor
  · rintro ⟨bs, h⟩
    exact judged_of_sift h
  · exact fun h => ⟨_, sift_of_judged tell h⟩

lemma forall_allCandidates {a : Analyzer} {files : List (String × Block)}
    {p : Located ClassDecl → Prop} :
    (∀ c ∈ allCandidates a files, p c.2) ↔ ∀ f ∈ files, ∀ c ∈ candidatesOf a f.2, p c := by
  constructor
  · intro h f hf c hc
    exact h (f.1, c) (List.mem_flatMap.mpr ⟨f, hf, List.mem_map.mpr ⟨c, hc, rfl⟩⟩)
  · intro h c hc
    obtain ⟨f, hf, hc⟩ := List.mem_flatMap.mp hc
    obtain ⟨c', hc', rfl⟩ := List.mem_map.mp hc
    exact h f hf c' hc'

lemma succeeds_visit {β : Type} {look : Look β} {root : Route} {files : List (Path × Entry)} :
    Succeeds (visit look root files) ↔
      ∀ f ∈ files.filterMap (parsed? root), Succeeds (look f.1 f.2) := by
  rw [visit_eq, succeeds_map, succeeds_mapError, succeeds_mapM]

lemma succeeds_visitAll {β : Type} {look : Look β} {a : Analyzer} {root : Route}
    {project : Entry} :
    Succeeds (visitAll look a root project) ↔
      ∃ matcher unread, matcherFor a root project = .ok (matcher, unread) ∧
        Succeeds (visit look root (sourceFiles matcher project)) := by
  rw [visitAll, succeeds_bind]
  constructor
  · rintro ⟨⟨matcher, unread⟩, hmatcher, h⟩
    exact ⟨matcher, unread, hmatcher, succeeds_bind_pure.mp h⟩
  · rintro ⟨matcher, unread, hmatcher, h⟩
    exact ⟨(matcher, unread), hmatcher, succeeds_bind_pure.mpr h⟩

section

variable {markers : List String} {root : Route} {project : Entry}

/-- Whichever way the candidates are told, the visits come to an end in sound projects only. -/
lemma succeeds_visitAll_sift {β : Type} {tell : String × Located ClassDecl → Option β}
    {look : Look β} (hlook : ∀ file block, look file block =
      sift extract (fun c => tell (file, c)) (candidatesOf ⟨extract, markers, none⟩ block)) :
    Succeeds (visitAll look ⟨extract, markers, none⟩ root project) ↔
      Sound ⟨extract, markers, none⟩ root project := by
  rw [succeeds_visitAll]
  simp only [succeeds_visit, hlook, succeeds_sift, judged_iff, ← forall_allCandidates]
  constructor
  · rintro ⟨matcher, unread, hmatcher, h⟩
    refine ⟨lines_of_matcherFor rfl ⟨_, hmatcher⟩, ?_⟩
    intro files errors hfiles
    rw [parsedFiles_eq hmatcher] at hfiles
    cases hfiles
    exact h
  · intro h
    obtain ⟨matcher, unread, hmatcher, -⟩ :=
      matcherFor_of_lines (a := ⟨extract, markers, none⟩) rfl h.lines
    exact ⟨matcher, unread, hmatcher, h.heads _ _ (parsedFiles_eq hmatcher)⟩

/-- A visited file holds a block or is noted as an error. -/
lemma used_once (root : Route) (f : Path × Entry) :
    (parsed? root f).isSome ≠ (unparsed? root f).isSome := by
  rw [parsed?, unparsed?]
  cases blockOf root f.1 f.2 with
  | error e => simp
  | ok block => simp

/-- An analysis and a diagnosis with the default extractor have results for sound projects and
for no others. Then files that cannot be used are errors of their own, candidates that break a
rule are diagnostics of their own, and ignore files that cannot be read ignore nothing. -/
theorem succeeds_iff_sound (markers : List String) (root : Route) (project : Entry) :
    (Succeeds (analyze ⟨extract, markers, none⟩ root project) ↔
      Sound ⟨extract, markers, none⟩ root project) ∧
    (Succeeds (diagnose ⟨extract, markers, none⟩ root project) ↔
      Sound ⟨extract, markers, none⟩ root project) ∧
    (Sound ⟨extract, markers, none⟩ root project →
      ∃ matcher unread found told errors, GoesBy root project matcher unread ∧
        analyze ⟨extract, markers, none⟩ root project = .ok (found, errors) ∧
        diagnose ⟨extract, markers, none⟩ root project = .ok (told, errors) ∧
        (∀ f ∈ sourceFiles matcher project,
          (parsed? root f).isSome ≠ (unparsed? root f).isSome) ∧
        errors = unread ++ (sourceFiles matcher project).filterMap (unparsed? root) ∧
        Agreement ⟨extract, markers, none⟩ ((sourceFiles matcher project).filterMap (parsed? root))
          found told) := by
  have ha : Succeeds (analyze ⟨extract, markers, none⟩ root project) ↔
      Sound ⟨extract, markers, none⟩ root project :=
    succeeds_visitAll_sift fun file block => discover_eq_sift file _
  have hd : Succeeds (diagnose ⟨extract, markers, none⟩ root project) ↔
      Sound ⟨extract, markers, none⟩ root project :=
    succeeds_visitAll_sift fun file block => refuse_eq_sift file _
  refine ⟨ha, hd, ?_⟩
  intro h
  obtain ⟨⟨found, errors⟩, hfound⟩ := ha.mpr h
  obtain ⟨⟨told, errors'⟩, htold⟩ := hd.mpr h
  obtain ⟨files, hfiles, rfl, hagree⟩ := agreement hfound htold
  obtain ⟨matcher, unread, hmatcher, hgoes⟩ :=
    matcherFor_of_lines (a := ⟨extract, markers, none⟩) rfl h.lines
  rw [parsedFiles_eq hmatcher] at hfiles
  cases hfiles
  exact ⟨matcher, unread, found, told, _, hgoes, hfound, htold,
    fun f _ => used_once root f, rfl, hagree⟩

end

/-- A project with nothing in it but an ignore file, which negates nothing. -/
def unsound : Entry := .directory [(".gitignore", .file [33, 10])]

lemma not_sound_unsound : ¬ Sound usual here unsound := by
  intro h
  have hall : Ignore.allLines here unsound = .ok [['!']] := by
    rw [Ignore.allLines, Entry.find_of_sorted]
    · decide +kernel
    · decide +kernel
  obtain ⟨rule, hrule⟩ := h.lines _ hall ['!'] (by decide) (by decide)
  have hno : IgnoreRule.ofLine ['!'] = .error (.invalid ['!']) := by decide +kernel
  rw [hno] at hrule
  cases hrule

theorem succeeds_iff_sound_sample :
    (Sound usual here (sample 2) ∧ ∃ found told errors,
      analyze usual here (sample 2) = .ok (found, errors) ∧
      diagnose usual here (sample 2) = .ok (told, errors)) ∧
    ¬ Succeeds (analyze usual here unsound) ∧ ¬ Succeeds (diagnose usual here unsound) := by
  have h := (succeeds_iff_sound Marker.defaults here (sample 2)).1.mp
    (analyze_sample 2 (by decide))
  obtain ⟨-, -, found, told, errors, -, ha, hd, -⟩ :=
    (succeeds_iff_sound Marker.defaults here (sample 2)).2.2 h
  obtain ⟨hanalyze, hdiagnose, -⟩ := succeeds_iff_sound Marker.defaults here unsound
  exact ⟨⟨h, found, told, errors, ha, hd⟩, fun h => not_sound_unsound (hanalyze.mp h),
    fun h => not_sound_unsound (hdiagnose.mp h)⟩

end Analysis

end ProbeCatalog
