import ProbeCatalog.Proofs.Ignore.Verdicts
import ProbeCatalog.Proofs.Project.Order

/-!
# The order of ignore files

Ignore files are read in the order of their paths, and what is read later counts for more. A file
in a directory comes after the one in a directory around it, unless the name that leads from the
one to the other comes before the name of ignore files.
-/
namespace ProbeCatalog

namespace Ignore

open IgnoreRule

/-- Of two ignore files, one in a directory around the other, the deeper one comes second if and
only if the name that leads to it does not come before theirs. -/
lemma le_nested (d : Path) (name : String) (rest : Path) :
    (Path.le (d ++ [fileName]) (d ++ name :: rest ++ [fileName]) = true ↔ fileName ≤ name) ∧
      (Path.le (d ++ name :: rest ++ [fileName]) (d ++ [fileName]) = true ↔ name < fileName) := by
  have hfollows : Path.le (rest ++ [fileName]) [] = false := by
    cases rest <;> rfl
  have hbefore : Path.le [fileName] (name :: (rest ++ [fileName])) = true ↔ fileName ≤ name := by
    rw [Path.le, Path.le, Bool.and_true, Bool.or_eq_true, decide_eq_true_eq, decide_eq_true_eq]
    exact le_iff_lt_or_eq.symm
  have hbehind : Path.le (name :: (rest ++ [fileName])) [fileName] = true ↔ name < fileName := by
    rw [Path.le, hfollows, Bool.and_false, Bool.or_false, decide_eq_true_eq]
  rw [List.append_assoc, Path.le_append, Path.le_append]
  exact ⟨hbefore, hbehind⟩

/-- The lines of a project hold some behind others. The verdict on a path that one of those lines
speaks of itself comes from them and from what follows. -/
def Behind (root : Route) (project : Entry) (all later earlier : List (List Char)) : Prop :=
  ∃ before between behind, all = before ++ earlier ++ between ++ (later ++ behind) ∧
    ∀ rules, rulesOf root project = .ok rules → ∀ path,
      (∃ line ∈ later, ∃ out, remarkOf? path line = some (.path, out)) →
        verdict rules path = verdict ((later ++ behind).filterMap rule?) path

/-- What a later line says of a path itself is not changed by the lines before it. -/
lemma verdict_behind {before later behind : List (List Char)} {path : List Char}
    (h : ∃ line ∈ later, ∃ out, remarkOf? path line = some (.path, out)) :
    verdict ((before ++ (later ++ behind)).filterMap rule?) path =
      verdict ((later ++ behind).filterMap rule?) path := by
  obtain ⟨line, hline, out, hsaid⟩ := h
  rw [verdict_lines, verdict_lines, List.filterMap_append]
  apply settle_append
  rw [List.any_eq_true]
  exact ⟨(.path, out), List.mem_filterMap.mpr ⟨line, List.mem_append_left _ hline, hsaid⟩,
    by simp⟩

/-- The lines of a file stand behind those of a file that is found before it. -/
lemma behind_of_find {root : Route} {project : Entry} {all : List (List Char)}
    (hall : allLines root project = .ok all) {f g : Path × Entry}
    (h : ∃ before between behind,
      project.find (· = fileName) = before ++ f :: between ++ g :: behind) :
    ∃ earlier later, linesOf root f = .ok earlier ∧ linesOf root g = .ok later ∧
      Behind root project all later earlier := by
  obtain ⟨before, between, behind, hfind⟩ := h
  have hlines := hall
  rw [allLines, hfind, bind_eq_ok] at hlines
  obtain ⟨parts, hparts, hflat⟩ := hlines
  simp only [List.mapM_append, List.mapM_cons, bind_eq_ok] at hparts
  obtain ⟨front, ⟨first, -, mid, ⟨earlier, hearlier, second, -, hmid⟩, hfront⟩, back,
    ⟨later, hlater, last, -, hback⟩, hparts⟩ := hparts
  obtain rfl := Except.ok.inj hparts
  obtain rfl := Except.ok.inj hfront
  obtain rfl := Except.ok.inj hmid
  obtain rfl := Except.ok.inj hback
  have hall' : all = first.flatten ++ earlier ++ second.flatten ++ (later ++ last.flatten) := by
    rw [← Except.ok.inj hflat]
    simp
  refine ⟨earlier, later, hearlier, hlater, _, _, _, hall', ?_⟩
  intro rules hrules path hsaid
  obtain ⟨all', hsame, -, rfl⟩ := rulesOf_eq_ok.mp hrules
  obtain rfl : all = all' := Except.ok.inj (hall.symm.trans hsame)
  rw [hall']
  exact verdict_behind hsaid

/-- The lines of an ignore file stand behind those of a file in a directory around it, and overrule
them, as long as the name that leads from the one to the other does not come before the name of
ignore files. If it does, the file further out overrules the one further in. -/
theorem deeper_behind {root : Route} {project : Entry} {all : List (List Char)}
    (hall : allLines root project = .ok all) {d rest : Path} {name : String} {e e' : Entry}
    (he : (d ++ [fileName], e) ∈ project.contents)
    (he' : (d ++ name :: rest ++ [fileName], e') ∈ project.contents) :
    ∃ outer inner, linesOf root (d ++ [fileName], e) = .ok outer ∧
      linesOf root (d ++ name :: rest ++ [fileName], e') = .ok inner ∧
      (fileName ≤ name → Behind root project all inner outer) ∧
      (name < fileName → Behind root project all outer inner) := by
  have hmem {p : Path} {e : Entry} (h : (p ++ [fileName], e) ∈ project.contents) :
      (p ++ [fileName], e) ∈ project.find (· = fileName) := by
    rw [Entry.mem_find, List.getLast?_concat]
    exact ⟨h, by simp⟩
  have hne : (d ++ [fileName], e) ≠ (d ++ name :: rest ++ [fileName], e') := by
    intro heq
    have hsize := congrArg (fun f => f.1.length) heq
    simp only [List.length_append, List.length_cons, List.length_nil] at hsize
    omega
  have hsorted := Entry.pairwise_find (· = fileName) project
  obtain ⟨hbefore, hbehind⟩ := le_nested d name rest
  by_cases hname : fileName ≤ name
  · have hno : ¬ Path.le (d ++ name :: rest ++ [fileName]) (d ++ [fileName]) = true := by
      rw [hbehind]
      exact not_lt_of_ge hname
    obtain ⟨outer, inner, houter, hinner, h⟩ := behind_of_find hall
      (exists_of_pairwise hsorted (hmem he) (hmem he') hne hno)
    exact ⟨outer, inner, houter, hinner, fun _ => h, fun hlt => absurd hname (not_le_of_gt hlt)⟩
  · have hno : ¬ Path.le (d ++ [fileName]) (d ++ name :: rest ++ [fileName]) = true := by
      rw [hbefore]
      exact hname
    obtain ⟨inner, outer, hinner, houter, h⟩ := behind_of_find hall
      (exists_of_pairwise hsorted (hmem he') (hmem he) hne.symm hno)
    exact ⟨outer, inner, houter, hinner, fun hle => absurd hle hname, fun _ => h⟩

/-- A project whose directories bring back what the ignore file at the root leaves out. -/
def wanted : Entry :=
  .directory [(".ci", .directory [(".gitignore", .file (Utf8.encode "!/a.py\n".toList))]),
    (".gitignore", .file (Utf8.encode "*.py\n".toList)),
    ("pkg", .directory [(".gitignore", .file (Utf8.encode "!/a.py\n".toList))])]

theorem deeper_behind_wanted : ∃ all rules,
    allLines ⟨.here, []⟩ wanted = .ok all ∧ rulesOf ⟨.here, []⟩ wanted = .ok rules ∧
    Behind ⟨.here, []⟩ wanted all ["!/pkg/a.py".toList] ["*.py".toList] ∧
    Behind ⟨.here, []⟩ wanted all ["*.py".toList] ["!/.ci/a.py".toList] ∧
    excludes rules "pkg/a.py".toList = false ∧ excludes rules ".ci/a.py".toList = true := by
  have hall : allLines ⟨.here, []⟩ wanted =
      .ok ["!/.ci/a.py".toList, "*.py".toList, "!/pkg/a.py".toList] := by
    rw [allLines, Entry.find_of_sorted]
    · decide +kernel
    · decide +kernel
  generalize hlines : ["!/.ci/a.py".toList, "*.py".toList, "!/pkg/a.py".toList] = all at hall
  have hrules : Succeeds (rulesOf ⟨.here, []⟩ wanted) := by
    apply succeeds_of_isSome
    rw [rulesOf, hall, ← hlines]
    decide +kernel
  have hfiles (name : String) (hname : name = "pkg" ∨ name = ".ci") :
      ∃ outer inner, outer = ["*.py".toList] ∧
        inner = ["!/".toList ++ name.toList ++ "/a.py".toList] ∧
        (fileName ≤ name → Behind ⟨.here, []⟩ wanted all inner outer) ∧
        (name < fileName → Behind ⟨.here, []⟩ wanted all outer inner) := by
    have he : (([] : Path) ++ [fileName], .file (Utf8.encode "*.py\n".toList)) ∈
        wanted.contents := by
      simp [wanted, Entry.contents, Entry.contentsOf, fileName]
    have he' : (([] : Path) ++ name :: [] ++ [fileName], .file (Utf8.encode "!/a.py\n".toList)) ∈
        wanted.contents := by
      rcases hname with rfl | rfl <;> simp [wanted, Entry.contents, Entry.contentsOf, fileName]
    obtain ⟨outer, inner, houter, hinner, h⟩ := deeper_behind hall he he'
    refine ⟨outer, inner, Except.ok.inj (houter.symm.trans ?_),
      Except.ok.inj (hinner.symm.trans ?_), h⟩
    · decide +kernel
    · rcases hname with rfl | rfl <;> decide +kernel
  obtain ⟨rules, hrules⟩ := hrules
  have hrules' : rules = all.filterMap rule? := by
    obtain ⟨all', hsame, -, rfl⟩ := rulesOf_eq_ok.mp hrules
    rw [Except.ok.inj (hall.symm.trans hsame)]
  obtain ⟨_, _, rfl, rfl, hpkg, -⟩ := hfiles "pkg" (Or.inl rfl)
  obtain ⟨_, _, rfl, rfl, -, hci⟩ := hfiles ".ci" (Or.inr rfl)
  refine ⟨all, rules, hall, hrules, hpkg (by decide), hci (by decide), ?_⟩
  rw [hrules', ← hlines]
  decide +kernel

end Ignore

end ProbeCatalog
