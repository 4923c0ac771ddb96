import ProbeCatalog.Proofs.Ignore.Scopes
import ProbeCatalog.Proofs.Project.Edits

/-!
# What an ignore file does not touch

An ignore file in a directory says nothing of paths that are not below the directory, if the names
of the directory are plain and each line takes its scope or makes no rule. Then it makes no
difference to other paths whether the file is there.
-/
namespace ProbeCatalog

namespace Ignore

open IgnoreRule Glob Table

/-- The path of a directory that lines in it can be kept to: patterns take its names as they are,
and it does not begin with the mark of a negation. -/
structure IsConfining (d : Path) : Prop where
  nonempty : d ≠ []
  literal : ∀ name ∈ d, IsLiteralName name
  unmarked : (Path.text d).toList.head? ≠ some '!'

/-- A line that is kept to its directory: it makes no rule, or it takes the scope. -/
inductive IsConfined (line : List Char) : Prop
  | idle (h : isUnscoped line = true) (hline : ofLine line = .ok none)
  | takes (h : TakesScope line)

lemma exists_of_inside {path : List Char} {reach : Reach}
    (h : reach? .inside [] path = some reach) : ∃ rest, path = '/' :: rest := by
  cases path with
  | nil => cases h
  | cons c rest =>
    by_cases hc : c = '/'
    · exact ⟨rest, by rw [hc]⟩
    · rw [reach?, Ending.reach?] at h
      · cases h
      · exact fun _ hslash => hc (List.cons.inj hslash).1

/-- What a scoped line speaks of goes on from the directory. -/
lemma TakesScope.exists_below {line : List Char} (h : TakesScope line) {d : Path}
    (hd : IsConfining d) {path : List Char} {said : Remark}
    (hsaid : remarkOf? path (inScope (Path.text d).toList line) = some said) :
    ∃ rest, path = Path.below d rest := by
  obtain ⟨r, hr, hreach⟩ := Option.bind_eq_some_iff.mp hsaid
  obtain ⟨reach, hreach, -⟩ := Option.map_eq_some_iff.mp hreach
  have hhead : negationMark line ++ anchorMark line = [] →
      (Path.text d).toList.head? ≠ some '!' ∧ (Path.text d).toList.head? ≠ some '#' := by
    intro hmarks
    refine ⟨hd.unmarked, fun hhash => ?_⟩
    -- A directory whose path begins with a hash makes a comment of the line.
    have hcomment : (stripped (inScope (Path.text d).toList line)).head? = some '#' := by
      obtain ⟨more, hmore⟩ := List.head?_eq_some_iff.mp hhash
      rw [h.stripped_inScope hd.nonempty fun name hname => (hd.literal name hname).1,
        ← List.append_assoc, hmarks, List.nil_append, ← Path.text_below hd.nonempty, hmore]
      rfl
    rw [rule?_eq_none (ofLine_comment hcomment)] at hr
    cases hr
  rw [rule?, h.toOption_inScope hd.nonempty hd.literal hhead, Option.join_eq_some_iff] at hr
  obtain ⟨parts, hparts, hglob⟩ := map_eq_ok.mp (ruleOf_eq_some hr).1
  rw [← hglob] at hreach
  obtain ⟨rest, rfl, hrest⟩ := exists_of_reach?_literals hreach
  rcases assemble_cases (normalized_ne_nil (cut_ne_nil _ _)) hparts with ⟨ps, hps⟩ | hinside
  · rw [hps] at hrest
    obtain ⟨rest', rfl, -⟩ := exists_of_reach?_literal hrest
    exact ⟨rest', Path.text_below hd.nonempty rest'⟩
  · rw [hinside] at hrest
    obtain ⟨rest', rfl⟩ := exists_of_inside hrest
    exact ⟨rest', Path.text_below hd.nonempty rest'⟩

/-- A line that is kept to a directory says nothing of what tells of a path elsewhere. -/
lemma IsConfined.remarkOf?_eq_none {line : List Char} (h : IsConfined line) {d : Path}
    (hd : IsConfining d) {p : Path} (hp : p.Proper) (hout : ¬ ∃ q, q ≠ [] ∧ p = d ++ q)
    {s : List Char} (hs : s ∈ p.stations) :
    remarkOf? s (inScope (Path.text d).toList line) = none := by
  cases h with
  | idle h hline =>
    rw [inScope_of_isUnscoped _ h, remarkOf?, rule?_eq_none hline, Option.bind_none]
  | takes h =>
    cases hsaid : remarkOf? s (inScope (Path.text d).toList line) with
    | none => rfl
    | some said =>
      obtain ⟨rest, rfl⟩ := h.exists_below hd hsaid
      exact absurd (Path.exists_of_station
        (fun name hname => (hd.literal name hname).slash_notMem) hp hs) hout

/-- Files at a path whose lines say nothing may be left out. -/
lemma remarks_away {root : Route} {q : Path} {s : List Char} {files : List (Path × Entry)}
    {parts : List (List (List Char))} (h : files.mapM (linesOf root) = .ok parts)
    (hq : ∀ f ∈ files, f.1 = q → ∀ own, linesOf root f = .ok own →
      own.filterMap (remarkOf? s) = []) :
    ∃ parts', (files.filter fun f => decide (f.1 ≠ q)).mapM (linesOf root) = .ok parts' ∧
      parts.flatten.filterMap (remarkOf? s) = parts'.flatten.filterMap (remarkOf? s) := by
  induction files generalizing parts with
  | nil => exact ⟨parts, h, rfl⟩
  | cons f files ih =>
    simp only [List.mapM_cons, bind_eq_ok] at h
    obtain ⟨own, hown, parts, hparts, hcons⟩ := h
    obtain rfl := Except.ok.inj hcons
    obtain ⟨parts', hparts', hsame⟩ := ih hparts fun f hf => hq f (List.mem_cons_of_mem _ hf)
    rw [List.flatten_cons, List.filterMap_append, hsame]
    by_cases hf : f.1 = q
    · rw [hq f List.mem_cons_self hf own hown, List.filter_cons_of_neg (by simp [hf])]
      exact ⟨parts', hparts', rfl⟩
    · rw [List.filter_cons_of_pos (by simp [hf])]
      refine ⟨own :: parts', ?_, by rw [List.flatten_cons, List.filterMap_append]⟩
      rw [List.mapM_cons, hown, ok_bind, hparts', ok_bind]
      rfl

/-- The lines of the ignore file in a directory, if there is one, are kept to the directory. -/
def LinesConfined (root : Route) (d : Path) (project : Entry) : Prop :=
  ∀ e text, (d ++ [fileName], e) ∈ project.contents →
    e.read (root.join (d ++ [fileName])).text = .ok text → ∀ line ∈ lines text, IsConfined line

/-- What the ignore files elsewhere say of a path elsewhere is all that is said of it. -/
lemma exists_remarks {root : Route} {project : Entry} {rules : List IgnoreRule}
    (hrules : rulesOf root project = .ok rules) {d : Path} (hd : IsConfining d)
    (hlines : LinesConfined root d project) {p : Path} (hp : p.Proper)
    (hout : ¬ ∃ q, q ≠ [] ∧ p = d ++ q) {s : List Char} (hs : s ∈ p.stations) :
    ∃ parts, ((project.find (· = fileName)).filter
        fun f => decide (f.1 ≠ d ++ [fileName])).mapM (linesOf root) = .ok parts ∧
      verdict rules s = settle (parts.flatten.filterMap (remarkOf? s)) := by
  obtain ⟨all, hall, -, rfl⟩ := rulesOf_eq_ok.mp hrules
  rw [allLines, bind_eq_ok] at hall
  obtain ⟨parts, hparts, hflat⟩ := hall
  obtain rfl := Except.ok.inj hflat
  have hown : ∀ f ∈ project.find (· = fileName), f.1 = d ++ [fileName] → ∀ own,
      linesOf root f = .ok own → own.filterMap (remarkOf? s) = [] := by
    rintro ⟨_, e⟩ hf rfl own hown
    obtain ⟨text, htext, hown⟩ := bind_eq_ok.mp hown
    obtain rfl := Except.ok.inj hown
    rw [List.dropLast_concat, List.filterMap_eq_nil_iff, List.forall_mem_map]
    intro line hline
    exact (hlines e text (Entry.mem_find.mp hf).1 htext line hline).remarkOf?_eq_none hd hp hout hs
  obtain ⟨parts', hparts', hsame⟩ := remarks_away hparts hown
  exact ⟨parts', hparts', by rw [verdict_lines, hsame]⟩

/-- An ignore file in a directory that keeps its lines makes no difference outside: a path that is
not below the directory is ignored with it if and only if it is ignored without it. -/
theorem excludes_outside {root : Route} {d : Path} (hd : IsConfining d)
    {es es' : List (String × Entry)} (hedit : SameBut (d ++ [fileName]) es es')
    (hlines : LinesConfined root d (.directory es))
    (hlines' : LinesConfined root d (.directory es')) {rules rules' : List IgnoreRule}
    (hrules : rulesOf root (.directory es) = .ok rules)
    (hrules' : rulesOf root (.directory es') = .ok rules') {p : Path} (hne : p ≠ [])
    (hp : p.Proper) (hout : ¬ ∃ q, q ≠ [] ∧ p = d ++ q) :
    excludes rules (Path.text p).toList = excludes rules' (Path.text p).toList := by
  have hfind := Analysis.find_sameBut hedit root Analysis.ordinary_ignore
  have hscoped (files : List (Path × Entry)) :
      files.mapM (linesOf root) = (files.map (Analysis.glance root)).mapM Analysis.scopedLines := by
    rw [List.mapM_map]
    rfl
  have hverdict : ∀ s ∈ p.stations, verdict rules s = verdict rules' s := by
    intro s hs
    obtain ⟨parts, hparts, h⟩ := exists_remarks hrules hd hlines hp hout hs
    obtain ⟨parts', hparts', h'⟩ := exists_remarks hrules' hd hlines' hp hout hs
    rw [hscoped, hfind, ← hscoped, hparts'] at hparts
    rw [h, h', Except.ok.inj hparts]
  rw [Bool.eq_iff_iff, excludes_iff hne hp, excludes_iff hne hp]
  apply exists_congr
  intro s
  apply and_congr_right
  intro hs
  rw [hverdict s hs]

/-- A package, with an ignore file of one line or with none. -/
def package (line : Option String) : List (String × Entry) :=
  [("pkg", .directory (line.toList.map fun line =>
    (".gitignore", .file (Utf8.encode (line.toList ++ ['\n'])))))]

lemma allLines_package (line : Option String)
    (h : line = none ∨ line = some "*.py" ∨ line = some "\\#x.py") :
    allLines ⟨.here, []⟩ (.directory (package line)) =
      .ok (line.toList.map fun line => inScope "pkg".toList line.toList) := by
  rw [allLines, Entry.find_of_sorted]
  · rcases h with rfl | rfl | rfl <;> decide +kernel
  · rcases h with rfl | rfl | rfl <;> decide +kernel

theorem excludes_outside_package : ∃ rules rules' leaking,
    rulesOf ⟨.here, []⟩ (.directory (package (some "*.py"))) = .ok rules ∧
    rulesOf ⟨.here, []⟩ (.directory (package none)) = .ok rules' ∧
    rulesOf ⟨.here, []⟩ (.directory (package (some "\\#x.py"))) = .ok leaking ∧
    excludes rules "pkg/a.py".toList = true ∧
    excludes rules "lib/a.py".toList = excludes rules' "lib/a.py".toList ∧
    excludes leaking "#x.py".toList = true ∧ excludes rules' "#x.py".toList = false := by
  have hrules : rulesOf ⟨.here, []⟩ (.directory (package (some "*.py"))) =
      .ok [⟨true, ⟨literals "pkg/".toList ++ [.many] ++ literals ".py".toList, .edge⟩⟩] := by
    rw [rulesOf, allLines_package _ (Or.inr (Or.inl rfl))]
    decide +kernel
  have hrules' : rulesOf ⟨.here, []⟩ (.directory (package none)) = .ok [] := by
    rw [rulesOf, allLines_package _ (Or.inl rfl)]
    decide +kernel
  have hleaking : rulesOf ⟨.here, []⟩ (.directory (package (some "\\#x.py"))) =
      .ok [⟨true, ⟨.ancestors :: literals "#x.py".toList, .edge⟩⟩] := by
    rw [rulesOf, allLines_package _ (Or.inr (Or.inr rfl))]
    decide +kernel
  have hd : IsConfining ["pkg"] := by
    refine ⟨by decide, ?_, by decide⟩
    intro name hname
    obtain rfl := List.mem_singleton.mp hname
    refine ⟨by decide, ?_⟩
    intro c hc
    have hletter : c = 'p' ∨ c = 'k' ∨ c = 'g' := by simpa using hc
    rcases hletter with rfl | rfl | rfl <;> decide
  have hlines : LinesConfined ⟨.here, []⟩ ["pkg"] (.directory (package (some "*.py"))) := by
    intro e text he htext line hline
    have hfile : e = .file (Utf8.encode ("*.py".toList ++ ['\n'])) := by
      simpa [package, Entry.contents, Entry.contentsOf, fileName] using he
    rw [hfile] at htext
    obtain rfl : "*.py\n".toList = text := Except.ok.inj (Eq.trans (by decide +kernel) htext)
    obtain rfl : line = "*.py".toList := List.mem_singleton.mp hline
    exact .takes ⟨by decide, by decide⟩
  have hlines' : LinesConfined ⟨.here, []⟩ ["pkg"] (.directory (package none)) := by
    intro e text he
    simp [package, Entry.contents, Entry.contentsOf, fileName] at he
  refine ⟨_, _, _, hrules, hrules', hleaking, by decide +kernel, ?_, by decide +kernel,
    by decide +kernel⟩
  exact excludes_outside hd (.inside [] [] (.here [] [] (.file rfl) (.nothing _))) hlines hlines'
    hrules hrules' (p := ["lib", "a.py"]) (by decide) (by decide) (by
      rintro ⟨q, -, hq⟩
      exact absurd (List.cons.inj hq).1 (by decide))

end Ignore

end ProbeCatalog
