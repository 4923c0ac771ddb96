import Mathlib.Data.List.Basic
import Mathlib.Tactic.Lemma
import ProbeCatalog.Ignore.Matcher
import ProbeCatalog.Proofs.Outcome
import ProbeCatalog.Proofs.Project.Written

/-!
# What lines say of a path

A line of an ignore file says of a path that it is left out or that it is brought back, and says
so of the path itself or of a directory around it. Of most paths it says nothing. The verdict on a
path comes from what all lines say of it in their order, and from nothing else.
-/
namespace ProbeCatalog

namespace IgnoreRule

/-- What is said of a path: how far it reaches, and whether the path is left out. -/
abbrev Remark := Reach × Bool

/-- What a rule says of a path. -/
def remark? (path : List Char) (r : IgnoreRule) : Option Remark :=
  (r.glob.match? path).map (·, r.leavesOut)

/-- The verdict that remarks come to: the last one on the path itself, or else the last one on a
directory around it. -/
def settle (remarks : List Remark) : Option Bool :=
  ((remarks.reverse.find? (·.1 = .path)).or (remarks.reverse.find? (·.1 = .directory))).map (·.2)

/-- The rule of a line, if the line makes one. -/
def rule? (line : List Char) : Option IgnoreRule := (ofLine line).toOption.join

/-- What a line says of a path. -/
def remarkOf? (path line : List Char) : Option Remark := (rule? line).bind (remark? path)

lemma find?_remark (path : List Char) (reach : Reach) (rules : List IgnoreRule) :
    (rules.filterMap (remark? path)).find? (·.1 = reach) =
      (rules.find? (reaches reach path)).map fun r => (reach, r.leavesOut) := by
  induction rules with
  | nil => rfl
  | cons r rules ih =>
    rw [List.filterMap_cons, List.find?_cons, remark?, reaches]
    cases r.glob.match? path with
    | none => simpa using ih
    | some reach' =>
      by_cases h : reach' = reach
      · simp [h]
      · simpa [h] using ih

lemma verdict_eq (rules : List IgnoreRule) (path : List Char) :
    verdict rules path = settle (rules.filterMap (remark? path)) := by
  rw [verdict, settle, ← List.filterMap_reverse, find?_remark, find?_remark]
  cases rules.reverse.find? (reaches .path path) with
  | some r => rfl
  | none => cases rules.reverse.find? (reaches .directory path) <;> rfl

/-- Nothing that was said before counts once something is said of the path itself. -/
lemma settle_append {before later : List Remark} (h : later.any (·.1 = .path) = true) :
    settle (before ++ later) = settle later := by
  have hlast : (later.reverse.find? (·.1 = .path)).isSome = true := by
    rw [List.find?_isSome]
    obtain ⟨said, hmem, hsaid⟩ := List.any_eq_true.mp h
    exact ⟨said, List.mem_reverse.mpr hmem, hsaid⟩
  rw [settle, settle, List.reverse_append, List.find?_append]
  cases hfind : later.reverse.find? (·.1 = .path) with
  | none => rw [hfind] at hlast; cases hlast
  | some said => rfl

/-! ### Rules of lines -/

lemma ofLines_eq_ok {lines : List (List Char)} {rules : List IgnoreRule} :
    ofLines lines = .ok rules ↔
      (∀ line ∈ lines, Succeeds (ofLine line)) ∧ rules = lines.filterMap rule? := by
  induction lines generalizing rules with
  | nil =>
    rw [ofLines, List.filterMap_nil]
    exact ⟨fun h => ⟨nofun, (Except.ok.inj h).symm⟩, fun h => by rw [h.2]⟩
  | cons line lines ih =>
    simp only [ofLines, bind_eq_ok, ih, List.forall_mem_cons]
    constructor
    · rintro ⟨rule, hrule, rules', ⟨hlines, rfl⟩, h⟩
      refine ⟨⟨⟨rule, hrule⟩, hlines⟩, ?_⟩
      rw [← Except.ok.inj h, List.filterMap_cons, rule?, hrule]
      cases rule <;> rfl
    · rintro ⟨⟨⟨rule, hrule⟩, hlines⟩, rfl⟩
      refine ⟨rule, hrule, _, ⟨hlines, rfl⟩, ?_⟩
      rw [List.filterMap_cons, rule?, hrule]
      cases rule <;> rfl

lemma rule?_eq_none {line : List Char} (h : ofLine line = .ok none) : rule? line = none := by
  rw [rule?, h]
  rfl

lemma ofLine_nil : ofLine [] = .ok none := rfl

/-- A line that begins with a hash is a comment. -/
lemma ofLine_comment {line : List Char} (h : (stripped line).head? = some '#') :
    ofLine line = .ok none := by
  obtain ⟨rest, hrest⟩ := List.head?_eq_some_iff.mp h
  rw [ofLine, hrest]
  rfl

/-- The verdict of the rules of lines comes from what the lines say. -/
lemma verdict_lines (lines : List (List Char)) (path : List Char) :
    verdict (lines.filterMap rule?) path = settle (lines.filterMap (remarkOf? path)) := by
  rw [verdict_eq, List.filterMap_filterMap]
  rfl

end IgnoreRule

namespace Ignore

open IgnoreRule

/-- A project has rules if its ignore files can be read and all their lines are in order. -/
lemma rulesOf_eq_ok {root : Route} {project : Entry} {rules : List IgnoreRule} :
    rulesOf root project = .ok rules ↔
      ∃ all, allLines root project = .ok all ∧ (∀ line ∈ all, Succeeds (ofLine line)) ∧
        rules = all.filterMap rule? := by
  have hfilter (all : List (List Char)) :
      ofLines (all.filter (!·.isEmpty)) = .ok rules ↔
        (∀ line ∈ all, Succeeds (ofLine line)) ∧ rules = all.filterMap rule? := by
    have hblank (line : List Char) (h : line.isEmpty = true) : ofLine line = .ok none := by
      rw [List.isEmpty_iff.mp h, ofLine_nil]
    have hrules : (all.filter (!·.isEmpty)).filterMap rule? = all.filterMap rule? := by
      rw [List.filterMap_filter]
      apply List.filterMap_congr
      intro line _
      cases h : line.isEmpty with
      | false => rfl
      | true => rw [rule?_eq_none (hblank line h)]; rfl
    rw [ofLines_eq_ok, hrules]
    apply and_congr_left
    intro _
    simp only [List.mem_filter, and_imp, Bool.not_eq_true']
    constructor
    · intro h line hline
      cases he : line.isEmpty with
      | false => exact h line hline he
      | true => exact ⟨none, hblank line he⟩
    · exact fun h line hline _ => h line hline
  rw [rulesOf, bind_eq_ok]
  simp only [mapError_eq_ok, hfilter]

/-! ### The directories on the way -/

/-- Rules take a path with proper names as it is. -/
lemma relative_name {name : String} (hname : name ≠ "" ∧ name ≠ "." ∧ '/' ∉ name.toList)
    (rest : List Char) : relative (name.toList ++ rest) = name.toList ++ rest := by
  obtain ⟨hne, hdot, hslash⟩ := hname
  obtain ⟨c, cs, hcs⟩ := Path.exists_toList hne
  rw [hcs] at hslash ⊢
  simp only [List.mem_cons, not_or] at hslash
  unfold relative
  split
  · rename_i heq
    exact absurd (List.cons.inj heq).1 (Ne.symm hslash.1)
  · rename_i heq
    obtain ⟨rfl, -⟩ := List.cons.inj heq
    cases cs with
    | nil => exact absurd (String.toList_inj.mp hcs) hdot
    | cons e cs =>
      simp only [List.mem_cons, not_or] at hslash
      exact absurd (List.cons.inj (List.cons.inj heq).2).1.symm hslash.2.1
  · rfl

lemma relative_station {p : Path} (hp : p.Proper) {s : List Char} (hs : s ∈ p.stations) :
    relative s = s := by
  rw [Path.mem_stations] at hs
  rcases hs with ⟨a, b, rfl, ha, -, rfl⟩ | ⟨hne, rfl⟩
  · cases a with
    | nil => exact absurd rfl ha
    | cons name a => exact relative_name (hp name List.mem_cons_self) _
  · cases p with
    | nil => exact absurd rfl hne
    | cons name p =>
      have hname := hp name List.mem_cons_self
      cases p with
      | nil =>
        have htext := relative_name hname []
        rw [List.append_nil] at htext
        rw [Path.toList_text_singleton, htext]
      | cons n p =>
        rw [Path.toList_text_cons]
        exact relative_name hname _

lemma excludesFrom_eq (rules : List IgnoreRule) (directory : List Char) (p : Path) :
    excludesFrom rules directory (p.map String.toList) =
      p.stations.any fun s => leavesOut rules (directory ++ s) := by
  induction p generalizing directory with
  | nil => rfl
  | cons name p ih =>
    cases p with
    | nil => simp [excludesFrom, Path.stations]
    | cons n p =>
      have hstations : Path.stations (name :: n :: p) =
          Path.below [name] [] :: (Path.stations (n :: p)).map (Path.below [name]) := rfl
      have hhead : directory ++ name.toList ++ ['/'] = directory ++ Path.below [name] [] := by simp
      have hjoin (s : List Char) :
          directory ++ Path.below [name] [] ++ s = directory ++ Path.below [name] s := by simp
      rw [List.map_cons] at ih
      rw [List.map_cons, List.map_cons, excludesFrom, ih, hstations, List.any_cons, List.any_map]
      · simp only [hhead, hjoin, Function.comp_def]
      · exact List.cons_ne_nil _ _

/-- A path is ignored if the verdict leaves out the path or a directory on the way to it. -/
lemma excludes_iff {rules : List IgnoreRule} {p : Path} (hne : p ≠ []) (hp : p.Proper) :
    excludes rules (Path.text p).toList = true ↔
      ∃ s ∈ p.stations, verdict rules s = some true := by
  have hcut : (Table.cut '/' (Path.text p).toList).filter (!·.isEmpty) = p.map String.toList := by
    rw [Path.cut_text hne fun name hname => (hp name hname).2.2, List.filter_eq_self]
    intro cs hcs
    obtain ⟨name, hname, rfl⟩ := List.mem_map.mp hcs
    simpa using (hp name hname).1
  rw [excludes, hcut, excludesFrom_eq, List.any_eq_true]
  apply exists_congr
  intro s
  apply and_congr_right
  intro hs
  rw [List.nil_append, leavesOut, relative_station hp hs, decide_eq_true_eq]

end Ignore

end ProbeCatalog
