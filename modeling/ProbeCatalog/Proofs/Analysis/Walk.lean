import Mathlib.Data.List.Sort
import ProbeCatalog.Analysis
import ProbeCatalog.Proofs.Ignore.Verdicts
import ProbeCatalog.Proofs.Project.Trees

/-!
# Walking through a project

The source files that an analysis visits are picked from a sorted list of all paths. They are those
that a walk through the tree comes to: directory by directory, name by name, and never into a
directory that is left out.
-/
namespace ProbeCatalog

namespace Analysis

open Ignore
open IgnoreRule (verdict)

/-- A walk goes into a directory unless it is that of the version control or is left out. -/
def enters (rules : List IgnoreRule) (d : Path) : Bool :=
  d.getLast? ≠ some controlName && !leavesOut rules (d.text.toList ++ ['/'])

/-- A walk visits a source file unless it is left out. -/
def visits (rules : List IgnoreRule) (p : Path) : Bool :=
  p.getLast?.any isSourceName && !leavesOut rules p.text.toList

mutual

/-- What a walk visits that is in a directory: it takes the entries in the order of their names. -/
def walk (rules : List IgnoreRule) (d : Path) (entries : List (String × Entry)) :
    List (Path × Entry) :=
  (Entry.byName entries).attach.flatMap fun ⟨f, _⟩ => walkAt rules (d ++ [f.1]) f.2
termination_by sizeOf entries
decreasing_by
  rename_i h
  have hmem := List.sizeOf_lt_of_mem (Entry.mem_byName.mp h)
  obtain ⟨name, e⟩ := f
  simp only [Prod.mk.sizeOf_spec] at hmem ⊢
  omega

/-- What a walk visits that has come to an entry. -/
def walkAt (rules : List IgnoreRule) (p : Path) : Entry → List (Path × Entry)
  | .directory entries => if enters rules p then walk rules p entries else []
  | e => if visits rules p then [(p, e)] else []
termination_by e => sizeOf e

end

lemma walk_eq (rules : List IgnoreRule) (d : Path) (entries : List (String × Entry)) :
    walk rules d entries =
      (Entry.byName entries).flatMap fun f => walkAt rules (d ++ [f.1]) f.2 := by
  rw [walk, List.flatMap_subtype fun _ _ => rfl, List.unattach_attach]

lemma mem_walk {rules : List IgnoreRule} {d : Path} {entries : List (String × Entry)}
    {f : Path × Entry} :
    f ∈ walk rules d entries ↔ ∃ g ∈ entries, f ∈ walkAt rules (d ++ [g.1]) g.2 := by
  rw [walk_eq, List.mem_flatMap]
  simp only [Entry.mem_byName]

/-- A walk that is in a directory comes to a path below it: it enters the directories on the way and
visits what it finds at the end. -/
def Reaches (rules : List IgnoreRule) (d q : Path) : Prop :=
  (∀ a b, q = a ++ b → a ≠ [] → b ≠ [] → enters rules (d ++ a) = true) ∧
    visits rules (d ++ q) = true

lemma reaches_singleton {rules : List IgnoreRule} {d : Path} {name : String} :
    Reaches rules d [name] ↔ visits rules (d ++ [name]) = true := by
  constructor
  · exact fun h => h.2
  · intro h
    refine ⟨?_, h⟩
    intro a b hab ha hb
    rcases List.append_eq_singleton_iff.mp hab.symm with ⟨rfl, -⟩ | ⟨-, rfl⟩
    · exact absurd rfl ha
    · exact absurd rfl hb

lemma reaches_cons {rules : List IgnoreRule} {d q : Path} {name : String} (hq : q ≠ []) :
    Reaches rules d (name :: q) ↔
      enters rules (d ++ [name]) = true ∧ Reaches rules (d ++ [name]) q := by
  have hpath (r : Path) : d ++ name :: r = d ++ [name] ++ r := by simp
  constructor
  · rintro ⟨hway, hend⟩
    refine ⟨hway [name] q rfl (List.cons_ne_nil _ _) hq, ?_, ?_⟩
    · intro a b hab ha hb
      rw [← hpath]
      exact hway (name :: a) b (by rw [hab]; rfl) (List.cons_ne_nil _ _) hb
    · rwa [← hpath]
  · rintro ⟨henter, hway, hend⟩
    refine ⟨?_, by rwa [hpath]⟩
    intro a b hab ha hb
    cases a with
    | nil => exact absurd rfl ha
    | cons n a =>
      obtain ⟨rfl, rfl⟩ := List.cons_eq_cons.mp hab
      by_cases ha' : a = []
      · rw [ha']
        exact henter
      · rw [hpath]
        exact hway a b rfl ha' hb

lemma walkAt_eq (rules : List IgnoreRule) (p : Path) (e : Entry) :
    walkAt rules p e =
      if e.isDirectory then if enters rules p then walk rules p e.entries else []
      else if visits rules p then [(p, e)] else [] := by
  cases e with
  | file octets =>
    rw [walkAt]
    · rfl
    · exact nofun
  | table rows =>
    rw [walkAt]
    · rfl
    · exact nofun
  | directory entries =>
    rw [walkAt]
    rfl

lemma mem_walkAt {rules : List IgnoreRule} {p : Path} {e : Entry} {f : Path × Entry} :
    f ∈ walkAt rules p e ↔
      (e.isDirectory = false ∧ visits rules p = true ∧ f = (p, e)) ∨
        (e.isDirectory = true ∧ enters rules p = true ∧ f ∈ walk rules p e.entries) := by
  rw [walkAt_eq]
  cases hkind : e.isDirectory with
  | true => simp [List.mem_ite_nil_right]
  | false => simp [List.mem_ite_nil_right]

/-- A walk visits the files that it reaches. -/
lemma mem_walk_iff {rules : List IgnoreRule} {e : Entry} (h : e.Proper) {d : Path}
    {f : Path × Entry} :
    f ∈ walk rules d e.entries ↔ f.2.isDirectory = false ∧
      ∃ q, f.1 = d ++ q ∧ (q, f.2) ∈ e.contents ∧ Reaches rules d q := by
  induction h generalizing d with
  | file octets => simp [Entry.entries, Entry.contents, walk_eq, Entry.byName]
  | table rows => simp [Entry.entries, Entry.contents, walk_eq, Entry.byName]
  | @directory entries hnames hdistinct h ih =>
    rw [Entry.contents, Entry.entries, mem_walk]
    constructor
    · rintro ⟨g, hg, hf⟩
      rcases mem_walkAt.mp hf with ⟨hkind, hvisit, rfl⟩ | ⟨-, henter, hf⟩
      · refine ⟨hkind, [g.1], rfl, ?_, reaches_singleton.mpr hvisit⟩
        exact Entry.mem_contentsOf.mpr ⟨g, hg, Or.inl rfl⟩
      · obtain ⟨hkind, q, hq, hmem, hreach⟩ := (ih g hg).mp hf
        refine ⟨hkind, g.1 :: q, by rw [hq]; simp, ?_, ?_⟩
        · exact Entry.mem_contentsOf.mpr ⟨g, hg, Or.inr ⟨_, hmem, rfl⟩⟩
        · exact (reaches_cons (Entry.ne_nil_of_mem_contents hmem)).mpr ⟨henter, hreach⟩
    · rintro ⟨hkind, q, hq, hmem, hreach⟩
      obtain ⟨g, hg, heq | ⟨r, hr, heq⟩⟩ := Entry.mem_contentsOf.mp hmem
      · obtain ⟨rfl, hentry⟩ := Prod.mk.inj heq
        refine ⟨g, hg, mem_walkAt.mpr (Or.inl ⟨?_, reaches_singleton.mp hreach, ?_⟩)⟩
        · rwa [← hentry]
        · rw [← hq, ← hentry]
      · obtain ⟨rfl, hentry⟩ := Prod.mk.inj heq
        obtain ⟨henter, hreach⟩ := (reaches_cons (Entry.ne_nil_of_mem_contents hr)).mp hreach
        refine ⟨g, hg, mem_walkAt.mpr (Or.inr ⟨?_, henter, (ih g hg).mpr ?_⟩)⟩
        · exact Entry.isDirectory_of_mem_contents hr
        · refine ⟨hkind, r.1, ?_, ?_, hreach⟩
          · rw [hq]
            simp
          · rwa [hentry]

/-! ### Order -/

/-- A path comes before another one. -/
def Before (f g : Path × Entry) : Prop := g.1.le f.1 = false

lemma exists_of_mem_walkAt {rules : List IgnoreRule} {e : Entry} (h : e.Proper) {p : Path}
    {f : Path × Entry} (hf : f ∈ walkAt rules p e) : ∃ q, f.1 = p ++ q := by
  rcases mem_walkAt.mp hf with ⟨-, -, rfl⟩ | ⟨-, -, hf⟩
  · exact ⟨[], (List.append_nil p).symm⟩
  · obtain ⟨-, q, hq, -⟩ := (mem_walk_iff h).mp hf
    exact ⟨q, hq⟩

lemma before_of_lt {d q r : Path} {name name' : String} (h : name < name') :
    Path.le (d ++ [name'] ++ r) (d ++ [name] ++ q) = false := by
  rw [List.append_assoc, List.append_assoc, Path.le_append, List.singleton_append,
    List.singleton_append, Path.le, decide_eq_false (lt_asymm h), Bool.false_or,
    decide_eq_false (ne_of_gt h), Bool.false_and]

/-- A walk comes to the paths in their order. -/
lemma pairwise_walk (rules : List IgnoreRule) {e : Entry} (h : e.Proper) (d : Path) :
    (walk rules d e.entries).Pairwise Before := by
  induction h generalizing d with
  | file octets => simp [Entry.entries, walk_eq, Entry.byName]
  | table rows => simp [Entry.entries, walk_eq, Entry.byName]
  | @directory entries hnames hdistinct h ih =>
    rw [Entry.entries, walk_eq, List.pairwise_flatMap]
    constructor
    · intro g hg
      have hg' := Entry.mem_byName.mp hg
      rw [walkAt_eq]
      split_ifs
      · exact ih g hg' (d ++ [g.1])
      · exact List.Pairwise.nil
      · exact List.pairwise_singleton _ _
      · exact List.Pairwise.nil
    · refine (Entry.pairwise_byName hdistinct).imp_of_mem ?_
      intro g g' hg hg' hlt f hf f' hf'
      obtain ⟨q, hq⟩ := exists_of_mem_walkAt (h g (Entry.mem_byName.mp hg)) hf
      obtain ⟨q', hq'⟩ := exists_of_mem_walkAt (h g' (Entry.mem_byName.mp hg')) hf'
      rw [Before, hq, hq']
      exact before_of_lt hlt

lemma pairwise_find_ne {e : Entry} (h : e.Proper) (wanted : String → Bool) :
    (e.find wanted).Pairwise fun f g => f.1 ≠ g.1 := by
  have hperm := (List.mergeSort_perm (e.contents.filter fun f => f.1.getLast?.any wanted)
    fun f g => f.1.le g.1).map (·.1)
  have hsublist : ((e.contents.filter fun f => f.1.getLast?.any wanted).map (·.1)).Sublist
      (e.contents.map (·.1)) := List.filter_sublist.map Prod.fst
  exact List.pairwise_map.mp (hperm.nodup_iff.mpr ((Entry.nodup_contents h).sublist hsublist))

lemma pairwise_find_before {e : Entry} (h : e.Proper) (wanted : String → Bool) :
    (e.find wanted).Pairwise Before := by
  refine (Entry.pairwise_find wanted e).imp₂ ?_ (pairwise_find_ne h wanted)
  intro f g hle hne
  rw [Before, Bool.eq_false_iff]
  exact fun hge => hne (Path.le_antisymm hle hge)

instance : Std.Irrefl Before where
  irrefl f := by
    have hrefl : f.1.le f.1 = true := (Path.le_total f.1 f.1).elim id id
    simp [Before, hrefl]

instance : Std.Antisymm Before where
  antisymm f g hfg hgf := by
    rcases Path.le_total f.1 g.1 with hle | hle
    · exact absurd hle (ne_true_of_eq_false hgf)
    · exact absurd hle (ne_true_of_eq_false hfg)

/-- A directory on the way to a path or the path itself is told by its text. -/
lemma leavesOut_station {rules : List IgnoreRule} {p : Path} (hp : p.Proper) {s : List Char}
    (hs : s ∈ p.stations) : leavesOut rules s = true ↔ verdict rules s = some true := by
  rw [leavesOut, relative_station hp hs, decide_eq_true_eq]

/-- A path is not ignored if neither it nor a directory on the way to it is left out. -/
lemma excludes_eq_false_iff {rules : List IgnoreRule} {p : Path} (hne : p ≠ []) (hp : p.Proper) :
    excludes rules p.text.toList = false ↔
      (∀ a b, p = a ++ b → a ≠ [] → b ≠ [] →
        leavesOut rules (a.text.toList ++ ['/']) = false) ∧
          leavesOut rules p.text.toList = false := by
  have hstations : excludes rules p.text.toList = false ↔
      ∀ s ∈ p.stations, leavesOut rules s = false := by
    rw [← Bool.not_eq_true, excludes_iff hne hp]
    constructor
    · intro h s hs
      rw [← Bool.not_eq_true, leavesOut_station hp hs]
      exact fun hout => h ⟨s, hs, hout⟩
    · rintro h ⟨s, hs, hout⟩
      rw [← leavesOut_station hp hs, h s hs] at hout
      cases hout
  rw [hstations]
  constructor
  · intro h
    refine ⟨?_, h _ (Path.mem_stations.mpr (Or.inr ⟨hne, rfl⟩))⟩
    intro a b hab ha hb
    rw [Path.text_below ha]
    exact h _ (Path.mem_stations.mpr (Or.inl ⟨a, b, hab, ha, hb, rfl⟩))
  · rintro ⟨hway, hend⟩ s hs
    rcases Path.mem_stations.mp hs with ⟨a, b, hab, ha, hb, rfl⟩ | ⟨-, rfl⟩
    · rw [← Path.text_below ha]
      exact hway a b hab ha hb
    · exact hend

/-- A source file lies in the directory of the version control if one on the way to it is that. -/
lemma controlName_notMem_iff {p : Path} (h : p.getLast?.any isSourceName = true) :
    controlName ∉ p ↔ ∀ a b, p = a ++ b → a ≠ [] → b ≠ [] → a.getLast? ≠ some controlName := by
  constructor
  · intro hnot a b hab _ _ hlast
    rw [hab] at hnot
    exact hnot (List.mem_append_left b (List.mem_of_getLast? hlast))
  · intro hway hmem
    obtain ⟨a, b, rfl⟩ := List.append_of_mem hmem
    cases b with
    | nil =>
      have hsource : isSourceName controlName = true := by simpa using h
      revert hsource
      decide
    | cons name b =>
      exact hway (a ++ [controlName]) (name :: b) (by simp) (by simp) (by simp) (by simp)

lemma enters_iff {rules : List IgnoreRule} {d : Path} :
    enters rules d = true ↔
      d.getLast? ≠ some controlName ∧ leavesOut rules (d.text.toList ++ ['/']) = false := by
  rw [enters, Bool.and_eq_true, decide_eq_true_eq, Bool.not_eq_true']

/-- A path is reached from the root if no directory on the way is that of the version control and
the path is not ignored. -/
lemma reaches_root {rules : List IgnoreRule} {p : Path} (hne : p ≠ []) (hp : p.Proper) :
    Reaches rules [] p ↔ p.getLast?.any isSourceName = true ∧ controlName ∉ p ∧
      excludes rules p.text.toList = false := by
  have hreach : Reaches rules [] p ↔ p.getLast?.any isSourceName = true ∧
      (∀ a b, p = a ++ b → a ≠ [] → b ≠ [] → enters rules a = true) ∧
        leavesOut rules p.text.toList = false := by
    simp only [Reaches, visits, List.nil_append, Bool.and_eq_true, Bool.not_eq_true']
    exact and_left_comm
  rw [hreach]
  apply and_congr_right
  intro hsource
  rw [controlName_notMem_iff hsource, excludes_eq_false_iff hne hp, ← and_assoc]
  apply and_congr_left
  intro _
  constructor
  · intro h
    constructor
    · exact fun a b hab ha hb => (enters_iff.mp (h a b hab ha hb)).1
    · exact fun a b hab ha hb => (enters_iff.mp (h a b hab ha hb)).2
  · rintro ⟨hcontrol, hout⟩ a b hab ha hb
    exact enters_iff.mpr ⟨hcontrol a b hab ha hb, hout a b hab ha hb⟩

/-- The files that are visited of a project are those that a walk comes to, in the same order. No
rule brings back what is below a directory that is left out. -/
theorem sourceFiles_eq_walk (rules : List IgnoreRule) {project : Entry} (h : project.Proper) :
    (sourceFiles (excludes rules) project).filter (fun f => !f.2.isDirectory) =
        walk rules [] project.entries ∧
      ∀ (d q : Path) (e : Entry), d ≠ [] → q ≠ [] →
        leavesOut rules (d.text.toList ++ ['/']) = true →
          (d ++ q, e) ∉ sourceFiles (excludes rules) project := by
  have hmem {f : Path × Entry} : f ∈ sourceFiles (excludes rules) project ↔
      f ∈ project.contents ∧ Reaches rules [] f.1 := by
    rw [sourceFiles, List.mem_filter, Entry.mem_find, and_assoc]
    apply and_congr_right
    intro hf
    rw [reaches_root (Entry.ne_nil_of_mem_contents hf) (Entry.proper_of_mem_contents h hf)]
    simp
  constructor
  · have hfind : ((sourceFiles (excludes rules) project).filter fun f =>
        !f.2.isDirectory).Pairwise Before :=
      ((pairwise_find_before h isSourceName).filter _).filter _
    apply hfind.eq_of_mem_iff (pairwise_walk rules h [])
    intro f
    rw [mem_walk_iff h, List.mem_filter, hmem, Bool.not_eq_true', and_comm]
    apply and_congr_right
    intro _
    constructor
    · rintro ⟨hf, hreach⟩
      exact ⟨f.1, rfl, hf, hreach⟩
    · rintro ⟨q, rfl, hf, hreach⟩
      exact ⟨hf, hreach⟩
  · intro d q e hd hq hout hf
    have henter := (hmem.mp hf).2.1 d q rfl hd hq
    rw [List.nil_append, enters_iff, hout] at henter
    cases henter.2

/-- A project in which names begin with other names, with a directory that is left out but for one
file, and with that of the version control. -/
def thicket : Entry :=
  .directory [(".git", .directory [("hook.py", .file [])]), ("a", .directory [("b.py", .file [])]),
    ("a-b.py", .file []), ("a.py", .file []),
    ("gen", .directory [("d.py", .file []), ("keep.py", .file [])]),
    ("x.py", .directory [("c.py", .file [])])]

lemma proper_thicket : thicket.Proper := by
  refine .directory (by decide) (by decide) ?_
  simp only [List.forall_mem_cons, List.not_mem_nil, false_imp_iff, implies_true, and_true]
  refine ⟨?_, ?_, .file _, .file _, ?_, ?_⟩ <;> refine .directory (by decide) (by decide) ?_ <;>
    simp [Entry.Proper.file]

/-- Its rules. -/
def thicketRules : List IgnoreRule :=
  ["gen/".toList, "!keep.py".toList].filterMap IgnoreRule.rule?

theorem sourceFiles_eq_walk_thicket :
    thicket.Proper ∧ leavesOut thicketRules "gen/".toList = true ∧
      leavesOut thicketRules "gen/keep.py".toList = false ∧
      (["gen", "keep.py"], .file []) ∉ sourceFiles (excludes thicketRules) thicket ∧
      (sourceFiles (excludes thicketRules) thicket).filter (fun f => !f.2.isDirectory) =
        walk thicketRules [] thicket.entries ∧
      (walk thicketRules [] thicket.entries).map (·.1) =
        [["a", "b.py"], ["a-b.py"], ["a.py"], ["x.py", "c.py"]] := by
  have hgen : leavesOut thicketRules "gen/".toList = true := by decide +kernel
  obtain ⟨hwalk, hgone⟩ := sourceFiles_eq_walk thicketRules proper_thicket
  refine ⟨proper_thicket, hgen, by decide +kernel, ?_, hwalk, ?_⟩
  · refine hgone ["gen"] ["keep.py"] (.file []) (by simp) (by simp) ?_
    decide +kernel
  · rw [← hwalk, sourceFiles, Entry.find_of_sorted]
    · decide +kernel
    · decide +kernel

end Analysis

end ProbeCatalog
