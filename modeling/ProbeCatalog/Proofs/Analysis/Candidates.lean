import Mathlib.Data.List.Lattice
import ProbeCatalog.Proofs.Syntax.Places
import ProbeCatalog.Scanner

/-!
# The candidates of a source

A class is a candidate if one of its decorators, without a call, ends in a marker or in a name
that some import of the same source gives to a marker. The list of candidates goes through the
places of the source in order and has each of them once; more markers give more candidates, and
no others than each of the markers gives.
-/
namespace ProbeCatalog

open Syntax

namespace Marker

/-- A name that counts as a marker in a source. -/
inductive Counts (names : List String) (block : Block) : String → Prop
  | given {name : String} (h : name ∈ names) : Counts names block name
  | bound {name : String} {p : Place} {s : Located Stmt} {i : ImportedName}
      (hplace : stmtAt? block p = some s) (himport : i ∈ imports s) (hbound : i.boundAs = some name)
      (hmarker : tail i.name ∈ names) : Counts names block name

/-- A decorator of the class, without a call, is a dotted name that ends in a name that counts. -/
def Marked (names : List String) (block : Block) (c : ClassDecl) : Prop :=
  ∃ d ∈ c.decorators, ∃ segments last,
    dottedSegments (withoutCall d.value) = some (segments ++ [last]) ∧ Counts names block last

lemma mem_aliases {names : List String} {block : Block} {name : String} :
    name ∈ aliases names block ↔ ∃ p s i, stmtAt? block p = some s ∧ i ∈ imports s ∧
      i.boundAs = some name ∧ tail i.name ∈ names := by
  obtain ⟨placed, hplaced⟩ := exists_places block
  rw [aliases, everyImport, ← hplaced.statements]
  simp only [List.mem_filterMap, List.mem_flatMap, List.mem_map, alias?, List.contains_iff_mem,
    Option.ite_none_right_eq_some]
  constructor
  · rintro ⟨i, ⟨s, ⟨⟨p, s⟩, hp, rfl⟩, hi⟩, hmarker, hbound⟩
    exact ⟨p, s, i, (hplaced.complete p s).mp hp, hi, hbound, hmarker⟩
  · rintro ⟨p, s, i, hp, hi, hbound, hmarker⟩
    exact ⟨i, ⟨s, ⟨(p, s), (hplaced.complete p s).mpr hp, rfl⟩, hi⟩, hmarker, hbound⟩

lemma counts_iff {names : List String} {block : Block} {name : String} :
    Counts names block name ↔ name ∈ names ++ aliases names block := by
  rw [List.mem_append, mem_aliases]
  constructor
  · rintro (h | ⟨hplace, himport, hbound, hmarker⟩)
    · exact Or.inl h
    · exact Or.inr ⟨_, _, _, hplace, himport, hbound, hmarker⟩
  · rintro (h | ⟨p, s, i, hplace, himport, hbound, hmarker⟩)
    · exact .given h
    · exact .bound hplace himport hbound hmarker

lemma isMarked_iff {names : List String} {block : Block} {c : Located ClassDecl} :
    isMarked ((MarkerRule.names names).predicateFor block) c = true ↔
      Marked names block c.value := by
  rw [isMarked, List.any_eq_true]
  refine exists_congr fun d => and_congr_right fun _ => ?_
  rw [MarkerRule.predicateFor, marks, lastSegment, Option.any_eq_true]
  constructor
  · rintro ⟨last, hlast, hcounts⟩
    obtain ⟨ss, hss, hlast⟩ := Option.bind_eq_some_iff.mp hlast
    obtain ⟨segments, rfl⟩ := List.getLast?_eq_some_iff.mp hlast
    exact ⟨segments, last, hss, counts_iff.mpr (List.contains_iff_mem.mp hcounts)⟩
  · rintro ⟨segments, last, hss, hcounts⟩
    refine ⟨last, ?_, List.contains_iff_mem.mpr (counts_iff.mp hcounts)⟩
    rw [hss, Option.bind_some, List.getLast?_concat]

lemma counts_union {names more : List String} {block : Block} {name : String} :
    Counts (names ∪ more) block name ↔ Counts names block name ∨ Counts more block name := by
  constructor
  · rintro (h | ⟨hplace, himport, hbound, hmarker⟩)
    · exact (List.mem_union_iff.mp h).imp .given .given
    · exact (List.mem_union_iff.mp hmarker).imp (.bound hplace himport hbound)
        (.bound hplace himport hbound)
  · rintro ((h | ⟨hplace, himport, hbound, hmarker⟩) | (h | ⟨hplace, himport, hbound, hmarker⟩))
    · exact .given (List.mem_union_iff.mpr (Or.inl h))
    · exact .bound hplace himport hbound (List.mem_union_iff.mpr (Or.inl hmarker))
    · exact .given (List.mem_union_iff.mpr (Or.inr h))
    · exact .bound hplace himport hbound (List.mem_union_iff.mpr (Or.inr hmarker))

lemma marked_union {names more : List String} {block : Block} {c : ClassDecl} :
    Marked (names ∪ more) block c ↔ Marked names block c ∨ Marked more block c := by
  simp only [Marked, counts_union, and_or_left, exists_or]

end Marker

namespace Scanner

open Marker

/-- The class that is defined at a place. -/
def classAt? (block : Block) (p : Place) : Option (Located ClassDecl) :=
  (stmtAt? block p).bind class?

/-- The classes among statements with their places. -/
def classesOf (placed : List (Place × Located Stmt)) : List (Place × Located ClassDecl) :=
  placed.filterMap fun x => (class? x.2).map (x.1, ·)

section

variable {block : Block} {placed : List (Place × Located Stmt)}

lemma map_classesOf (h : Places block placed) :
    (classesOf placed).map (·.2) = everyClass block := by
  rw [everyClass, ← h.statements, classesOf, List.map_filterMap, List.filterMap_map]
  congr 1
  funext x
  rw [Function.comp_apply]
  cases class? x.2 <;> rfl

lemma pairwise_classesOf (h : Places block placed) :
    (classesOf placed).Pairwise fun x y => x.1.Before y.1 := by
  refine List.pairwise_filterMap.mpr (h.ordered.imp fun {x y} hxy => ?_)
  intro u hu v hv
  obtain ⟨_, _, rfl⟩ := Option.map_eq_some_iff.mp hu
  obtain ⟨_, _, rfl⟩ := Option.map_eq_some_iff.mp hv
  exact hxy

lemma mem_classesOf (h : Places block placed) {p : Place} {c : Located ClassDecl} :
    (p, c) ∈ classesOf placed ↔ classAt? block p = some c := by
  rw [classesOf, List.mem_filterMap, classAt?, Option.bind_eq_some_iff]
  constructor
  · rintro ⟨⟨q, s⟩, hq, hc⟩
    obtain ⟨c', hc', heq⟩ := Option.map_eq_some_iff.mp hc
    cases heq
    exact ⟨s, (h.complete q s).mp hq, hc'⟩
  · rintro ⟨s, hs, hc⟩
    exact ⟨(p, s), (h.complete p s).mpr hs, by rw [hc]; rfl⟩

end

/-- The candidates of a source with their places: each marked class of the tree once, those
inside a class before it and else in the order of the source. More markers add candidates in
between, which are those of the markers that were added. -/
theorem candidates_in_order (block : Block) :
    ∃ found : List String → List (Place × Located ClassDecl),
      (∀ names, (found names).map (·.2) = candidates (.names names) block ∧
        (found names).Pairwise (fun x y => x.1.Before y.1) ∧
        ∀ p c, (p, c) ∈ found names ↔
          classAt? block p = some c ∧ Marked names block c.value) ∧
      ∀ names more, (found names).Sublist (found (names ∪ more)) ∧
        ∀ x, x ∈ found (names ∪ more) ↔ x ∈ found names ∨ x ∈ found more := by
  obtain ⟨placed, hplaced⟩ := exists_places block
  refine ⟨fun names => (classesOf placed).filter fun x =>
      isMarked ((MarkerRule.names names).predicateFor block) x.2,
    fun names => ⟨?_, (pairwise_classesOf hplaced).filter _, fun p c => ?_⟩,
    fun names more => ⟨?_, fun x => ?_⟩⟩
  · rw [candidates, ← map_classesOf hplaced, List.filter_map]
    rfl
  · rw [List.mem_filter, mem_classesOf hplaced, isMarked_iff]
  · refine List.monotone_filter_right _ fun x hx => ?_
    rw [isMarked_iff] at hx ⊢
    exact marked_union.mpr (Or.inl hx)
  · simp only [List.mem_filter, isMarked_iff, marked_union, and_or_left]

end Scanner

end ProbeCatalog
