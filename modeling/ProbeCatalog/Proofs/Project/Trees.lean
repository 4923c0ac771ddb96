import Mathlib.Data.List.Nodup
import ProbeCatalog.Project.Place
import ProbeCatalog.Proofs.Project.Order
import ProbeCatalog.Proofs.Project.Written

/-!
# What a tree holds

The paths of a tree lead to its entries. In a tree as it may stand on a disk the names of each
directory differ and are proper, so each path leads to one entry and is made of proper names.
-/
namespace ProbeCatalog

namespace Entry

lemma contentsOf_ne_nil (es : List (String × Entry)) : ∀ f ∈ contentsOf es, f.1 ≠ [] := by
  induction es with
  | nil => rw [contentsOf]; exact List.forall_mem_nil _
  | cons e es ih =>
    obtain ⟨name, e⟩ := e
    intro f hf
    rw [contentsOf, List.mem_append, List.mem_cons, List.mem_map] at hf
    rcases hf with (rfl | ⟨g, -, rfl⟩) | hf
    · exact List.cons_ne_nil _ _
    · exact List.cons_ne_nil _ _
    · exact ih f hf

lemma contents_of_not_directory {e : Entry} (h : e.isDirectory = false) : contents e = [] := by
  cases e with
  | file octets => rw [contents]
  | table rows => rw [contents]
  | directory entries => cases h

/-- No two entries of a directory have one name, and the names are proper. -/
inductive Proper : Entry → Prop
  | file (octets : List UInt8) : Proper (.file octets)
  | table (rows : List CacheRow) : Proper (.table rows)
  | directory {entries : List (String × Entry)} (hnames : Path.Proper (entries.map (·.1)))
      (hdistinct : (entries.map (·.1)).Nodup) (h : ∀ f ∈ entries, Proper f.2) :
      Proper (.directory entries)

/-- The entries of a directory in the order of their names. -/
def byName (entries : List (String × Entry)) : List (String × Entry) :=
  entries.mergeSort fun f g => decide (f.1 ≤ g.1)

lemma mem_byName {entries : List (String × Entry)} {f : String × Entry} :
    f ∈ byName entries ↔ f ∈ entries := List.mem_mergeSort

lemma pairwise_byName {entries : List (String × Entry)} (h : (entries.map (·.1)).Nodup) :
    (byName entries).Pairwise fun f g => f.1 < g.1 := by
  have hsorted : (byName entries).Pairwise fun f g => decide (f.1 ≤ g.1) = true := by
    apply List.pairwise_mergeSort
    · intro a b c hab hbc
      simp only [decide_eq_true_eq] at hab hbc ⊢
      exact le_trans hab hbc
    · intro a b
      simpa using le_total a.1 b.1
  have hdistinct : (byName entries).Pairwise fun f g => f.1 ≠ g.1 := by
    have hperm : ((byName entries).map (·.1)).Nodup :=
      ((List.mergeSort_perm entries _).map _).nodup_iff.mpr h
    exact List.pairwise_map.mp hperm
  refine hsorted.imp₂ ?_ hdistinct
  intro f g hle hne
  exact lt_of_le_of_ne (of_decide_eq_true hle) hne

lemma mem_contentsOf {entries : List (String × Entry)} {f : Path × Entry} :
    f ∈ contentsOf entries ↔
      ∃ g ∈ entries, f = ([g.1], g.2) ∨ ∃ r ∈ contents g.2, f = (g.1 :: r.1, r.2) := by
  induction entries with
  | nil => simp [contentsOf]
  | cons g entries ih =>
    obtain ⟨name, e⟩ := g
    rw [contentsOf, List.mem_append, List.mem_cons, List.mem_map, ih, List.exists_mem_cons_iff]
    simp only [eq_comm]

lemma ne_nil_of_mem_contents {e : Entry} {f : Path × Entry} (h : f ∈ contents e) : f.1 ≠ [] := by
  cases e with
  | file octets => simp [contents] at h
  | table rows => simp [contents] at h
  | directory entries =>
    rw [contents] at h
    exact contentsOf_ne_nil entries f h

lemma isDirectory_of_mem_contents {e : Entry} {f : Path × Entry} (h : f ∈ contents e) :
    e.isDirectory = true := by
  cases hkind : e.isDirectory with
  | true => rfl
  | false =>
    rw [contents_of_not_directory hkind] at h
    cases h

lemma proper_of_mem_contents {e : Entry} (h : e.Proper) {f : Path × Entry}
    (hf : f ∈ contents e) : f.1.Proper := by
  induction h generalizing f with
  | file octets => simp [contents] at hf
  | table rows => simp [contents] at hf
  | @directory entries hnames hdistinct h ih =>
    rw [contents] at hf
    obtain ⟨g, hg, hf⟩ := mem_contentsOf.mp hf
    have hname := hnames g.1 (List.mem_map.mpr ⟨g, hg, rfl⟩)
    rcases hf with rfl | ⟨r, hr, rfl⟩
    · exact List.forall_mem_singleton.mpr hname
    · exact List.forall_mem_cons.mpr ⟨hname, ih g hg hr⟩

lemma head?_of_mem_contentsOf {entries : List (String × Entry)} {f : Path × Entry}
    (hf : f ∈ contentsOf entries) : ∃ g ∈ entries, f.1.head? = some g.1 := by
  obtain ⟨g, hg, rfl | ⟨r, -, rfl⟩⟩ := mem_contentsOf.mp hf
  · exact ⟨g, hg, rfl⟩
  · exact ⟨g, hg, rfl⟩

lemma nodup_contentsOf {entries : List (String × Entry)} (hdistinct : (entries.map (·.1)).Nodup)
    (h : ∀ g ∈ entries, (g.2.contents.map (·.1)).Nodup) :
    ((contentsOf entries).map (·.1)).Nodup := by
  induction entries with
  | nil => simp [contentsOf]
  | cons g entries ih =>
    obtain ⟨name, e⟩ := g
    rw [List.map_cons, List.nodup_cons] at hdistinct
    obtain ⟨hname, hdistinct⟩ := hdistinct
    obtain ⟨he, hentries⟩ := List.forall_mem_cons.mp h
    have hbelow : ((contents e).map fun f => name :: f.1).Nodup := by
      have hmap := List.Nodup.map (f := List.cons name) List.cons_injective he
      rwa [List.map_map] at hmap
    have hfirst : [name] ∉ (contents e).map fun f => name :: f.1 := by
      intro hmem
      obtain ⟨f, hf, heq⟩ := List.mem_map.mp hmem
      exact ne_nil_of_mem_contents hf (List.cons.inj heq).2
    rw [contentsOf, List.map_append, List.map_cons, List.map_map, List.nodup_append,
      List.nodup_cons]
    refine ⟨⟨hfirst, hbelow⟩, ih hdistinct hentries, ?_⟩
    intro p hp q hq heq
    have hhead : p.head? = some name := by
      rcases List.mem_cons.mp hp with rfl | hp
      · rfl
      · obtain ⟨f, -, rfl⟩ := List.mem_map.mp hp
        rfl
    obtain ⟨f, hf, rfl⟩ := List.mem_map.mp hq
    obtain ⟨g, hg, hghead⟩ := head?_of_mem_contentsOf hf
    rw [heq, hghead] at hhead
    exact hname (List.mem_map.mpr ⟨g, hg, Option.some.inj hhead⟩)

/-- No two entries of a tree have one path. -/
lemma nodup_contents {e : Entry} (h : e.Proper) : (e.contents.map (·.1)).Nodup := by
  induction h with
  | file octets => simp [contents]
  | table rows => simp [contents]
  | directory hnames hdistinct h ih =>
    rw [contents]
    exact nodup_contentsOf hdistinct ih

end Entry

end ProbeCatalog
