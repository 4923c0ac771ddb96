import Mathlib.Data.String.Basic
import Mathlib.Tactic.Lemma
import ProbeCatalog.Project.Tree

/-!
# The order of paths

Paths are in a total order, and sorting by them is stable. So what a project holds under names
of one kind comes in the same order whatever else the project holds.
-/
namespace ProbeCatalog

namespace Path

lemma le_trans {p q r : Path} (hpq : p.le q = true) (hqr : q.le r = true) : p.le r = true := by
  induction p generalizing q r with
  | nil => rfl
  | cons a p ih =>
    cases q with
    | nil => cases hpq
    | cons b q =>
      cases r with
      | nil => cases hqr
      | cons c r =>
        simp only [le, Bool.or_eq_true, Bool.and_eq_true, decide_eq_true_eq] at hpq hqr ⊢
        rcases hpq with hab | ⟨rfl, hpq⟩
        · rcases hqr with hbc | ⟨rfl, -⟩
          · exact Or.inl (lt_trans hab hbc)
          · exact Or.inl hab
        · rcases hqr with hac | ⟨rfl, hqr⟩
          · exact Or.inl hac
          · exact Or.inr ⟨rfl, ih hpq hqr⟩

lemma le_total (p q : Path) : p.le q = true ∨ q.le p = true := by
  induction p generalizing q with
  | nil => exact Or.inl rfl
  | cons a p ih =>
    cases q with
    | nil => exact Or.inr rfl
    | cons b q =>
      simp only [le, Bool.or_eq_true, Bool.and_eq_true, decide_eq_true_eq]
      rcases lt_trichotomy a b with hab | rfl | hba
      · exact Or.inl (Or.inl hab)
      · exact (ih q).imp (fun h => Or.inr ⟨rfl, h⟩) (fun h => Or.inr ⟨rfl, h⟩)
      · exact Or.inr (Or.inl hba)

lemma le_antisymm {p q : Path} (hpq : p.le q = true) (hqp : q.le p = true) : p = q := by
  induction p generalizing q with
  | nil =>
    cases q with
    | nil => rfl
    | cons b q => cases hqp
  | cons a p ih =>
    cases q with
    | nil => cases hpq
    | cons b q =>
      simp only [le, Bool.or_eq_true, Bool.and_eq_true, decide_eq_true_eq] at hpq hqp
      rcases hpq with hab | ⟨rfl, hpq⟩
      · rcases hqp with hba | ⟨rfl, -⟩
        · exact absurd hba (lt_asymm hab)
        · exact absurd hab (lt_irrefl _)
      · rcases hqp with haa | ⟨-, hqp⟩
        · exact absurd haa (lt_irrefl _)
        · rw [ih hpq hqp]

/-- Below a directory, paths are in the order of what follows. -/
lemma le_append (d p q : Path) : le (d ++ p) (d ++ q) = le p q := by
  induction d with
  | nil => rfl
  | cons name d ih =>
    rw [List.cons_append, List.cons_append, le, ih, decide_eq_false (lt_irrefl name),
      Bool.false_or, decide_eq_true rfl, Bool.true_and]

end Path

section Sorting

variable {α : Type} {le : α → α → Bool}

/-- The place of an element among sorted ones is known from what stands before it. -/
lemma append_cons_inj_of_sorted {a : α} {l₁ l₂ m₁ m₂ : List α} (h : l₁ ++ l₂ = m₁ ++ m₂)
    (hl₁ : ∀ b ∈ l₁, le a b = false) (hl₂ : ∀ b ∈ l₂, le a b = true)
    (hm₁ : ∀ b ∈ m₁, le a b = false) (hm₂ : ∀ b ∈ m₂, le a b = true) :
    l₁ ++ a :: l₂ = m₁ ++ a :: m₂ := by
  have htake {k₁ k₂ : List α} (h₁ : ∀ b ∈ k₁, le a b = false) (h₂ : ∀ b ∈ k₂, le a b = true) :
      (k₁ ++ k₂).takeWhile (fun b => !le a b) = k₁ := by
    rw [List.takeWhile_append_of_pos (by simpa using h₁)]
    cases k₂ with
    | nil => simp
    | cons b k₂ => simp [h₂ b (by simp)]
  have h₁ : l₁ = m₁ := by rw [← htake hl₁ hl₂, h, htake hm₁ hm₂]
  rw [h₁] at h ⊢
  rw [List.append_cancel_left h]

/-- What stands behind an element in a sorted list is not less. -/
lemma le_of_mergeSort_eq (trans : ∀ a b c, le a b = true → le b c = true → le a c = true)
    (total : ∀ a b, (le a b || le b a) = true) {l l₁ l₂ : List α} {a : α}
    (h : l.mergeSort le = l₁ ++ a :: l₂) : ∀ b ∈ l₂, le a b = true := by
  have hsorted := List.pairwise_mergeSort trans total l
  rw [h, List.pairwise_append] at hsorted
  exact (List.pairwise_cons.mp hsorted.2.1).1

/-- Of two elements of a sorted list, the one that cannot come second comes first. -/
lemma exists_of_pairwise {r : α → α → Prop} {l : List α} (h : l.Pairwise r) {a b : α}
    (ha : a ∈ l) (hb : b ∈ l) (hne : a ≠ b) (hno : ¬ r b a) :
    ∃ before between behind, l = before ++ a :: between ++ b :: behind := by
  obtain ⟨front, behind, rfl⟩ := List.append_of_mem hb
  have hfront : a ∈ front := by
    rcases List.mem_append.mp ha with ha | ha
    · exact ha
    · have hbehind := (List.pairwise_cons.mp (List.pairwise_append.mp h).2.1).1
      exact absurd (hbehind a ((List.mem_cons.mp ha).resolve_left hne)) hno
  obtain ⟨before, between, rfl⟩ := List.append_of_mem hfront
  exact ⟨before, between, behind, rfl⟩

/-- Sorting is stable: it may be done before or after a choice of elements. -/
lemma filter_mergeSort (trans : ∀ a b c, le a b = true → le b c = true → le a c = true)
    (total : ∀ a b, (le a b || le b a) = true) (p : α → Bool) (l : List α) :
    (l.mergeSort le).filter p = (l.filter p).mergeSort le := by
  induction l with
  | nil => simp
  | cons a l ih =>
    obtain ⟨l₁, l₂, hal, hl, hl₁⟩ := List.mergeSort_cons trans total a l
    have hl₂ := le_of_mergeSort_eq trans total hal
    rw [hl, List.filter_append] at ih
    by_cases ha : p a = true
    · obtain ⟨m₁, m₂, ham, hm, hm₁⟩ := List.mergeSort_cons trans total a (l.filter p)
      have hm₂ := le_of_mergeSort_eq trans total ham
      rw [hal, List.filter_append, List.filter_cons_of_pos ha, List.filter_cons_of_pos ha, ham]
      apply append_cons_inj_of_sorted (ih.trans hm)
      · intro b hb
        simpa using hl₁ b (List.mem_of_mem_filter hb)
      · exact fun b hb => hl₂ b (List.mem_of_mem_filter hb)
      · simpa using hm₁
      · exact hm₂
    · rw [hal, List.filter_append, List.filter_cons_of_neg ha, List.filter_cons_of_neg ha, ih]

end Sorting

/-- What stands in order already is found as it stands. -/
lemma Entry.find_of_sorted {wanted : String → Bool} {project : Entry}
    (h : ((contents project).filter fun f => f.1.getLast?.any wanted).Pairwise
      fun a b => a.1.le b.1 = true) :
    project.find wanted = (contents project).filter fun f => f.1.getLast?.any wanted :=
  List.mergeSort_of_pairwise h

lemma Entry.mem_find {wanted : String → Bool} {project : Entry} {f : Path × Entry} :
    f ∈ project.find wanted ↔ f ∈ contents project ∧ f.1.getLast?.any wanted = true := by
  rw [find, List.mem_mergeSort, List.mem_filter]

lemma Entry.pairwise_find (wanted : String → Bool) (project : Entry) :
    (project.find wanted).Pairwise fun a b => a.1.le b.1 = true := by
  apply List.pairwise_mergeSort
  · exact fun a b c => Path.le_trans
  · intro a b
    rw [Bool.or_eq_true]
    exact Path.le_total a.1 b.1

end ProbeCatalog
