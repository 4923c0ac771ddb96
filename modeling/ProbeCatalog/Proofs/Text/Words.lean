import Mathlib.Data.List.Basic
import ProbeCatalog.Syntax.Lexer
import ProbeCatalog.Text.Normal

/-!
# Words in their normal form

The normal form of a word is a word again: no table of the normal form leads out of the characters
that words may hold.
-/
namespace ProbeCatalog.Normal

open Syntax.Lexer (isWordChar)

/-- The number of a character that may stand in a word. -/
def isWordCode (n : Nat) : Bool := decide n.isValidChar && isWordChar (Char.ofNat n)

section

set_option maxRecDepth 100000

/-- The tables are read once, from the characters of their texts. -/
lemma decompositions_words :
    (decompositions.all fun entry => entry.2.all isWordCode) = true := by
  rw [decompositions, Table.entries, Table.words, NormalTable.decompositions,
    String.toList_ofList]
  decide +kernel

lemma composites_words : (composites.all fun entry => isWordCode entry.2) = true := by
  rw [composites, Table.entries, Table.words, NormalTable.composites, String.toList_ofList]
  decide +kernel

end

lemma toNat_ofNat {n : Nat} (h : n.isValidChar) : (Char.ofNat n).toNat = n := by
  rw [Char.ofNat, dif_pos h]
  rfl

lemma isWordCode_of_le {n : Nat} (hlow : 128 ≤ n) (h : n.isValidChar) : isWordCode n = true := by
  rw [isWordCode, decide_eq_true h, Bool.true_and, isWordChar, toNat_ofNat h,
    decide_eq_true hlow, Bool.or_true]

lemma isWordCode_toNat {c : Char} (h : isWordChar c = true) : isWordCode c.toNat = true := by
  rw [isWordCode, Char.ofNat_toNat, h, Bool.and_true]
  exact decide_eq_true c.valid

lemma isWordChar_ofNat {n : Nat} (h : isWordCode n = true) : isWordChar (Char.ofNat n) = true :=
  (Bool.and_eq_true_iff.mp h).2

lemma words_decomposeOne {n : Nat} (h : isWordCode n = true) :
    ∀ part ∈ decomposeOne n, isWordCode part = true := by
  rw [decomposeOne]
  split
  · exact fun part hpart => List.mem_singleton.mp hpart ▸ h
  · split
    · rename_i hsyllable
      have hlead : isWordCode (0x1100 + (n - 0xAC00) / 588) = true :=
        isWordCode_of_le (by omega) (Or.inl (by omega))
      have hvowel : isWordCode (0x1161 + ((n - 0xAC00) % 588) / 28) = true :=
        isWordCode_of_le (by omega) (Or.inl (by omega))
      have htail : isWordCode (0x11A7 + (n - 0xAC00) % 28) = true :=
        isWordCode_of_le (by omega) (Or.inl (by omega))
      simp only [hangulParts]
      split
      · simp only [List.forall_mem_cons]
        exact ⟨hlead, hvowel, nofun⟩
      · simp only [List.forall_mem_cons]
        exact ⟨hlead, hvowel, htail, nofun⟩
    · split
      · rename_i parts hparts
        obtain ⟨before, after, heq, -⟩ := List.lookup_eq_some_iff.mp hparts
        have hwords := List.all_eq_true.mp decompositions_words (n, parts) (by rw [heq]; simp)
        exact List.all_eq_true.mp hwords
      · exact fun part hpart => List.mem_singleton.mp hpart ▸ h

lemma words_compositeOf? {a b c : Nat} (h : compositeOf? a b = some c) : isWordCode c = true := by
  rw [compositeOf?] at h
  split at h
  · rw [← Option.some.inj h]
    exact isWordCode_of_le (by omega) (Or.inl (by omega))
  · split at h
    · rw [← Option.some.inj h]
      exact isWordCode_of_le (by omega) (Or.inl (by omega))
    · obtain ⟨before, after, heq, -⟩ := List.lookup_eq_some_iff.mp h
      exact List.all_eq_true.mp composites_words ((a, b), c) (by rw [heq]; simp)

lemma words_insertMark {k n : Nat} {marks : List (Nat × Nat)} (hn : isWordCode n = true)
    (h : ∀ m ∈ marks, isWordCode m.2 = true) :
    ∀ m ∈ insertMark k n marks, isWordCode m.2 = true := by
  induction marks with
  | nil => exact fun m hm => List.mem_singleton.mp hm ▸ hn
  | cons mark marks ih =>
    obtain ⟨hmark, hmarks⟩ := List.forall_mem_cons.mp h
    rw [insertMark]
    split
    · exact List.forall_mem_cons.mpr ⟨hmark, ih hmarks⟩
    · exact List.forall_mem_cons.mpr ⟨hn, h⟩

/-- Ordering keeps the characters, whatever their classes are. -/
lemma words_foldl (classOf : Nat → Nat) {ns : List Nat} (h : ∀ n ∈ ns, isWordCode n = true)
    {done : List (Nat × Nat)} (hdone : ∀ m ∈ done, isWordCode m.2 = true) :
    ∀ m ∈ ns.foldl (fun done n =>
      let k := classOf n
      if k = 0 then (k, n) :: done else insertMark k n done) done, isWordCode m.2 = true := by
  induction ns generalizing done with
  | nil => exact hdone
  | cons n ns ih =>
    obtain ⟨hn, hns⟩ := List.forall_mem_cons.mp h
    refine ih hns ?_
    by_cases hk : classOf n = 0
    · simp only [hk, if_true]
      exact List.forall_mem_cons.mpr ⟨hn, hdone⟩
    · simp only [hk, if_false]
      exact words_insertMark hn hdone

lemma words_ordered {ns : List Nat} (h : ∀ n ∈ ns, isWordCode n = true) :
    ∀ m ∈ ordered ns, isWordCode m.2 = true := fun m hm =>
  words_foldl combiningClass h (List.forall_mem_nil _) m (List.mem_reverse.mp hm)

/-- Composition takes a starter and marks that are words so far, and goes on with the rest. -/
lemma words_composeFrom {starter : Nat} {marks rest : List (Nat × Nat)}
    (hstarter : isWordCode starter = true) (hmarks : ∀ m ∈ marks, isWordCode m.2 = true)
    (hrest : ∀ m ∈ rest, isWordCode m.2 = true) :
    ∀ n ∈ composeFrom starter marks rest, isWordCode n = true := by
  induction rest generalizing starter marks with
  | nil =>
    rw [composeFrom, List.forall_mem_cons]
    refine ⟨hstarter, fun n hn => ?_⟩
    obtain ⟨m, hm, rfl⟩ := List.mem_map.mp hn
    exact hmarks m (List.mem_reverse.mp hm)
  | cons m rest ih =>
    obtain ⟨k, n⟩ := m
    obtain ⟨hn, hrest⟩ := List.forall_mem_cons.mp hrest
    simp only [composeFrom]
    split
    · rename_i c hc
      exact ih (words_compositeOf? (Option.ite_none_left_eq_some.mp hc).2) hmarks hrest
    · split
      · rw [List.cons_append, List.forall_mem_cons]
        refine ⟨hstarter, List.forall_mem_append.mpr ⟨fun n' hn' => ?_, ih hn nofun hrest⟩⟩
        obtain ⟨m, hm, rfl⟩ := List.mem_map.mp hn'
        exact hmarks m (List.mem_reverse.mp hm)
      · exact ih hstarter (List.forall_mem_cons.mpr ⟨hn, hmarks⟩) hrest

lemma words_composeAll {ms : List (Nat × Nat)} (h : ∀ m ∈ ms, isWordCode m.2 = true) :
    ∀ n ∈ composeAll ms, isWordCode n = true := by
  induction ms with
  | nil => exact nofun
  | cons m ms ih =>
    obtain ⟨k, n⟩ := m
    obtain ⟨hn, hms⟩ := List.forall_mem_cons.mp h
    rw [composeAll]
    split
    · exact words_composeFrom hn nofun hms
    · exact List.forall_mem_cons.mpr ⟨hn, ih hms⟩

/-- The normal form of a word is a word. -/
theorem words_compose {cs : List Char} (h : ∀ c ∈ cs, isWordChar c = true) :
    ∀ c ∈ compose cs, isWordChar c = true := by
  rw [compose]
  split
  · exact h
  · have hparts : ∀ n ∈ cs.flatMap fun c => decomposeOne c.toNat, isWordCode n = true := by
      intro n hn
      obtain ⟨c, hc, hn⟩ := List.mem_flatMap.mp hn
      exact words_decomposeOne (isWordCode_toNat (h c hc)) n hn
    intro c hc
    obtain ⟨n, hn, rfl⟩ := List.mem_map.mp hc
    exact isWordChar_ofNat (words_composeAll (words_ordered hparts) n hn)

end ProbeCatalog.Normal
