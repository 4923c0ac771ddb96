import Mathlib.Algebra.Group.Int.Defs
import Mathlib.Data.List.Nodup
import Mathlib.Data.String.Basic
import ProbeCatalog.Cache.Table
import ProbeCatalog.Proofs.Outcome

/-!
# Rows that are set one after the other

A table has one row for each key. After rows were set, the row of a key is the last one of those
that were set under it, or else the one that was there before.
-/
namespace ProbeCatalog.Cache

/-- The row tells of the submission: its names, its place, and its record as octets. -/
structure IsRowOf (s : Submission) (row : CacheRow) : Prop where
  key : row.key = s.provider.uniqueName
  name : row.name = s.provider.name
  hash : row.hash = s.provider.hash
  file : s.file = some row.file
  line : s.line = some row.line
  payload : row.payload = Record.serialize s.provider

/-- The place of the submission is known and the line number fits. -/
def Storable (s : Submission) : Prop := ∃ file line, s.file = some file ∧ s.line = some line ∧
  -2 ^ 63 ≤ line ∧ line < 2 ^ 63

lemma fits_iff {line : Int} : fits line = true ↔ -2 ^ 63 ≤ line ∧ line < 2 ^ 63 := by
  rw [fits, decide_eq_true_iff]
  omega

lemma rowOf_eq_ok {s : Submission} {row : CacheRow} :
    rowOf s = .ok row ↔ Storable s ∧ IsRowOf s row := by
  obtain ⟨file, line, provider⟩ := s
  constructor
  · intro h
    rw [rowOf] at h
    split at h
    · cases h
    rename_i hrange
    cases file with
    | none => cases h
    | some file =>
      cases line with
      | none => cases h
      | some line =>
        cases h
        have hline : fits line = true := by simpa using hrange
        exact ⟨⟨file, line, rfl, rfl, fits_iff.mp hline⟩, ⟨rfl, rfl, rfl, rfl, rfl, rfl⟩⟩
  · obtain ⟨key, name, hash, file', line', payload⟩ := row
    rintro ⟨⟨file, line, rfl, rfl, hrange⟩, ⟨rfl, rfl, rfl, hfile, hline, rfl⟩⟩
    obtain rfl : file = file' := Option.some.inj hfile
    obtain rfl : line = line' := Option.some.inj hline
    have hfits : (some line).any (!fits ·) = false := by simpa using fits_iff.mpr hrange
    rw [rowOf, if_neg (Bool.eq_false_iff.mp hfits)]
    rfl

lemma succeeds_rowOf {s : Submission} : Succeeds (rowOf s) ↔ Storable s := by
  constructor
  · rintro ⟨row, h⟩
    exact (rowOf_eq_ok.mp h).1
  · rintro ⟨file, line, hfile, hline, hrange⟩
    exact ⟨⟨_, _, _, file, line, _⟩,
      rowOf_eq_ok.mpr ⟨⟨file, line, hfile, hline, hrange⟩, ⟨rfl, rfl, rfl, hfile, hline, rfl⟩⟩⟩

/-! ### Setting one row -/

lemma mem_keys_insert {key : String} {row : CacheRow} {rows : List CacheRow} :
    key ∈ (insert row rows).map (·.key) ↔ key ∈ rows.map (·.key) ∨ key = row.key := by
  induction rows with
  | nil => simp [insert]
  | cons r rows ih =>
    rw [insert]
    split
    · rename_i h
      simp only [List.map_cons, List.mem_cons, h]
      tauto
    · simp only [List.map_cons, List.mem_cons, ih]
      tauto

lemma nodup_insert {row : CacheRow} {rows : List CacheRow} (h : (rows.map (·.key)).Nodup) :
    ((insert row rows).map (·.key)).Nodup := by
  induction rows with
  | nil => exact List.nodup_singleton _
  | cons r rows ih =>
    rw [List.map_cons, List.nodup_cons] at h
    rw [insert]
    split
    · rename_i hkey
      rw [List.map_cons, List.nodup_cons, ← hkey]
      exact h
    · rename_i hkey
      rw [List.map_cons, List.nodup_cons, mem_keys_insert]
      refine ⟨?_, ih h.2⟩
      rintro (hmem | heq)
      · exact h.1 hmem
      · exact hkey heq

lemma mem_insert {row r : CacheRow} {rows : List CacheRow} (h : (rows.map (·.key)).Nodup) :
    r ∈ insert row rows ↔ r = row ∨ r ∈ rows ∧ r.key ≠ row.key := by
  induction rows with
  | nil => simp [insert]
  | cons first rows ih =>
    rw [List.map_cons, List.nodup_cons] at h
    rw [insert]
    split
    · rename_i hkey
      have hother : ∀ r ∈ rows, r.key ≠ row.key := fun r hr hk =>
        h.1 (List.mem_map.mpr ⟨r, hr, hk.trans hkey.symm⟩)
      rw [List.mem_cons, List.mem_cons]
      constructor
      · rintro (rfl | hr)
        · exact Or.inl rfl
        · exact Or.inr ⟨Or.inr hr, hother r hr⟩
      · rintro (rfl | ⟨rfl | hr, hk⟩)
        · exact Or.inl rfl
        · exact absurd hkey hk
        · exact Or.inr hr
    · rename_i hkey
      rw [List.mem_cons, ih h.2, List.mem_cons]
      constructor
      · rintro (rfl | rfl | ⟨hr, hk⟩)
        · exact Or.inr ⟨Or.inl rfl, hkey⟩
        · exact Or.inl rfl
        · exact Or.inr ⟨Or.inr hr, hk⟩
      · rintro (rfl | ⟨rfl | hr, hk⟩)
        · exact Or.inr (Or.inl rfl)
        · exact Or.inl rfl
        · exact Or.inr (Or.inr ⟨hr, hk⟩)

lemma find?_eq_some {key : String} {row : CacheRow} {rows : List CacheRow}
    (h : (rows.map (·.key)).Nodup) : find? key rows = some row ↔ row ∈ rows ∧ row.key = key := by
  constructor
  · intro hfind
    exact ⟨List.mem_of_find?_eq_some hfind, by simpa using List.find?_some hfind⟩
  · rintro ⟨hrow, rfl⟩
    cases hfind : find? row.key rows with
    | none => exact absurd (List.find?_eq_none.mp hfind row hrow) (by simp)
    | some row' =>
      have hkey : row'.key = row.key := by simpa using List.find?_some hfind
      rw [List.inj_on_of_nodup_map h (List.mem_of_find?_eq_some hfind) hrow hkey]

/-! ### What a table tells of all that was stored -/

/-- The last submission of a unique name. -/
def last? (key : String) (submissions : List Submission) : Option Submission :=
  (submissions.filter fun s => s.provider.uniqueName = key).getLast?

/-- The rows after submissions were stored on top of earlier rows: one for each unique name, and
that of the last submission of the name if there is any. -/
structure Tells (earlier : List CacheRow) (submissions : List Submission) (rows : List CacheRow) :
    Prop where
  distinct : (rows.map (·.key)).Nodup
  keys : ∀ key, key ∈ rows.map (·.key) ↔
    key ∈ earlier.map (·.key) ∨ key ∈ submissions.map (·.provider.uniqueName)
  last : ∀ row ∈ rows, (∀ s ∈ last? row.key submissions, IsRowOf s row) ∧
    (last? row.key submissions = none → row ∈ earlier)

lemma tells_nil {rows : List CacheRow} (h : (rows.map (·.key)).Nodup) : Tells rows [] rows where
  distinct := h
  keys key := by simp
  last row hrow := ⟨nofun, fun _ => hrow⟩

lemma last?_append_one (key : String) (submissions : List Submission) (s : Submission) :
    last? key (submissions ++ [s]) =
      if s.provider.uniqueName = key then some s else last? key submissions := by
  rw [last?, List.filter_append]
  split
  · rename_i h
    simp [h]
  · rename_i h
    simp [h, last?]

/-- Storing one more submission. -/
lemma Tells.insert {earlier rows : List CacheRow} {submissions : List Submission} {s : Submission}
    {row : CacheRow} (h : Tells earlier submissions rows) (hrow : IsRowOf s row) :
    Tells earlier (submissions ++ [s]) (insert row rows) where
  distinct := nodup_insert h.distinct
  keys key := by
    rw [mem_keys_insert, h.keys, List.map_append, List.mem_append, List.map_singleton,
      List.mem_singleton, hrow.key, or_assoc]
  last r hr := by
    rw [last?_append_one]
    rcases (mem_insert h.distinct).mp hr with rfl | ⟨hr, hother⟩
    · rw [if_pos hrow.key.symm]
      refine ⟨fun s' hs' => ?_, nofun⟩
      rw [← Option.some.inj hs']
      exact hrow
    · rw [if_neg fun hs => hother (hs.symm.trans hrow.key.symm)]
      exact h.last r hr

lemma Tells.insertAll {earlier rows rows' : List CacheRow} {submissions new : List Submission}
    (h : Tells earlier submissions rows) (hnew : insertAll new rows = .ok rows') :
    Tells earlier (submissions ++ new) rows' := by
  rw [Cache.insertAll] at hnew
  cases hmade : new.mapM rowOf with
  | error f => rw [hmade] at hnew; cases hnew
  | ok made =>
    rw [hmade] at hnew
    cases hnew
    have hmade := mapM_eq_ok.mp hmade
    clear * - h hmade
    dsimp only
    induction hmade generalizing submissions rows with
    | nil => simpa using h
    | @cons s row new made hrow _ ih =>
      rw [List.foldl_cons, List.append_cons]
      exact ih (h.insert (rowOf_eq_ok.mp hrow).2)

lemma succeeds_insertAll {new : List Submission} {rows : List CacheRow} :
    Succeeds (insertAll new rows) ↔ ∀ s ∈ new, Storable s := by
  rw [insertAll, succeeds_map, succeeds_mapM]
  exact forall₂_congr fun s _ => succeeds_rowOf

/-! ### Unique names in order -/

lemma mem_keys {key : String} {rows : List CacheRow} :
    key ∈ keys rows ↔ key ∈ rows.map (·.key) := by
  rw [keys, List.mem_mergeSort]

lemma keys_sorted {rows : List CacheRow} (h : (rows.map (·.key)).Nodup) :
    (keys rows).Pairwise (· < ·) := by
  have hle : (keys rows).Pairwise fun a b => decide (a ≤ b) = true :=
    List.pairwise_mergeSort (fun a b c hab hbc => by
        rw [decide_eq_true_iff] at *
        exact String.le_trans hab hbc)
      (fun a b => by
        rw [Bool.or_eq_true, decide_eq_true_iff, decide_eq_true_iff]
        exact String.le_total a b) _
  have hne : (keys rows).Nodup := (List.mergeSort_perm _ _).nodup_iff.mpr h
  refine (hle.and hne).imp fun {a b} hab => ?_
  exact lt_of_le_of_ne (decide_eq_true_iff.mp hab.1) hab.2

end ProbeCatalog.Cache
