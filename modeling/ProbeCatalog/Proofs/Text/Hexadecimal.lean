import Mathlib.Algebra.Group.Nat.Defs
import Mathlib.Tactic.Lemma
import ProbeCatalog.Text.Quoted
import ProbeCatalog.Text.Table

/-!
# Hexadecimal digits

A number written in hexadecimal digits and filled up to a width has that width, consists of
digits and reads back as the number. The numbers written so are those of code points.
-/
namespace ProbeCatalog

lemma CodePoint.ofNat?_toNat (p : CodePoint) : ofNat? p.toNat = some p := by
  cases p with
  | char c =>
    have hvalid : c.toNat.isValidChar := c.valid
    rw [toNat, ofNat?, dif_pos hvalid]
    rfl
  | half i =>
    have hi := i.isLt
    have hvalid : ¬ (0xD800 + i.val).isValidChar := by
      rintro (h | h) <;> omega
    rw [toNat, ofNat?, dif_neg hvalid, dif_pos (by omega)]
    simp

lemma CodePoint.toNat_lt (p : CodePoint) : p.toNat < 0x110000 := by
  cases p with
  | char c =>
    rcases c.valid with h | h
    · exact Nat.lt_trans h (by decide)
    · exact h.2
  | half i =>
    have hi := i.isLt
    rw [toNat]
    omega

namespace Table

lemma isHexDigit_digitChar : ∀ d < 16, isHexDigit (Nat.digitChar d) = true := by decide

lemma hexDigit_digitChar : ∀ d < 16, hexDigit (Nat.digitChar d) = d := by decide

lemma hex_append (cs ds : List Char) :
    hex (cs ++ ds) = ds.foldl (fun n c => 16 * n + hexDigit c) (hex cs) := by
  rw [hex, List.foldl_append, ← hex]

lemma hex_toDigits (n : Nat) : hex (Nat.toDigits 16 n) = n := by
  induction n using Nat.base_induction 16 (by decide) with
  | single m hm =>
    rw [Nat.toDigits_of_lt_base hm]
    simpa [hex] using hexDigit_digitChar m hm
  | digit m k hk hm ih =>
    rw [← Nat.toDigits_append_toDigits (by decide) hm hk, hex_append, ih,
      Nat.toDigits_of_lt_base hk]
    simp [hexDigit_digitChar k hk]

lemma all_isHexDigit_toDigits (n : Nat) : (Nat.toDigits 16 n).all isHexDigit = true := by
  induction n using Nat.base_induction 16 (by decide) with
  | single m hm => simpa [Nat.toDigits_of_lt_base hm] using isHexDigit_digitChar m hm
  | digit m k hk hm ih =>
    rw [← Nat.toDigits_append_toDigits (by decide) hm hk, List.all_append, ih,
      Nat.toDigits_of_lt_base hk]
    simpa using isHexDigit_digitChar k hk

lemma hex_replicate_zero (k : Nat) : hex (List.replicate k '0') = 0 := by
  induction k with
  | zero => rfl
  | succ k ih => rw [List.replicate_succ', hex_append, ih]; decide

end Table

lemma length_hexPadded {width n : Nat} (hw : 0 < width) (hn : n < 16 ^ width) :
    (hexPadded width n).length = width := by
  have h := (Nat.length_toDigits_le_iff (b := 16) (by decide) hw).mpr hn
  simp only [hexPadded, List.length_append, List.length_replicate]
  omega

lemma all_isHexDigit_hexPadded (width n : Nat) :
    (hexPadded width n).all Table.isHexDigit = true := by
  rw [hexPadded, List.all_append, Table.all_isHexDigit_toDigits, Bool.and_true, List.all_eq_true]
  intro c hc
  rw [List.eq_of_mem_replicate hc]
  decide

lemma hex_hexPadded (width n : Nat) : Table.hex (hexPadded width n) = n := by
  have h := Table.hex_toDigits n
  rw [hexPadded, Table.hex_append, Table.hex_replicate_zero, ← Table.hex]
  exact h

end ProbeCatalog
