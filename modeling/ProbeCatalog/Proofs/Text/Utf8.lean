import Mathlib.Tactic.Lemma
import ProbeCatalog.Text.Utf8

/-!
# Characters come back from their octets

`decode_encode`: the octets that a text is encoded in decode to that text. One character is
read off at a time; inside a character the octets still owed are its tail.
-/
namespace ProbeCatalog.Utf8

lemma toNat_ofNat_of_lt {n : Nat} (hn : n < 256) : (UInt8.ofNat n).toNat = n := by
  rw [UInt8.toNat_ofNat']; omega

lemma tail_within {low high : UInt8} {n : Nat} (hn : n < 64) (hl : low.toNat ≤ n + 128)
    (hh : n + 128 ≤ high.toNat) :
    (UInt8.ofNat (n + 128)).toNat = n + 128 ∧
      low ≤ UInt8.ofNat (n + 128) ∧ UInt8.ofNat (n + 128) ≤ high := by
  have hb : (UInt8.ofNat (n + 128)).toNat = n + 128 := toNat_ofNat_of_lt (by omega)
  rw [UInt8.le_iff_toNat_le, UInt8.le_iff_toNat_le, hb]
  exact ⟨rfl, hl, hh⟩

/-- The last octet of a character. -/
lemma decodeFrom_last (position start : Nat) (first : UInt8) (read value : Nat) (low high : UInt8)
    (n : Nat) (bs : List UInt8) (hn : n < 64) (hl : low.toNat ≤ n + 128)
    (hh : n + 128 ≤ high.toNat) :
    decodeFrom position (some ⟨start, first, read, 1, value, low, high⟩)
        (UInt8.ofNat (n + 128) :: bs) =
      (decodeFrom (position + 1) none bs).map (Char.ofNat (value * 64 + n) :: ·) := by
  obtain ⟨hb, hin⟩ := tail_within hn hl hh
  rw [decodeFrom, if_pos hin, hb, Nat.add_sub_cancel, if_pos rfl]

/-- An octet of a character that owes more. -/
lemma decodeFrom_more (position start : Nat) (first : UInt8) (read owed value : Nat)
    (low high : UInt8) (n : Nat) (bs : List UInt8) (hn : n < 64) (hl : low.toNat ≤ n + 128)
    (hh : n + 128 ≤ high.toNat) :
    decodeFrom position (some ⟨start, first, read, owed + 2, value, low, high⟩)
        (UInt8.ofNat (n + 128) :: bs) =
      decodeFrom (position + 1)
        (some ⟨start, first, read + 1, owed + 1, value * 64 + n, 0x80, 0xBF⟩) bs := by
  obtain ⟨hb, hin⟩ := tail_within hn hl hh
  rw [decodeFrom, if_pos hin, hb, Nat.add_sub_cancel, if_neg (by simp)]
  rfl

/-- The first octet of a character of several octets. -/
lemma decodeFrom_start (position n : Nat) (bs : List UInt8) (hn : 0x80 ≤ n) (hm : n < 256)
    {p : Begun} (hp : Begun.ofOctet? position (UInt8.ofNat n) = some p) :
    decodeFrom position none (UInt8.ofNat n :: bs) = decodeFrom (position + 1) (some p) bs := by
  have hlt : ¬ UInt8.ofNat n < 0x80 := by
    rw [UInt8.lt_iff_toNat_lt, toNat_ofNat_of_lt hm]
    simpa using hn
  simp only [decodeFrom, if_neg hlt, hp]

lemma ofOctet?_two (position n : Nat) (hl : 2 ≤ n) (hh : n < 32) :
    Begun.ofOctet? position (UInt8.ofNat (n + 0xC0)) =
      some ⟨position, UInt8.ofNat (n + 0xC0), 1, 1, n, 0x80, 0xBF⟩ := by
  rw [Begun.ofOctet?, toNat_ofNat_of_lt (by omega), if_pos (by omega), Nat.add_sub_cancel]

/-- The bounds on the second octet exclude what fewer octets encode, and surrogates. -/
lemma ofOctet?_three (position n m : Nat) (hn : n < 16) (hm : m < 64)
    (hl : 0x800 ≤ n * 4096 + m * 64 + 63)
    (hs : n * 4096 + m * 64 < 0xD800 ∨ 0xE000 ≤ n * 4096 + m * 64 + 63) :
    ∃ low high : UInt8, Begun.ofOctet? position (UInt8.ofNat (n + 0xE0)) =
        some ⟨position, UInt8.ofNat (n + 0xE0), 1, 2, n, low, high⟩ ∧
      low.toNat ≤ m + 128 ∧ m + 128 ≤ high.toNat := by
  rw [Begun.ofOctet?, toNat_ofNat_of_lt (by omega), if_neg (by omega), Nat.add_sub_cancel]
  by_cases ha : n + 0xE0 = 0xE0
  · exact ⟨0xA0, 0xBF, by rw [if_pos ha], by simp; omega, by simp; omega⟩
  by_cases hd : n + 0xE0 = 0xED
  · exact ⟨0x80, 0x9F, by rw [if_neg ha, if_pos hd], by simp, by simp; omega⟩
  · exact ⟨0x80, 0xBF, by rw [if_neg ha, if_neg hd, if_pos (by omega)], by simp, by simp; omega⟩

/-- The bounds on the second octet exclude what fewer octets encode, and too large numbers. -/
lemma ofOctet?_four (position n m : Nat) (hn : n < 5) (hm : m < 64)
    (hl : 0x10000 ≤ n * 262144 + m * 4096 + 4095) (hs : n * 262144 + m * 4096 < 0x110000) :
    ∃ low high : UInt8, Begun.ofOctet? position (UInt8.ofNat (n + 0xF0)) =
        some ⟨position, UInt8.ofNat (n + 0xF0), 1, 3, n, low, high⟩ ∧
      low.toNat ≤ m + 128 ∧ m + 128 ≤ high.toNat := by
  rw [Begun.ofOctet?, toNat_ofNat_of_lt (by omega), if_neg (by omega), if_neg (by omega),
    if_neg (by omega), if_neg (by omega), Nat.add_sub_cancel]
  by_cases ha : n + 0xF0 = 0xF0
  · exact ⟨0x90, 0xBF, by rw [if_pos ha], by simp; omega, by simp; omega⟩
  by_cases hd : n + 0xF0 = 0xF4
  · exact ⟨0x80, 0x8F, by rw [if_neg ha, if_pos hd], by simp, by simp; omega⟩
  · exact ⟨0x80, 0xBF, by rw [if_neg ha, if_neg hd, if_pos (by omega)], by simp, by simp; omega⟩

/-- The code points of characters leave out the surrogates. -/
lemma toNat_valid (c : Char) : c.toNat < 0xD800 ∨ (0xDFFF < c.toNat ∧ c.toNat < 0x110000) :=
  c.valid

lemma decodeFrom_char (position : Nat) (c : Char) (bs : List UInt8) :
    ∃ next, decodeFrom position none (String.utf8EncodeChar c ++ bs) =
      (decodeFrom next none bs).map (c :: ·) := by
  have hv := toNat_valid c
  have hc : Char.ofNat c.toNat = c := Char.ofNat_toNat c
  have hval : c.val.toNat = c.toNat := rfl
  simp only [String.utf8EncodeChar, hval]
  by_cases h1 : c.toNat ≤ 0x7f
  · have hlt : UInt8.ofNat c.toNat < 0x80 := by
      rw [UInt8.lt_iff_toNat_lt, toNat_ofNat_of_lt (by omega)]
      exact Nat.lt_succ_of_le h1
    refine ⟨position + 1, ?_⟩
    rw [if_pos h1, List.singleton_append, decodeFrom, if_pos hlt, toNat_ofNat_of_lt (by omega), hc]
  rw [if_neg h1]
  by_cases h2 : c.toNat ≤ 0x7ff
  · have hb := ofOctet?_two position (c.toNat / 64 % 0x20) (by omega) (by omega)
    refine ⟨position + 1 + 1, ?_⟩
    rw [if_pos h2, List.cons_append, decodeFrom_start _ _ _ (by omega) (by omega) hb,
      List.cons_append, List.nil_append,
      decodeFrom_last _ _ _ _ _ _ _ _ _ (by omega) (by simp) (by simp; omega),
      show c.toNat / 64 % 0x20 * 64 + c.toNat % 0x40 = c.toNat by omega, hc]
  rw [if_neg h2]
  by_cases h3 : c.toNat ≤ 0xffff
  · obtain ⟨low, high, hb, hl, hh⟩ := ofOctet?_three position (c.toNat / 4096 % 0x10)
      (c.toNat / 64 % 0x40) (by omega) (by omega) (by omega) (by omega)
    refine ⟨position + 1 + 1 + 1, ?_⟩
    rw [if_pos h3, List.cons_append, decodeFrom_start _ _ _ (by omega) (by omega) hb,
      List.cons_append, decodeFrom_more _ _ _ _ _ _ _ _ _ _ (by omega) hl hh,
      List.cons_append, List.nil_append,
      decodeFrom_last _ _ _ _ _ _ _ _ _ (by omega) (by simp) (by simp; omega),
      show (c.toNat / 4096 % 0x10 * 64 + c.toNat / 64 % 0x40) * 64 + c.toNat % 0x40 = c.toNat by
        omega, hc]
  · obtain ⟨low, high, hb, hl, hh⟩ := ofOctet?_four position (c.toNat / 262144 % 0x08)
      (c.toNat / 4096 % 0x40) (by omega) (by omega) (by omega) (by omega)
    refine ⟨position + 1 + 1 + 1 + 1, ?_⟩
    rw [if_neg h3, List.cons_append, decodeFrom_start _ _ _ (by omega) (by omega) hb,
      List.cons_append, decodeFrom_more _ _ _ _ _ _ _ _ _ _ (by omega) hl hh,
      List.cons_append, decodeFrom_more _ _ _ _ _ _ _ _ _ _ (by omega) (by simp) (by simp; omega),
      List.cons_append, List.nil_append,
      decodeFrom_last _ _ _ _ _ _ _ _ _ (by omega) (by simp) (by simp; omega),
      show ((c.toNat / 262144 % 0x08 * 64 + c.toNat / 4096 % 0x40) * 64 +
        c.toNat / 64 % 0x40) * 64 + c.toNat % 0x40 = c.toNat by omega, hc]

lemma decodeFrom_encode (position : Nat) (cs : List Char) :
    decodeFrom position none (encode cs) = .ok cs := by
  induction cs generalizing position with
  | nil => rfl
  | cons c cs ih =>
    obtain ⟨next, h⟩ := decodeFrom_char position c (encode cs)
    rw [encode, List.flatMap_cons, ← encode, h, ih next]
    rfl

/-- Decoding undoes encoding. -/
theorem decode_encode (cs : List Char) : decode (encode cs) = .ok cs :=
  decodeFrom_encode 0 cs

end ProbeCatalog.Utf8
