import ProbeCatalog.Json.Reader
import ProbeCatalog.Json.Writer
import ProbeCatalog.Proofs.Text.Hexadecimal

/-!
# Strings of JSON read back

What `writeCodePoint` writes for a character is read as this character, whatever follows in
the string. Characters outside the sixteen-bit range go through two escapes, and the reader
joins them. Lone halves of surrogate pairs are left out here: two of them in a row would be
joined as well.
-/
namespace ProbeCatalog

namespace Json

lemma ofUnit_toNat (c : Char) : ofUnit c.toNat = .char c := by
  have h := CodePoint.ofNat?_toNat (.char c)
  rw [CodePoint.toNat] at h
  rw [ofUnit, h, Option.getD_some]

lemma unit_lt_length {n : Nat} (hn : n < 0x10000) {rest : List Char} (hr : rest ≠ []) :
    4 < (hexPadded 4 n ++ rest).length := by
  have hpos : 0 < rest.length := List.length_pos_iff.mpr hr
  rw [List.length_append, length_hexPadded (by decide) (by omega)]
  omega

lemma unit?_hexPadded {n : Nat} (hn : n < 0x10000) {rest : List Char} (hr : rest ≠ []) :
    unit? (hexPadded 4 n ++ rest) = some n := by
  have htake : (hexPadded 4 n ++ rest).take 4 = hexPadded 4 n :=
    List.take_left' (length_hexPadded (by decide) (by omega))
  simp only [unit?, htake]
  rw [if_pos ⟨unit_lt_length hn hr, all_isHexDigit_hexPadded 4 n⟩, hex_hexPadded]

lemma drop_unit {n : Nat} (hn : n < 0x10000) (rest : List Char) :
    (hexPadded 4 n ++ rest).drop 4 = rest :=
  List.drop_left' (length_hexPadded (by decide) (by omega))

/-- The escape of a unit that is no half of a pair. -/
lemma escapeAt_unit (start position : Nat) (c : Char) (hc : c.toNat < 0x10000)
    {cs rest : List Char} (hu : unit? cs = some c.toNat) (hd : cs.drop 4 = rest) :
    escapeAt start ⟨position, 'u' :: cs⟩ = .ok (.char c, ⟨position + 5, rest⟩) := by
  have hv : c.toNat < 0xD800 ∨ (0xDFFF < c.toNat ∧ c.toNat < 0x110000) := c.valid
  have hout : ¬ (0xD800 ≤ c.toNat ∧ c.toNat < 0xDC00) := by omega
  simp only [escapeAt, hu, if_neg hout, ofUnit_toNat, Cursor.skip, List.drop_succ_cons, hd]
  rfl

/-- A high half with the low half after it is one character. -/
lemma escapeAt_pair {start position n m : Nat} {c : Char} {cs ds rest : List Char}
    (hn : 0xD800 ≤ n ∧ n < 0xDC00) (hm : 0xDC00 ≤ m ∧ m < 0xE000)
    (hc : 0x10000 + (n - 0xD800) * 0x400 + (m - 0xDC00) = c.toNat)
    (hu : unit? cs = some n) (hd : cs.drop 4 = '\\' :: 'u' :: ds) (hl : 4 < ds.length)
    (hm' : unit? ds = some m) (hr : ds.drop 4 = rest) :
    escapeAt start ⟨position, 'u' :: cs⟩ = .ok (.char c, ⟨position + 11, rest⟩) := by
  have hsecond : secondUnit ⟨position + 5, '\\' :: 'u' :: ds⟩ = .ok (some m) := by
    simp only [secondUnit, if_pos hl, hm']
  simp only [escapeAt, hu, if_pos hn, Cursor.skip, List.drop_succ_cons, hd, hsecond, bind,
    Except.bind, if_pos hm, hc, ofUnit_toNat, hr]
  rfl

/-- What is written for a character: itself, one escape, or the two halves of a pair. -/
inductive Written (c : Char) : List Char → Prop
  | plain (hq : c ≠ '"') (hb : c ≠ '\\') (hlow : ¬ c.toNat < 32) : Written c [c]
  | short (e : Char) (h : ∀ start position rest,
      escapeAt start ⟨position, e :: rest⟩ = .ok (.char c, ⟨position + 1, rest⟩)) :
      Written c ['\\', e]
  | unit (h : c.toNat < 0x10000) : Written c (unitEscape c.toNat)
  | pair (n m : Nat) (hn : 0xD800 ≤ n ∧ n < 0xDC00) (hm : 0xDC00 ≤ m ∧ m < 0xE000)
      (hc : 0x10000 + (n - 0xD800) * 0x400 + (m - 0xDC00) = c.toNat) :
      Written c (unitEscape n ++ unitEscape m)

lemma Written.length_pos {c : Char} {cs : List Char} (h : Written c cs) : 0 < cs.length := by
  cases h <;> simp [unitEscape]

lemma written_pair {c : Char} (h : 0x10000 ≤ c.toNat) :
    Written c (unitEscape (0xD800 + (c.toNat - 0x10000) / 0x400) ++
      unitEscape (0xDC00 + (c.toNat - 0x10000) % 0x400)) := by
  have hv : c.toNat < 0xD800 ∨ (0xDFFF < c.toNat ∧ c.toNat < 0x110000) := c.valid
  apply Written.pair
  · generalize c.toNat = n at *
    omega
  · generalize c.toNat = n at *
    omega
  · generalize c.toNat = n at *
    omega

lemma written (c : Char) : Written c (writeCodePoint (.char c)) := by
  unfold writeCodePoint
  split
  case h_1 h => cases h; exact .short _ fun _ _ _ => rfl
  case h_2 h => cases h; exact .short _ fun _ _ _ => rfl
  case h_3 h => cases h; exact .short _ fun _ _ _ => rfl
  case h_4 h => cases h; exact .short _ fun _ _ _ => rfl
  case h_5 h => cases h; exact .short _ fun _ _ _ => rfl
  case h_6 h => cases h; exact .short _ fun _ _ _ => rfl
  case h_7 h => cases h; exact .short _ fun _ _ _ => rfl
  case h_8 hq hb _ _ _ _ _ =>
    have hn : (CodePoint.char c).toNat = c.toNat := rfl
    rw [hn]
    by_cases hp : 32 ≤ c.toNat ∧ c.toNat < 127
    · rw [if_pos hp, Char.ofNat_toNat]
      exact .plain (fun h => hq (by rw [h])) (fun h => hb (by rw [h])) (by omega)
    rw [if_neg hp]
    by_cases hu : c.toNat < 0x10000
    · rw [if_pos hu]
      exact .unit hu
    · rw [if_neg hu]
      exact written_pair (by omega)

/-- One step of reading, over what is written for a character. -/
lemma stringFrom_writeCodePoint (start fuel position : Nat) (c : Char) {rest : List Char}
    (hr : rest ≠ []) :
    stringFrom start (fuel + 1) ⟨position, writeCodePoint (.char c) ++ rest⟩ =
      (stringFrom start fuel ⟨position + (writeCodePoint (.char c)).length, rest⟩).map
        fun (t, after) => (.char c :: t, after) := by
  have pass {e : List Char} (h : escapeAt start ⟨position + 1, e ++ rest⟩ =
      .ok (.char c, ⟨position + 1 + e.length, rest⟩)) :
      stringFrom start (fuel + 1) ⟨position, '\\' :: e ++ rest⟩ =
        (stringFrom start fuel ⟨position + ('\\' :: e).length, rest⟩).map
          fun (t, after) => (.char c :: t, after) := by
    have hlen : position + ('\\' :: e).length = position + 1 + e.length := by
      rw [List.length_cons]; omega
    simp only [stringFrom, List.cons_append, Cursor.skip, List.drop_succ_cons, List.drop_zero, h,
      hlen, bind, Except.bind]
    cases stringFrom start fuel ⟨position + 1 + e.length, rest⟩ <;> rfl
  have hw := written c
  generalize writeCodePoint (.char c) = written at hw
  cases hw with
  | plain hq hb hlow =>
    rw [List.cons_append, List.nil_append, stringFrom]
    simp only [if_neg hlow, Cursor.skip, List.drop_succ_cons, List.drop_zero,
      List.length_singleton, bind, Except.bind]
    cases stringFrom start fuel ⟨position + 1, rest⟩ <;> rfl
  | short e h => exact pass (h _ _ _)
  | unit hu =>
    have hlen : (hexPadded 4 c.toNat).length = 4 := length_hexPadded (by decide) (by omega)
    apply pass (e := 'u' :: hexPadded 4 c.toNat)
    rw [List.cons_append, escapeAt_unit _ _ _ hu (unit?_hexPadded hu hr) (drop_unit hu rest),
      List.length_cons, hlen]
  | pair n m hn hm hc =>
    have hlen : ∀ n < 0x10000, (hexPadded 4 n).length = 4 :=
      fun n hn => length_hexPadded (by decide) (by omega)
    apply pass (e := 'u' :: (hexPadded 4 n ++ '\\' :: 'u' :: hexPadded 4 m))
    simp only [List.cons_append, List.append_assoc]
    rw [escapeAt_pair hn hm hc (unit?_hexPadded (by omega) (by simp)) (drop_unit (by omega) _)
      (unit_lt_length (by omega) hr) (unit?_hexPadded (by omega) hr) (drop_unit (by omega) _),
      List.length_cons, List.length_append, hlen n (by omega), List.length_cons,
      List.length_cons, hlen m (by omega)]

/-- A written string reads back, whatever follows it. -/
theorem stringFrom_write (start position fuel : Nat) (cs rest : List Char)
    (hf : cs.length < fuel) :
    stringFrom start fuel
        ⟨position, (Text.ofChars cs).flatMap writeCodePoint ++ '"' :: rest⟩ =
      .ok (Text.ofChars cs,
        ⟨position + ((Text.ofChars cs).flatMap writeCodePoint).length + 1, rest⟩) := by
  induction cs generalizing position fuel with
  | nil =>
    obtain ⟨fuel, rfl⟩ : ∃ n, fuel = n + 1 := ⟨fuel - 1, by simp at hf; omega⟩
    rfl
  | cons c cs ih =>
    obtain ⟨fuel, rfl⟩ : ∃ n, fuel = n + 1 := ⟨fuel - 1, by simp at hf; omega⟩
    have hc : Text.ofChars (c :: cs) = .char c :: Text.ofChars cs := rfl
    rw [hc, List.flatMap_cons, List.append_assoc,
      stringFrom_writeCodePoint _ _ _ _ (by simp), ih _ _ (by simpa using hf)]
    simp only [Except.map, List.length_append]
    rw [← Nat.add_assoc]

end Json

end ProbeCatalog
