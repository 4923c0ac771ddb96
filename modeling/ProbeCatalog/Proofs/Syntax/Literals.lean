import ProbeCatalog.Proofs.Text.Quotes
import ProbeCatalog.Syntax.Literal

/-!
# Quoted texts are read back

What stands between the quotes of a quoted text denotes the text: every escape that is written is
read as the code point that it was written for, and nothing else is taken for an escape.
-/
namespace ProbeCatalog

open Syntax.Lexer (isQuote)

namespace Syntax.Literal

lemma hexEscape_hexPadded {width : Nat} (hw : 0 < width) {p : CodePoint}
    (hp : p.toNat < 16 ^ width) (rest : List Char) :
    hexEscape width (hexPadded width p.toNat ++ rest) = some (p, rest) := by
  have hlength := length_hexPadded hw hp
  have htake : (hexPadded width p.toNat ++ rest).take width = hexPadded width p.toNat :=
    List.take_left' hlength
  have hdrop : (hexPadded width p.toNat ++ rest).drop width = rest := List.drop_left' hlength
  simp only [hexEscape, htake, hdrop]
  rw [if_pos ⟨hlength, all_isHexDigit_hexPadded _ _⟩, hex_hexPadded, CodePoint.ofNat?_toNat]
  rfl

/-- The body of the escape of a code point is read as this code point. -/
def Denotes (body : List Char) (p : CodePoint) : Prop :=
  ∀ rest, escape (body ++ rest) = some ([p], rest)

lemma denotes_numericEscape (p : CodePoint) :
    ∃ body, numericEscape p.toNat = '\\' :: body ∧ Denotes body p := by
  have hlt := p.toNat_lt
  rw [numericEscape]
  split
  · refine ⟨_, rfl, fun rest => ?_⟩
    rw [List.cons_append, escape, hexEscape_hexPadded (by decide) (by omega)]
    rfl
  · split
    · refine ⟨_, rfl, fun rest => ?_⟩
      rw [List.cons_append, escape, hexEscape_hexPadded (by decide) (by omega)]
      rfl
    · refine ⟨_, rfl, fun rest => ?_⟩
      rw [List.cons_append, escape, hexEscape_hexPadded (by decide) (by omega)]
      rfl

lemma denotes_escaped (p : CodePoint) : ∃ body, escaped p = '\\' :: body ∧ Denotes body p := by
  rw [escaped.eq_def]
  split
  · exact ⟨_, rfl, fun _ => rfl⟩
  · exact ⟨_, rfl, fun _ => rfl⟩
  · exact ⟨_, rfl, fun _ => rfl⟩
  · exact ⟨_, rfl, fun _ => rfl⟩
  · exact denotes_numericEscape p

/-- A code point stands between quotes as it is or by its escape. -/
lemma shownBetween_cases {q : Char} (hq : isQuote q = true) (p : CodePoint) :
    (∃ c, p = .char c ∧ c ≠ '\\' ∧ shownBetween q p = [c]) ∨
      ∃ body, shownBetween q p = '\\' :: body ∧ Denotes body p := by
  rw [shownBetween]
  split
  · rename_i hp
    subst hp
    refine Or.inr ⟨[q], rfl, ?_⟩
    rcases isQuote_iff.mp hq with rfl | rfl
    · exact fun _ => rfl
    · exact fun _ => rfl
  · cases p with
    | char c =>
      rw [shown]
      split
      · rename_i h
        exact Or.inl ⟨c, rfl, h.1, rfl⟩
      · exact Or.inr (denotes_escaped _)
    | half i =>
      rw [shown]
      exact Or.inr (denotes_escaped _)

lemma unescape_shownBetween {q : Char} (hq : isQuote q = true) (t : Text) {fuel : Nat}
    (hfuel : (t.flatMap (shownBetween q)).length ≤ fuel) :
    unescape fuel (t.flatMap (shownBetween q)) = some t := by
  induction t generalizing fuel with
  | nil => cases fuel <;> rfl
  | cons p t ih =>
    rw [List.flatMap_cons] at hfuel ⊢
    rcases shownBetween_cases hq p with ⟨c, rfl, hc, heq⟩ | ⟨body, heq, hbody⟩
    · rw [heq, List.singleton_append] at hfuel ⊢
      cases fuel with
      | zero => cases hfuel
      | succ fuel =>
        rw [unescape, ih (Nat.le_of_succ_le_succ hfuel)]
        · rfl
        · exact hc
    · rw [heq, List.cons_append] at hfuel ⊢
      cases fuel with
      | zero => cases hfuel
      | succ fuel =>
        have hrest : (t.flatMap (shownBetween q)).length ≤ fuel := by
          rw [List.length_cons, List.length_append] at hfuel
          omega
        rw [unescape, hbody, Option.bind_eq_bind, Option.bind_some]
        simp only [ih hrest]
        rfl

/-- The inner text of a quoted text denotes the text. -/
theorem decodeText_quotedParts (t : Text) : decodeText false (quotedParts t).2 = some t :=
  unescape_shownBetween (guarded_quotedParts t).1 t le_rfl

end Syntax.Literal

/-- A quoted text tells which text was quoted. -/
theorem quoted_injective : Function.Injective quoted := by
  intro t u h
  obtain ⟨-, hinner⟩ := List.cons_eq_cons.mp h
  have hparts : (quotedParts t).2 = (quotedParts u).2 := List.append_inj_left' hinner rfl
  have hread := Syntax.Literal.decodeText_quotedParts t
  rw [hparts, Syntax.Literal.decodeText_quotedParts] at hread
  exact (Option.some.inj hread).symm

end ProbeCatalog
