import Mathlib.Algebra.Ring.Nat
import Mathlib.Data.List.TakeWhile
import ProbeCatalog.Proofs.Outcome
import ProbeCatalog.Syntax.Literal

/-!
# Tokens and the text they stand for

Each token has a cost, which the characters that it was made from pay for: a string costs its body
and two quotes, other tokens that are spelled cost one character. All tokens of a source together
cost no more than its length, and no literal denotes more than its body has characters.
-/
namespace ProbeCatalog.Syntax

/-- The number of characters that a token takes at least. -/
def Token.cost : Token → Nat
  | .string literal => literal.body.length + 2
  | .newline | .indent | .dedent | .finish => 0
  | _ => 1

/-- The number of characters that some tokens take at least. -/
def cost (tokens : List Lexeme) : Nat := (tokens.map (·.value.cost)).sum

@[simp] lemma cost_nil : cost [] = 0 := rfl

@[simp] lemma cost_cons (t : Lexeme) (tokens : List Lexeme) :
    cost (t :: tokens) = t.value.cost + cost tokens := List.sum_cons

@[simp] lemma cost_append (ts us : List Lexeme) : cost (ts ++ us) = cost ts + cost us := by
  rw [cost, List.map_append, List.sum_append, cost, cost]

namespace Lexer

/-! ### Strings -/

lemma length_closing (quote : Char) (isLong : Bool) : 1 ≤ (closing quote isLong).length := by
  cases isLong with
  | true => exact Nat.le_add_left 1 2
  | false => exact le_rfl

lemma length_isPrefixOf? {start cs rest : List Char} (h : start.isPrefixOf? cs = some rest) :
    start.length + rest.length = cs.length := by
  rw [← List.isPrefixOf?_eq_some_iff_append_eq.mp h, List.length_append]

lemma length_stringBody {quote : Char} {isLong : Bool} {cs body rest : List Char}
    (h : stringBody quote isLong cs = some (body, rest)) :
    body.length + 1 + rest.length ≤ cs.length := by
  induction cs using stringBody.induct quote isLong generalizing body rest with
  | case1 => cases h
  | case2 c cs ih =>
    rw [stringBody] at h
    obtain ⟨⟨body', rest'⟩, hbody, heq⟩ := Option.map_eq_some_iff.mp h
    cases heq
    have hle := ih hbody
    simp only [List.length_cons]
    omega
  | case3 c cs hescape rest' hclose =>
    rw [stringBody, hclose] at h
    · cases h
      have hlength := length_isPrefixOf? hclose
      have hclosing := length_closing quote isLong
      simp only [List.length_cons, List.length_nil] at hlength ⊢
      omega
    · exact hescape
  | case4 c cs hescape hclose hline =>
    rw [stringBody, hclose, if_pos hline] at h
    · cases h
    · exact hescape
  | case5 c cs hescape hclose hline ih =>
    rw [stringBody, hclose, if_neg hline] at h
    · obtain ⟨⟨body', rest'⟩, hbody, heq⟩ := Option.map_eq_some_iff.mp h
      cases heq
      have hle := ih hbody
      simp only [List.length_cons]
      omega
    · exact hescape

lemma cost_stringFrom {literal : StringLiteral} {cs own rest : List Char} {t : Token}
    (h : stringFrom literal cs = some (t, own, rest)) : t.cost + rest.length ≤ cs.length := by
  cases cs with
  | nil => cases h
  | cons q cs =>
    simp only [stringFrom, Option.map_eq_some_iff] at h
    obtain ⟨⟨body, rest'⟩, hbody, heq⟩ := h
    cases heq
    have hle := length_stringBody hbody
    rw [List.length_drop] at hle
    simp only [Token.cost, List.length_cons]
    omega

/-! ### Words and symbols -/

lemma length_dropWhile_lt {p : Char → Bool} {c : Char} {cs : List Char} (hc : p c = true) :
    ((c :: cs).dropWhile p).length < (c :: cs).length := by
  have hle := List.length_dropWhile_le p cs
  rw [List.dropWhile_cons_of_pos hc, List.length_cons]
  omega

lemma cost_word {c : Char} {cs own rest : List Char} {t : Token} (hc : isWordChar c = true)
    (h : word (c :: cs) = some (t, own, rest)) : t.cost + rest.length ≤ (c :: cs).length := by
  have hrest : ((c :: cs).dropWhile isWordChar).length < (c :: cs).length :=
    length_dropWhile_lt hc
  simp only [word] at h
  split at h
  · obtain ⟨⟨t', own', rest'⟩, hstring, heq⟩ := Option.map_eq_some_iff.mp h
    cases heq
    exact (cost_stringFrom hstring).trans hrest.le
  · split at h
    · split at h
      · cases h
        simp only [Token.cost]
        omega
      · cases h
        simp only [Token.cost]
        omega
    · split at h
      · cases h
        simp only [Token.cost]
        omega
      · cases h

lemma cost_symbol {cs own rest : List Char} {t : Token} (h : symbol cs = some (t, own, rest)) :
    t.cost + rest.length ≤ cs.length := by
  have hsymbols : ∀ s ∈ symbols, 1 ≤ s.toList.length := by decide
  obtain ⟨s, hs, heq⟩ := exists_of_firstM h
  obtain ⟨rest', hprefix, heq⟩ := Option.map_eq_some_iff.mp heq
  cases heq
  have hlength := length_isPrefixOf? hprefix
  have hpositive := hsymbols s hs
  simp only [Token.cost]
  omega

/-! ### Numbers -/

lemma length_digitRun {isDigit : Char → Bool} {cs run rest : List Char}
    (h : digitRun isDigit cs = some (run, rest)) : rest.length ≤ cs.length := by
  induction cs using digitRun.induct isDigit generalizing run rest with
  | case1 =>
    cases h
    exact le_rfl
  | case2 c cs hc ih =>
    rw [digitRun, if_pos hc] at h
    obtain ⟨⟨run', rest'⟩, hrun, heq⟩ := Option.map_eq_some_iff.mp h
    cases heq
    have hle := ih hrun
    simp only [List.length_cons]
    omega
  | case3 c cs hc =>
    rw [digitRun, if_neg hc] at h
    cases h
  | case4 cs hother =>
    rw [digitRun, if_pos rfl] at h
    · cases h
    · exact hother
  | case5 c cs hother hunderscore hc ih =>
    rw [digitRun, if_neg hunderscore, if_pos hc] at h
    · obtain ⟨⟨run', rest'⟩, hrun, heq⟩ := Option.map_eq_some_iff.mp h
      cases heq
      have hle := ih hrun
      simp only [List.length_cons]
      omega
    · exact hother
  | case6 c cs hother hunderscore hc =>
    rw [digitRun, if_neg hunderscore, if_neg hc] at h
    · cases h
      exact le_rfl
    · exact hother

lemma length_digitRun_lt {c : Char} {cs run rest : List Char} (hc : c.isDigit = true)
    (h : digitRun Char.isDigit (c :: cs) = some (run, rest)) : rest.length < (c :: cs).length := by
  have hunderscore : c ≠ '_' := by
    rintro rfl
    exact absurd hc (by decide)
  rw [digitRun, if_neg hunderscore, if_pos hc] at h
  · obtain ⟨⟨run', rest'⟩, hrun, heq⟩ := Option.map_eq_some_iff.mp h
    cases heq
    exact Nat.lt_succ_of_le (length_digitRun hrun)
  · rintro _ _ rfl -
    exact hunderscore rfl

lemma length_basedNumber {isDigit : Char → Bool} {cs run rest : List Char}
    (h : basedNumber isDigit cs = some (run, rest)) : rest.length ≤ cs.length := by
  rw [basedNumber] at h
  split at h
  · cases h
  · exact length_digitRun h

lemma length_fraction {cs run rest : List Char} (h : fraction cs = some (run, rest)) :
    rest.length ≤ cs.length ∧ (cs.head? = some '.' → rest.length < cs.length) := by
  rw [fraction.eq_def] at h
  split at h
  · split at h
    · obtain ⟨⟨run', rest'⟩, hrun, heq⟩ := Option.map_eq_some_iff.mp h
      cases heq
      have hle := length_digitRun hrun
      simp only [List.length_cons] at hle ⊢
      omega
    · cases h
      simp
  · cases h
    simp
  · rename_i hmore hend
    cases h
    refine ⟨le_rfl, fun hhead => ?_⟩
    obtain ⟨tail, rfl⟩ := List.head?_eq_some_iff.mp hhead
    cases tail with
    | nil => exact absurd rfl hend
    | cons c tail => exact absurd rfl (hmore c tail)

lemma length_exponent {cs run rest : List Char} (h : exponent cs = some (run, rest)) :
    rest.length ≤ cs.length := by
  rw [exponent.eq_def] at h
  split at h
  · split at h
    · split at h
      · obtain ⟨⟨run', rest'⟩, hrun, heq⟩ := Option.map_eq_some_iff.mp h
        cases heq
        exact (length_digitRun hrun).trans (Nat.le_succ _)
      · split at h
        · obtain ⟨⟨run', rest'⟩, hrun, heq⟩ := Option.map_eq_some_iff.mp h
          cases heq
          exact (length_digitRun hrun).trans (by simp)
        · cases h
          exact le_rfl
    · cases h
      exact le_rfl
  · split at h
    · cases h
      exact Nat.zero_le _
    · cases h
      exact le_rfl
  · cases h
    exact le_rfl

lemma length_imaginaryMark (cs : List Char) : (imaginaryMark cs).2.length ≤ cs.length := by
  rw [imaginaryMark.eq_def]
  split
  · exact Nat.le_succ _
  · exact Nat.le_succ _
  · exact le_rfl

/-- What a number leaves that goes on with a fraction, an exponent and a mark. -/
lemma length_afterWhole {cs part power afterPart afterPower : List Char}
    (hpart : fraction cs = some (part, afterPart))
    (hpower : exponent afterPart = some (power, afterPower)) :
    (imaginaryMark afterPower).2.length ≤ cs.length ∧
      (cs.head? = some '.' → (imaginaryMark afterPower).2.length < cs.length) := by
  obtain ⟨hle, hlt⟩ := length_fraction hpart
  have hexponent := length_exponent hpower
  have hmark := length_imaginaryMark afterPower
  refine ⟨by omega, fun hhead => ?_⟩
  have hfraction := hlt hhead
  omega

/-- A number takes its first character at least, which is a digit or a point. -/
lemma length_decimalNumber {c : Char} {cs run rest : List Char}
    (hc : c.isDigit = true ∨ c = '.') (h : decimalNumber (c :: cs) = some (run, rest)) :
    rest.length < (c :: cs).length := by
  rw [decimalNumber] at h
  split at h
  · rename_i hhead
    rw [Option.bind_eq_bind, Option.bind_some] at h
    obtain ⟨⟨part, afterPart⟩, hpart, h⟩ := Option.bind_eq_some_iff.mp h
    obtain ⟨⟨power, afterPower⟩, hpower, h⟩ := Option.bind_eq_some_iff.mp h
    obtain ⟨-, h⟩ := Option.ite_none_left_eq_some.mp h
    cases h
    exact (length_afterWhole hpart hpower).2 hhead
  · rename_i hhead
    obtain ⟨⟨whole, afterWhole⟩, hwhole, h⟩ := Option.bind_eq_some_iff.mp h
    obtain ⟨⟨part, afterPart⟩, hpart, h⟩ := Option.bind_eq_some_iff.mp h
    obtain ⟨⟨power, afterPower⟩, hpower, h⟩ := Option.bind_eq_some_iff.mp h
    obtain ⟨-, h⟩ := Option.ite_none_left_eq_some.mp h
    cases h
    rcases hc with hc | rfl
    · exact ((length_afterWhole hpart hpower).1).trans_lt (length_digitRun_lt hc hwhole)
    · exact absurd rfl hhead

/-- A number in a base of its own begins with two characters that are no digits of it. -/
lemma length_based {isDigit : Char → Bool} {b : Char} {digits spelling rest : List Char}
    (h : ((basedNumber isDigit digits).map fun found => ('0' :: b :: found.1, found.2)) =
      some (spelling, rest)) : rest.length < ('0' :: b :: digits).length := by
  obtain ⟨⟨run, rest'⟩, hrun, heq⟩ := Option.map_eq_some_iff.mp h
  cases heq
  have hle := length_basedNumber hrun
  simp only [List.length_cons]
  omega

lemma length_number {c : Char} {cs run rest : List Char} (hc : c.isDigit = true ∨ c = '.')
    (h : number (c :: cs) = some (run, rest)) : rest.length < (c :: cs).length := by
  -- A word that runs into its end makes a number fail, and changes nothing else.
  have hend {found : Option (List Char × List Char)}
      (hfound : (found >>= fun number => if endsNumber number.2 then some number else none) =
        some (run, rest)) : found = some (run, rest) := by
    obtain ⟨number, hspelling, hfound⟩ := Option.bind_eq_some_iff.mp hfound
    obtain ⟨-, heq⟩ := Option.ite_none_right_eq_some.mp hfound
    cases heq
    exact hspelling
  rw [number.eq_def] at h
  split at h
  · rename_i b digits heq
    split at h
    · rw [heq]
      exact length_based (hend h)
    · split at h
      · rw [heq]
        exact length_based (hend h)
      · split at h
        · rw [heq]
          exact length_based (hend h)
        · exact length_decimalNumber hc (hend h)
  · exact length_decimalNumber hc (hend h)

lemma cost_token {cs own rest : List Char} {t : Token} (h : token cs = some (t, own, rest)) :
    t.cost + rest.length ≤ cs.length := by
  cases cs with
  | nil => cases h
  | cons c cs =>
    simp only [token] at h
    split at h
    · rename_i hstart
      rw [isWordStart, Bool.and_eq_true] at hstart
      exact cost_word hstart.1 h
    · split at h
      · exact cost_stringFrom h
      · split at h
        · rename_i hnumber
          obtain ⟨⟨own', rest'⟩, hrest, heq⟩ := Option.map_eq_some_iff.mp h
          cases heq
          have hc : c.isDigit = true ∨ c = '.' := by
            simp only [Bool.or_eq_true, Bool.and_eq_true, decide_eq_true_eq] at hnumber
            exact hnumber.imp_right And.left
          have hlt := length_number hc hrest
          simp only [Token.cost]
          omega
        · exact cost_symbol h

/-! ### Lines -/

lemma length_margin {m m' : Margin} {continued : Nat} {pos pos' : Position} {cs rest : List Char}
    (h : margin m continued pos cs = some (m', pos', rest)) : rest.length ≤ cs.length := by
  induction m, continued, pos, cs using margin.induct with
  | case1 m continued pos cs ih =>
    rw [margin] at h
    exact (ih h).trans (Nat.le_succ _)
  | case2 m continued pos cs ih =>
    rw [margin] at h
    exact (ih h).trans (Nat.le_succ _)
  | case3 m continued pos cs ih =>
    rw [margin] at h
    exact (ih h).trans (Nat.le_succ _)
  | case4 m continued pos cs hempty =>
    rw [margin, if_pos hempty] at h
    cases h
  | case5 m continued pos cs hempty ih =>
    rw [margin, if_neg hempty] at h
    have hle := ih h
    simp only [List.length_cons]
    omega
  | case6 m continued pos cs hblank htab hfeed hjoin hslash =>
    rw [margin, if_pos hslash] at h
    · cases h
    all_goals assumption
  | case7 m continued pos cs hblank htab hfeed hjoin hslash =>
    rw [margin, if_neg hslash] at h
    · cases h
      exact le_rfl
    all_goals assumption

lemma cost_closeBlocks {m : Margin} {blocks left : List Margin} {tokens : List Token}
    (h : closeBlocks m blocks = some (tokens, left)) : ∀ t ∈ tokens, t.cost = 0 := by
  induction blocks generalizing tokens with
  | nil =>
    rw [closeBlocks] at h
    split at h
    · cases h
      exact nofun
    · cases h
  | cons top outer ih =>
    rw [closeBlocks] at h
    split at h
    · obtain ⟨⟨tokens', left'⟩, hclose, heq⟩ := Option.map_eq_some_iff.mp h
      cases heq
      exact List.forall_mem_cons.mpr ⟨rfl, ih hclose⟩
    · split at h
      · cases h
        exact nofun
      · cases h

/-- The margin of a line costs nothing. -/
lemma cost_indentation {m : Margin} {blocks left : List Margin} {tokens : List Token}
    (h : indentation m blocks = some (tokens, left)) (start : Position) :
    cost (tokens.map (⟨start, ·⟩)) = 0 := by
  have hzero : ∀ t ∈ tokens, t.cost = 0 := by
    simp only [indentation] at h
    split at h
    · split at h
      · cases h
      · cases h
        exact List.forall_mem_singleton.mpr rfl
    · exact cost_closeBlocks h
  clear h
  induction tokens with
  | nil => rfl
  | cons t tokens ih =>
    obtain ⟨ht, htokens⟩ := List.forall_mem_cons.mp hzero
    rw [List.map_cons, cost_cons, ht, ih htokens]

/-- With this fuel, the tokens of what is left of a source cost no more than its length. -/
def Covers (fuel : Nat) : Prop :=
  ∀ ⦃st pos cs tokens⦄, lexFrom fuel st pos cs = some tokens → cost tokens ≤ cs.length

section

variable {fuel : Nat} (hcovers : Covers fuel) {st : LexState} {pos : Position} {cs : List Char}
  {tokens : List Lexeme}
include hcovers

lemma cost_at_margin (hst : st.atLineStart = true)
    (h : lexFrom (fuel + 1) st pos cs = some tokens) : cost tokens ≤ cs.length := by
  simp only [lexFrom, hst, if_true] at h
  obtain ⟨⟨m, start, rest⟩, hmargin, h⟩ := Option.bind_eq_some_iff.mp h
  have hrest := length_margin hmargin
  simp only at h
  split at h
  · rename_i comment
    have hcomment := List.length_dropWhile_le (· ≠ '\n') ('#' :: comment)
    split at h
    · rename_i heq
      have hle := hcovers h
      rw [heq, List.length_cons] at hcomment
      omega
    · exact (hcovers h).trans (Nat.zero_le _)
  · have hle := hcovers h
    simp only [List.length_cons] at hrest
    omega
  · obtain ⟨⟨closed, blocks⟩, hindentation, h⟩ := Option.bind_eq_some_iff.mp h
    obtain ⟨lexemes, hlex, h⟩ := Option.bind_eq_some_iff.mp h
    cases h
    have hle := hcovers hlex
    rw [cost_append, cost_indentation hindentation]
    omega

lemma cost_within_line (hst : st.atLineStart = false)
    (h : lexFrom (fuel + 1) st pos cs = some tokens) : cost tokens ≤ cs.length := by
  rw [lexFrom.eq_def] at h
  simp only [hst, Bool.false_eq_true, if_false] at h
  split at h
  · split at h
    · cases h
      exact le_rfl
    · cases h
  · exact (hcovers h).trans (List.length_dropWhile_le _ _)
  · split at h
    · obtain ⟨lexemes, hlex, h⟩ := Option.bind_eq_some_iff.mp h
      cases h
      have hle := hcovers hlex
      simp only [cost_cons, Token.cost, List.length_cons]
      omega
    · exact (hcovers h).trans (Nat.le_succ _)
  · split at h
    · cases h
    · have hle := hcovers h
      simp only [List.length_cons]
      omega
  · split at h
    · exact (hcovers h).trans (Nat.le_succ _)
    · obtain ⟨⟨t, own, rest⟩, htoken, h⟩ := Option.bind_eq_some_iff.mp h
      obtain ⟨brackets, -, h⟩ := Option.bind_eq_some_iff.mp h
      obtain ⟨lexemes, hlex, h⟩ := Option.bind_eq_some_iff.mp h
      cases h
      have hle : cost lexemes ≤ rest.length := hcovers hlex
      have hcost := cost_token htoken
      simp only [cost_cons]
      omega

end

lemma covers_lexFrom (fuel : Nat) : Covers fuel := by
  induction fuel with
  | zero =>
    intro st pos cs tokens h
    cases h
  | succ fuel ih =>
    intro st pos cs tokens h
    cases hst : st.atLineStart with
    | true => exact cost_at_margin ih hst h
    | false => exact cost_within_line ih hst h

/-- The tokens of a source cost no more than its length. -/
theorem cost_lexLines {cs : List Char} {tokens : List Lexeme} (h : lexLines cs = some tokens) :
    cost tokens ≤ cs.length := by
  rw [lexLines] at h
  split at h
  · cases h
  · exact covers_lexFrom _ h

end Lexer

lemma length_unifyLineEnds (cs : List Char) : (unifyLineEnds cs).length ≤ cs.length := by
  induction cs using unifyLineEnds.induct with
  | case1 => exact le_rfl
  | case2 cs ih =>
    rw [unifyLineEnds]
    simp only [List.length_cons]
    omega
  | case3 c cs hjoin ih =>
    rw [unifyLineEnds]
    · simp only [List.length_cons]
      omega
    · exact hjoin

namespace Literal

/-! ### Escapes -/

lemma length_hexEscape {count : Nat} {cs rest : List Char} {p : CodePoint}
    (h : hexEscape count cs = some (p, rest)) : rest.length ≤ cs.length := by
  simp only [hexEscape] at h
  obtain ⟨-, h⟩ := Option.ite_none_right_eq_some.mp h
  obtain ⟨_, -, heq⟩ := Option.map_eq_some_iff.mp h
  cases heq
  rw [List.length_drop]
  exact Nat.sub_le _ _

lemma length_namedEscape {cs rest : List Char} {p : CodePoint}
    (h : namedEscape cs = some (p, rest)) : rest.length ≤ cs.length := by
  rw [namedEscape.eq_def] at h
  split at h
  · rename_i cs
    have hname := List.length_dropWhile_le (· ≠ '\x7d') cs
    simp only at h
    split at h
    · rename_i heq
      obtain ⟨_, -, h⟩ := Option.bind_eq_some_iff.mp h
      obtain ⟨_, -, h⟩ := Option.bind_eq_some_iff.mp h
      cases h
      rw [heq] at hname
      simp only [List.length_cons] at hname ⊢
      omega
    · cases h
  · cases h

/-- An escape for one code point is not longer than what it leaves and one character more. -/
lemma length_of_one {found : Option (CodePoint × List Char)} {cs rest : List Char} {t : Text}
    (hfound : ∀ p left, found = some (p, left) → left.length ≤ cs.length)
    (h : (found.map fun (p, left) => ([p], left)) = some (t, rest)) :
    t.length + rest.length ≤ cs.length + 1 := by
  obtain ⟨⟨p, left⟩, hleft, heq⟩ := Option.map_eq_some_iff.mp h
  cases heq
  have hle := hfound p _ hleft
  simp only [List.length_cons, List.length_nil]
  omega

/-- What an escape denotes is not longer than it is spelled, with its backslash. -/
lemma length_escape {cs rest : List Char} {t : Text} (h : escape cs = some (t, rest)) :
    t.length + rest.length ≤ cs.length + 1 := by
  rw [escape.eq_def] at h
  split at h
  · cases h
    exact le_rfl
  · cases h
    simp only [List.length_cons, List.length_nil]
    omega
  · exact (length_of_one (fun _ _ => length_hexEscape) h).trans (Nat.le_succ _)
  · exact (length_of_one (fun _ _ => length_hexEscape) h).trans (Nat.le_succ _)
  · exact (length_of_one (fun _ _ => length_hexEscape) h).trans (Nat.le_succ _)
  · exact (length_of_one (fun _ _ => length_namedEscape) h).trans (Nat.le_succ _)
  · split at h
    · obtain ⟨p, -, heq⟩ := Option.map_eq_some_iff.mp h
      cases heq
      simp only [List.length_drop, List.length_cons, List.length_nil]
      omega
    · split at h
      · cases h
        simp only [List.length_cons, List.length_nil]
        omega
      · cases h
        simp only [List.length_cons, List.length_nil]
        omega

lemma length_unescape {fuel : Nat} {cs : List Char} {t : Text} (h : unescape fuel cs = some t) :
    t.length ≤ cs.length := by
  induction fuel, cs using unescape.induct generalizing t with
  | case1 fuel =>
    rw [unescape] at h
    cases h
    exact le_rfl
  | case2 cs hne =>
    rw [unescape] at h
    · cases h
    · exact hne
  | case3 fuel cs ih =>
    rw [unescape] at h
    obtain ⟨⟨denoted, rest⟩, hescape, h⟩ := Option.bind_eq_some_iff.mp h
    obtain ⟨text, htext, h⟩ := Option.bind_eq_some_iff.mp h
    cases h
    have hdenoted := length_escape hescape
    have hle := ih rest htext
    simp only [List.length_append, List.length_cons]
    omega
  | case4 fuel c cs hc ih =>
    rw [unescape] at h
    · obtain ⟨text, htext, rfl⟩ := Option.map_eq_some_iff.mp h
      exact Nat.succ_le_succ (ih htext)
    · exact hc

/-- The text of a string is not longer than its body. -/
theorem length_decodeText {isRaw : Bool} {body : List Char} {t : Text}
    (h : decodeText isRaw body = some t) : t.length ≤ body.length := by
  rw [decodeText] at h
  split at h
  · cases h
    rw [Text.ofChars, List.length_map]
  · exact length_unescape h

end Literal

end ProbeCatalog.Syntax
