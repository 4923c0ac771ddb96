import Mathlib.Data.List.Infix
import ProbeCatalog.Proofs.Text.Hexadecimal
import ProbeCatalog.Proofs.Text.Strings
import ProbeCatalog.Text.Quoted

/-!
# Texts between quotes

What stands between quotes does not end the literal before its closing quotes. Between short
quotes this is so because each quote of the same kind has a backslash in front of it, between long
quotes because no three of them stand in a row and the last character is none of them.
-/
namespace ProbeCatalog

open Strings
open Syntax.Lexer (isQuote)

namespace Strings

/-- A backslash stands in front of each quote of a kind, and none at the end. -/
inductive Guarded (q : Char) : List Char → Prop
  | nil : Guarded q []
  | plain {c : Char} {cs : List Char} (hq : c ≠ q) (hc : c ≠ '\\') (h : Guarded q cs) :
      Guarded q (c :: cs)
  | escape {c : Char} {cs : List Char} (h : Guarded q cs) : Guarded q ('\\' :: c :: cs)

/-- No backslash stands in front of a quote or at the end. -/
inductive Escaped : List Char → Prop
  | nil : Escaped []
  | plain {c : Char} {cs : List Char} (hc : c ≠ '\\') (h : Escaped cs) : Escaped (c :: cs)
  | escape {c : Char} {cs : List Char} (hc : isQuote c = false) (h : Escaped cs) :
      Escaped ('\\' :: c :: cs)

variable {sep : Char → Bool} {q : Char} {cs ds : List Char}

lemma Guarded.append (h : Guarded q cs) (h' : Guarded q ds) : Guarded q (cs ++ ds) := by
  induction h with
  | nil => exact h'
  | plain hq hc _ ih => exact .plain hq hc ih
  | escape _ ih => exact .escape ih

lemma Guarded.flatMap {α : Type} {f : α → List Char} (h : ∀ a, Guarded q (f a)) (as : List α) :
    Guarded q (as.flatMap f) := by
  induction as with
  | nil => exact .nil
  | cons a as ih => exact (h a).append ih

lemma Escaped.append (h : Escaped cs) (h' : Escaped ds) : Escaped (cs ++ ds) := by
  induction h with
  | nil => exact h'
  | plain hc _ ih => exact .plain hc ih
  | escape hc _ ih => exact .escape hc ih

lemma Escaped.flatMap {α : Type} {f : α → List Char} (h : ∀ a, Escaped (f a)) (as : List α) :
    Escaped (as.flatMap f) := by
  induction as with
  | nil => exact .nil
  | cons a as ih => exact (h a).append ih

lemma ne_backslash (hq : isQuote q = true) : '\\' ≠ q := by
  rintro rfl
  cases hq

/-- Without quotes of a kind nothing is left to be guarded. -/
lemma Escaped.guarded (h : Escaped cs) (hq : q ∉ cs) : Guarded q cs := by
  induction h with
  | nil => exact .nil
  | plain hc _ ih =>
    rw [List.mem_cons, not_or] at hq
    exact .plain (Ne.symm hq.1) hc (ih hq.2)
  | escape hc _ ih =>
    rw [List.mem_cons, List.mem_cons, not_or, not_or] at hq
    exact .escape (ih hq.2.2)

/-- A quote at the end stands for itself. -/
lemma Escaped.init (h : Escaped (cs ++ [q])) (hq : isQuote q = true) : Escaped cs := by
  generalize heq : cs ++ [q] = ds at h
  induction h generalizing cs with
  | nil => simp at heq
  | @plain c ds hc hds ih =>
    cases cs with
    | nil => exact .nil
    | cons d cs =>
      rw [List.cons_append, List.cons_eq_cons] at heq
      obtain ⟨rfl, heq⟩ := heq
      exact .plain hc (ih heq)
  | @escape c ds hc hds ih =>
    match cs with
    | [] => cases heq
    | [d] =>
      simp only [List.cons_append, List.nil_append, List.cons_eq_cons] at heq
      obtain ⟨-, rfl, -⟩ := heq
      rw [hq] at hc
      cases hc
    | d :: e :: cs =>
      simp only [List.cons_append, List.cons_eq_cons] at heq
      obtain ⟨rfl, rfl, heq⟩ := heq
      exact .escape hc (ih heq)

/-! ### Reading between quotes -/

section

variable (hq : isQuote q = true)
include hq

lemma Guarded.reads_short (h : Guarded q cs) : Reads sep (.short q) cs (.short q) := by
  induction h with
  | nil => exact .nil
  | plain hcq hc _ ih =>
    refine .inside rfl ?_
    rw [Mode.step, if_neg hcq, if_neg hc]
    exact ih
  | escape _ ih =>
    refine .inside rfl ?_
    rw [Mode.step, if_neg (ne_backslash hq), if_pos rfl]
    exact .inside rfl ih

lemma Guarded.reads_long (h : Guarded q cs) : Reads sep (.long q 0) cs (.long q 0) := by
  induction h with
  | nil => exact .nil
  | plain hcq hc _ ih =>
    refine .inside rfl ?_
    rw [Mode.step, if_neg hcq, if_neg hc]
    exact ih
  | escape _ ih =>
    refine .inside rfl ?_
    rw [Mode.step, if_neg (ne_backslash hq), if_pos rfl]
    exact .inside rfl ih

/-- Between long quotes the quotes at the end are counted: there are at most two, as long as there
are no three in a row. -/
lemma Escaped.reads_long (h : Escaped cs) {k : Nat} (hk : k ≤ 2)
    (hlong : ¬ [q, q, q] <:+: List.replicate k q ++ cs) :
    ∃ k' ≤ 2, Reads sep (.long q k) cs (.long q k') ∧
      (k' ≠ 0 → (List.replicate k q ++ cs).getLast? = some q) := by
  induction h generalizing k with
  | nil =>
    refine ⟨k, hk, .nil, fun hk' => ?_⟩
    rw [List.append_nil, List.getLast?_replicate, if_neg hk']
  | @plain c cs hc _ ih =>
    by_cases hcq : c = q
    · subst hcq
      have hmore : List.replicate k c ++ c :: cs = List.replicate (k + 1) c ++ cs := by
        rw [List.replicate_succ', List.append_assoc, List.singleton_append]
      have hk' : k ≠ 2 := by
        rintro rfl
        exact hlong ⟨[], cs, rfl⟩
      rw [hmore] at hlong ⊢
      obtain ⟨k', hle, hr, hlast⟩ := ih (by omega) hlong
      refine ⟨k', hle, .inside rfl ?_, hlast⟩
      rw [Mode.step, if_pos rfl, if_neg hk']
      exact hr
    · have hrest : ¬ [q, q, q] <:+: List.replicate 0 q ++ cs := fun h =>
        hlong (h.trans ((List.suffix_cons c cs).trans (List.suffix_append _ _)).isInfix)
      obtain ⟨k', hle, hr, hlast⟩ := ih (Nat.zero_le 2) hrest
      refine ⟨k', hle, .inside rfl ?_, fun hk' => ?_⟩
      · rw [Mode.step, if_neg hcq, if_neg hc]
        exact hr
      · have := hlast hk'
        rw [List.replicate_zero, List.nil_append] at this
        rw [List.getLast?_append, List.getLast?_cons, this]
        rfl
  | @escape c cs hc _ ih =>
    have hrest : ¬ [q, q, q] <:+: List.replicate 0 q ++ cs := fun h =>
      hlong (h.trans ((List.suffix_append ['\\', c] cs).trans (List.suffix_append _ _)).isInfix)
    obtain ⟨k', hle, hr, hlast⟩ := ih (Nat.zero_le 2) hrest
    refine ⟨k', hle, .inside rfl ?_, fun hk' => ?_⟩
    · rw [Mode.step, if_neg (ne_backslash hq), if_pos rfl]
      exact .inside rfl hr
    · have := hlast hk'
      rw [List.replicate_zero, List.nil_append] at this
      rw [List.getLast?_append, List.getLast?_cons_cons, List.getLast?_cons, this]
      rfl

/-! ### Literals -/

lemma Guarded.reads_opened (h : Guarded q cs) (hne : cs ≠ []) :
    Reads sep (.opened q) cs (.short q) := by
  cases h with
  | nil => exact absurd rfl hne
  | plain hcq hc h =>
    refine .inside rfl ?_
    rw [Mode.step, if_neg hcq, if_neg hc]
    exact h.reads_short hq
  | escape h =>
    refine .inside rfl ?_
    rw [Mode.step, if_neg (ne_backslash hq), if_pos rfl]
    exact .inside rfl (h.reads_short hq)

/-- The separators matter where a literal begins, so no quote may be one. -/
lemma reads_quote (hsep : sep q = false) : Reads sep .code [q] (.opened q) := by
  refine .cons (fun _ => hsep) ?_
  rw [Mode.step, Mode.start, hq]
  exact .nil

lemma reads_two_quotes (hsep : sep q = false) : Reads sep .code [q, q] (.closed q) := by
  refine (reads_quote hq hsep).append (.inside rfl ?_)
  rw [Mode.step, if_pos rfl]
  exact .nil

lemma Guarded.whole (h : Guarded q cs) (hsep : sep q = false) : Whole sep (q :: (cs ++ [q])) := by
  by_cases hne : cs = []
  · subst hne
    exact ⟨.closed q, rfl, reads_two_quotes hq hsep⟩
  · refine ⟨.code, rfl, (reads_quote hq hsep).append ((h.reads_opened hq hne).append ?_)⟩
    refine .inside rfl ?_
    rw [Mode.step, if_pos rfl]
    exact .nil

lemma whole_long (h : Reads sep (.long q 0) cs (.long q 0)) (hsep : sep q = false) :
    Whole sep ([q, q, q] ++ (cs ++ [q, q, q])) := by
  have hopen : Reads sep .code [q, q, q] (.long q 0) := by
    refine (reads_two_quotes hq hsep).append (.cons (fun _ => hsep) ?_)
    rw [Mode.step, hq, decide_eq_true rfl]
    exact .nil
  have hclose : Reads sep (.long q 0) [q, q, q] .code := by
    refine .inside rfl ?_
    rw [Mode.step, if_pos rfl, if_neg (by decide)]
    refine .inside rfl ?_
    rw [Mode.step, if_pos rfl, if_neg (by decide)]
    refine .inside rfl ?_
    rw [Mode.step, if_pos rfl, if_pos rfl]
    exact .nil
  exact ⟨.code, rfl, hopen.append (h.append hclose)⟩

end

end Strings

/-! ### Escapes -/

section

variable {q : Char}

lemma isQuote_iff {c : Char} : isQuote c = true ↔ c = '\'' ∨ c = '"' := by
  rw [isQuote, Bool.or_eq_true, decide_eq_true_iff, decide_eq_true_iff]

lemma isHexDigit_of_isQuote (hq : isQuote q = true) : Table.isHexDigit q = false := by
  rcases isQuote_iff.mp hq with rfl | rfl <;> rfl

/-- An escape is a backslash, a character that is no quote, and digits. -/
lemma escaped_eq (p : CodePoint) : ∃ c digits, escaped p = '\\' :: c :: digits ∧
    isQuote c = false ∧ digits.all Table.isHexDigit = true := by
  rw [escaped.eq_def]
  split
  · exact ⟨_, _, rfl, rfl, rfl⟩
  · exact ⟨_, _, rfl, rfl, rfl⟩
  · exact ⟨_, _, rfl, rfl, rfl⟩
  · exact ⟨_, _, rfl, rfl, rfl⟩
  · rw [numericEscape]
    split
    · exact ⟨_, _, rfl, rfl, all_isHexDigit_hexPadded 2 _⟩
    · split
      · exact ⟨_, _, rfl, rfl, all_isHexDigit_hexPadded 4 _⟩
      · exact ⟨_, _, rfl, rfl, all_isHexDigit_hexPadded 8 _⟩

lemma escaped_digits {digits : List Char} (h : digits.all Table.isHexDigit = true) :
    Escaped digits := by
  induction digits with
  | nil => exact .nil
  | cons d digits ih =>
    rw [List.all_cons, Bool.and_eq_true] at h
    refine .plain ?_ (ih h.2)
    rintro rfl
    cases h.1

lemma escaped_escaped (p : CodePoint) : Escaped (escaped p) := by
  obtain ⟨c, digits, heq, hc, hdigits⟩ := escaped_eq p
  rw [heq]
  exact .escape hc (escaped_digits hdigits)

lemma guarded_escaped (hq : isQuote q = true) (p : CodePoint) : Guarded q (escaped p) := by
  obtain ⟨c, digits, heq, -, hdigits⟩ := escaped_eq p
  rw [heq]
  refine .escape ((escaped_digits hdigits).guarded fun hmem => ?_)
  have := List.all_eq_true.mp hdigits q hmem
  rw [isHexDigit_of_isQuote hq] at this
  cases this

lemma escaped_shown (p : CodePoint) : Escaped (shown p) := by
  cases p with
  | char c =>
    rw [shown]
    split
    · rename_i h
      exact .plain h.1 .nil
    · exact escaped_escaped _
  | half i =>
    rw [shown]
    exact escaped_escaped _

lemma escaped_escapeOne (escapeBlanks : Bool) (p : CodePoint) :
    Escaped (Quotation.escapeOne escapeBlanks p) := by
  rw [Quotation.escapeOne.eq_def]
  split
  · rename_i h
    simp only [Bool.and_eq_true, Bool.or_eq_true, decide_eq_true_iff] at h
    rcases h.2 with rfl | rfl <;> exact .plain (by decide) .nil
  · exact escaped_shown p

lemma guarded_shownBetween (hq : isQuote q = true) (p : CodePoint) :
    Guarded q (shownBetween q p) := by
  rw [shownBetween]
  split
  · exact .escape .nil
  · rename_i hne
    cases p with
    | char c =>
      rw [shown]
      split
      · rename_i h
        exact .plain (fun hcq => hne (congrArg _ hcq)) h.1 .nil
      · exact guarded_escaped hq _
    | half i =>
      rw [shown]
      exact guarded_escaped hq _

lemma guarded_octetBetween (hq : isQuote q = true) (b : UInt8) :
    Guarded q (octetBetween q b) := by
  simp only [octetBetween]
  split
  · exact .escape .nil
  · rename_i h
    rw [not_or] at h
    split
    · exact .plain h.1 h.2 .nil
    · exact guarded_escaped hq _

end

/-! ### What is quoted on one line -/

lemma isQuote_preferredQuote (hasSingle hasDouble : Bool) :
    isQuote (preferredQuote hasSingle hasDouble) = true := by
  cases hasSingle <;> cases hasDouble <;> rfl

/-- The inner text of a text quoted on one line, with its quote. -/
lemma guarded_quotedParts (t : Text) :
    isQuote (quotedParts t).1 = true ∧ Guarded (quotedParts t).1 (quotedParts t).2 := by
  have hq := isQuote_preferredQuote (t.contains (.char '\'')) (t.contains (.char '"'))
  exact ⟨hq, Guarded.flatMap (guarded_shownBetween hq) t⟩

section

variable {sep : Char → Bool} (hsep : ∀ c, isQuote c = true → sep c = false)
include hsep

lemma whole_quoted (t : Text) : Whole sep (quoted t) := by
  obtain ⟨hq, h⟩ := guarded_quotedParts t
  exact h.whole hq (hsep _ hq)

lemma whole_quotedOctets (octets : List UInt8) (hb : sep 'b' = false) :
    Whole sep (quotedOctets octets) := by
  have hq := isQuote_preferredQuote (octets.contains 39) (octets.contains 34)
  have hfirst : Plain sep ['b'] := fun c hc => by
    rw [List.mem_singleton.mp hc]
    exact ⟨rfl, hb⟩
  have hguarded := Guarded.flatMap (guarded_octetBetween hq) octets
  exact hfirst.sealed.append (hguarded.whole hq (hsep _ hq))

end

end ProbeCatalog
