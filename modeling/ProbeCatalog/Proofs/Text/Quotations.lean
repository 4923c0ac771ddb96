import ProbeCatalog.Proofs.Text.Quotes

/-!
# Texts between quotes that are chosen

Quotes are chosen so that few backslashes are needed. Whichever are chosen, short or long, the
text does not leave them, and at its end it does not hold a part of the closing quotes.
-/
namespace ProbeCatalog

open Strings
open Syntax.Lexer (isQuote)

namespace Quotation

/-- Quotes of a literal: one or three of a kind. -/
inductive IsQuotes : List Char → Prop
  | short {q : Char} (hq : isQuote q = true) : IsQuotes [q]
  | long {q : Char} (hq : isQuote q = true) : IsQuotes [q, q, q]

/-- The mode between quotes, after some quotes that have not closed the literal. -/
def between : List Char → Nat → Mode
  | [q], _ => .short q
  | q :: _, k => .long q k
  | [], _ => .code

lemma between_short {q : Char} {k : Nat} : between [q] k = .short q := rfl

lemma between_long {q : Char} {k : Nat} : between [q, q, q] k = .long q k := rfl

/-- The text is read between quotes and leaves them at no place. -/
def Stays (m : Mode) (cs : List Char) (m' : Mode) : Prop := Reads (fun _ => true) m cs m'

/-- The text may stand between quotes. -/
def Stands (quotes cs : List Char) : Prop :=
  ∃ k ≤ 2, Stays (between quotes 0) cs (between quotes k)

/-- The text may stand between quotes, and closing quotes may follow. -/
def Ends (quotes cs : List Char) : Prop := Stays (between quotes 0) cs (between quotes 0)

variable {q c : Char} {quotes cs ds : List Char}

lemma Ends.stands (h : Ends quotes cs) : Stands quotes cs := ⟨0, Nat.zero_le 2, h⟩

lemma Ends.nil : Ends quotes [] := Reads.nil

/-- A closing quote does not stand between short quotes. -/
lemma Stays.ne_quote {m : Mode} (hm : m.isCode = false) (h : Stays (.short q) (c :: cs) m) :
    c ≠ q := by
  rintro rfl
  cases h with
  | cons _ hr =>
    rw [Mode.step, if_pos rfl] at hr
    cases hr with
    | nil => cases hm
    | cons hc _ => cases hc rfl

/-- Any other character forgets the quotes before it. -/
lemma Stays.forget (hquotes : IsQuotes quotes) {m : Mode} (hc : isQuote c = false)
    (hb : c ≠ '\\') (h : Stays (between quotes 0) (c :: cs) m) (k : Nat) :
    Stays (between quotes k) (c :: cs) m := by
  cases hquotes with
  | short hq => exact h
  | @long q hq =>
    have hcq : c ≠ q := by
      rintro rfl
      rw [hq] at hc
      cases hc
    cases h with
    | cons _ hr =>
      refine .inside rfl ?_
      rw [between_long, Mode.step, if_neg hcq, if_neg hb] at hr
      rw [between_long, Mode.step, if_neg hcq, if_neg hb]
      exact hr

lemma IsQuotes.whole {sep : Char → Bool} (hsep : ∀ c, isQuote c = true → sep c = false)
    (hquotes : IsQuotes quotes) (h : Ends quotes cs) : Whole sep (quotes ++ (cs ++ quotes)) := by
  have hreads : Reads sep (between quotes 0) cs (between quotes 0) :=
    Reads.mono (fun _ _ => rfl) h
  cases hquotes with
  | @long q hq => exact whole_long hq hreads (hsep q hq)
  | @short q hq =>
    cases cs with
    | nil => exact ⟨.closed q, rfl, reads_two_quotes hq (hsep q hq)⟩
    | cons c cs =>
      have hcq : c ≠ q := Stays.ne_quote (m := .short q) rfl h
      cases hreads with
      | cons _ hr =>
        rw [between_short, Mode.step, if_neg hcq] at hr
        have hinner : Reads sep (.opened q) (c :: cs) (.short q) := by
          refine .inside rfl ?_
          rw [Mode.step, if_neg hcq]
          exact hr
        have hclose : Reads sep (.short q) [q] .code := by
          refine .inside rfl ?_
          rw [Mode.step, if_pos rfl]
          exact .nil
        exact ⟨.code, rfl, (reads_quote hq (hsep q hq)).append (hinner.append hclose)⟩

/-! ### Texts that fit -/

lemma ends_of_guarded (hq : isQuote q = true) (h : Guarded q cs) :
    Ends [q] cs ∧ Ends [q, q, q] cs := ⟨h.reads_short hq, h.reads_long hq⟩

lemma occursIn_iff {part : List Char} : occursIn part cs = true ↔ part <:+: cs := by
  induction cs with
  | nil => rw [occursIn, List.isEmpty_iff, List.infix_nil]
  | cons c cs ih =>
    rw [occursIn, Bool.or_eq_true, ih, List.isPrefixOf_iff_prefix, List.infix_cons_iff]

/-- Quotes that do not occur in a text are fit for it, and close it unless it ends in one. -/
lemma stands_of_escaped (hquotes : IsQuotes quotes) (h : Escaped cs) (hno : ¬ quotes <:+: cs) :
    Stands quotes cs ∧ (cs.getLast? ≠ quotes.head? → Ends quotes cs) := by
  cases hquotes with
  | @short q hq =>
    have hmem : q ∉ cs := fun hmem => hno ((List.singleton_infix_iff q cs).mpr hmem)
    have hends := (ends_of_guarded hq (h.guarded hmem)).1
    exact ⟨hends.stands, fun _ => hends⟩
  | @long q hq =>
    obtain ⟨k, hk, hr, hlast⟩ := h.reads_long hq (Nat.zero_le 2) hno
    refine ⟨⟨k, hk, hr⟩, fun hne => ?_⟩
    have hzero : k = 0 := by
      by_contra hk'
      exact hne (hlast hk')
    rw [hzero] at hr
    exact hr

/-- Quotes fit for a text, the first of them to close it. -/
structure Fit (cs : List Char) (fit : List (List Char)) : Prop where
  ne_nil : fit ≠ []
  quotes : ∀ quotes ∈ fit, IsQuotes quotes
  stands : ∀ quotes ∈ fit, Stands quotes cs
  ends : ∀ quotes ∈ fit.head?, Ends quotes cs

/-- A text with a backslash before each quote fits any quotes of its kind. -/
lemma fit_of_guarded {chosen : List Char} (hq : isQuote q = true) (h : Guarded q cs)
    (hchosen : chosen = [q] ∨ chosen = [q, q, q]) : Fit cs [chosen] := by
  obtain ⟨hshort, hlong⟩ := ends_of_guarded hq h
  have hends : IsQuotes chosen ∧ Ends chosen cs := by
    rcases hchosen with rfl | rfl
    · exact ⟨.short hq, hshort⟩
    · exact ⟨.long hq, hlong⟩
  refine ⟨List.cons_ne_nil _ _, ?_, ?_, ?_⟩
  · intro quotes hquotes
    rw [List.mem_singleton.mp hquotes]
    exact hends.1
  · intro quotes hquotes
    rw [List.mem_singleton.mp hquotes]
    exact hends.2.stands
  · intro quotes hquotes
    cases hquotes
    exact hends.2

lemma IsQuotes.eq_of_mem (hquotes : IsQuotes quotes) (hq : q ∈ quotes) :
    isQuote q = true ∧ (quotes = [q] ∨ quotes = [q, q, q]) := by
  cases hquotes with
  | short hq' =>
    rw [List.mem_singleton] at hq
    subst hq
    exact ⟨hq', Or.inl rfl⟩
  | long hq' =>
    simp only [List.mem_cons, List.not_mem_nil, or_false, or_self] at hq
    subst hq
    exact ⟨hq', Or.inr rfl⟩

/-- Quotes that were given stay given. -/
lemma mem_given_of {given : List (List Char)} {escapeBlanks : Bool} {t : Text}
    (h : (of given escapeBlanks t).2.any given.contains = true) :
    ∀ quotes ∈ (of given escapeBlanks t).2, quotes ∈ given := by
  revert h
  simp only [of]
  split
  · intro h quotes hquotes
    rw [List.any_cons, List.any_nil, Bool.or_false, List.contains_iff_mem] at h
    rw [List.mem_singleton.mp hquotes]
    exact h
  · exact fun _ quotes hquotes => (List.mem_filter.mp hquotes).1
  · intro _ quotes hquotes
    have hordered (fit : List (List Char)) (last : Char) :
        ∀ quotes ∈ fit.filter (·.head? ≠ some last) ++ fit.filter (·.head? = some last),
          quotes ∈ fit := fun quotes hmem =>
      (List.mem_append.mp hmem).elim (fun h => (List.mem_filter.mp h).1)
        fun h => (List.mem_filter.mp h).1
    split at hquotes
    · exact (List.mem_filter.mp (hordered _ _ quotes hquotes)).1
    · exact (List.mem_filter.mp (hordered _ _ quotes hquotes)).1

/-- A backslash before its last quote lets a text end between long quotes. -/
lemma ends_of_last {last : Char} (h : Escaped cs) (hlast : cs.getLast? = some last)
    (hquotes : IsQuotes quotes) (hkind : quotes.head? = some last) (hno : ¬ quotes <:+: cs) :
    Ends quotes (cs.dropLast ++ ['\\', last]) := by
  have hcs : cs.dropLast ++ [last] = cs := List.dropLast_append_getLast? last hlast
  cases hquotes with
  | short hq =>
    cases hkind
    exact absurd ((List.singleton_infix_iff last cs).mpr (List.mem_of_getLast? hlast)) hno
  | long hq =>
    cases hkind
    have hinit : Escaped cs.dropLast := by
      rw [← hcs] at h
      exact h.init hq
    have hno' : ¬ [last, last, last] <:+: cs.dropLast := fun hinside =>
      hno (hinside.trans (List.dropLast_prefix cs).isInfix)
    obtain ⟨k, hk, hr⟩ := (stands_of_escaped (.long hq) hinit hno').1
    have hrest : Stays (.long last k) ['\\', last] (.long last 0) := by
      refine .inside rfl ?_
      rw [Mode.step, if_neg (ne_backslash hq), if_pos rfl]
      exact .inside rfl .nil
    exact Reads.append hr hrest

section

variable {given : List (List Char)} (hgiven : ∀ quotes ∈ given, IsQuotes quotes)
include hgiven

/-- The fallback: every quote of the preferred kind has a backslash before it. -/
lemma fit_quotedParts (t : Text) :
    Fit (quotedParts t).2
      [(given.find? (·.contains (quotedParts t).1)).getD [(quotedParts t).1]] := by
  obtain ⟨hq, h⟩ := guarded_quotedParts t
  refine fit_of_guarded hq h ?_
  cases hfind : given.find? (·.contains (quotedParts t).1) with
  | none => exact Or.inl rfl
  | some chosen =>
    have hmem := List.mem_of_find?_eq_some hfind
    have hcontains := List.find?_some hfind
    exact ((hgiven chosen hmem).eq_of_mem (List.contains_iff_mem.mp hcontains)).2

/-- Quotes that do not occur in a text are fit for it, those of its last character after the
others; where there are no others, the last quote of the text gets a backslash. -/
lemma fit_ordered {fit : List (List Char)} {last : Char} (h : Escaped cs)
    (hlast : cs.getLast? = some last) (hne : fit ≠ [])
    (hfit : ∀ quotes ∈ fit, quotes ∈ given ∧ ¬ quotes <:+: cs) :
    let ordered := fit.filter (·.head? ≠ some last) ++ fit.filter (·.head? = some last)
    Fit (if ordered.head?.any (·.head? = some last) then cs.dropLast ++ ['\\', last] else cs)
      ordered := by
  intro ordered
  have hmem (quotes : List Char) : quotes ∈ ordered ↔ quotes ∈ fit := by
    by_cases hq : quotes.head? = some last <;> simp [ordered, hq]
  have hordered : ordered ≠ [] := by
    obtain ⟨quotes, hquotes⟩ := List.exists_mem_of_ne_nil _ hne
    exact List.ne_nil_of_mem ((hmem quotes).mpr hquotes)
  have hall (quotes : List Char) (hquotes : quotes ∈ ordered) : IsQuotes quotes :=
    hgiven quotes (hfit quotes ((hmem quotes).mp hquotes)).1
  split
  · rename_i hhead
    -- The first quotes are of the kind of the last character, so all of them are.
    have hsame (quotes : List Char) (hquotes : quotes ∈ ordered) : quotes.head? = some last := by
      have hnone : fit.filter (·.head? ≠ some last) = [] := by
        by_contra hsome
        obtain ⟨first, rest, hcons⟩ := List.exists_cons_of_ne_nil hsome
        have hfirst : first ∈ fit.filter (·.head? ≠ some last) := by
          rw [hcons]
          exact List.mem_cons_self
        have hother := of_decide_eq_true (List.mem_filter.mp hfirst).2
        simp only [ordered, hcons, List.cons_append, List.head?_cons, Option.any_some,
          decide_eq_true_iff] at hhead
        exact hother hhead
      simp only [ordered, hnone, List.nil_append] at hquotes
      exact of_decide_eq_true (List.mem_filter.mp hquotes).2
    have hends (quotes : List Char) (hquotes : quotes ∈ ordered) :
        Ends quotes (cs.dropLast ++ ['\\', last]) :=
      ends_of_last h hlast (hall quotes hquotes) (hsame quotes hquotes)
        (hfit quotes ((hmem quotes).mp hquotes)).2
    exact ⟨hordered, hall, fun quotes hquotes => (hends quotes hquotes).stands,
      fun quotes hquotes => hends quotes (List.mem_of_mem_head? hquotes)⟩
  · rename_i hhead
    have hstands (quotes : List Char) (hquotes : quotes ∈ ordered) :=
      stands_of_escaped (hall quotes hquotes) h (hfit quotes ((hmem quotes).mp hquotes)).2
    refine ⟨hordered, hall, fun quotes hquotes => (hstands quotes hquotes).1,
      fun quotes hquotes => (hstands quotes (List.mem_of_mem_head? hquotes)).2 ?_⟩
    rintro heq
    rw [hquotes, Option.any_some, ← heq, hlast] at hhead
    exact hhead (decide_eq_true rfl)

theorem fit_of (escapeBlanks : Bool) (t : Text) :
    Fit (of given escapeBlanks t).1 (of given escapeBlanks t).2 := by
  simp only [of]
  have hescaped := Escaped.flatMap (escaped_escapeOne escapeBlanks) t
  generalize t.flatMap (escapeOne escapeBlanks) = inner at hescaped
  have hfit : ∀ quotes ∈ given.filter (fun q =>
      (!inner.contains '\n' || longQuotes.contains q) && !occursIn q inner),
      quotes ∈ given ∧ ¬ quotes <:+: inner := by
    intro quotes hquotes
    obtain ⟨hmem, hcond⟩ := List.mem_filter.mp hquotes
    rw [Bool.and_eq_true, Bool.not_eq_true', ← Bool.not_eq_true, occursIn_iff] at hcond
    exact ⟨hmem, hcond.2⟩
  generalize given.filter _ = fit at hfit
  split
  · exact fit_quotedParts hgiven t
  · rename_i hne hlast
    rw [List.getLast?_eq_none_iff] at hlast
    exact ⟨hne, fun quotes hquotes => hgiven quotes (hfit quotes hquotes).1,
      fun quotes _ => Ends.nil.stands, fun quotes _ => Ends.nil⟩
  · rename_i last hne hlast
    have := fit_ordered hgiven hescaped hlast hne hfit
    split
    · rename_i hhead
      simpa only [hhead, if_true] using this
    · rename_i hhead
      simpa only [hhead, Bool.false_eq_true, if_false] using this

/-- The inner text of a text that does not end in a quote is the text with escapes. -/
lemma inner_of {escapeBlanks : Bool} {t : Text} {last : Char}
    (hlast : (t.flatMap (escapeOne escapeBlanks)).getLast? = some last)
    (hq : isQuote last = false) :
    (of given escapeBlanks t).1 = (quotedParts t).2 ∨
      (of given escapeBlanks t).1 = t.flatMap (escapeOne escapeBlanks) := by
  simp only [of]
  split
  · exact Or.inl rfl
  · rename_i _ hnone _
    rw [hnone] at hlast
    cases hlast
  · rename_i _ _ last' hlast' _
    obtain rfl : last' = last := Option.some.inj (hlast'.symm.trans hlast)
    split
    · rename_i hhead
      obtain ⟨quotes, hquotes, hkind⟩ := (Option.any_eq_true ..).mp hhead
      have hmem : quotes ∈ given := by
        rcases List.mem_append.mp (List.mem_of_mem_head? hquotes) with h | h
        · exact (List.mem_filter.mp (List.mem_filter.mp h).1).1
        · exact (List.mem_filter.mp (List.mem_filter.mp h).1).1
      have hquote := ((hgiven quotes hmem).eq_of_mem
        (List.mem_of_mem_head? (of_decide_eq_true hkind))).1
      rw [hq] at hquote
      cases hquote
    · exact Or.inr rfl

/-- A text stands between quotes that it may stand between. -/
lemma exists_write (t : Text) : ∃ quotes inner, IsQuotes quotes ∧ Ends quotes inner ∧
    write given t = quotes ++ (inner ++ quotes) := by
  have hfit := fit_of hgiven false t
  obtain ⟨quotes, rest, hcons⟩ := List.exists_cons_of_ne_nil hfit.ne_nil
  have hmem : quotes ∈ (of given false t).2 := by
    rw [hcons]
    exact List.mem_cons_self
  refine ⟨quotes, (of given false t).1, hfit.quotes quotes hmem, hfit.ends quotes ?_, ?_⟩
  · rw [hcons]
    rfl
  · simp only [write, hcons, List.headD_cons, List.append_assoc]

/-- A text between quotes chosen for it is a literal. -/
theorem whole_write {sep : Char → Bool} (hsep : ∀ c, isQuote c = true → sep c = false)
    (t : Text) : Whole sep (write given t) := by
  obtain ⟨quotes, inner, hquotes, hends, heq⟩ := exists_write hgiven t
  rw [heq]
  exact hquotes.whole hsep hends

lemma head_write (t : Text) : ∃ c, isQuote c = true ∧ (write given t).head? = some c := by
  obtain ⟨quotes, inner, hquotes, -, heq⟩ := exists_write hgiven t
  rw [heq]
  cases hquotes with
  | short hq => exact ⟨_, hq, rfl⟩
  | long hq => exact ⟨_, hq, rfl⟩

end

lemma isQuotes_allQuotes : ∀ quotes ∈ allQuotes, IsQuotes quotes := by
  simp only [allQuotes, List.forall_mem_cons]
  exact ⟨.short rfl, .short rfl, .long rfl, .long rfl, nofun⟩

lemma isQuotes_longQuotes : ∀ quotes ∈ longQuotes, IsQuotes quotes := by
  simp only [longQuotes, List.forall_mem_cons]
  exact ⟨.long rfl, .long rfl, nofun⟩

end Quotation

end ProbeCatalog
