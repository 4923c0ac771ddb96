import Mathlib.Order.WellFounded
import ProbeCatalog.Proofs.Probe.Denotations

/-!
# Annotations are resolved in finitely many steps

To resolve an annotation, the annotations inside of it are resolved, and those that its string
literals hold. Inside an annotation the longest literal that can be come upon gets no longer while
the annotation gets smaller; what a literal holds has shorter literals only, since a literal denotes
no more than stands between its quotes. So there is no endless descent, and the steps that `resolve`
counts never run out.
-/
namespace ProbeCatalog.Hint

open Syntax

/-- A string literal can be come upon in an annotation without opening another literal: in an index
or on a side of a union. -/
inductive Reaches : Expr → Text → Prop
  | literal (text : Text) (marked : Bool) : Reaches (.constant (.string text marked)) text
  | index {head index : Expr} {text : Text} (h : Reaches index text) :
      Reaches (.subscript head index) text
  | left {op : BinaryOp} {left right : Expr} {text : Text} (h : Reaches left text) :
      Reaches (.binary op left right) text
  | right {op : BinaryOp} {left right : Expr} {text : Text} (h : Reaches right text) :
      Reaches (.binary op left right) text

/-- The number of code points of the longest such literal, or zero if there is none. -/
def longest : Expr → Nat
  | .constant (.string text _) => text.length
  | .subscript _ index => longest index
  | .binary _ left right => max (longest left) (longest right)
  | _ => 0

/-- Resolving the one annotation resolves the other: it is optional in the first, or stands in a
string literal. -/
def Calls (e a : Expr) : Prop := Wraps a e ∨ Quotes a e

/-- What decreases: first the longest literal, then the size of the annotation. -/
noncomputable def rank (e : Expr) : Nat × Nat := (longest e, sizeOf e)

/-- One step of resolving an annotation, after which `inner` tells the types of the annotations that
it is resolved by. -/
def answer (inner : Expr → Option ArgType) : Expr → Option ArgType
  | .constant (.string text _) => do
    let cs ← text.toChars?
    let a ← parseExpression cs
    inner a
  | .name id => typeOf? (withoutModule id)
  | .attribute value id => do
    let name ← typeName (.attribute value id)
    typeOf? name
  | .subscript head index =>
    if typeName head = some "Optional" then (inner index).bind nullable else none
  | .binary .bitOr left right =>
    if isNone right then (inner left).bind nullable
    else if isNone left then (inner right).bind nullable
    else none
  | _ => none

/-! ### The longest literal -/

lemma Reaches.length_le {e : Expr} {text : Text} (h : Reaches e text) :
    text.length ≤ longest e := by
  induction h with
  | literal text marked => exact le_rfl
  | index _ ih => exact ih
  | left _ ih => exact ih.trans (Nat.le_max_left _ _)
  | right _ ih => exact ih.trans (Nat.le_max_right _ _)

lemma exists_longest (e : Expr) :
    longest e = 0 ∨ ∃ text, Reaches e text ∧ text.length = longest e := by
  induction e using longest.induct with
  | case1 text marked => exact Or.inr ⟨text, .literal text marked, rfl⟩
  | case2 head index ih =>
    rcases ih with ih | ⟨text, htext, hlength⟩
    · exact Or.inl ih
    · exact Or.inr ⟨text, .index htext, hlength⟩
  | case3 op left right ihl ihr =>
    rw [longest]
    rcases le_total (longest left) (longest right) with hle | hle
    · rw [Nat.max_eq_right hle]
      rcases ihr with ih | ⟨text, htext, hlength⟩
      · exact Or.inl ih
      · exact Or.inr ⟨text, .right htext, hlength⟩
    · rw [Nat.max_eq_left hle]
      rcases ihl with ih | ⟨text, htext, hlength⟩
      · exact Or.inl ih
      · exact Or.inr ⟨text, .left htext, hlength⟩
  | case4 e h1 h2 h3 =>
    left
    rw [longest]
    all_goals assumption

/-- A literal weighs more than it is long. -/
lemma longest_lt_weight (e : Expr) : longest e < weight e := by
  induction e using longest.induct with
  | case1 text marked => exact Nat.lt_succ_self _
  | case2 head index ih =>
    rw [longest, weight]
    omega
  | case3 op left right ihl ihr =>
    rw [longest, weight]
    omega
  | case4 e h1 h2 h3 =>
    have hweight := Expression.one_le_weight e
    have hlongest : longest e = 0 := by
      rw [longest]
      all_goals assumption
    omega

/-- What a text holds has shorter literals than the text. -/
lemma longest_parseExpression {cs : List Char} {e : Expr} (h : parseExpression cs = some e) :
    longest e < cs.length :=
  (longest_lt_weight e).trans_le (weight_parseExpression h)

/-! ### Calls -/

lemma Wraps.reaches {a e : Expr} {text : Text} (h : Wraps a e) (ha : Reaches a text) :
    Reaches e text := by
  cases h with
  | optional _ => exact .index ha
  | orNone => exact .left ha
  | noneOr => exact .right ha

lemma Wraps.longest_le {a e : Expr} (h : Wraps a e) : longest a ≤ longest e := by
  cases h with
  | optional _ => exact le_rfl
  | orNone => exact Nat.le_max_left _ _
  | noneOr => exact Nat.le_max_right _ _

lemma Wraps.sizeOf_lt {a e : Expr} (h : Wraps a e) : sizeOf a < sizeOf e := by
  cases h <;> simp <;> omega

lemma Quotes.longest_lt {a e : Expr} (h : Quotes a e) : longest a < longest e := by
  obtain ⟨text, marked, cs, rfl, hcs, ha⟩ := h
  have hlt := longest_parseExpression ha
  rwa [length_toChars? hcs] at hlt

lemma Calls.rank_lt {e a : Expr} (h : Calls e a) :
    Prod.Lex (· < ·) (· < ·) (rank a) (rank e) := by
  rcases h with h | h
  · rcases Nat.lt_or_eq_of_le h.longest_le with hlt | heq
    · exact .left _ _ hlt
    · rw [rank, rank, heq]
      exact .right _ h.sizeOf_lt
  · exact .left _ _ h.longest_lt

lemma Calls.weight_lt {e a : Expr} (h : Calls e a) : weight a < weight e := by
  rcases h with h | ⟨text, marked, cs, rfl, hcs, ha⟩
  · cases h with
    | optional _ => exact Nat.lt_succ_self _
    | orNone => rw [weight]; omega
    | noneOr => rw [weight]; omega
  · have hle := weight_parseExpression ha
    rw [length_toChars? hcs] at hle
    exact Nat.lt_succ_of_le hle

lemma wellFounded_calls : WellFounded fun a e => Calls e a := by
  have hlex : WellFounded (Prod.Lex (· < · : Nat → Nat → Prop) (· < · : Nat → Nat → Prop)) :=
    WellFounded.prod_lex wellFounded_lt wellFounded_lt
  exact Subrelation.wf (fun h => h.rank_lt) (InvImage.wf rank hlex)

/-- Calls inside one another are bounded by the weight of the first annotation. -/
lemma length_lt_weight {e : Expr} {chain : List Expr} (h : (e :: chain).IsChain Calls) :
    chain.length < weight e := by
  induction chain generalizing e with
  | nil => exact Expression.one_le_weight e
  | cons a chain ih =>
    obtain ⟨hcall, hchain⟩ := List.isChain_cons_cons.mp h
    have hmore := ih hchain
    have hlt := hcall.weight_lt
    rw [List.length_cons]
    omega

/-! ### Steps are enough -/

lemma resolveWithin_eq {steps : Nat} {e : Expr} (h : weight e ≤ steps) :
    resolveWithin steps e = resolve e := by
  ext t
  constructor
  · intro ht
    exact resolve_of_denotes (denotes_of_resolveWithin ht)
  · intro ht
    exact resolveWithin_of_le h ht

/-- Only the annotations that are called matter for a step. -/
lemma answer_congr {f g : Expr → Option ArgType} {e : Expr} (h : ∀ a, Calls e a → f a = g a) :
    answer f e = answer g e := by
  unfold answer
  split
  · refine Option.bind_congr fun cs hcs => Option.bind_congr fun a ha => ?_
    exact h a (Or.inr ⟨_, _, cs, rfl, hcs, ha⟩)
  · rfl
  · rfl
  · rename_i head index
    split
    · rename_i hhead
      rw [h index (Or.inl (.optional (typeName_eq_some_iff.mp hhead)))]
    · rfl
  · rename_i left right
    split
    · rename_i hright
      rw [h left (Or.inl (by rw [isNone_iff.mp hright]; exact .orNone))]
    · split
      · rename_i hleft
        rw [h right (Or.inl (by rw [isNone_iff.mp hleft]; exact .noneOr))]
      · rfl
  · rfl

lemma resolveWithin_add_one (steps : Nat) (e : Expr) :
    resolveWithin (steps + 1) e = answer (resolveWithin steps) e := by
  unfold answer
  split
  · rw [resolveWithin]
  · rw [resolveWithin]
  · rw [resolveWithin]
  · rw [resolveWithin]
  · rw [resolveWithin]
  · rw [resolveWithin]
    all_goals assumption

/-- Resolving goes on to the annotations inside without a bound. -/
lemma resolve_eq_answer (e : Expr) : resolve e = answer resolve e := by
  obtain ⟨steps, hsteps⟩ := Nat.exists_eq_add_of_le' (Expression.one_le_weight e)
  rw [resolve, hsteps, resolveWithin_add_one]
  refine answer_congr fun a ha => resolveWithin_eq ?_
  have hlt := ha.weight_lt
  omega

lemma eq_resolve_of_eq_answer {f : Expr → Option ArgType} (h : ∀ e, f e = answer f e) :
    f = resolve := by
  funext e
  induction e using wellFounded_calls.induction with
  | _ e ih =>
    rw [h e, resolve_eq_answer e]
    exact answer_congr ih

/-- What is read from a text has only literals that are shorter than the text. So with each
annotation that resolving another goes on to, the longest literal gets shorter, or it gets no longer
and the annotation gets smaller; there is no endless descent, and what is called inside one another
is bounded by the weight of the annotation. The type of each annotation is the one that the steps
give when nothing bounds them, and there is no other way to answer. -/
theorem resolve_descends :
    (∀ cs e text, parseExpression cs = some e → Reaches e text → text.length < cs.length) ∧
    (∀ e text, Reaches e text → text.length ≤ longest e) ∧
    (∀ e, longest e = 0 ∨ ∃ text, Reaches e text ∧ text.length = longest e) ∧
    (∀ a e text, Wraps a e → Reaches a text → Reaches e text) ∧
    (∀ e a, Calls e a → Prod.Lex (· < ·) (· < ·) (rank a) (rank e)) ∧
    (WellFounded fun a e => Calls e a) ∧
    (∀ e chain, (e :: chain).IsChain Calls → chain.length < weight e) ∧
    (∀ e, resolve e = answer resolve e) ∧
    (∀ f g e, (∀ a, Calls e a → f a = g a) → answer f e = answer g e) ∧
    (∀ f, (∀ e, f e = answer f e) → f = resolve) := by
  refine ⟨?_, fun e text h => h.length_le, exists_longest, fun a e text h ha => h.reaches ha,
    fun e a h => h.rank_lt, wellFounded_calls, fun e chain h => length_lt_weight h,
    resolve_eq_answer, fun f g e h => answer_congr h, fun f h => eq_resolve_of_eq_answer h⟩
  intro cs e text he htext
  exact htext.length_le.trans_lt (longest_parseExpression he)

theorem resolve_descends_deepHint :
    (∃ text inner, Calls deepHint text ∧ Calls text inner ∧
      Prod.Lex (· < ·) (· < ·) (rank text) (rank deepHint) ∧
      Prod.Lex (· < ·) (· < ·) (rank inner) (rank text)) ∧
    (Text.ofString "str").length < "None | 'str'".toList.length := by
  have hoptional : Calls deepHint (.constant (.string (Text.ofString "None | 'str'") false)) :=
    Or.inl (.optional ⟨"typing.Optional", rfl, Or.inr (Or.inl rfl)⟩)
  have hquoted : Calls (.constant (.string (Text.ofString "None | 'str'") false))
      (.binary .bitOr (.constant .none) (.constant (.string (Text.ofString "str") false))) :=
    Or.inr ⟨_, _, "None | 'str'".toList, rfl, rfl, rfl⟩
  obtain ⟨hshorter, -, -, -, hdecreases, -⟩ := resolve_descends
  refine ⟨⟨_, _, hoptional, hquoted, hdecreases _ _ hoptional, hdecreases _ _ hquoted⟩, ?_⟩
  exact hshorter _ _ _ rfl (.right (.literal (Text.ofString "str") false))

end ProbeCatalog.Hint
