import ProbeCatalog.Proofs.Syntax.Lengths
import ProbeCatalog.Syntax.Grammar.Parser

/-!
# What parsers spend

A parser pays for its result with the tokens that it takes. A worth is given to each result; a
parser earns it if the tokens that it takes cost as much, and affords it with a credit if they do
together with the credit. The rules below follow the ways in which parsers are put together: what
the first of two parsers has earned is credit to the second.
-/
namespace ProbeCatalog.Syntax.Parser

variable {α β : Type} {p q : Parser α} {v w : α → Nat} {u : β → Nat} {k : Nat}

/-- The worth of each result is covered by a credit and by the tokens that the parser takes. -/
def Affords (k : Nat) (p : Parser α) (w : α → Nat) : Prop :=
  ∀ tokens a rest, p tokens = some (a, rest) → w a + cost rest ≤ k + cost tokens

/-- The worth of each result is covered by the tokens that the parser takes. -/
abbrev Earns (p : Parser α) (w : α → Nat) : Prop := Affords 0 p w

/-- The parser puts no tokens in front. -/
abbrev Takes (p : Parser α) : Prop := Earns p fun _ => 0

namespace Affords

lemma intro (h : ∀ tokens a rest, p tokens = some (a, rest) → w a + cost rest ≤ k + cost tokens) :
    Affords k p w := h

lemma pure {a : α} (h : w a ≤ k) : Affords k (pure a) w := by
  intro tokens b rest heq
  cases heq
  omega

lemma failure : Affords k (failure : Parser α) w := fun _ _ _ h => nomatch h

lemma bind {f : α → Parser β} (hp : Earns p w) (hf : ∀ a, Affords (k + w a) (f a) u) :
    Affords k (p >>= f) u := by
  intro tokens b rest h
  obtain ⟨⟨a, between⟩, ha, hb⟩ := Option.bind_eq_some_iff.mp h
  have hfirst := hp tokens a between ha
  have hsecond := hf a between b rest hb
  omega

/-- A value that is given at once is no step. -/
lemma next {a : α} {f : α → Parser β} (h : Affords k (f a) u) : Affords k (Pure.pure a >>= f) u := h

/-- A parser whose result may be worth less. -/
lemma last (hp : Earns p w) (h : ∀ a, v a ≤ k + w a) : Affords k p v := by
  intro tokens a rest heq
  have hearned := hp tokens a rest heq
  have hworth := h a
  omega

lemma takes (hp : Earns p w) : Takes p := last hp fun _ => Nat.zero_le _

/-- What is earned in the worth of any kind is earned in one that depends on the result. -/
lemma choose {γ : Type} {worth : γ → α → Nat} (hp : ∀ c, Earns p (worth c)) (c : α → γ) :
    Earns p fun a => worth (c a) a := fun tokens a => hp (c a) tokens a

lemma ite {c : Prop} [Decidable c] (hp : Affords k p w) (hq : Affords k q w) :
    Affords k (if c then p else q) w := by
  split
  · exact hp
  · exact hq

/-- A look at the next tokens takes none. -/
lemma peek {f : List Lexeme → α} : Takes (fun tokens => some (f tokens, tokens)) := by
  refine intro fun tokens a rest heq => ?_
  cases heq
  omega

end Affords

/-! ### Tokens -/

lemma takes_position : Takes position := by
  refine .intro fun tokens a rest h => ?_
  cases tokens with
  | nil => cases h; exact le_rfl
  | cons t tokens => cases h; omega

lemma takes_atSymbol (s : String) : Takes (atSymbol s) := Affords.peek

lemma takes_atReserved (r : String) : Takes (atReserved r) := Affords.peek

lemma takes_atNameThen (s : String) : Takes (atNameThen s) := by
  refine .intro fun tokens a rest h => ?_
  rw [atNameThen.eq_def] at h
  split at h
  · cases h; omega
  · cases h; omega

lemma earns_expect (t : Token) : Earns (expect t) fun _ => t.cost := by
  refine .intro fun tokens a rest h => ?_
  cases tokens with
  | nil => cases h
  | cons t' tokens =>
    rw [expect, Option.ite_none_right_eq_some] at h
    obtain ⟨rfl, heq⟩ := h
    cases heq
    rw [cost_cons]
    omega

lemma earns_symbol (s : String) : Earns (symbol s) fun _ => 1 := earns_expect _

lemma earns_reserved (r : String) : Earns (reserved r) fun _ => 1 := earns_expect _

lemma earns_symbol? (s : String) : Earns (symbol? s) Bool.toNat := by
  refine .intro fun tokens a rest h => ?_
  cases tokens with
  | nil => cases h; exact le_rfl
  | cons t tokens =>
    rw [symbol?] at h
    split at h
    · rename_i heq
      cases h
      simp only [cost_cons, heq, Token.cost, Bool.toNat_true]
      omega
    · cases h
      rw [Bool.toNat_false]

lemma earns_reserved? (r : String) : Earns (reserved? r) Bool.toNat := by
  refine .intro fun tokens a rest h => ?_
  cases tokens with
  | nil => cases h; exact le_rfl
  | cons t tokens =>
    rw [reserved?] at h
    split at h
    · rename_i heq
      cases h
      simp only [cost_cons, heq, Token.cost, Bool.toNat_true]
      omega
    · cases h
      rw [Bool.toNat_false]

lemma takes_symbolIf (b : Bool) (s : String) : Takes (symbolIf b s) :=
  .ite (.takes (earns_symbol? s)) (.pure le_rfl)

lemma earns_name : Earns name fun _ => 1 := by
  refine .intro fun tokens a rest h => ?_
  rw [name.eq_def] at h
  split at h
  · cases h
    simp only [cost_cons, Token.cost]
    omega
  · cases h

lemma earns_operator (meaning : String → Option α) : Earns (operator meaning) fun _ => 1 := by
  refine .intro fun tokens a rest h => ?_
  rw [operator.eq_def] at h
  split at h
  · obtain ⟨b, -, heq⟩ := Option.map_eq_some_iff.mp h
    cases heq
    simp only [cost_cons, Token.cost]
    omega
  · cases h

lemma takes_ensure (b : Bool) : Takes (ensure b) := by
  refine .intro fun tokens a rest h => ?_
  rw [ensure, Option.ite_none_right_eq_some] at h
  cases h.2
  omega

/-! ### Choice and repetition -/

/-- Many results, one at least, of which each is worth something. -/
def total (w : α → Nat) (as : List α) : Nat := max 1 (as.map w).sum

lemma total_cons {a : α} {as : List α} (ha : 1 ≤ w a) :
    total w (a :: as) = w a + (as.map w).sum := by
  rw [total, List.map_cons, List.sum_cons]
  omega

namespace Affords

/-- The second of two branches has nothing from the token that was looked for. -/
lemma ifTaken {p q : Parser β} {look : Parser Bool} (hlook : Earns look Bool.toNat)
    (hp : Affords (k + 1) p u) (hq : Affords k q u) :
    Affords k (look >>= fun b => if b then p else q) u :=
  .bind hlook fun b => by
    cases b with
    | true => exact hp
    | false => exact hq

lemma maybe (hp : Earns p w) : Earns (maybe p) fun a => a.elim 0 w := by
  intro tokens a rest h
  rw [Parser.maybe] at h
  split at h
  · rename_i heq
    cases h
    exact hp tokens _ rest heq
  · cases h
    exact le_rfl

lemma manyWithin (hp : Earns p w) (bound : Nat) :
    Earns (manyWithin p bound) fun as => (as.map w).sum := by
  induction bound with
  | zero =>
    intro tokens as rest h
    cases h
    simp
  | succ bound ih =>
    intro tokens as rest h
    rw [Parser.manyWithin] at h
    split at h
    · cases h
      simp
    · rename_i a rest' heq
      obtain ⟨⟨as', rest''⟩, hmore, heq'⟩ := Option.map_eq_some_iff.mp h
      cases heq'
      have hfirst := hp tokens a rest' heq
      have hothers : (as'.map w).sum + cost rest ≤ 0 + cost rest' := ih rest' as' rest hmore
      simp only [List.map_cons, List.sum_cons]
      omega

lemma many (hp : Earns p w) : Earns (many p) fun as => (as.map w).sum :=
  fun tokens => manyWithin hp tokens.length tokens

lemma many1 (hp : Earns p w) (hw : ∀ a, 1 ≤ w a) : Earns (many1 p) (total w) :=
  .bind hp fun a => .bind (many hp) fun as => .pure (by rw [total_cons (hw a)]; omega)

lemma sepBy1 (s : String) (hp : Earns p w) (hw : ∀ a, 1 ≤ w a) : Earns (sepBy1 s p) (total w) := by
  have hmore : Earns (symbol s >>= fun _ => p) w :=
    .bind (takes (earns_symbol s)) fun _ => last hp fun _ => by omega
  exact .bind hp fun a => .bind (many hmore) fun as => .pure (by rw [total_cons (hw a)]; omega)

lemma commaList (hp : Earns p w) (hw : ∀ a, 1 ≤ w a) :
    Earns (commaList p) fun found => total w found.1 :=
  .bind (sepBy1 "," hp hw) fun _ => .bind (takes (earns_symbol? ",")) fun _ =>
    .pure (Nat.le_add_left _ _)

/-- Lists whose items are not looked at. -/
lemma commaListTo (close : String) (hp : Takes p) : Takes (commaListTo close p) := by
  have hmore : Takes (symbol "," >>= fun _ => p) :=
    .bind (takes (earns_symbol ",")) fun _ => hp
  have hitems : Takes (Parser.sepBy1 "," p) :=
    .bind hp fun _ => .bind (takes (many hmore)) fun _ => .pure le_rfl
  have hlist : Takes (Parser.commaList p) :=
    .bind hitems fun _ => .bind (takes (earns_symbol? ",")) fun _ => .pure le_rfl
  exact .bind (takes (earns_symbol? close)) fun _ => .ite (.pure le_rfl) <|
    .bind hlist fun _ => .bind (takes (earns_symbol close)) fun _ => .pure le_rfl

end Affords

end ProbeCatalog.Syntax.Parser
