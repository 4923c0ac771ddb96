import Mathlib.Data.List.Forall2
import ProbeCatalog.Proofs.Syntax.Spending

/-!
# Parsers that agree

Two parsers agree up to a cost if they do the same on tokens that cost less, wherever the tokens
stand: both refuse, or both succeed with related results and leave the same tokens. A parser may go
on after a token that it took with parsers that agree up to less. The rules below follow the ways in
which parsers are put together.
-/
namespace ProbeCatalog.Syntax

/-- The tokens are the same, wherever they stand. -/
abbrev SameTokens (ts us : List Lexeme) : Prop := List.Forall₂ (fun t u => t.value = u.value) ts us

lemma SameTokens.cost_eq {ts us : List Lexeme} (h : SameTokens ts us) : cost ts = cost us := by
  induction h with
  | nil => rfl
  | cons h _ ih => rw [cost_cons, cost_cons, h, ih]

lemma sameTokens_iff {ts us : List Lexeme} :
    SameTokens ts us ↔ ts.map (·.value) = us.map (·.value) := by
  rw [← List.forall₂_eq_eq_eq, List.forall₂_map_left_iff, List.forall₂_map_right_iff]

lemma rel_cases {α β : Type} {R : α → β → Prop} {x : Option α} {y : Option β}
    (h : Option.Rel R x y) :
    (x = none ∧ y = none) ∨ ∃ a b, x = some a ∧ y = some b ∧ R a b := by
  cases h with
  | none => exact Or.inl ⟨rfl, rfl⟩
  | some h => exact Or.inr ⟨_, _, rfl, rfl, h⟩

lemma rel_bind {α β γ δ : Type} {R : α → β → Prop} {S : γ → δ → Prop} {x : Option α} {y : Option β}
    {f : α → Option γ} {g : β → Option δ} (h : Option.Rel R x y)
    (hf : ∀ a b, R a b → Option.Rel S (f a) (g b)) : Option.Rel S (x >>= f) (y >>= g) := by
  cases h with
  | none => exact .none
  | some hab => exact hf _ _ hab

lemma rel_bind_self {α β γ : Type} {S : β → γ → Prop} {x : Option α} {f : α → Option β}
    {g : α → Option γ} (hf : ∀ a, x = some a → Option.Rel S (f a) (g a)) :
    Option.Rel S (x >>= f) (x >>= g) := by
  cases x with
  | none => exact .none
  | some a => exact hf a rfl

lemma rel_map_self {α β γ : Type} {S : β → γ → Prop} {x : Option α} {f : α → β} {g : α → γ}
    (hf : ∀ a, S (f a) (g a)) : Option.Rel S (x.map f) (x.map g) := by
  cases x with
  | none => exact .none
  | some a => exact .some (hf a)

lemma rel_map {α β γ δ : Type} {R : α → β → Prop} {S : γ → δ → Prop} {x : Option α} {y : Option β}
    {f : α → γ} {g : β → δ} (h : Option.Rel R x y) (hf : ∀ a b, R a b → S (f a) (g b)) :
    Option.Rel S (x.map f) (y.map g) := by
  cases h with
  | none => exact .none
  | some hab => exact .some (hf _ _ hab)

namespace Parser

variable {α β γ δ : Type} {n m : Nat} {p : Parser α} {q : Parser β} {R R' : α → β → Prop}
  {S : γ → δ → Prop}

/-- Related results, with the same tokens left, of which none was put in front. -/
structure Leaves (R : α → β → Prop) (ts : List Lexeme) (x : α × List Lexeme)
    (y : β × List Lexeme) : Prop where
  result : R x.1 y.1
  rest : SameTokens x.2 y.2
  cost_le : cost x.2 ≤ cost ts

/-- On the same tokens both parsers refuse, or both succeed with related results. -/
def Agrees (n : Nat) (p : Parser α) (q : Parser β) (R : α → β → Prop) : Prop :=
  ∀ ts us, SameTokens ts us → cost ts < n → Option.Rel (Leaves R ts) (p ts) (q us)

namespace Agrees

lemma intro (h : ∀ ts us, SameTokens ts us → cost ts < n → Option.Rel (Leaves R ts) (p ts) (q us)) :
    Agrees n p q R := h

/-- Nothing costs less than nothing. -/
lemma zero : Agrees 0 p q R := fun _ _ _ h => absurd h (Nat.not_lt_zero _)

lemma mono (h : Agrees n p q R) (hm : m ≤ n) : Agrees m p q R :=
  fun ts us hts hcost => h ts us hts (hcost.trans_le hm)

lemma imp (h : Agrees n p q R) (hR : ∀ a b, R a b → R' a b) : Agrees n p q R' := by
  intro ts us hts hcost
  rcases rel_cases (h ts us hts hcost) with ⟨hx, hy⟩ | ⟨x, y, hx, hy, hleaves⟩
  · rw [hx, hy]
    exact .none
  · rw [hx, hy]
    exact .some ⟨hR _ _ hleaves.result, hleaves.rest, hleaves.cost_le⟩

lemma pure {a : α} {b : β} (h : R a b) : Agrees n (pure a) (pure b) R :=
  fun _ _ hts _ => .some ⟨h, hts, le_rfl⟩

lemma failure : Agrees n (failure : Parser α) (failure : Parser β) R := fun _ _ _ _ => .none

/-- What comes after a parser is given only tokens that the parser leaves. -/
lemma bindWithin {k : α → Nat} {f : α → Parser γ} {g : β → Parser δ} (hp : Agrees n p q R)
    (hk : ∀ ts a rest, p ts = some (a, rest) → cost ts < n → cost rest ≤ cost ts → cost rest < k a)
    (hf : ∀ a b, R a b → Agrees (k a) (f a) (g b) S) : Agrees n (p >>= f) (q >>= g) S := by
  intro ts us hts hcost
  change Option.Rel _ ((p ts).bind fun x => f x.1 x.2) ((q us).bind fun y => g y.1 y.2)
  rcases rel_cases (hp ts us hts hcost) with ⟨hx, hy⟩ | ⟨⟨a, rest⟩, ⟨b, rest'⟩, hx, hy, hleaves⟩
  · rw [hx, hy]
    exact .none
  · rw [hx, hy, Option.bind_some, Option.bind_some]
    have hless := hk ts a rest hx hcost hleaves.cost_le
    rcases rel_cases (hf a b hleaves.result rest rest' hleaves.rest hless) with
      ⟨hx', hy'⟩ | ⟨x', y', hx', hy', hleaves'⟩
    · rw [hx', hy']
      exact .none
    · rw [hx', hy']
      exact .some ⟨hleaves'.result, hleaves'.rest, hleaves'.cost_le.trans hleaves.cost_le⟩

lemma bind {f : α → Parser γ} {g : β → Parser δ} (hp : Agrees n p q R)
    (hf : ∀ a b, R a b → Agrees n (f a) (g b) S) : Agrees n (p >>= f) (q >>= g) S :=
  bindWithin hp (fun _ _ _ _ hcost hle => hle.trans_lt hcost) hf

/-- Values that are given at once are no step. -/
lemma next {a : α} {b : β} {f : α → Parser γ} {g : β → Parser δ} (h : Agrees n (f a) (g b) S) :
    Agrees n (Pure.pure a >>= f) (Pure.pure b >>= g) S := h

/-- After parsers with one result the same parsers go on. -/
lemma same {q : Parser α} {f : α → Parser γ} {g : α → Parser δ} (hp : Agrees n p q Eq)
    (hf : ∀ a, Agrees n (f a) (g a) S) : Agrees n (p >>= f) (q >>= g) S :=
  bind hp fun a _ hab => hab ▸ hf a

/-- What is earned is not left for what comes after. -/
lemma bindEarned {w : α → Nat} {f : α → Parser γ} {g : β → Parser δ} (hp : Agrees n p q R)
    (hw : Earns p w) (hf : ∀ a b, R a b → Agrees (n - w a) (f a) (g b) S) :
    Agrees n (p >>= f) (q >>= g) S :=
  bindWithin hp (fun ts a rest hx hcost _ => by
    have hearned := hw ts a rest hx
    omega) hf

/-- After a token was taken, less is left. -/
lemma spend {q : Parser α} {f : α → Parser γ} {g : α → Parser δ} (hp : Agrees (n + 1) p q Eq)
    (hw : Earns p fun _ => 1) (hf : ∀ a, Agrees n (f a) (g a) S) :
    Agrees (n + 1) (p >>= f) (q >>= g) S :=
  bindEarned hp hw fun a _ hab => hab ▸ hf a

lemma ite {c : Prop} [Decidable c] {p' : Parser α} {q' : Parser β} (hp : Agrees n p q R)
    (hq : Agrees n p' q' R) : Agrees n (if c then p else p') (if c then q else q') R := by
  split
  · exact hp
  · exact hq

/-- Conditions that come to the same. -/
lemma cond {b b' : Bool} (h : b = b') {p' : Parser α} {q' : Parser β} (hp : Agrees n p q R)
    (hq : Agrees n p' q' R) : Agrees n (if b then p else p') (if b' then q else q') R :=
  h ▸ ite hp hq

/-- Less is left in the branch where the token was taken. -/
lemma ifTaken {look look' : Parser Bool} {p' : Parser α} {q' : Parser β}
    (hlook : Agrees (n + 1) look look' Eq) (hw : Earns look Bool.toNat) (hp : Agrees n p q R)
    (hq : Agrees (n + 1) p' q' R) :
    Agrees (n + 1) (look >>= fun b => if b then p else p')
      (look' >>= fun b => if b then q else q') R := by
  refine bindEarned hlook hw fun a b hab => ?_
  subst hab
  cases a with
  | true => exact hp
  | false => exact hq

/-- A look at the next tokens takes none. -/
lemma peek {f g : List Lexeme → α} (h : ∀ ts us, SameTokens ts us → f ts = g us) :
    Agrees n (fun ts => some (f ts, ts)) (fun ts => some (g ts, ts)) Eq :=
  fun ts us hts _ => .some ⟨h ts us hts, hts, le_rfl⟩

/-- A parser that takes the first token if it can, and refuses otherwise. -/
lemma ofToken {p : Parser α} {f : Token → Option α} (hnil : p [] = none)
    (hcons : ∀ t ts, p (t :: ts) = (f t.value).map fun a => (a, ts)) : Agrees n p p Eq := by
  intro ts us hts hcost
  cases hts with
  | nil =>
    rw [hnil]
    exact .none
  | @cons t u ts us htu hts =>
    have hle : cost ts ≤ cost (t :: ts) := by
      rw [cost_cons]
      omega
    rw [hcons, hcons, htu]
    cases f u.value with
    | none => exact .none
    | some a => exact .some ⟨rfl, hts, hle⟩

/-- A parser that takes the first token if it is the right one, and tells whether it did. -/
lemma ofLook {look : Parser Bool} {f : Token → Bool} (hnil : look [] = some (false, []))
    (hcons : ∀ t ts, look (t :: ts) =
      if f t.value then some (true, ts) else some (false, t :: ts)) :
    Agrees n look look Eq := by
  intro ts us hts hcost
  cases hts with
  | nil =>
    rw [hnil]
    exact .some ⟨rfl, .nil, le_rfl⟩
  | @cons t u ts us htu hts =>
    have hle : cost ts ≤ cost (t :: ts) := by
      rw [cost_cons]
      omega
    rw [hcons, hcons, htu]
    split
    · exact .some ⟨rfl, hts, hle⟩
    · exact .some ⟨rfl, .cons htu hts, le_rfl⟩

end Agrees

/-! ### Tokens -/

lemma agrees_position : Agrees n position position fun _ _ => True := by
  intro ts us hts hcost
  cases hts with
  | nil => exact .some ⟨trivial, .nil, le_rfl⟩
  | cons htu hts => exact .some ⟨trivial, .cons htu hts, le_rfl⟩

/-- A condition on the next token. -/
lemma head?_any {f : Token → Bool} {ts us : List Lexeme} (h : SameTokens ts us) :
    ts.head?.any (fun t => f t.value) = us.head?.any (fun t => f t.value) := by
  cases h with
  | nil => rfl
  | cons htu _ => simp only [List.head?_cons, Option.any_some, htu]

lemma agrees_atSymbol (s : String) : Agrees n (atSymbol s) (atSymbol s) Eq :=
  .peek fun _ _ h => head?_any (f := fun t => decide (t = .symbol s)) h

lemma agrees_atReserved (w : String) : Agrees n (atReserved w) (atReserved w) Eq :=
  .peek fun _ _ h => head?_any (f := fun t => decide (t = .reserved w)) h

lemma agrees_atNameThen (s : String) : Agrees n (atNameThen s) (atNameThen s) Eq := by
  intro ts us hts hcost
  cases hts with
  | nil => exact .some ⟨rfl, .nil, le_rfl⟩
  | @cons t u ts us htu hts =>
    obtain ⟨pos, v⟩ := t
    obtain ⟨pos', v'⟩ := u
    obtain rfl : v = v' := htu
    have hall : SameTokens (⟨pos, v⟩ :: ts) (⟨pos', v⟩ :: us) := .cons rfl hts
    cases v with
    | name spelling =>
      cases hts with
      | nil => exact .some ⟨rfl, hall, le_rfl⟩
      | cons htu' _ => exact .some ⟨by simp only [htu'], hall, le_rfl⟩
    | _ => exact .some ⟨rfl, hall, le_rfl⟩

lemma agrees_expect (t : Token) : Agrees n (expect t) (expect t) Eq :=
  .ofToken (f := fun v => if v = t then some () else none) rfl fun u ts => by
    rw [expect]
    split <;> rfl

lemma agrees_symbol (s : String) : Agrees n (symbol s) (symbol s) Eq := agrees_expect _

lemma agrees_reserved (w : String) : Agrees n (reserved w) (reserved w) Eq := agrees_expect _

lemma agrees_word (w : String) : Agrees n (word w) (word w) Eq := agrees_expect _

lemma agrees_symbol? (s : String) : Agrees n (symbol? s) (symbol? s) Eq :=
  .ofLook (f := fun v => decide (v = .symbol s)) rfl fun t ts => by
    simp only [symbol?, decide_eq_true_eq]

lemma agrees_symbolIf {b b' : Bool} (h : b = b') (s : String) :
    Agrees n (symbolIf b s) (symbolIf b' s) Eq := by
  subst h
  exact .ite (agrees_symbol? s) (.pure rfl)

lemma agrees_reserved? (w : String) : Agrees n (reserved? w) (reserved? w) Eq :=
  .ofLook (f := fun v => decide (v = .reserved w)) rfl fun t ts => by
    simp only [reserved?, decide_eq_true_eq]

/-- The name that a token spells. -/
def nameOf? : Token → Option String
  | .name spelling => some (String.ofList (Normal.compose spelling))
  | _ => none

lemma agrees_name : Agrees n name name Eq :=
  .ofToken (f := nameOf?) rfl fun ⟨_, v⟩ _ => by cases v <;> rfl

/-- What the symbol of a token means. -/
def meaningOf? (meaning : String → Option α) : Token → Option α
  | .symbol s => meaning s
  | _ => none

lemma agrees_operator (meaning : String → Option α) :
    Agrees n (operator meaning) (operator meaning) Eq :=
  .ofToken (f := meaningOf? meaning) rfl fun ⟨_, v⟩ _ => by cases v <;> rfl

lemma agrees_ensure {b b' : Bool} (h : b = b') : Agrees n (ensure b) (ensure b') Eq := by
  subst h
  intro ts us hts hcost
  cases b with
  | true => exact .some ⟨rfl, hts, le_rfl⟩
  | false => exact .none

/-! ### Choice and repetition -/

namespace Agrees

lemma maybe (hp : Agrees n p q R) : Agrees n (maybe p) (maybe q) (Option.Rel R) := by
  intro ts us hts hcost
  rw [Parser.maybe, Parser.maybe]
  rcases rel_cases (hp ts us hts hcost) with ⟨hx, hy⟩ | ⟨⟨a, rest⟩, ⟨b, rest'⟩, hx, hy, hleaves⟩
  · rw [hx, hy]
    exact .some ⟨.none, hts, le_rfl⟩
  · rw [hx, hy]
    exact .some ⟨.some hleaves.result, hleaves.rest, hleaves.cost_le⟩

/-- Less is left if there was a token to take. -/
lemma ifFound {q : Parser α} {f : Option α → Parser γ} {g : Option α → Parser δ}
    (hp : Agrees (n + 1) p q Eq) (hw : Earns p fun _ => 1)
    (hsome : ∀ a, Agrees n (f (some a)) (g (some a)) S)
    (hnone : Agrees (n + 1) (f none) (g none) S) :
    Agrees (n + 1) (Parser.maybe p >>= f) (Parser.maybe q >>= g) S := by
  refine bindEarned hp.maybe hw.maybe fun a b hab => ?_
  cases hab with
  | none => exact hnone
  | some hab => exact hab ▸ hsome _

lemma either {p' : Parser α} {q' : Parser β} (hp : Agrees n p q R) (hq : Agrees n p' q' R) :
    Agrees n (either p p') (either q q') R := by
  intro ts us hts hcost
  rw [Parser.either, Parser.either]
  rcases rel_cases (hp ts us hts hcost) with ⟨hx, hy⟩ | ⟨x, y, hx, hy, hleaves⟩
  · rw [hx, hy]
    exact hq ts us hts hcost
  · rw [hx, hy]
    exact .some hleaves

lemma manyWithin (hp : Agrees n p q R) (bound : Nat) :
    Agrees n (manyWithin p bound) (manyWithin q bound) (List.Forall₂ R) := by
  induction bound with
  | zero => exact fun ts us hts _ => .some ⟨.nil, hts, le_rfl⟩
  | succ bound ih =>
    intro ts us hts hcost
    rw [Parser.manyWithin, Parser.manyWithin]
    rcases rel_cases (hp ts us hts hcost) with ⟨hx, hy⟩ | ⟨⟨a, rest⟩, ⟨b, rest'⟩, hx, hy, hleaves⟩
    · rw [hx, hy]
      exact .some ⟨.nil, hts, le_rfl⟩
    · rw [hx, hy]
      have hle := hleaves.cost_le
      dsimp only at hle ⊢
      rcases rel_cases (ih rest rest' hleaves.rest (hle.trans_lt hcost)) with
        ⟨hx', hy'⟩ | ⟨x', y', hx', hy', hmore⟩
      · rw [hx', hy']
        exact .none
      · rw [hx', hy']
        exact .some ⟨.cons hleaves.result hmore.result, hmore.rest, hmore.cost_le.trans hle⟩

lemma many (hp : Agrees n p q R) : Agrees n (many p) (many q) (List.Forall₂ R) := by
  intro ts us hts hcost
  rw [Parser.many, Parser.many, hts.length_eq]
  exact manyWithin hp us.length ts us hts hcost

lemma many1 (hp : Agrees n p q R) : Agrees n (many1 p) (many1 q) (List.Forall₂ R) :=
  .bind hp fun _ _ hfirst => .bind hp.many fun _ _ hrest => .pure (.cons hfirst hrest)

lemma sepBy1 (s : String) (hp : Agrees n p q R) :
    Agrees n (sepBy1 s p) (sepBy1 s q) (List.Forall₂ R) := by
  have hmore : Agrees n (symbol s >>= fun _ => p) (symbol s >>= fun _ => q) R :=
    .same (agrees_symbol s) fun _ => hp
  exact .bind hp fun _ _ hfirst => .bind hmore.many fun _ _ hrest => .pure (.cons hfirst hrest)

/-- Related items, and the same tells whether a comma follows them. -/
lemma commaList (hp : Agrees n p q R) : Agrees n (commaList p) (commaList q)
    fun x y => List.Forall₂ R x.1 y.1 ∧ x.2 = y.2 :=
  .bind (hp.sepBy1 ",") fun _ _ hitems => .same (agrees_symbol? ",") fun _ => .pure ⟨hitems, rfl⟩

lemma commaListTo (close : String) (hp : Agrees n p q R) :
    Agrees n (commaListTo close p) (commaListTo close q) (List.Forall₂ R) :=
  .same (agrees_symbol? close) fun _ => .ite (.pure .nil) <|
    .bind hp.commaList fun _ _ hitems => .same (agrees_symbol close) fun _ => .pure hitems.1

end Agrees

end Parser

end ProbeCatalog.Syntax
