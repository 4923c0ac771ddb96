import ProbeCatalog.Proofs.Syntax.Spelled
import ProbeCatalog.Proofs.Syntax.Tokens
import ProbeCatalog.Syntax.Grammar.Parser

/-!
# What parsers give

A parser gives results of a kind if each of its results is of this kind, as long as the names
among the tokens are words. It takes tokens from the front and leaves the others as they are. The
rules below follow the ways in which parsers are put together.
-/
namespace ProbeCatalog.Syntax.Parser

variable {α β : Type} {p q : Parser α} {P Q : α → Prop} {R : β → Prop}

lemma bind_eq_some {f : α → Parser β} {tokens rest : List Lexeme} {b : β} :
    (p >>= f) tokens = some (b, rest) ↔
      ∃ a between, p tokens = some (a, between) ∧ f a between = some (b, rest) := by
  constructor
  · intro h
    obtain ⟨⟨a, between⟩, ha, hb⟩ := Option.bind_eq_some_iff.mp h
    exact ⟨a, between, ha, hb⟩
  · rintro ⟨a, between, ha, hb⟩
    exact Option.bind_eq_some_iff.mpr ⟨(a, between), ha, hb⟩

/-- All results of the parser are of a kind, and what it leaves is the end of what it was given. -/
def Gives (p : Parser α) (P : α → Prop) : Prop :=
  ∀ tokens a rest, Fine tokens → p tokens = some (a, rest) → P a ∧ rest <:+ tokens

/-- Nothing is said of the results of the parser. -/
abbrev Runs (p : Parser α) : Prop := Gives p fun _ => True

namespace Gives

lemma pure {a : α} (h : P a) : Gives (pure a) P := by
  intro tokens b rest hfine heq
  cases heq
  exact ⟨h, List.suffix_rfl⟩

lemma failure : Gives (failure : Parser α) P := fun _ _ _ _ h => nomatch h

lemma bind {f : α → Parser β} (hp : Gives p P) (hf : ∀ a, P a → Gives (f a) R) :
    Gives (p >>= f) R := by
  intro tokens b rest hfine h
  obtain ⟨a, between, ha, hb⟩ := bind_eq_some.mp h
  obtain ⟨hPa, hbetween⟩ := hp tokens a between hfine ha
  obtain ⟨hRb, hrest⟩ := hf a hPa between b rest (hfine.of_suffix hbetween) hb
  exact ⟨hRb, hrest.trans hbetween⟩

/-- What is said of the first result does not matter. -/
lemma after {f : α → Parser β} (hp : Gives p P) (hf : ∀ a, Gives (f a) R) :
    Gives (p >>= f) R := hp.bind fun a _ => hf a

lemma imp (h : ∀ a, P a → Q a) (hp : Gives p P) : Gives p Q := fun tokens a rest hfine heq =>
  (hp tokens a rest hfine heq).imp_left (h a)

lemma ite {c : Prop} [Decidable c] (hp : Gives p P) (hq : Gives q P) :
    Gives (if c then p else q) P := by
  split
  · exact hp
  · exact hq

lemma run (a : α) : Runs (Pure.pure a : Parser α) := pure trivial

/-- A part that may be missing, of which nothing is said. -/
lemma optional {c : Prop} [Decidable c] {γ : Type} {g : α → γ} {b : γ} {f : γ → Parser β}
    (hp : Gives p P) (hf : ∀ x, Gives (f x) R) :
    Gives (if c then p >>= fun a => Pure.pure (g a) >>= f else Pure.pure b >>= f) R :=
  ite (hp.after fun _ => (run _).after hf) ((run _).after hf)

/-- A look at the next tokens takes none. -/
lemma peek {f : List Lexeme → α} : Runs (fun tokens => some (f tokens, tokens)) := by
  intro tokens a rest hfine heq
  cases heq
  exact ⟨trivial, List.suffix_rfl⟩

end Gives

/-! ### Tokens -/

lemma gives_position : Runs position := by
  intro tokens a rest hfine h
  cases tokens with
  | nil => cases h; exact ⟨trivial, List.suffix_rfl⟩
  | cons t tokens => cases h; exact ⟨trivial, List.suffix_rfl⟩

lemma gives_atSymbol (s : String) : Runs (atSymbol s) := Gives.peek

lemma gives_atReserved (w : String) : Runs (atReserved w) := Gives.peek

lemma gives_atNameThen (s : String) : Runs (atNameThen s) := by
  intro tokens a rest hfine h
  rw [atNameThen.eq_def] at h
  split at h
  · cases h; exact ⟨trivial, List.suffix_rfl⟩
  · cases h; exact ⟨trivial, List.suffix_rfl⟩

lemma gives_expect (t : Token) : Runs (expect t) := by
  intro tokens a rest hfine h
  cases tokens with
  | nil => cases h
  | cons u tokens =>
    rw [expect, Option.ite_none_right_eq_some] at h
    cases h.2
    exact ⟨trivial, List.suffix_cons _ _⟩

lemma gives_symbol? (s : String) : Runs (symbol? s) := by
  intro tokens a rest hfine h
  cases tokens with
  | nil => cases h; exact ⟨trivial, List.suffix_rfl⟩
  | cons u tokens =>
    rw [symbol?] at h
    split at h
    · cases h; exact ⟨trivial, List.suffix_cons _ _⟩
    · cases h; exact ⟨trivial, List.suffix_rfl⟩

lemma gives_symbolIf (b : Bool) (s : String) : Runs (symbolIf b s) :=
  Gives.ite (gives_symbol? s) (Gives.pure trivial)

lemma gives_reserved? (w : String) : Runs (reserved? w) := by
  intro tokens a rest hfine h
  cases tokens with
  | nil => cases h; exact ⟨trivial, List.suffix_rfl⟩
  | cons u tokens =>
    rw [reserved?] at h
    split at h
    · cases h; exact ⟨trivial, List.suffix_cons _ _⟩
    · cases h; exact ⟨trivial, List.suffix_rfl⟩

/-- Names are words, also in their normal form. -/
lemma gives_name : Gives name IsWord := by
  intro tokens a rest hfine h
  rw [name.eq_def] at h
  split at h
  · rename_i spelling rest'
    cases h
    obtain ⟨hspelling, -⟩ := List.forall_mem_cons.mp hfine
    refine ⟨fun c hc => ?_, List.suffix_cons _ _⟩
    rw [String.toList_ofList] at hc
    exact Normal.words_compose hspelling c hc
  · cases h

lemma gives_operator (meaning : String → Option α) : Runs (operator meaning) := by
  intro tokens a rest hfine h
  rw [operator.eq_def] at h
  split at h
  · obtain ⟨b, -, heq⟩ := Option.map_eq_some_iff.mp h
    cases heq
    exact ⟨trivial, List.suffix_cons _ _⟩
  · cases h

lemma gives_ensure (b : Bool) : Runs (ensure b) := by
  intro tokens a rest hfine h
  rw [ensure, Option.ite_none_right_eq_some] at h
  cases h.2
  exact ⟨trivial, List.suffix_rfl⟩

/-! ### Choice and repetition -/

namespace Gives

lemma maybe (hp : Gives p P) : Gives (maybe p) fun a => ∀ b ∈ a, P b := by
  intro tokens a rest hfine h
  rw [Parser.maybe] at h
  split at h
  · rename_i b rest' heq
    cases h
    obtain ⟨hb, hrest⟩ := hp tokens b _ hfine heq
    exact ⟨fun c hc => Option.some.inj hc ▸ hb, hrest⟩
  · cases h
    exact ⟨nofun, List.suffix_rfl⟩

lemma either (hp : Gives p P) (hq : Gives q P) : Gives (either p q) P := by
  intro tokens a rest hfine h
  rw [Parser.either] at h
  split at h
  · rename_i heq
    cases h
    exact hp tokens a rest hfine heq
  · exact hq tokens a rest hfine h

lemma manyWithin (hp : Gives p P) (bound : Nat) :
    Gives (manyWithin p bound) fun as => ∀ a ∈ as, P a := by
  induction bound with
  | zero =>
    intro tokens as rest hfine h
    cases h
    exact ⟨nofun, List.suffix_rfl⟩
  | succ bound ih =>
    intro tokens as rest hfine h
    rw [Parser.manyWithin] at h
    split at h
    · cases h
      exact ⟨nofun, List.suffix_rfl⟩
    · rename_i a rest' heq
      obtain ⟨ha, hrest'⟩ := hp tokens a rest' hfine heq
      obtain ⟨⟨as', rest''⟩, hmore, heq'⟩ := Option.map_eq_some_iff.mp h
      cases heq'
      obtain ⟨has, hrest⟩ := ih rest' as' rest (hfine.of_suffix hrest') hmore
      exact ⟨List.forall_mem_cons.mpr ⟨ha, has⟩, hrest.trans hrest'⟩

lemma many (hp : Gives p P) : Gives (many p) fun as => ∀ a ∈ as, P a :=
  fun tokens => hp.manyWithin tokens.length tokens

lemma many1 (hp : Gives p P) : Gives (many1 p) fun as => ∀ a ∈ as, P a :=
  hp.bind fun _ ha => hp.many.bind fun _ has => pure (List.forall_mem_cons.mpr ⟨ha, has⟩)

lemma sepBy1 (s : String) (hp : Gives p P) : Gives (sepBy1 s p) fun as => ∀ a ∈ as, P a :=
  hp.bind fun _ ha => ((gives_expect _).after fun _ => hp).many.bind fun _ has =>
    pure (List.forall_mem_cons.mpr ⟨ha, has⟩)

lemma commaList (hp : Gives p P) : Gives (commaList p) fun found => ∀ a ∈ found.1, P a :=
  (hp.sepBy1 ",").bind fun _ has => (gives_symbol? ",").after fun _ => pure has

lemma commaListTo (close : String) (hp : Gives p P) :
    Gives (commaListTo close p) fun as => ∀ a ∈ as, P a :=
  (gives_symbol? close).after fun _ => ite (pure nofun) <|
    hp.commaList.bind fun _ has => (gives_expect _).after fun _ => pure has

end Gives

end ProbeCatalog.Syntax.Parser
