import ProbeCatalog.Proofs.Syntax.Alike.Expressions
import ProbeCatalog.Syntax.Grammar.Pattern

/-!
# Patterns do not depend on layout

No provider looks into a pattern, so of the patterns read for the same tokens nothing is asked but
what the grammar itself asks of them: that both take the rest of a sequence, or neither does.
-/
namespace ProbeCatalog.Syntax.Matching

open ProbeCatalog.Syntax.Parser
open Expression (Alike agrees_strings)

variable {n k : Nat}

/-- Both patterns take the rest of a sequence, or neither does. -/
def PatternLike (p p' : Pattern) : Prop := isStar p = isStar p'

lemma agrees_atUnderscore : Agrees k atUnderscore atUnderscore Eq :=
  .peek fun _ _ h => head?_any (f := fun t => decide (t = .name ['_'])) h

lemma agrees_endsName : Agrees k endsName endsName Eq :=
  .same (agrees_atSymbol _) fun _ => .same (agrees_atSymbol _) fun _ =>
    .same (agrees_atSymbol _) fun _ => .pure rfl

lemma agrees_captured : Agrees k captured captured Eq :=
  .same agrees_atUnderscore fun _ => .same (agrees_ensure rfl) fun _ => .same agrees_name fun _ =>
    .same agrees_endsName fun _ => .same (agrees_ensure rfl) fun _ => .pure rfl

lemma agrees_dotted : Agrees k dotted dotted Eq := by
  have hmore : Agrees k (symbol "." >>= fun _ => name) (symbol "." >>= fun _ => name) Eq :=
    .same (agrees_symbol _) fun _ => agrees_name
  refine .same agrees_name fun _ => .same (hmore.many.imp fun _ _ h => ?_) fun _ => .pure rfl
  exact List.forall₂_eq_eq_eq ▸ h

/-- The number that a token spells. -/
def numberOf? : Token → Option Constant
  | .number spelling => Literal.numberValue? spelling
  | _ => none

lemma agrees_unsigned : Agrees k unsigned unsigned Eq :=
  .ofToken (f := numberOf?) rfl fun ⟨_, v⟩ _ => by cases v <;> rfl

lemma agrees_numeric : Agrees k numeric numeric Eq := by
  refine .same (agrees_symbol? _) fun _ => .same agrees_unsigned fun _ =>
    .bind (agrees_operator _).maybe fun op op' hop => ?_
  cases hop with
  | none => exact .pure rfl
  | some hop =>
    subst hop
    exact .same (agrees_ensure rfl) fun _ => .same agrees_unsigned fun _ =>
      .same (agrees_ensure rfl) fun _ => .pure rfl

/-- A token that begins a number. -/
def isNumeric : Token → Bool
  | .number _ => true
  | .symbol s => s = "-"
  | _ => false

lemma agrees_atNumeric : Agrees k atNumeric atNumeric Eq :=
  .peek fun _ _ h => head?_any (f := isNumeric) h

/-- A token that is a string. -/
def isString : Token → Bool
  | .string _ => true
  | _ => false

lemma agrees_atString : Agrees k atString atString Eq :=
  .peek fun _ _ h => head?_any (f := isString) h

lemma agrees_singleton : Agrees k singleton singleton Eq :=
  .same (agrees_reserved? _) fun _ => .ite (.pure rfl) <|
    .same (agrees_reserved? _) fun _ => .ite (.pure rfl) <|
      .same (agrees_reserved _) fun _ => .pure rfl

lemma agrees_key {expr expr' : ExprParser} (hexpr : Alike n expr expr') :
    Agrees (n + 1) (key expr) (key expr') fun _ _ => True := by
  refine .same agrees_atNumeric fun _ => .ite (agrees_numeric.imp fun _ _ _ => trivial) <|
    .same agrees_atString fun _ => .ite ((agrees_strings hexpr).imp fun _ _ _ => trivial) <|
      .bind agrees_singleton.maybe fun c c' hc => ?_
  cases hc with
  | some _ => exact .pure trivial
  | none =>
    refine .same agrees_dotted fun value => ?_
    split
    · exact .pure trivial
    · exact .failure

section

variable {self self' : Parser Pattern} (hself : Agrees k self self' PatternLike)
include hself

lemma agrees_item : Agrees k (item self) (item self') PatternLike :=
  .same (agrees_symbol? _) fun _ => .ite
    (.same agrees_atUnderscore fun _ => .ite
      (.same (agrees_word _) fun _ => .pure rfl) (.same agrees_captured fun _ => .pure rfl)) hself

/-- Whether a comma made this a sequence does not depend on layout. -/
lemma agrees_furtherItems :
    Agrees k (furtherItems self) (furtherItems self') fun x y => x.2 = y.2 := by
  refine .same (agrees_symbol? _) fun _ => .ite ?_ (.pure rfl)
  refine .bind (agrees_item hself).commaList.maybe fun found found' h => ?_
  cases h with
  | none => exact .pure rfl
  | some _ => exact .pure rfl

lemma agrees_openSequence : Agrees k (openSequence self) (openSequence self') PatternLike := by
  refine .bind (agrees_item hself) fun first first' hfirst => .bind (agrees_furtherItems hself) ?_
  rintro ⟨rest, isSequence⟩ ⟨rest', isSequence'⟩ hsequence
  obtain rfl : isSequence = isSequence' := hsequence
  exact .ite (.pure rfl) (.same (agrees_ensure (congrArg not hfirst)) fun _ => .pure hfirst)

lemma agrees_argument : Agrees k (argument self) (argument self') fun x y => x.1 = y.1 :=
  .same (agrees_atNameThen _) fun _ => .ite
    (.same agrees_name fun _ => .same (agrees_symbol _) fun _ => .bind hself fun _ _ _ => .pure rfl)
    (.bind hself fun _ _ _ => .pure rfl)

omit hself in
lemma keywordsLast_eq {args args' : List (Option String × Pattern)}
    (h : List.Forall₂ (fun x y => x.1 = y.1) args args') :
    keywordsLast args = keywordsLast args' := by
  induction h with
  | nil => rfl
  | @cons a a' _ _ harg hargs ih =>
    obtain ⟨key, p⟩ := a
    obtain ⟨key', p'⟩ := a'
    obtain rfl : key = key' := harg
    rw [keywordsLast, keywordsLast, ih, all_eq hargs fun _ _ h => by rw [h]]

lemma agrees_named : Agrees (k + 1) (named self) (named self') PatternLike := by
  refine .same agrees_atUnderscore fun _ => .ite (.same (agrees_word _) fun _ => .pure rfl) <|
    .same agrees_dotted fun head => .ifTaken (agrees_symbol? _) (earns_symbol? _)
      (.bind ((agrees_argument hself).commaListTo _) fun _ _ hargs =>
        .same (agrees_ensure (keywordsLast_eq hargs)) fun _ => .pure rfl) <|
      .same agrees_endsName fun _ => .same (agrees_ensure rfl) fun _ => ?_
  split <;> exact .pure rfl

variable {expr expr' : ExprParser} (hexpr : Alike n expr expr') (hk : k ≤ n + 1)
include hexpr hk

lemma agrees_mapping : Agrees k (mapping expr self) (mapping expr' self') PatternLike := by
  have hentry : Agrees k
      (do
        let key ← key expr
        symbol ":"
        let p ← self
        pure (key, p))
      (do
        let key ← key expr'
        symbol ":"
        let p ← self'
        pure (key, p)) fun _ _ => True :=
    .bind ((agrees_key hexpr).mono hk) fun _ _ _ => .same (agrees_symbol _) fun _ =>
      .bind hself fun _ _ _ => .pure trivial
  have hrest (comma : Bool) (items items' : List (Expr × Pattern)) : Agrees k
      (do
        if ← symbolIf comma "**" then
          let rest ← captured
          let _ ← symbol? ","
          symbol "\x7d"
          pure (.mapping items (some rest))
        else
          symbol "\x7d"
          pure (.mapping items none))
      (do
        if ← symbolIf comma "**" then
          let rest ← captured
          let _ ← symbol? ","
          symbol "\x7d"
          pure (.mapping items' (some rest))
        else
          symbol "\x7d"
          pure (.mapping items' none)) PatternLike :=
    .same (agrees_symbolIf rfl _) fun _ => .ite
      (.same agrees_captured fun _ => .same (agrees_symbol? _) fun _ =>
        .same (agrees_symbol _) fun _ => .pure rfl)
      (.same (agrees_symbol _) fun _ => .pure rfl)
  refine .bind (hentry.sepBy1 ",").maybe fun items items' hitems => ?_
  have hempty : (items.getD []).isEmpty = (items'.getD []).isEmpty := by
    cases hitems with
    | none => rfl
    | some h => exact isEmpty_eq h
  dsimp only
  rw [hempty]
  exact .ite (.next (hrest _ _ _)) (.same (agrees_symbol? _) fun _ => hrest _ _ _)

end

section

variable {self self' : Parser Pattern} (hself : Agrees k self self' PatternLike)
  {expr expr' : ExprParser} (hexpr : Alike n expr expr') (hk : k + 1 ≤ n + 1)
include hself hexpr hk

lemma agrees_closed : Agrees (k + 1) (closed expr self) (closed expr' self') PatternLike := by
  refine .same agrees_atNumeric fun _ => .ite (.same agrees_numeric fun _ => .pure rfl) <|
    .same agrees_atString fun _ => .ite
      (.bind ((agrees_strings hexpr).mono hk) fun _ _ _ => .pure rfl) <|
      .ifTaken (agrees_symbol? _) (earns_symbol? _)
        (.same (agrees_symbol? _) fun _ => .ite (.pure rfl) <|
          .bind (agrees_openSequence hself) fun _ _ h =>
            .same (agrees_symbol _) fun _ => .pure h) <|
        .ifTaken (agrees_symbol? _) (earns_symbol? _)
          (.bind ((agrees_item hself).commaListTo _) fun _ _ _ => .pure rfl) <|
          .ifTaken (agrees_symbol? _) (earns_symbol? _)
            (agrees_mapping hself hexpr (Nat.le_of_succ_le hk)) <|
            .bind agrees_singleton.maybe fun c c' hc => ?_
  cases hc with
  | some hc => exact .pure rfl
  | none => exact agrees_named hself

lemma agrees_whole : Agrees (k + 1) (whole expr self) (whole expr' self') PatternLike := by
  refine .bind ((agrees_closed hself hexpr hk).sepBy1 "|") fun ps ps' hps => ?_
  have hpattern (p p' : Pattern) (h : PatternLike p p') : Agrees (k + 1)
      (do
        if ← reserved? "as" then
          let id ← captured
          pure (.named p id)
        else pure p)
      (do
        if ← reserved? "as" then
          let id ← captured
          pure (.named p' id)
        else pure p') PatternLike :=
    .same (agrees_reserved? _) fun _ => .ite (.same agrees_captured fun _ => .pure rfl) (.pure h)
  cases hps with
  | nil => exact hpattern _ _ rfl
  | cons hfirst hmore =>
    cases hmore with
    | nil => exact hpattern _ _ hfirst
    | cons _ _ => exact hpattern _ _ rfl

end

/-- Grammars of two depths agree on what costs less than either. -/
theorem agrees_parse {expr expr' : ExprParser} (hexpr : Alike n expr expr') (hk : k ≤ n + 1)
    {depth depth' : Nat} (h : k ≤ depth) (h' : k ≤ depth') :
    Agrees k (parse expr depth) (parse expr' depth') PatternLike := by
  induction k generalizing depth depth' with
  | zero => exact .zero
  | succ k ih =>
    cases depth with
    | zero => exact absurd h (Nat.not_succ_le_zero k)
    | succ depth =>
      cases depth' with
      | zero => exact absurd h' (Nat.not_succ_le_zero k)
      | succ depth' =>
        exact agrees_whole (ih (Nat.le_of_succ_le hk) (Nat.le_of_succ_le_succ h)
          (Nat.le_of_succ_le_succ h')) hexpr hk

end ProbeCatalog.Syntax.Matching
