import ProbeCatalog.Proofs.Syntax.Spending
import ProbeCatalog.Probe.Hint

/-!
# Expressions weigh no more than their sources

What an expression weighs as an annotation is earned by the rule of the grammar that gives it, if
the parser that the rule calls for the expressions inside earns theirs. So it is by the grammar as
a whole, and the steps that an annotation in a string literal takes are bounded by its text.
-/
namespace ProbeCatalog.Syntax.Expression

open ProbeCatalog.Syntax.Parser
open Hint (weight)
open Literal (numberValue? wholeValue? magnitude decodeText length_decodeText)

/-- The weight of an expression, wherever it stands. -/
abbrev worth (e : Located Expr) : Nat := weight e.value

/-- The parser earns the weight of each kind of expression. -/
def Thrifty (self : ExprParser) : Prop := ∀ goal, Earns (self goal) worth

lemma one_le_weight (e : Expr) : 1 ≤ weight e := by
  unfold weight
  split <;> omega

lemma one_le_worth (e : Located Expr) : 1 ≤ worth e := one_le_weight e.value

/-- Most kinds of expression weigh one, whatever they hold. -/
lemma light_le {e : Expr} {n : Nat} (he : weight e = 1) (hn : 1 ≤ n) : weight e ≤ n := he.trans_le hn

lemma weight_tupleOf (start : Position) (items : List (Located Expr)) (trailing : Bool) :
    worth (tupleOf start items trailing) ≤ total worth items := by
  rw [tupleOf.eq_def]
  split
  · rename_i item
    rw [total_cons (one_le_worth item)]
    exact Nat.le_add_right _ _
  · exact light_le rfl (Nat.le_max_left _ _)

section

variable {self : ExprParser} (hself : Thrifty self)
include hself

lemma earns_starred (goal : Goal) : Earns (starred self goal) worth :=
  .bind takes_position fun _ => .bind (earns_symbol _) fun _ => .bind (hself goal) fun _ =>
    .pure (light_le rfl (by omega))

lemma earns_starredOr (goal : Goal) {rule : Parser (Located Expr)} (hrule : Earns rule worth) :
    Earns (starredOr self goal rule) worth :=
  .bind (takes_atSymbol _) fun _ => .ite (earns_starred hself goal) hrule

end

/-! ### Operators -/

lemma earns_leftChain (meaning : String → Option BinaryOp) {operand : Parser (Located Expr)}
    (h : Earns operand worth) : Earns (leftChain meaning operand) worth := by
  have hstep : Earns (do
      let op ← operator meaning
      let right ← operand
      pure (op, right.value)) fun step => weight step.2 + 1 :=
    .bind (earns_operator meaning) fun _ => .bind h fun _ => .pure (by dsimp only [worth]; omega)
  refine .bind takes_position fun start => .bind h fun first => .bind hstep.many fun rest =>
    .pure ?_
  simp only [Nat.zero_add]
  induction rest generalizing first with
  | nil => exact le_rfl
  | cons step rest ih =>
    have hle := ih ⟨start, .binary step.1 first.value step.2⟩
    simp only [worth, weight, List.foldl_cons, List.map_cons, List.sum_cons] at hle ⊢
    omega

lemma earns_wordChain (r : String) (op : BoolOp) {operand : Parser (Located Expr)}
    (h : Earns operand worth) : Earns (wordChain r op operand) worth := by
  have hmore : Takes (reserved r >>= fun _ => operand) :=
    .bind (.takes (earns_reserved r)) fun _ => h.takes
  refine .bind takes_position fun start => .bind h fun first => .bind hmore.many fun rest => ?_
  have hfirst := one_le_worth first
  cases rest with
  | nil => exact .pure (by omega)
  | cons e rest => exact .pure (light_le rfl (by omega))

lemma takes_comparison : Takes comparison :=
  .bind (.takes (earns_reserved? _)) fun _ => .ite (.pure le_rfl) <|
    .bind (.takes (earns_reserved? _)) fun _ =>
      .ite (.bind (.takes (earns_reserved _)) fun _ => .pure le_rfl) <|
        .bind (.takes (earns_reserved? _)) fun _ =>
          .ite (.bind (.takes (earns_reserved? _)) fun _ => .ite (.pure le_rfl) (.pure le_rfl))
            (.takes (earns_operator _))

/-! ### Strings -/

/-- The characters that a string literal takes at least. -/
def span (literal : StringLiteral) : Nat := literal.body.length + 2

lemma length_decodeTexts {literals : List StringLiteral} {parts : List Text}
    (h : (literals.mapM fun l => decodeText l.isRaw l.body) = some parts) :
    parts.flatten.length + literals.length ≤ (literals.map span).sum := by
  induction literals generalizing parts with
  | nil =>
    cases h
    exact le_rfl
  | cons l literals ih =>
    rw [List.mapM_cons] at h
    obtain ⟨text, htext, h⟩ := Option.bind_eq_some_iff.mp h
    obtain ⟨texts, htexts, h⟩ := Option.bind_eq_some_iff.mp h
    cases h
    have hle := length_decodeText htext
    have hmore := ih htexts
    simp only [List.flatten_cons, List.length_append, List.length_cons, List.map_cons,
      List.sum_cons, span]
    omega

/-- Strings denote no more than stands between their quotes. -/
lemma weight_joinStrings {read : List Char → Option Expr} {literals : List StringLiteral}
    {e : Expr} (h : joinStrings read literals = some e) : weight e ≤ total span literals := by
  have hpositive : 1 ≤ total span literals := Nat.le_max_left _ _
  rw [joinStrings] at h
  split at h
  · obtain ⟨parts, -, h⟩ := Option.bind_eq_some_iff.mp h
    cases h
    exact light_le rfl hpositive
  · rename_i hbytes
    split at h
    · cases h
    · split at h
      · obtain ⟨parts, -, h⟩ := Option.bind_eq_some_iff.mp h
        cases h
        exact light_le rfl hpositive
      · obtain ⟨parts, hparts, h⟩ := Option.bind_eq_some_iff.mp h
        cases h
        have hle := length_decodeTexts hparts
        -- Without a literal all of them would denote octets.
        have hsome : 1 ≤ literals.length := by
          cases literals with
          | nil => exact absurd rfl hbytes
          | cons l literals => exact Nat.le_add_left _ _
        rw [weight, total]
        omega

lemma earns_stringLiteral : Earns stringLiteral span := by
  refine .intro fun tokens a rest h => ?_
  rw [stringLiteral.eq_def] at h
  split at h
  · cases h
    rw [cost_cons, Token.cost, span]
    omega
  · cases h

lemma earns_strings (self : ExprParser) : Earns (strings self) weight := by
  have hspan (literal : StringLiteral) : 1 ≤ span literal := Nat.le_add_left 1 _
  refine .bind (earns_stringLiteral.many1 hspan) fun literals => ?_
  split
  · rename_i e he
    have hle := weight_joinStrings he
    exact .pure (by omega)
  · exact .failure

section

variable {self : ExprParser} (hself : Thrifty self)
include hself

/-! ### Brackets -/

lemma takes_loopTargets : Takes (loopTargets self) :=
  .bind takes_position fun _ =>
    .bind ((earns_starredOr hself .bitOr (hself .bitOr)).commaList one_le_worth).takes
      fun _ => .bind (takes_ensure _) fun _ => .pure le_rfl

lemma takes_clause : Takes (clause self) := by
  have hcondition : Takes (reserved "if" >>= fun _ => self .disjunction) :=
    .bind (.takes (earns_reserved _)) fun _ => (hself .disjunction).takes
  exact .bind (.takes (earns_reserved? _)) fun _ => .bind (.takes (earns_reserved _)) fun _ =>
    .bind (takes_loopTargets hself) fun _ => .bind (.takes (earns_reserved _)) fun _ =>
      .bind (hself .disjunction).takes fun _ => .bind hcondition.many.takes fun _ => .pure le_rfl

lemma takes_clauses? : Takes (clauses? self) := by
  have hclauses : Takes (many1 (clause self)) :=
    .bind (takes_clause hself) fun _ => .bind (takes_clause hself).many.takes fun _ => .pure le_rfl
  exact .bind (takes_atReserved _) fun _ => .bind (takes_atReserved _) fun _ =>
    .ite (.bind hclauses fun _ => .pure le_rfl) (.pure le_rfl)

lemma earns_item : Earns (item self) worth := earns_starredOr hself .bitOr (hself .named)

lemma takes_furtherItems (close : String) : Takes (furtherItems self close) :=
  .bind (.takes (earns_symbol? _)) fun _ => .ite ((earns_item hself).takes.commaListTo close) <|
    .bind (.takes (earns_symbol _)) fun _ => .pure le_rfl

lemma earns_yielded : Earns (yielded self) worth :=
  .bind takes_position fun _ => .bind (earns_reserved _) fun _ =>
    .bind (.takes (earns_reserved? _)) fun _ =>
      .ite (.bind (hself .expression) fun _ => .pure (light_le rfl (by omega))) <|
        .bind (hself .starExpressions).maybe.takes fun _ => .pure (light_le rfl (by omega))

/-- Brackets around one expression cost more than they are worth. -/
lemma earns_round : Earns (round self) worth := by
  refine .bind takes_position fun _ => .bind (earns_symbol _) fun _ =>
    .bind (.takes (earns_symbol? _)) fun _ => .ite (.pure (light_le rfl (by omega))) <|
      .bind (takes_atReserved _) fun _ =>
        .ite (.bind (earns_yielded hself) fun _ => .bind (.takes (earns_symbol _)) fun _ =>
          .pure (by omega)) <|
        .bind (earns_item hself) fun first => .bind (takes_clauses? hself) fun clauses => ?_
  cases clauses with
  | some clauses =>
    exact .bind (takes_ensure _) fun _ => .bind (.takes (earns_symbol _)) fun _ =>
      .pure (light_le rfl (by omega))
  | none =>
    exact .bind (takes_atSymbol _) fun _ =>
      .ite (.bind (takes_furtherItems hself _) fun _ => .pure (light_le rfl (by omega))) <|
        .bind (.takes (earns_symbol _)) fun _ => .bind (takes_ensure _) fun _ => .pure (by omega)

lemma earns_square : Earns (square self) worth := by
  refine .bind takes_position fun _ => .bind (earns_symbol _) fun _ =>
    .bind (.takes (earns_symbol? _)) fun _ => .ite (.pure (light_le rfl (by omega))) <|
      .bind (earns_item hself).takes fun _ => .bind (takes_clauses? hself) fun clauses => ?_
  cases clauses with
  | some clauses =>
    exact .bind (takes_ensure _) fun _ => .bind (.takes (earns_symbol _)) fun _ =>
      .pure (light_le rfl (by omega))
  | none =>
    exact .bind (takes_furtherItems hself _) fun _ => .pure (light_le rfl (by omega))

lemma takes_dictItem : Takes (dictItem self) :=
  .bind (.takes (earns_symbol? _)) fun _ =>
    .ite (.bind (hself .bitOr).takes fun _ => .pure le_rfl) <|
      .bind (hself .expression).takes fun _ => .bind (.takes (earns_symbol _)) fun _ =>
        .bind (hself .expression).takes fun _ => .pure le_rfl

lemma takes_furtherDictItems : Takes (furtherDictItems self) :=
  .bind (.takes (earns_symbol? _)) fun _ => .ite ((takes_dictItem hself).commaListTo _) <|
    .bind (.takes (earns_symbol _)) fun _ => .pure le_rfl

lemma earns_curly : Earns (curly self) worth := by
  refine .bind takes_position fun _ => .bind (earns_symbol _) fun _ =>
    .bind (.takes (earns_symbol? _)) fun _ => .ite (.pure (light_le rfl (by omega))) <|
      .bind (takes_atSymbol _) fun _ => .ite (.bind (takes_dictItem hself) fun _ =>
        .bind (takes_furtherDictItems hself) fun _ => .pure (light_le rfl (by omega))) <|
      .bind (takes_atNameThen _) fun _ => .bind (earns_item hself).takes fun _ =>
        .bind (takes_symbolIf _ _) fun _ => .ite ?_ ?_
  · refine .bind (hself .expression).takes fun _ =>
      .bind (takes_clauses? hself) fun clauses => ?_
    cases clauses with
    | some clauses =>
      exact .bind (.takes (earns_symbol _)) fun _ => .pure (light_le rfl (by omega))
    | none =>
      exact .bind (takes_furtherDictItems hself) fun _ => .pure (light_le rfl (by omega))
  · refine .bind (takes_clauses? hself) fun clauses => ?_
    cases clauses with
    | some clauses =>
      exact .bind (takes_ensure _) fun _ => .bind (.takes (earns_symbol _)) fun _ =>
        .pure (light_le rfl (by omega))
    | none =>
      exact .bind (takes_furtherItems hself _) fun _ => .pure (light_le rfl (by omega))

/-! ### Atoms and what may follow them -/

omit hself in
/-- A number is no string. -/
lemma weight_numberValue? {spelling : List Char} {c : Constant}
    (h : numberValue? spelling = some c) : weight (.constant c) = 1 := by
  have hwhole {digits : List Char} (h : wholeValue? digits = some c) :
      weight (.constant c) = 1 := by
    obtain ⟨-, heq⟩ := Option.ite_none_left_eq_some.mp h
    cases heq
    rfl
  have hdecimal {cs : List Char}
      (h : (if cs.any fun c => c = 'j' || c = 'J' then some (.imaginary (magnitude cs.dropLast))
        else if cs.any fun c => c = '.' || c = 'e' || c = 'E' then some (.float (magnitude cs))
        else wholeValue? cs) = some c) : weight (.constant c) = 1 := by
    split at h
    · cases h
      rfl
    · split at h
      · cases h
        rfl
      · exact hwhole h
  simp only [numberValue?] at h
  split at h
  · split at h
    · cases h
      rfl
    · split at h
      · cases h
        rfl
      · split at h
        · cases h
          rfl
        · exact hdecimal h
  · exact hdecimal h

omit hself in
lemma weight_literal? {t : Token} {c : Constant} (h : literal? t = some c) :
    weight (.constant c) ≤ t.cost := by
  rw [literal?.eq_def] at h
  split at h
  · cases h
    exact le_rfl
  · cases h
    exact le_rfl
  · cases h
    exact le_rfl
  · cases h
    exact le_rfl
  · exact (weight_numberValue? h).le
  · cases h

omit hself in
lemma earns_literal : Earns literal fun c => weight (.constant c) := by
  refine .intro fun tokens a rest h => ?_
  cases tokens with
  | nil => cases h
  | cons t tokens =>
    obtain ⟨c, hc, heq⟩ := Option.map_eq_some_iff.mp h
    cases heq
    have hle := weight_literal? hc
    rw [cost_cons]
    omega

lemma earns_atom : Earns (atom self) worth := by
  refine .bind takes_position fun _ => .bind (takes_atSymbol _) fun _ => .ite (earns_round hself) <|
    .bind (takes_atSymbol _) fun _ => .ite (earns_square hself) <|
      .bind (takes_atSymbol _) fun _ => .ite (earns_curly hself) <|
        .bind earns_name.maybe fun id => ?_
  cases id with
  | some id => exact .pure (light_le rfl (by simp))
  | none =>
    refine .bind earns_literal.maybe fun c => ?_
    cases c with
    | some c => exact .pure (by simp)
    | none => exact .bind (earns_strings self) fun _ => .pure (by simp)

lemma takes_argument : Takes (argument self) :=
  .bind (takes_atSymbol _) fun _ =>
    .ite (.bind (earns_starred hself _).takes fun _ => .pure le_rfl) <|
      .bind (.takes (earns_symbol? _)) fun _ =>
        .ite (.bind (hself .expression).takes fun _ => .pure le_rfl) <|
          .bind (takes_atNameThen _) fun _ =>
            .ite (.bind earns_name.takes fun _ => .bind (.takes (earns_symbol _)) fun _ =>
              .bind (hself .expression).takes fun _ => .pure le_rfl) <|
            .bind (hself .named).takes fun _ => .pure le_rfl

lemma takes_arguments (isCall : Bool) : Takes (arguments self isCall) := by
  refine .bind (.takes (earns_symbol? _)) fun _ => .ite (.pure le_rfl) <|
    .bind (takes_argument hself) fun first => .bind (takes_clauses? hself) fun clauses => ?_
  have hrest (rest : List Argument) : Takes (ensure (inOrder (first :: rest)) >>= fun _ =>
      pure ((first :: rest).filterMap Argument.positional?,
        (first :: rest).filterMap Argument.keyword?)) :=
    .bind (takes_ensure _) fun _ => .pure le_rfl
  cases clauses with
  | none =>
    have hmore : Takes (commaListTo ")" (argument self)) := (takes_argument hself).commaListTo _
    cases first <;>
      exact .bind (.takes (earns_symbol? _)) fun _ => .ite (.bind hmore hrest) <|
        .bind (.takes (earns_symbol _)) fun _ => .next (hrest [])
  | some clauses =>
    cases first with
    | keyword k => exact .failure
    | positional value =>
      exact .bind (takes_ensure _) fun _ => .bind (.takes (earns_symbol _)) fun _ => .pure le_rfl

lemma takes_bound : Takes (bound self) :=
  .bind (takes_atSymbol _) fun _ => .bind (takes_atSymbol _) fun _ =>
    .bind (takes_atSymbol _) fun _ => .ite (.pure le_rfl) <|
      .bind (hself .expression).takes fun _ => .pure le_rfl

lemma earns_sliceFrom (lower : Option Expr) : Earns (sliceFrom self lower) weight :=
  .bind (earns_symbol _) fun _ => .bind (takes_bound hself) fun _ =>
    .bind (.takes (earns_symbol? _)) fun _ =>
      .ite (.bind (takes_bound hself) fun _ => .pure (light_le rfl (by omega)))
        (.next (.pure (light_le rfl (by omega))))

lemma earns_index : Earns (index self) worth :=
  .bind takes_position fun _ => .bind (takes_atSymbol _) fun _ => .ite (earns_starred hself _) <|
    .bind (takes_atSymbol _) fun _ =>
      .ite (.bind (earns_sliceFrom hself _) fun _ => .pure (by dsimp only [worth]; omega)) <|
        .bind (takes_atNameThen _) fun _ => .bind (hself .named) fun _ =>
          .bind (takes_atSymbol _) fun _ =>
            .ite (.bind (earns_sliceFrom hself _) fun _ => .pure (by dsimp only [worth]; omega))
              (.pure (by omega))

lemma earns_indices : Earns (indices self) weight :=
  .bind takes_position fun start =>
    .bind ((earns_index hself).commaList one_le_worth) fun found =>
      .pure ((weight_tupleOf start found.1 _).trans (by omega))

/-- An attribute or a call weighs one, and a subscript what its index weighs and one more, whatever
it is applied to. -/
lemma earns_trailer (value : Expr) : Earns (trailer self) fun apply => weight (apply value) :=
  .ifTaken (earns_symbol? _) (.bind earns_name fun _ => .pure (light_le rfl (by omega))) <|
    .ifTaken (earns_symbol? _)
      (.bind (takes_arguments hself true) fun _ => .pure (light_le rfl (by omega))) <|
      .bind (earns_symbol _) fun _ => .bind (earns_indices hself) fun _ =>
        .bind (.takes (earns_symbol _)) fun _ => .pure (by rw [weight]; omega)

/-- What the last of some trailers is applied to. -/
def lastOperand (start : Position) (first : Located Expr) (trailers : List (Expr → Expr)) : Expr :=
  (trailers.dropLast.foldl (fun value apply => ⟨start, apply value.value⟩) first).value

omit hself in
/-- Only the last trailer counts, whatever the others made of the atom. -/
lemma worth_trailers (start : Position) (first : Located Expr) (trailers : List (Expr → Expr)) :
    worth (trailers.foldl (fun value apply => ⟨start, apply value.value⟩) first) ≤
      worth first + (trailers.map fun apply =>
        weight (apply (lastOperand start first trailers))).sum := by
  rcases List.eq_nil_or_concat' trailers with rfl | ⟨init, apply, rfl⟩
  · exact Nat.le_add_right _ _
  · rw [lastOperand, List.dropLast_concat]
    simp only [worth, List.foldl_append, List.foldl_cons, List.foldl_nil, List.map_append,
      List.map_cons, List.map_nil, List.sum_append, List.sum_cons, List.sum_nil]
    omega

lemma earns_primary : Earns (primary self) worth := by
  refine .bind takes_position fun start => .bind (earns_atom hself) fun first => ?_
  have htrailers : Earns (many (trailer self)) fun trailers =>
      (trailers.map fun apply => weight (apply (lastOperand start first trailers))).sum :=
    .choose (fun value => (earns_trailer hself value).many) (lastOperand start first)
  refine .bind htrailers fun trailers => .pure ?_
  have hle := worth_trailers start first trailers
  omega

lemma earns_power : Earns (power self) worth := by
  have hexponent (start : Position) {k : Nat} (base : Located Expr) (hbase : worth base ≤ k) :
      Affords k (do
        if ← symbol? "**" then
          let exponent ← self .factor
          pure ⟨start, .binary .pow base.value exponent.value⟩
        else pure base) worth :=
    .ifTaken (earns_symbol? _)
      (.bind (hself .factor) fun _ => .pure (by simp only [worth, weight] at hbase ⊢; omega))
      (.pure hbase)
  refine .bind takes_position fun start => .bind (.takes (earns_reserved? _)) fun _ =>
    .ite (.bind (earns_primary hself) fun value => .next ?_)
      (.bind (earns_primary hself) fun base => hexponent start base (by omega))
  have hvalue := one_le_worth value
  exact hexponent start ⟨start, .await value.value⟩ (light_le rfl (by omega))

lemma earns_factor : Earns (factor self) worth := by
  refine .bind takes_position fun _ => .bind (earns_operator _).maybe.takes fun op => ?_
  cases op with
  | some op =>
    exact .bind (hself .factor) fun operand => .pure (light_le rfl (by
      have hoperand := one_le_worth operand
      omega))
  | none => exact earns_power hself

lemma earns_bitOr : Earns (bitOr self) worth :=
  earns_leftChain _ <| earns_leftChain _ <| earns_leftChain _ <| earns_leftChain _ <|
    earns_leftChain _ <| earns_leftChain _ <| earns_factor hself

lemma earns_compared : Earns (compared self) worth := by
  have hstep : Takes (do
      let op ← comparison
      let right ← bitOr self
      pure (op, right.value)) :=
    .bind takes_comparison fun _ => .bind (earns_bitOr hself).takes fun _ => .pure le_rfl
  refine .bind takes_position fun _ => .bind (earns_bitOr hself) fun left =>
    .bind hstep.many.takes fun rest => ?_
  have hleft := one_le_worth left
  cases rest with
  | nil => exact .pure (by omega)
  | cons r rest => exact .pure (light_le rfl (by omega))

lemma earns_inversion : Earns (inversion self) worth :=
  .bind takes_position fun _ => .ifTaken (earns_reserved? _)
    (.bind (hself .inversion).takes fun _ => .pure (light_le rfl (by omega)))
    (earns_compared hself)

lemma earns_disjunction : Earns (disjunction self) worth :=
  earns_wordChain _ _ <| earns_wordChain _ _ <| earns_inversion hself

/-! ### Parameters -/

lemma takes_paramName (isTyped isStarTyped : Bool) : Takes (paramName self isTyped isStarTyped) :=
  .bind takes_position fun _ => .bind earns_name.takes fun _ => .bind (takes_symbolIf _ _) fun _ =>
    .ite (.ite (.bind (earns_starredOr hself _ (hself _)).takes fun _ => .next (.pure le_rfl))
        (.bind (hself _).takes fun _ => .next (.pure le_rfl)))
      (.next (.pure le_rfl))

lemma takes_paramItem (isTyped : Bool) : Takes (paramItem self isTyped) :=
  .bind (.takes (earns_symbol? _)) fun _ => .ite (.pure le_rfl) <|
    .bind (.takes (earns_symbol? _)) fun _ =>
      .ite (.bind (takes_paramName hself _ _) fun _ => .pure le_rfl) <|
        .bind (.takes (earns_symbol? _)) fun _ =>
          .ite (.bind (takes_atSymbol _) fun _ => .ite (.pure le_rfl) <|
            .bind (takes_paramName hself _ _) fun _ => .pure le_rfl) <|
          .bind (takes_paramName hself _ _) fun _ => .bind (.takes (earns_symbol? _)) fun _ =>
            .ite (.bind (hself .expression).takes fun _ => .pure le_rfl) (.pure le_rfl)

lemma takes_parameters (isTyped : Bool) (close : String) :
    Takes (parameters self isTyped close) := by
  refine .bind ((takes_paramItem hself isTyped).commaListTo close) fun items => ?_
  split
  · exact .pure le_rfl
  · exact .failure

/-! ### Whole expressions -/

lemma earns_lambda : Earns (lambda self) worth :=
  .bind takes_position fun _ => .bind (earns_reserved _) fun _ =>
    .bind (takes_parameters hself _ _) fun _ => .bind (hself .expression).takes fun _ =>
      .pure (light_le rfl (by omega))

lemma earns_expression : Earns (expression self) worth := by
  have hchoice : Takes (do
      reserved "if"
      let test ← self .disjunction
      reserved "else"
      let orelse ← self .expression
      pure (test.value, orelse.value)) :=
    .bind (.takes (earns_reserved _)) fun _ => .bind (hself .disjunction).takes fun _ =>
      .bind (.takes (earns_reserved _)) fun _ => .bind (hself .expression).takes fun _ =>
        .pure le_rfl
  refine .bind (takes_atReserved _) fun _ => .ite (earns_lambda hself) <|
    .bind takes_position fun _ => .bind (earns_disjunction hself) fun body =>
      .bind hchoice.maybe.takes fun choice => ?_
  have hbody := one_le_worth body
  cases choice with
  | none => exact .pure (by omega)
  | some choice => exact .pure (light_le rfl (by omega))

lemma earns_named : Earns (named self) worth :=
  .bind (takes_atNameThen _) fun _ =>
    .ite (.bind takes_position fun _ => .bind earns_name fun _ =>
      .bind (.takes (earns_symbol _)) fun _ => .bind (hself .expression).takes fun _ =>
        .pure (light_le rfl (by omega))) (earns_expression hself)

lemma earns_starExpressions : Earns (starExpressions self) worth :=
  .bind takes_position fun start =>
    .bind ((earns_starredOr hself _ (earns_expression hself)).commaList one_le_worth)
      fun found => .pure ((weight_tupleOf start found.1 found.2).trans (by omega))

lemma earns_plainExpressions : Earns (plainExpressions self) worth :=
  .bind takes_position fun start =>
    .bind ((earns_expression hself).commaList one_le_worth) fun found =>
      .pure ((weight_tupleOf start found.1 found.2).trans (by omega))

lemma thrifty_rule : Thrifty (rule self)
  | .starExpressions => earns_starExpressions hself
  | .named => earns_named hself
  | .expression => earns_expression hself
  | .disjunction => earns_disjunction hself
  | .inversion => earns_inversion hself
  | .bitOr => earns_bitOr hself
  | .factor => earns_factor hself

end

/-- Whatever the depth, the grammar earns the weight of the expressions that it gives. -/
theorem thrifty_parse (depth : Nat) : Thrifty (parse depth) := by
  induction depth with
  | zero => exact fun _ => .failure
  | succ depth ih => exact thrifty_rule ih

end ProbeCatalog.Syntax.Expression

namespace ProbeCatalog.Syntax

open ProbeCatalog.Syntax.Parser ProbeCatalog.Syntax.Expression

lemma earns_expressionParser (length : Nat) : Earns (expressionParser length) Hint.weight :=
  .bind (earns_plainExpressions (thrifty_parse _)) fun _ =>
    .bind (Affords.takes (.many (earns_expect _))) fun _ => .bind (.takes (earns_expect _)) fun _ =>
      .pure (by dsimp only [worth]; omega)

/-- An expression that is read weighs no more than its text is long. -/
theorem weight_parseExpression {cs : List Char} {e : Expr} (h : parseExpression cs = some e) :
    Hint.weight e ≤ cs.length := by
  obtain ⟨tokens, htokens, h⟩ := Option.bind_eq_some_iff.mp h
  obtain ⟨⟨value, rest⟩, hvalue, h⟩ := Option.bind_eq_some_iff.mp h
  cases h
  have hearned := earns_expressionParser _ tokens e rest hvalue
  have hcost := Lexer.cost_lexLines htokens
  have hlength := length_unifyLineEnds cs
  omega

end ProbeCatalog.Syntax
