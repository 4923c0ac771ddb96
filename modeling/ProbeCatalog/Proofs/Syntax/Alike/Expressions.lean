import ProbeCatalog.Proofs.Syntax.Fields

/-!
# Expressions do not depend on layout

If two parsers for the expressions inside agree on what costs less than some tokens, the rules of
the grammar that call them agree on those tokens. Rules that begin with a token of their own, or
with an expression that has one, call them later; the rules for what stands inside brackets call
them at once. So grammars that are deep enough give like expressions for the same tokens.
-/
namespace ProbeCatalog.Syntax.Expression

open ProbeCatalog.Syntax.Parser

variable {n k : Nat}

lemma tupleOf_like {start start' : Position} {items items' : List (Located Expr)}
    (trailing : Bool) (h : List.Forall₂ ExprsLike items items') :
    ExprsLike (tupleOf start items trailing) (tupleOf start' items' trailing) := by
  have hvalues := values_like h
  cases h with
  | nil => exact .intro (.tuple hvalues)
  | cons hfirst hmore =>
    cases hmore with
    | nil =>
      cases trailing with
      | true => exact .intro (.tuple hvalues)
      | false => exact hfirst
    | cons => exact .intro (.tuple hvalues)

/-! ### Operators -/

lemma agrees_leftChain (meaning : String → Option BinaryOp) {p q : Parser (Located Expr)}
    (h : Agrees k p q ExprsLike) :
    Agrees k (leftChain meaning p) (leftChain meaning q) ExprsLike := by
  have hstep : Agrees k
      (do
        let op ← operator meaning
        let right ← p
        pure (op, right.value))
      (do
        let op ← operator meaning
        let right ← q
        pure (op, right.value)) (PairLike Eq Expr.Like) :=
    .same (agrees_operator meaning) fun _ =>
      .bind h fun _ _ hright => .pure (.intro rfl hright.value)
  refine .bind agrees_position fun start start' _ => .bind h fun first first' hfirst =>
    .bind hstep.many fun rest rest' hrest => .pure ?_
  induction hrest generalizing first first' with
  | nil => exact hfirst
  | cons hop _ ih =>
    cases hop with
    | intro hop hright => exact ih _ _ (.intro (hop ▸ .binary _ hfirst.value hright))

lemma agrees_wordChain (w : String) (op : BoolOp) {p q : Parser (Located Expr)}
    (h : Agrees k p q ExprsLike) : Agrees k (wordChain w op p) (wordChain w op q) ExprsLike := by
  have hmore : Agrees k (reserved w >>= fun _ => p) (reserved w >>= fun _ => q) ExprsLike :=
    .same (agrees_reserved w) fun _ => h
  refine .bind agrees_position fun _ _ _ => .bind h fun first first' hfirst =>
    .bind hmore.many fun rest rest' hrest => ?_
  cases hrest with
  | nil => exact .pure hfirst
  | cons hnext hmore =>
    exact .pure (.intro (.bool op (.cons hfirst.value (values_like (.cons hnext hmore)))))

lemma agrees_comparison : Agrees k comparison comparison Eq :=
  .same (agrees_reserved? _) fun _ => .ite (.pure rfl) <|
    .same (agrees_reserved? _) fun _ =>
      .ite (.same (agrees_reserved _) fun _ => .pure rfl) <|
        .same (agrees_reserved? _) fun _ =>
          .ite (.same (agrees_reserved? _) fun _ => .ite (.pure rfl) (.pure rfl))
            (agrees_operator _)

/-! ### What stands inside brackets -/

section

variable {self self' : ExprParser} (hself : Alike n self self')
include hself

lemma agrees_starred (goal : Goal) :
    Agrees (n + 1) (starred self goal) (starred self' goal) ExprsLike :=
  .bind agrees_position fun _ _ _ => .spend (agrees_symbol _) (earns_symbol _) fun _ =>
    .bind (hself goal) fun _ _ h => .pure (.intro (.starred h.value))

lemma agrees_starredOr (goal : Goal) {rule rule' : Parser (Located Expr)} (hk : k ≤ n + 1)
    (hrule : Agrees k rule rule' ExprsLike) :
    Agrees k (starredOr self goal rule) (starredOr self' goal rule') ExprsLike :=
  .same (agrees_atSymbol _) fun _ => .ite ((agrees_starred hself goal).mono hk) hrule

lemma agrees_loopTargets : Agrees n (loopTargets self) (loopTargets self') Expr.Like := by
  have hitem := agrees_starredOr hself .bitOr n.le_succ (hself .bitOr)
  refine .bind agrees_position fun start start' _ => .bind hitem.commaList ?_
  rintro ⟨items, trailing⟩ ⟨items', trailing'⟩ ⟨hitems, rfl⟩
  have htarget : Expr.Like (tupleOf start items trailing).value
    (tupleOf start' items' trailing).value := (tupleOf_like trailing hitems).value
  exact .same (agrees_ensure (isTarget_eq htarget)) fun _ => .pure htarget

lemma agrees_clause : Agrees n (clause self) (clause self') (ClauseOf.Like Expr.Like) := by
  have hcondition : Agrees n (reserved "if" >>= fun _ => self .disjunction)
      (reserved "if" >>= fun _ => self' .disjunction) ExprsLike :=
    .same (agrees_reserved _) fun _ => hself _
  exact .same (agrees_reserved? _) fun _ => .same (agrees_reserved _) fun _ =>
    .bind (agrees_loopTargets hself) fun _ _ htarget => .same (agrees_reserved _) fun _ =>
      .bind (hself _) fun _ _ hsource => .bind hcondition.many fun _ _ hconditions =>
        .pure (.intro htarget hsource.value (values_like hconditions))

lemma agrees_clauses? : Agrees n (clauses? self) (clauses? self')
    (Option.Rel (List.Forall₂ (ClauseOf.Like Expr.Like))) :=
  .same (agrees_atReserved _) fun _ => .same (agrees_atReserved _) fun _ =>
    .ite (.bind (agrees_clause hself).many1 fun _ _ h => .pure (.some h)) (.pure .none)

lemma agrees_item : Agrees n (item self) (item self') ExprsLike :=
  agrees_starredOr hself _ n.le_succ (hself _)

lemma agrees_furtherItems (close : String) :
    Agrees n (furtherItems self close) (furtherItems self' close) (List.Forall₂ ExprsLike) :=
  .same (agrees_symbol? _) fun _ => .ite ((agrees_item hself).commaListTo close) <|
    .same (agrees_symbol close) fun _ => .pure .nil

lemma agrees_yielded : Agrees n (yielded self) (yielded self') ExprsLike := by
  refine .bind agrees_position fun _ _ _ => .same (agrees_reserved _) fun _ =>
    .same (agrees_reserved? _) fun _ =>
      .ite (.bind (hself _) fun _ _ h => .pure (.intro (.yieldFrom h.value))) <|
        .bind (hself .starExpressions).maybe fun value value' h => .pure (.intro (.yield ?_))
  cases h with
  | none => exact .none
  | some h => exact .some h.value

lemma agrees_dictItem :
    Agrees n (dictItem self) (dictItem self') (PairLike (Option.Rel Expr.Like) Expr.Like) :=
  .same (agrees_symbol? _) fun _ =>
    .ite (.bind (hself _) fun _ _ h => .pure (.intro .none h.value)) <|
      .bind (hself _) fun _ _ hkey => .same (agrees_symbol _) fun _ =>
        .bind (hself _) fun _ _ h => .pure (.intro (.some hkey.value) h.value)

lemma agrees_furtherDictItems : Agrees n (furtherDictItems self) (furtherDictItems self')
    (List.Forall₂ (PairLike (Option.Rel Expr.Like) Expr.Like)) :=
  .same (agrees_symbol? _) fun _ => .ite ((agrees_dictItem hself).commaListTo _) <|
    .same (agrees_symbol _) fun _ => .pure .nil

/-! ### Brackets -/

lemma agrees_round : Agrees (n + 1) (round self) (round self') ExprsLike := by
  refine .bind agrees_position fun start start' _ =>
    .spend (agrees_symbol _) (earns_symbol _) fun _ =>
      .same (agrees_symbol? _) fun _ => .ite (.pure (.intro (.tuple .nil))) <|
        .same (agrees_atReserved _) fun _ => .ite
          (.bind (agrees_yielded hself) fun _ _ h => .same (agrees_symbol _) fun _ => .pure h) <|
          .bind (agrees_item hself) fun first first' hfirst =>
            .bind (agrees_clauses? hself) fun clauses clauses' hclauses => ?_
  cases hclauses with
  | some hclauses =>
    exact .same (agrees_ensure (by rw [isStarred_eq hfirst.value])) fun _ =>
      .same (agrees_symbol _) fun _ => .pure (.intro (.generator hfirst.value hclauses))
  | none =>
    exact .same (agrees_atSymbol _) fun _ => .ite
      (.bind (agrees_furtherItems hself _) fun _ _ hmore =>
        .pure (.intro (.tuple (.cons hfirst.value (values_like hmore)))))
      (.same (agrees_symbol _) fun _ =>
        .same (agrees_ensure (by rw [isStarred_eq hfirst.value])) fun _ => .pure hfirst)

lemma agrees_square : Agrees (n + 1) (square self) (square self') ExprsLike := by
  refine .bind agrees_position fun start start' _ =>
    .spend (agrees_symbol _) (earns_symbol _) fun _ =>
      .same (agrees_symbol? _) fun _ => .ite (.pure (.intro (.list .nil))) <|
        .bind (agrees_item hself) fun first first' hfirst =>
          .bind (agrees_clauses? hself) fun clauses clauses' hclauses => ?_
  cases hclauses with
  | some hclauses =>
    exact .same (agrees_ensure (by rw [isStarred_eq hfirst.value])) fun _ =>
      .same (agrees_symbol _) fun _ => .pure (.intro (.listComp hfirst.value hclauses))
  | none =>
    exact .bind (agrees_furtherItems hself _) fun _ _ hmore =>
      .pure (.intro (.list (.cons hfirst.value (values_like hmore))))

lemma agrees_curly : Agrees (n + 1) (curly self) (curly self') ExprsLike := by
  refine .bind agrees_position fun start start' _ =>
    .spend (agrees_symbol _) (earns_symbol _) fun _ =>
      .same (agrees_symbol? _) fun _ => .ite (.pure (.intro (.dict .nil))) <|
        .same (agrees_atSymbol _) fun _ => .ite
          (.bind (agrees_dictItem hself) fun _ _ hfirst =>
            .bind (agrees_furtherDictItems hself) fun _ _ hmore =>
              .pure (.intro (.dict (.cons hfirst hmore)))) <|
          .same (agrees_atNameThen _) fun isBound =>
            .bind (agrees_item hself) fun first first' hfirst =>
              .same (agrees_symbolIf (by rw [isStarred_eq hfirst.value]) _) fun _ => .ite ?_ ?_
  · refine .bind (hself _) fun value value' hvalue =>
      .bind (agrees_clauses? hself) fun clauses clauses' hclauses => ?_
    cases hclauses with
    | some hclauses =>
      exact .same (agrees_symbol _) fun _ =>
        .pure (.intro (.dictComp hfirst.value hvalue.value hclauses))
    | none =>
      exact .bind (agrees_furtherDictItems hself) fun _ _ hmore =>
        .pure (.intro (.dict (.cons (.intro (.some hfirst.value) hvalue.value) hmore)))
  · refine .bind (agrees_clauses? hself) fun clauses clauses' hclauses => ?_
    cases hclauses with
    | some hclauses =>
      exact .same (agrees_ensure (by rw [isStarred_eq hfirst.value])) fun _ =>
        .same (agrees_symbol _) fun _ => .pure (.intro (.setComp hfirst.value hclauses))
    | none =>
      exact .bind (agrees_furtherItems hself _) fun _ _ hmore =>
        .pure (.intro (.set (.cons hfirst.value (values_like hmore))))

/-! ### Atoms and what may follow them -/

omit hself in
lemma agrees_literal : Agrees k literal literal Eq :=
  .ofToken (f := literal?) rfl fun _ _ => rfl

lemma agrees_atom : Agrees (n + 1) (atom self) (atom self') ExprsLike := by
  refine .bind agrees_position fun _ _ _ => .same (agrees_atSymbol _) fun _ =>
    .ite (agrees_round hself) <| .same (agrees_atSymbol _) fun _ => .ite (agrees_square hself) <|
      .same (agrees_atSymbol _) fun _ => .ite (agrees_curly hself) <|
        .bind agrees_name.maybe fun id id' hid => ?_
  cases hid with
  | some hid => exact .pure (.intro (hid ▸ .name _))
  | none =>
    refine .bind agrees_literal.maybe fun c c' hc => ?_
    cases hc with
    | some hc => exact .pure (.intro (hc ▸ .constant _))
    | none => exact .bind (agrees_strings hself) fun _ _ h => .pure (.intro h)

end

/-- Arguments that differ in places only. -/
inductive Argument.Like : Argument → Argument → Prop
  | positional {value value' : Expr} (h : Expr.Like value value') :
      Like (.positional value) (.positional value')
  | keyword {k k' : Keyword} (h : KeywordOf.Like Expr.Like k k') : Like (.keyword k) (.keyword k')

lemma inOrder_eq {args args' : List Argument} (h : List.Forall₂ Argument.Like args args') :
    inOrder args = inOrder args' := by
  induction h with
  | nil => rfl
  | cons harg hargs ih =>
    cases harg with
    | positional h => exact ih
    | keyword h =>
      cases h with
      | intro h =>
        rw [inOrder, inOrder, ih]
        congr 1
        refine all_eq hargs fun a a' ha => ?_
        cases ha with
        | positional h => simp only [isStarred_eq h]
        | keyword h => rfl

/-- Values and keywords of arguments. -/
abbrev ArgumentsLike : List Expr × List Keyword → List Expr × List Keyword → Prop :=
  PairLike (List.Forall₂ Expr.Like) (List.Forall₂ (KeywordOf.Like Expr.Like))

lemma filterMap_like {args args' : List Argument} (h : List.Forall₂ Argument.Like args args') :
    ArgumentsLike (args.filterMap Argument.positional?, args.filterMap Argument.keyword?)
      (args'.filterMap Argument.positional?, args'.filterMap Argument.keyword?) := by
  refine .intro (List.rel_filterMap (fun a a' ha => ?_) h)
    (List.rel_filterMap (fun a a' ha => ?_) h)
  · cases ha with
    | positional h => exact .some h
    | keyword h => exact .none
  · cases ha with
    | positional h => exact .none
    | keyword h => exact .some h

/-- Functions that give like expressions for like expressions. -/
abbrev TrailerLike (f g : Expr → Expr) : Prop := ∀ e e', Expr.Like e e' → Expr.Like (f e) (g e')

section

variable {self self' : ExprParser} (hself : Alike n self self')
include hself

lemma agrees_argument : Agrees n (argument self) (argument self') Argument.Like :=
  .same (agrees_atSymbol _) fun _ => .ite
    (.bind ((agrees_starred hself _).mono n.le_succ) fun _ _ h => .pure (.positional h.value)) <|
    .same (agrees_symbol? _) fun _ => .ite
      (.bind (hself _) fun _ _ h => .pure (.keyword (.intro h.value))) <|
      .same (agrees_atNameThen _) fun _ => .ite
        (.same agrees_name fun _ => .same (agrees_symbol _) fun _ =>
          .bind (hself _) fun _ _ h => .pure (.keyword (.intro h.value))) <|
        .bind (hself _) fun _ _ h => .pure (.positional h.value)

lemma agrees_arguments (isCall : Bool) :
    Agrees n (arguments self isCall) (arguments self' isCall) ArgumentsLike := by
  refine .same (agrees_symbol? _) fun _ => .ite (.pure (.intro .nil .nil)) <|
    .bind (agrees_argument hself) fun first first' hfirst =>
      .bind (agrees_clauses? hself) fun clauses clauses' hclauses => ?_
  have hrest (rest rest' : List Argument) (h : List.Forall₂ Argument.Like rest rest') :
      Agrees n
        (ensure (inOrder (first :: rest)) >>= fun _ =>
          pure ((first :: rest).filterMap Argument.positional?,
            (first :: rest).filterMap Argument.keyword?))
        (ensure (inOrder (first' :: rest')) >>= fun _ =>
          pure ((first' :: rest').filterMap Argument.positional?,
            (first' :: rest').filterMap Argument.keyword?)) ArgumentsLike :=
    .same (agrees_ensure (inOrder_eq (.cons hfirst h))) fun _ =>
      .pure (filterMap_like (.cons hfirst h))
  cases hclauses with
  | none =>
    have hmore := (agrees_argument hself).commaListTo ")"
    cases hfirst <;>
      exact .same (agrees_symbol? _) fun _ => .ite (.bind hmore hrest) <|
        .same (agrees_symbol _) fun _ => .next (hrest [] [] .nil)
  | some hclauses =>
    cases hfirst with
    | keyword h => exact .failure
    | positional h =>
      exact .same (agrees_ensure (by rw [isStarred_eq h])) fun _ =>
        .same (agrees_symbol _) fun _ => .pure (.intro (.cons (.generator h hclauses) .nil) .nil)

lemma agrees_bound : Agrees n (bound self) (bound self') (Option.Rel Expr.Like) :=
  .same (agrees_atSymbol _) fun _ => .same (agrees_atSymbol _) fun _ =>
    .same (agrees_atSymbol _) fun _ => .ite (.pure .none) <|
      .bind (hself _) fun _ _ h => .pure (.some h.value)

lemma agrees_sliceFrom {lower lower' : Option Expr} (hlower : Option.Rel Expr.Like lower lower') :
    Agrees n (sliceFrom self lower) (sliceFrom self' lower') Expr.Like :=
  .same (agrees_symbol _) fun _ => .bind (agrees_bound hself) fun _ _ hupper =>
    .same (agrees_symbol? _) fun _ => .ite
      (.bind (agrees_bound hself) fun _ _ hstep => .pure (.slice hlower hupper hstep))
      (.next (.pure (.slice hlower hupper .none)))

lemma agrees_index : Agrees n (index self) (index self') ExprsLike :=
  .bind agrees_position fun _ _ _ => .same (agrees_atSymbol _) fun _ =>
    .ite ((agrees_starred hself _).mono n.le_succ) <| .same (agrees_atSymbol _) fun _ => .ite
      (.bind (agrees_sliceFrom hself .none) fun _ _ h => .pure (.intro h)) <|
      .same (agrees_atNameThen _) fun _ => .bind (hself _) fun _ _ hvalue =>
        .same (agrees_atSymbol _) fun _ => .ite
          (.bind (agrees_sliceFrom hself (.some hvalue.value)) fun _ _ h => .pure (.intro h))
          (.pure hvalue)

lemma agrees_indices : Agrees n (indices self) (indices self') Expr.Like := by
  refine .bind agrees_position fun _ _ _ => .bind (agrees_index hself).commaList ?_
  rintro ⟨items, trailing⟩ ⟨items', trailing'⟩ ⟨hitems, rfl⟩
  have hstarred : items.any (isStarred ·.value) = items'.any (isStarred ·.value) :=
    any_eq hitems fun _ _ h => isStarred_eq h.value
  refine .pure ?_
  dsimp only
  rw [hstarred]
  exact (tupleOf_like _ hitems).value

lemma agrees_trailer : Agrees (n + 1) (trailer self) (trailer self') TrailerLike :=
  .ifTaken (agrees_symbol? _) (earns_symbol? _)
    (.same agrees_name fun id => .pure fun _ _ h => .attribute id h) <|
    .ifTaken (agrees_symbol? _) (earns_symbol? _)
      (.bind (agrees_arguments hself true) fun args args' hargs => .pure fun _ _ h => by
        cases hargs with
        | intro hargs hks => exact .call h hargs hks) <|
      .spend (agrees_symbol _) (earns_symbol _) fun _ =>
        .bind (agrees_indices hself) fun _ _ hindex => .same (agrees_symbol _) fun _ =>
          .pure fun _ _ h => .subscript h hindex

lemma agrees_primary : Agrees (n + 1) (primary self) (primary self') ExprsLike := by
  refine .bind agrees_position fun _ _ _ => .bind (agrees_atom hself) fun first first' hfirst =>
    .bind (agrees_trailer hself).many fun trailers trailers' h => .pure ?_
  induction h generalizing first first' with
  | nil => exact hfirst
  | cons happly _ ih => exact ih _ _ (.intro (happly _ _ hfirst.value))

lemma agrees_power : Agrees (n + 1) (power self) (power self') ExprsLike := by
  have hexponent (start start' : Position) (base base' : Located Expr)
      (hbase : ExprsLike base base') : Agrees (n + 1)
        (do
          if ← symbol? "**" then
            let exponent ← self .factor
            pure ⟨start, .binary .pow base.value exponent.value⟩
          else pure base)
        (do
          if ← symbol? "**" then
            let exponent ← self' .factor
            pure ⟨start', .binary .pow base'.value exponent.value⟩
          else pure base') ExprsLike :=
    .ifTaken (agrees_symbol? _) (earns_symbol? _)
      (.bind (hself .factor) fun _ _ h => .pure (.intro (.binary .pow hbase.value h.value)))
      (.pure hbase)
  exact .bind agrees_position fun _ _ _ => .same (agrees_reserved? _) fun _ => .ite
    (.bind (agrees_primary hself) fun _ _ h => .next (hexponent _ _ _ _ (.intro (.await h.value))))
    (.bind (agrees_primary hself) (hexponent _ _))

lemma agrees_factor : Agrees (n + 1) (factor self) (factor self') ExprsLike :=
  .bind agrees_position fun _ _ _ => .ifFound (agrees_operator _) (earns_operator _)
    (fun op => .bind (hself .factor) fun _ _ h => .pure (.intro (.unary op h.value)))
    (agrees_power hself)

lemma agrees_bitOr : Agrees (n + 1) (bitOr self) (bitOr self') ExprsLike :=
  agrees_leftChain _ <| agrees_leftChain _ <| agrees_leftChain _ <| agrees_leftChain _ <|
    agrees_leftChain _ <| agrees_leftChain _ <| agrees_factor hself

lemma agrees_compared : Agrees (n + 1) (compared self) (compared self') ExprsLike := by
  have hstep : Agrees (n + 1)
      (do
        let op ← comparison
        let right ← bitOr self
        pure (op, right.value))
      (do
        let op ← comparison
        let right ← bitOr self'
        pure (op, right.value)) (PairLike Eq Expr.Like) :=
    .same agrees_comparison fun _ => .bind (agrees_bitOr hself) fun _ _ h =>
      .pure (.intro rfl h.value)
  refine .bind agrees_position fun _ _ _ => .bind (agrees_bitOr hself) fun left left' hleft =>
    .bind hstep.many fun rest rest' hrest => ?_
  cases hrest with
  | nil => exact .pure hleft
  | cons hnext hmore => exact .pure (.intro (.compare hleft.value (.cons hnext hmore)))

lemma agrees_inversion : Agrees (n + 1) (inversion self) (inversion self') ExprsLike :=
  .bind agrees_position fun _ _ _ => .ifTaken (agrees_reserved? _) (earns_reserved? _)
    (.bind (hself .inversion) fun _ _ h => .pure (.intro (.unary .not h.value)))
    (agrees_compared hself)

lemma agrees_disjunction : Agrees (n + 1) (disjunction self) (disjunction self') ExprsLike :=
  agrees_wordChain _ _ <| agrees_wordChain _ _ <| agrees_inversion hself

end

/-! ### Parameters -/

/-- Parameters of one name that differ in places only. -/
abbrev ParamLike : Param → Param → Prop := ParamOf.Like Expr.Like

/-- Items of a parameter list that differ in places only. -/
inductive ParamItem.Like : ParamItem → ParamItem → Prop
  | plain {p p' : Param} (h : ParamLike p p') : Like (.plain p) (.plain p')
  | slash : Like .slash .slash
  | star : Like .star .star
  | variadic {p p' : Param} (h : ParamLike p p') : Like (.variadic p) (.variadic p')
  | variadicKeyword {p p' : Param} (h : ParamLike p p') :
      Like (.variadicKeyword p) (.variadicKeyword p')

/-- Lists of items that differ in places only. -/
abbrev ParamItemsLike : List ParamItem → List ParamItem → Prop := List.Forall₂ ParamItem.Like

lemma plainRun_like {items items' : List ParamItem} (h : ParamItemsLike items items') :
    List.Forall₂ ParamLike (plainRun items).1 (plainRun items').1 ∧
      ParamItemsLike (plainRun items).2 (plainRun items').2 := by
  induction h with
  | nil => exact ⟨.nil, .nil⟩
  | cons hitem hitems ih =>
    cases hitem with
    | plain h => exact ⟨.cons h ih.1, ih.2⟩
    | slash => exact ⟨.nil, .cons .slash hitems⟩
    | star => exact ⟨.nil, .cons .star hitems⟩
    | variadic h => exact ⟨.nil, .cons (.variadic h) hitems⟩
    | variadicKeyword h => exact ⟨.nil, .cons (.variadicKeyword h) hitems⟩

lemma default_eq {p p' : Param} (h : ParamLike p p') : p.default.isSome = p'.default.isSome := by
  cases h with
  | intro _ hdefault => exact isSome_eq hdefault

lemma defaultsLast_eq {ps ps' : List Param} (h : List.Forall₂ ParamLike ps ps') :
    defaultsLast ps = defaultsLast ps' := by
  induction h with
  | nil => rfl
  | cons h hs ih =>
    rw [defaultsLast, defaultsLast, ih, all_eq hs fun _ _ => default_eq, ← Option.not_isSome,
      ← Option.not_isSome, default_eq h]

section

variable {positionalOnly positionalOnly' positional positional' : List Param}
  (honly : List.Forall₂ ParamLike positionalOnly positionalOnly')
  (hpositional : List.Forall₂ ParamLike positional positional')
include honly hpositional

lemma assembleRest_like {items items' : List ParamItem} (h : ParamItemsLike items items') :
    Option.Rel (ParamsOf.Like Expr.Like) (assembleRest positionalOnly positional items)
      (assembleRest positionalOnly' positional' items') := by
  rw [assembleRest.eq_def, assembleRest.eq_def]
  extract_lets ending ending'
  have hending {variadic variadic' : Option Param} {keywordOnly keywordOnly' : List Param}
      {rest rest' : List ParamItem} (hvariadic : Option.Rel ParamLike variadic variadic')
      (hkeywordOnly : List.Forall₂ ParamLike keywordOnly keywordOnly')
      (hrest : ParamItemsLike rest rest') :
      Option.Rel (ParamsOf.Like Expr.Like) (ending variadic keywordOnly rest)
        (ending' variadic' keywordOnly' rest') := by
    cases hrest with
    | nil => exact .some (.intro honly hpositional hvariadic hkeywordOnly .none)
    | cons hlast hmore =>
      cases hmore with
      | nil =>
        cases hlast with
        | variadicKeyword h =>
          exact .some (.intro honly hpositional hvariadic hkeywordOnly (.some h))
        | _ => exact .none
      | cons _ _ => cases hlast <;> exact .none
  cases h with
  | nil => exact hending .none .nil .nil
  | cons hfirst hmore =>
    have hrun := plainRun_like hmore
    cases hfirst with
    | star =>
      dsimp only
      rw [isEmpty_eq hrun.1]
      split
      · exact .none
      · exact hending .none hrun.1 hrun.2
    | variadic h => exact hending (.some h) hrun.1 hrun.2
    | plain h => exact hending .none .nil (.cons (.plain h) hmore)
    | slash => exact hending .none .nil (.cons .slash hmore)
    | variadicKeyword h => exact hending .none .nil (.cons (.variadicKeyword h) hmore)

end

lemma assemble_like {items items' : List ParamItem} (h : ParamItemsLike items items') :
    Option.Rel (ParamsOf.Like Expr.Like) (assemble items) (assemble items') := by
  have hrun := plainRun_like h
  have hnoSlash : Option.Rel (ParamsOf.Like Expr.Like)
      (if defaultsLast (plainRun items).1 then
        assembleRest [] (plainRun items).1 (plainRun items).2 else none)
      (if defaultsLast (plainRun items').1 then
        assembleRest [] (plainRun items').1 (plainRun items').2 else none) := by
    rw [defaultsLast_eq hrun.1]
    split
    · exact assembleRest_like .nil hrun.1 hrun.2
    · exact .none
  rw [assemble, assemble]
  generalize plainRun items = run, plainRun items' = run' at hrun hnoSlash ⊢
  obtain ⟨first, rest⟩ := run
  obtain ⟨first', rest'⟩ := run'
  obtain ⟨hfirst, hrest⟩ := hrun
  dsimp only at hfirst hrest hnoSlash ⊢
  cases hrest with
  | nil => exact hnoSlash
  | cons hitem hmore =>
    have hsecond := plainRun_like hmore
    cases hitem with
    | slash =>
      dsimp only
      rw [isEmpty_eq hfirst, defaultsLast_eq (List.rel_append hfirst hsecond.1)]
      split
      · exact .none
      · exact assembleRest_like hfirst hsecond.1 hsecond.2
    | _ => exact hnoSlash

section

variable {self self' : ExprParser} (hself : Alike n self self')
include hself

lemma agrees_paramName (isTyped isStarTyped : Bool) : Agrees n (paramName self isTyped isStarTyped)
    (paramName self' isTyped isStarTyped) ParamLike :=
  .bind agrees_position fun _ _ _ => .same agrees_name fun _ =>
    .same (agrees_symbolIf rfl _) fun _ => .ite
      (.ite
        (.bind (agrees_starredOr hself _ n.le_succ (hself _)) fun _ _ h =>
          .next (.pure (.intro (.some h.value) .none)))
        (.bind (hself _) fun _ _ h => .next (.pure (.intro (.some h.value) .none))))
      (.next (.pure (.intro .none .none)))

lemma agrees_paramItem (isTyped : Bool) :
    Agrees n (paramItem self isTyped) (paramItem self' isTyped) ParamItem.Like := by
  refine .same (agrees_symbol? _) fun _ => .ite (.pure .slash) <|
    .same (agrees_symbol? _) fun _ => .ite
      (.bind (agrees_paramName hself _ _) fun _ _ h => .pure (.variadicKeyword h)) <|
      .same (agrees_symbol? _) fun _ => .ite
        (.same (agrees_atSymbol _) fun _ => .ite (.pure .star) <|
          .bind (agrees_paramName hself _ _) fun _ _ h => .pure (.variadic h)) <|
        .bind (agrees_paramName hself _ _) fun p p' h => .same (agrees_symbol? _) fun _ => .ite
          (.bind (hself _) fun _ _ hdefault => .pure (.plain ?_)) (.pure (.plain h))
  cases h with
  | intro hhint _ => exact .intro hhint (.some hdefault)

lemma agrees_parameters (isTyped : Bool) (close : String) : Agrees n
    (parameters self isTyped close) (parameters self' isTyped close) (ParamsOf.Like Expr.Like) := by
  refine .bind ((agrees_paramItem hself isTyped).commaListTo close) fun items items' h => ?_
  rcases rel_cases (assemble_like h) with ⟨hx, hy⟩ | ⟨ps, ps', hx, hy, hps⟩
  · rw [hx, hy]
    exact .failure
  · rw [hx, hy]
    exact .pure hps

/-! ### Whole expressions -/

lemma agrees_lambda : Agrees (n + 1) (lambda self) (lambda self') ExprsLike :=
  .bind agrees_position fun _ _ _ => .spend (agrees_reserved _) (earns_reserved _) fun _ =>
    .bind (agrees_parameters hself _ _) fun _ _ hps => .bind (hself _) fun _ _ h =>
      .pure (.intro (.lambda hps h.value))

lemma agrees_expression : Agrees (n + 1) (expression self) (expression self') ExprsLike := by
  have hchoice : Agrees (n + 1)
      (do
        reserved "if"
        let test ← self .disjunction
        reserved "else"
        let orelse ← self .expression
        pure (test.value, orelse.value))
      (do
        reserved "if"
        let test ← self' .disjunction
        reserved "else"
        let orelse ← self' .expression
        pure (test.value, orelse.value)) (PairLike Expr.Like Expr.Like) :=
    .spend (agrees_reserved _) (earns_reserved _) fun _ => .bind (hself _) fun _ _ htest =>
      .same (agrees_reserved _) fun _ => .bind (hself _) fun _ _ horelse =>
        .pure (.intro htest.value horelse.value)
  refine .same (agrees_atReserved _) fun _ => .ite (agrees_lambda hself) <|
    .bind agrees_position fun _ _ _ => .bind (agrees_disjunction hself) fun body body' hbody =>
      .bind hchoice.maybe fun choice choice' h => ?_
  cases h with
  | none => exact .pure hbody
  | some h =>
    cases h with
    | intro htest horelse => exact .pure (.intro (.conditional htest hbody.value horelse))

lemma agrees_named : Agrees (n + 1) (named self) (named self') ExprsLike :=
  .same (agrees_atNameThen _) fun _ => .ite
    (.bind agrees_position fun _ _ _ => .spend agrees_name earns_name fun _ =>
      .same (agrees_symbol _) fun _ =>
        .bind (hself _) fun _ _ h => .pure (.intro (.named _ h.value)))
    (agrees_expression hself)

lemma agrees_starExpressions :
    Agrees (n + 1) (starExpressions self) (starExpressions self') ExprsLike := by
  have hitem := agrees_starredOr hself .bitOr le_rfl (agrees_expression hself)
  refine .bind agrees_position fun _ _ _ => .bind hitem.commaList ?_
  rintro ⟨items, trailing⟩ ⟨items', trailing'⟩ ⟨hitems, rfl⟩
  exact .pure (tupleOf_like trailing hitems)

lemma alike_rule : Alike (n + 1) (rule self) (rule self')
  | .starExpressions => agrees_starExpressions hself
  | .named => agrees_named hself
  | .expression => agrees_expression hself
  | .disjunction => agrees_disjunction hself
  | .inversion => agrees_inversion hself
  | .bitOr => agrees_bitOr hself
  | .factor => agrees_factor hself

end

/-- Grammars of two depths agree on what costs less than either. -/
theorem alike_parse {n depth depth' : Nat} (h : n ≤ depth) (h' : n ≤ depth') :
    Alike n (parse depth) (parse depth') := by
  induction n generalizing depth depth' with
  | zero => exact fun _ => .zero
  | succ n ih =>
    cases depth with
    | zero => exact absurd h (Nat.not_succ_le_zero n)
    | succ depth =>
      cases depth' with
      | zero => exact absurd h' (Nat.not_succ_le_zero n)
      | succ depth' =>
        exact alike_rule (ih (Nat.le_of_succ_le_succ h) (Nat.le_of_succ_le_succ h'))

end ProbeCatalog.Syntax.Expression
