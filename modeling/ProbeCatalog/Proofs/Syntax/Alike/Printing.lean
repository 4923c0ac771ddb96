import ProbeCatalog.Proofs.Syntax.Likeness
import ProbeCatalog.Syntax.Printer.Statement

/-!
# Places are not printed

Expressions that are alike have the same text, and so have the heads of definitions.
-/
namespace ProbeCatalog.Syntax.Printer

lemma isWhole_eq {e e' : Expr} (h : Expr.Like e e') : isWhole e = isWhole e' := by
  cases h <;> rfl

/-- A subscript whose index has no brackets to lose. -/
lemma expr_subscript {value index : Expr} {plain : Bool} {level : Level}
    (h : ∀ item items, index ≠ .tuple (item :: items)) :
    expr plain level (.subscript value index) = (do
      let s ← expr plain .atom value
      let i ← expr plain .test index
      pure (s ++ "[" ++ i ++ "]")) := by
  rw [expr]
  exact h

mutual

lemma expr_eq {e e' : Expr} (h : Expr.Like e e') (plain : Bool) (level : Level) :
    expr plain level e = expr plain level e' := by
  cases h with
  | constant c => rfl
  | name id => rfl
  | «attribute» id h => rw [expr, expr, expr_eq h, isWhole_eq h]
  | @subscript _ _ index index' h hindex =>
    by_cases hitems : ∃ item items, index = .tuple (item :: items)
    · obtain ⟨item, items, rfl⟩ := hitems
      cases hindex with
      | tuple hitems =>
        cases hitems with
        | cons hitem hmore => rw [expr, expr, expr_eq h, exprs_eq (.cons hitem hmore)]
    · have hno (item : Expr) (items : List Expr) : index ≠ .tuple (item :: items) :=
        fun heq => hitems ⟨item, items, heq⟩
      have hno' (item : Expr) (items : List Expr) : index' ≠ .tuple (item :: items) := by
        rintro rfl
        cases hindex with
        | tuple hitems' =>
          cases hitems' with
          | cons _ _ => exact hno _ _ rfl
      rw [expr_subscript hno, expr_subscript hno', expr_eq h, expr_eq hindex]
  | call h hargs hks => rw [expr, expr, expr_eq h, exprs_eq hargs, keywords_eq hks]
  | unary op h => rw [expr, expr, expr_eq h]
  | binary op hleft hright => rw [expr, expr, expr_eq hleft, expr_eq hright]
  | bool op h => rw [expr, expr, operands_eq h]
  | compare h hrest => rw [expr, expr, expr_eq h, comparisons_eq hrest]
  | conditional htest hbody horelse =>
    rw [expr, expr, expr_eq htest, expr_eq hbody, expr_eq horelse]
  | lambda hps hbody => rw [expr, expr, parameters_eq hps, expr_eq hbody]
  | named target h => rw [expr, expr, expr_eq h]
  | tuple h => rw [expr, expr, exprs_eq h, isEmpty_eq h]
  | list h => rw [expr, expr, exprs_eq h]
  | set h => rw [expr, expr, exprs_eq h, isEmpty_eq h]
  | dict h => rw [expr, expr, dictItems_eq h]
  | listComp h hcs => rw [expr, expr, expr_eq h, clauses_eq hcs]
  | setComp h hcs => rw [expr, expr, expr_eq h, clauses_eq hcs]
  | dictComp hkey h hcs => rw [expr, expr, expr_eq hkey, expr_eq h, clauses_eq hcs]
  | generator h hcs => rw [expr, expr, expr_eq h, clauses_eq hcs]
  | await h => rw [expr, expr, expr_eq h]
  | yield h =>
    cases h with
    | none => rfl
    | some h => rw [expr, expr, expr_eq h]
  | yieldFrom h => rw [expr, expr, expr_eq h]
  | starred h => rw [expr, expr, expr_eq h]
  | slice hlower hupper hstep =>
    rw [expr, expr, maybe_eq hlower, maybe_eq hupper, maybe_eq hstep]
  | formatted h => rw [expr, expr, pieces_eq h, parts_eq h]
termination_by sizeOf e

lemma exprs_eq {es es' : List Expr} (h : List.Forall₂ Expr.Like es es') (plain : Bool)
    (level : Level) : exprs plain level es = exprs plain level es' := by
  cases h with
  | nil => rfl
  | cons h hs => rw [exprs, exprs, expr_eq h, exprs_eq hs]
termination_by sizeOf es

lemma operands_eq {es es' : List Expr} (h : List.Forall₂ Expr.Like es es') (plain : Bool)
    (level : Level) : operands plain level es = operands plain level es' := by
  cases h with
  | nil => rfl
  | cons h hs => rw [operands, operands, expr_eq h, operands_eq hs]
termination_by sizeOf es

lemma maybe_eq {e e' : Option Expr} (h : Option.Rel Expr.Like e e') (plain : Bool)
    (mark : String) : maybe plain mark e = maybe plain mark e' := by
  cases h with
  | none => rfl
  | some h => rw [maybe, maybe, expr_eq h]
termination_by sizeOf e

lemma comparisons_eq {rest rest' : List (CompareOp × Expr)}
    (h : List.Forall₂ (PairLike Eq Expr.Like) rest rest') (plain : Bool) :
    comparisons plain rest = comparisons plain rest' := by
  cases h with
  | nil => rfl
  | cons h hs =>
    cases h with
    | intro hop h => rw [comparisons, comparisons, hop, expr_eq h, comparisons_eq hs]
termination_by sizeOf rest

lemma keywords_eq {ks ks' : List Keyword} (h : List.Forall₂ (KeywordOf.Like Expr.Like) ks ks')
    (plain : Bool) : keywords plain ks = keywords plain ks' := by
  cases h with
  | nil => rfl
  | cons h hs =>
    cases h with
    | @intro id _ _ h =>
      cases id with
      | none => rw [keywords, keywords, expr_eq h, keywords_eq hs]
      | some id => rw [keywords, keywords, expr_eq h, keywords_eq hs]
termination_by sizeOf ks

lemma dictItems_eq {items items' : List (Option Expr × Expr)}
    (h : List.Forall₂ (PairLike (Option.Rel Expr.Like) Expr.Like) items items') (plain : Bool) :
    dictItems plain items = dictItems plain items' := by
  cases h with
  | nil => rfl
  | cons h hs =>
    cases h with
    | intro hkey h =>
      cases hkey with
      | none => rw [dictItems, dictItems, expr_eq h, dictItems_eq hs]
      | some hkey => rw [dictItems, dictItems, expr_eq hkey, expr_eq h, dictItems_eq hs]
termination_by sizeOf items

lemma clauses_eq {cs cs' : List Clause} (h : List.Forall₂ (ClauseOf.Like Expr.Like) cs cs')
    (plain : Bool) : clauses plain cs = clauses plain cs' := by
  cases h with
  | nil => rfl
  | cons h hs =>
    cases h with
    | intro htarget hsource hconditions =>
      rw [clauses, clauses, expr_eq htarget, expr_eq hsource, exprs_eq hconditions, clauses_eq hs]
termination_by sizeOf cs

lemma param_eq {p p' : Param} (h : ParamOf.Like Expr.Like p p') (plain : Bool) :
    param plain p = param plain p' := by
  cases h with
  | intro hhint hdefault =>
    cases hdefault with
    | none => rw [param, param, maybe_eq hhint]
    | some hdefault =>
      cases hdefault with
      | intro hdefault => rw [param, param, maybe_eq hhint, expr_eq hdefault]
termination_by sizeOf p

lemma params_eq {ps ps' : List Param} (h : List.Forall₂ (ParamOf.Like Expr.Like) ps ps')
    (plain : Bool) : params plain ps = params plain ps' := by
  cases h with
  | nil => rfl
  | cons h hs => rw [params, params, param_eq h, params_eq hs]
termination_by sizeOf ps

lemma maybeParam_eq {p p' : Option Param} (h : Option.Rel (ParamOf.Like Expr.Like) p p')
    (plain : Bool) (mark : String) : maybeParam plain mark p = maybeParam plain mark p' := by
  cases h with
  | none => rfl
  | some h => rw [maybeParam, maybeParam, param_eq h]
termination_by sizeOf p

lemma parameters_eq {ps ps' : Params} (h : ParamsOf.Like Expr.Like ps ps') (plain : Bool) :
    parameters plain ps = parameters plain ps' := by
  cases h with
  | intro honly hpositional hvariadic hkeywordOnly hvariadicKeyword =>
    rw [parameters, parameters, params_eq honly, params_eq hpositional, maybeParam_eq hvariadic,
      params_eq hkeywordOnly, maybeParam_eq hvariadicKeyword]
termination_by sizeOf ps

lemma pieces_eq {ps ps' : List Piece} (h : List.Forall₂ (PieceOf.Like Expr.Like) ps ps') :
    pieces ps = pieces ps' := by
  cases h with
  | nil => rfl
  | cons h hs =>
    cases h with
    | literal text => rw [pieces, pieces, pieces_eq hs]
    | plain conversion h => rw [pieces, pieces, expr_eq h, pieces_eq hs]
    | shaped conversion h hformat =>
      rw [pieces, pieces, expr_eq h, pieces_eq hformat, pieces_eq hs]
termination_by sizeOf ps

lemma parts_eq {ps ps' : List Piece} (h : List.Forall₂ (PieceOf.Like Expr.Like) ps ps') :
    parts ps = parts ps' := by
  cases h with
  | nil => rfl
  | cons h hs =>
    cases h with
    | literal text => rw [parts, parts, parts_eq hs]
    | plain conversion h => rw [parts, parts, expr_eq h, parts_eq hs]
    | shaped conversion h hformat =>
      rw [parts, parts, expr_eq h, pieces_eq hformat, parts_eq hs]
termination_by sizeOf ps

end

/-! ### Heads of definitions -/

lemma decorators_eq {ds ds' : List (Located Expr)} (h : List.Forall₂ ExprsLike ds ds')
    (depth : Nat) : decorators depth ds = decorators depth ds' := by
  induction h with
  | nil => rfl
  | cons h _ ih =>
    cases h with
    | intro h => rw [decorators, decorators, expr_eq h, ih]

lemma classHead_eq {name : String} {bases bases' : List Expr} {ks ks' : List Keyword}
    (hbases : List.Forall₂ Expr.Like bases bases')
    (hks : List.Forall₂ (KeywordOf.Like Expr.Like) ks ks') :
    classHead name bases ks = classHead name bases' ks' := by
  rw [classHead, classHead, exprs_eq hbases, keywords_eq hks]

lemma functionHead_eq {isAsync : Bool} {name : String} {ps ps' : Params}
    {returns returns' : Option (Located Expr)} (hps : ParamsOf.Like Expr.Like ps ps')
    (hreturns : Option.Rel ExprsLike returns returns') :
    functionHead isAsync name ps returns = functionHead isAsync name ps' returns' := by
  have hvalue : Option.Rel Expr.Like (returns.map (·.value)) (returns'.map (·.value)) := by
    cases hreturns with
    | none => exact .none
    | some h => exact .some h.value
  have hafter : after " -> " (returns.map (·.value)) = after " -> " (returns'.map (·.value)) :=
    maybe_eq hvalue false " -> "
  rw [functionHead, functionHead, parameters_eq hps, hafter]

end ProbeCatalog.Syntax.Printer
