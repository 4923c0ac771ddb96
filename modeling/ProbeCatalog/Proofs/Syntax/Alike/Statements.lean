import ProbeCatalog.Proofs.Syntax.Alike.Patterns
import ProbeCatalog.Syntax.Source

/-!
# Statements do not depend on layout

Definitions and expressions that are read for the same tokens are alike, and where one statement is
of another kind both are. A rule calls the parser for blocks after a colon only, so grammars that
are deep enough agree, and two sources with the same tokens hold like blocks.
-/
namespace ProbeCatalog.Syntax.Statement

open ProbeCatalog.Syntax.Parser
open Expression (Alike tupleOf isTarget_eq isStarred_eq tupleOf_like agrees_yielded
  agrees_loopTargets agrees_starredOr agrees_item agrees_arguments agrees_parameters)
open Matching (PatternLike agrees_openSequence)

variable {n k : Nat}

lemma getLast?_rel {α β : Type} {R : α → β → Prop} {as : List α} {bs : List β}
    (h : List.Forall₂ R as bs) : Option.Rel R as.getLast? bs.getLast? := by
  induction h with
  | nil => exact .none
  | cons h _ ih =>
    rw [List.getLast?_cons, List.getLast?_cons]
    rcases rel_cases ih with ⟨hx, hy⟩ | ⟨a, b, hx, hy, hab⟩
    · rw [hx, hy]
      exact .some h
    · rw [hx, hy]
      exact .some hab

lemma dropLast_rel {α β : Type} {R : α → β → Prop} {as : List α} {bs : List β}
    (h : List.Forall₂ R as bs) : List.Forall₂ R as.dropLast bs.dropLast := by
  rw [List.dropLast_eq_take, List.dropLast_eq_take, h.length_eq]
  exact List.forall₂_take _ h

/-! ### Simple statements -/

section

variable {expr expr' : ExprParser} (hexpr : Alike n expr expr')
include hexpr

lemma agrees_assigned : Agrees n (assigned expr) (assigned expr') Expr.Like :=
  .same (agrees_atReserved _) fun _ => .ite
    (.bind (agrees_yielded hexpr) fun _ _ h => .pure h.value)
    (.bind (hexpr _) fun _ _ h => .pure h.value)

lemma agrees_assignment : Agrees n (assignment expr) (assignment expr') Stmt.Like := by
  have hmore : Agrees n (symbol "=" >>= fun _ => assigned expr)
      (symbol "=" >>= fun _ => assigned expr') Expr.Like :=
    .same (agrees_symbol _) fun _ => agrees_assigned hexpr
  refine .same (agrees_atSymbol _) fun _ => .bind (agrees_assigned hexpr) fun first first' hfirst =>
    .same (agrees_symbol? _) fun _ => .ite
      (.same (agrees_ensure (isSingleTarget_eq hfirst)) fun _ => .bind (hexpr _) fun _ _ _ =>
        .same (agrees_symbol? _) fun _ => .ite
          (.bind (agrees_assigned hexpr) fun _ _ _ => .next (.pure (.other rfl rfl)))
          (.next (.pure (.other rfl rfl)))) <|
      .bind (agrees_operator _).maybe fun op op' hop => ?_
  cases hop with
  | some _ =>
    exact .same (agrees_ensure (isSingleTarget_eq hfirst)) fun _ =>
      .bind (agrees_assigned hexpr) fun _ _ _ => .pure (.other rfl rfl)
  | none =>
    refine .bind hmore.many fun rest rest' hrest => ?_
    rcases rel_cases (getLast?_rel hrest) with ⟨hx, hy⟩ | ⟨value, value', hx, hy, -⟩
    · rw [hx, hy]
      exact .pure (.expression hfirst)
    · rw [hx, hy]
      have htargets : (first :: rest.dropLast).all Expression.isTarget =
          (first' :: rest'.dropLast).all Expression.isTarget :=
        all_eq (.cons hfirst (dropLast_rel hrest)) fun _ _ => isTarget_eq
      exact .same (agrees_ensure htargets) fun _ => .pure (.other rfl rfl)

omit hexpr in
/-- Lists without places are the same. -/
lemma agrees_equal {α : Type} {p : Parser (List α)} (h : Agrees k p p (List.Forall₂ Eq)) :
    Agrees k p p Eq :=
  h.imp fun _ _ h => List.forall₂_eq_eq_eq ▸ h

omit hexpr in
lemma agrees_dottedName : Agrees k dottedName dottedName Eq :=
  .same (agrees_equal (agrees_name.sepBy1 _)) fun _ => .pure rfl

omit hexpr in
lemma agrees_boundAs : Agrees k boundAs boundAs Eq :=
  .same (agrees_reserved? _) fun _ => .ite (.same agrees_name fun _ => .pure rfl) (.pure rfl)

omit hexpr in
lemma agrees_imported {subject : Parser String} (h : Agrees k subject subject Eq) :
    Agrees k (imported subject) (imported subject) Eq :=
  .same h fun _ => .same agrees_boundAs fun _ => .pure rfl

omit hexpr in
lemma agrees_importing : Agrees k importing importing Stmt.Like :=
  .same (agrees_reserved _) fun _ => .bind ((agrees_imported agrees_dottedName).sepBy1 _)
    fun _ _ _ => .pure (.other rfl rfl)

omit hexpr in
lemma agrees_dots : Agrees k dots dots Eq :=
  .same (agrees_equal (agrees_operator _).many) fun _ => .pure rfl

omit hexpr in
lemma agrees_importedNames : Agrees k importedNames importedNames (List.Forall₂ Eq) :=
  .same (agrees_symbol? _) fun _ => .ite (.pure (List.forall₂_refl _)) <|
    .same (agrees_symbol? _) fun _ => .ite
      (.bind (agrees_imported agrees_name).commaList fun _ _ h =>
        .same (agrees_symbol _) fun _ => .pure h.1)
      ((agrees_imported agrees_name).sepBy1 _)

omit hexpr in
lemma agrees_importingFrom : Agrees k importingFrom importingFrom Stmt.Like := by
  have hnames (level : Nat) (module : Option String) : Agrees k
      (do
        reserved "import"
        let names ← importedNames
        pure (.importingFrom level module names))
      (do
        reserved "import"
        let names ← importedNames
        pure (.importingFrom level module names)) Stmt.Like :=
    .same (agrees_reserved _) fun _ => .bind agrees_importedNames fun _ _ _ =>
      .pure (.other rfl rfl)
  exact .same (agrees_reserved _) fun _ => .same agrees_dots fun level =>
    .same (agrees_atReserved _) fun _ => .ite (.next (hnames _ _)) <|
      .same agrees_dottedName fun _ => .next (hnames _ _)

/-- Whether there is a value does not depend on layout. -/
lemma agrees_valueOf (goal : Goal) : Agrees n (valueOf (expr goal)) (valueOf (expr' goal))
    (Option.Rel Expr.Like) :=
  .bind (hexpr goal).maybe fun _ _ h => .pure (rel_map h fun _ _ h => h.value)

lemma agrees_raising : Agrees n (raising expr) (raising expr') Stmt.Like := by
  refine .same (agrees_reserved _) fun _ => .bind (agrees_valueOf hexpr _) fun e e' he => ?_
  cases he with
  | none => exact .pure (.other rfl rfl)
  | some _ =>
    exact .same (agrees_reserved? _) fun _ => .ite
      (.bind (hexpr _) fun _ _ _ => .next (.pure (.other rfl rfl))) (.next (.pure (.other rfl rfl)))

lemma agrees_deleting : Agrees n (deleting expr) (deleting expr') Stmt.Like := by
  refine .same (agrees_reserved _) fun _ => .bind (hexpr .bitOr).commaList ?_
  rintro ⟨targets, trailing⟩ ⟨targets', trailing'⟩ ⟨htargets, -⟩
  have hall : (targets.map (·.value)).all isDeletable = (targets'.map (·.value)).all isDeletable :=
    all_eq (values_like htargets) fun _ _ => isDeletable_eq
  exact .same (agrees_ensure hall) fun _ => .pure (.other rfl rfl)

lemma agrees_asserting : Agrees n (asserting expr) (asserting expr') Stmt.Like :=
  .same (agrees_reserved _) fun _ => .bind (hexpr _) fun _ _ _ =>
    .same (agrees_symbol? _) fun _ => .ite
      (.bind (hexpr _) fun _ _ _ => .next (.pure (.other rfl rfl))) (.next (.pure (.other rfl rfl)))

lemma agrees_simpleStmt : Agrees n (simpleStmt expr) (simpleStmt expr') Stmt.Like :=
  .same (agrees_reserved? _) fun _ => .ite (.pure .pass) <|
    .same (agrees_reserved? _) fun _ => .ite (.pure (.other rfl rfl)) <|
    .same (agrees_reserved? _) fun _ => .ite (.pure (.other rfl rfl)) <|
    .same (agrees_reserved? _) fun _ => .ite
      (.bind (agrees_valueOf hexpr _) fun _ _ _ => .pure (.other rfl rfl)) <|
    .same (agrees_atReserved _) fun _ => .ite (agrees_raising hexpr) <|
    .same (agrees_atReserved _) fun _ => .ite agrees_importing <|
    .same (agrees_atReserved _) fun _ => .ite agrees_importingFrom <|
    .same (agrees_atReserved _) fun _ => .ite (agrees_deleting hexpr) <|
    .same (agrees_atReserved _) fun _ => .ite (agrees_asserting hexpr) <|
    .same (agrees_reserved? _) fun _ => .ite
      (.bind (agrees_name.sepBy1 _) fun _ _ _ => .pure (.other rfl rfl)) <|
    .same (agrees_reserved? _) fun _ => .ite
      (.bind (agrees_name.sepBy1 _) fun _ _ _ => .pure (.other rfl rfl))
      (agrees_assignment hexpr)

lemma agrees_simple : Agrees n (simple expr) (simple expr') (Located.Like Stmt.Like) :=
  .bind agrees_position fun _ _ _ => .bind (agrees_simpleStmt hexpr) fun _ _ h => .pure (.intro h)

lemma agrees_simpleLine : Agrees n (simpleLine expr) (simpleLine expr') BlocksLike :=
  .bind ((agrees_simple hexpr).sepBy1 _) fun _ _ h => .same (agrees_symbol? _) fun _ =>
    .same (agrees_expect _) fun _ => .pure h

end

/-! ### Compound statements -/

section

variable {expr expr' : ExprParser} (hexpr : Alike (n + 1) expr expr') {self self' : Parser Block}
  (hself : Agrees n self self' BlocksLike)
include hexpr hself

lemma agrees_block : Agrees (n + 1) (block expr self) (block expr' self') BlocksLike := by
  have hline : Agrees n (simpleLine expr) (simpleLine expr') BlocksLike :=
    (agrees_simpleLine hexpr).mono n.le_succ
  refine .spend (agrees_symbol _) (earns_symbol _) fun _ =>
    .bind (agrees_expect _).maybe fun found found' h => ?_
  cases h with
  | some _ =>
    exact .same (agrees_expect _) fun _ => .bind hself.many1 fun _ _ h =>
      .same (agrees_expect _) fun _ => .pure (List.rel_flatten h)
  | none => exact hline

lemma agrees_elseBlock : Agrees (n + 1) (elseBlock expr self) (elseBlock expr' self') BlocksLike :=
  .same (agrees_reserved? _) fun _ => .ite (agrees_block hexpr hself) (.pure .nil)

lemma agrees_branch (bound : Nat) :
    Agrees (n + 1) (branch expr self bound) (branch expr' self' bound) Stmt.Like := by
  induction bound with
  | zero => exact .failure
  | succ bound ih =>
    exact .bind (hexpr _) fun _ _ _ => .bind (agrees_block hexpr hself) fun _ _ _ =>
      .bind agrees_position fun _ _ _ => .same (agrees_reserved? _) fun _ => .ite
        (.bind ih fun _ _ _ => .pure (.other rfl rfl))
        (.bind (agrees_elseBlock hexpr hself) fun _ _ _ => .pure (.other rfl rfl))

lemma agrees_whileLoop : Agrees (n + 1) (whileLoop expr self) (whileLoop expr' self') Stmt.Like :=
  .bind (hexpr _) fun _ _ _ => .bind (agrees_block hexpr hself) fun _ _ _ =>
    .bind (agrees_elseBlock hexpr hself) fun _ _ _ => .pure (.other rfl rfl)

lemma agrees_forLoop (isAsync : Bool) :
    Agrees (n + 1) (forLoop expr self isAsync) (forLoop expr' self' isAsync) Stmt.Like :=
  .bind (agrees_loopTargets hexpr) fun _ _ _ => .same (agrees_reserved _) fun _ =>
    .bind (hexpr _) fun _ _ _ => .bind (agrees_block hexpr hself) fun _ _ _ =>
      .bind (agrees_elseBlock hexpr hself) fun _ _ _ => .pure (.other rfl rfl)

omit hself in
lemma agrees_withItem : Agrees (n + 1) (withItem expr) (withItem expr') fun _ _ => True :=
  .bind (hexpr _) fun _ _ _ => .same (agrees_reserved? _) fun _ => .ite
    (.bind (agrees_starredOr hexpr _ (Nat.le_succ _) (hexpr _)) fun _ _ h =>
      .same (agrees_ensure (isTarget_eq h.value)) fun _ => .pure trivial)
    (.pure trivial)

omit hself in
lemma agrees_bracketedItems : Agrees (n + 1) (bracketedItems expr) (bracketedItems expr')
    (List.Forall₂ fun _ _ => True) :=
  .same (agrees_symbol _) fun _ => .bind (agrees_withItem hexpr).commaList fun _ _ h =>
    .same (agrees_symbol _) fun _ => .same (agrees_atSymbol _) fun _ =>
      .same (agrees_ensure rfl) fun _ => .pure h.1

lemma agrees_withBlock (isAsync : Bool) :
    Agrees (n + 1) (withBlock expr self isAsync) (withBlock expr' self' isAsync) Stmt.Like :=
  .bind ((agrees_bracketedItems hexpr).either ((agrees_withItem hexpr).sepBy1 _)) fun _ _ _ =>
    .bind (agrees_block hexpr hself) fun _ _ _ => .pure (.other rfl rfl)

lemma agrees_handler (grouped : Bool) :
    Agrees (n + 1) (handler expr self grouped) (handler expr' self' grouped) fun _ _ => True := by
  have hbody (colon : Bool) : Agrees (n + 1)
      (if !grouped && colon then do
        let body ← block expr self
        pure ⟨none, none, body⟩
      else do
        let type ← expr .expression
        let id ← boundAs
        let body ← block expr self
        pure ⟨some type.value, id, body⟩ : Parser Handler)
      (if !grouped && colon then do
        let body ← block expr' self'
        pure ⟨none, none, body⟩
      else do
        let type ← expr' .expression
        let id ← boundAs
        let body ← block expr' self'
        pure ⟨some type.value, id, body⟩ : Parser Handler) fun _ _ => True :=
    .ite (.bind (agrees_block hexpr hself) fun _ _ _ => .pure trivial) <|
      .bind (hexpr _) fun _ _ _ => .same agrees_boundAs fun _ =>
        .bind (agrees_block hexpr hself) fun _ _ _ => .pure trivial
  exact .same (agrees_reserved _) fun _ => .ite
    (.same (agrees_symbol _) fun _ => .same (agrees_atSymbol _) hbody)
    (.same (agrees_atSymbol _) hbody)

lemma agrees_tryBlock : Agrees (n + 1) (tryBlock expr self) (tryBlock expr' self') Stmt.Like := by
  have hfinal (body body' orelse orelse' : Block) (grouped grouped' : Bool)
      {handlers handlers' : List Handler} (h : handlers.isEmpty = handlers'.isEmpty) :
      Agrees (n + 1)
        (do
          let final ← if ← reserved? "finally" then block expr self else pure []
          ensure (!handlers.isEmpty || !final.isEmpty)
          pure (.tryBlock grouped body handlers orelse final))
        (do
          let final ← if ← reserved? "finally" then block expr' self' else pure []
          ensure (!handlers'.isEmpty || !final.isEmpty)
          pure (.tryBlock grouped' body' handlers' orelse' final)) Stmt.Like := by
    refine .same (agrees_reserved? _) fun _ => .ite
      (.bind (agrees_block hexpr hself) fun final final' hfinal =>
        .same (agrees_ensure ?_) fun _ => .pure (.other rfl rfl))
      (.next (.same (agrees_ensure ?_) fun _ => .pure (.other rfl rfl)))
    · rw [h, isEmpty_eq hfinal]
    · rw [h]
  have hrest (body body' : Block) (plain plain' grouped grouped' : List Handler)
      (h : (plain ++ grouped).isEmpty = (plain' ++ grouped').isEmpty) :
      Agrees (n + 1)
        (do
          let handlers := plain ++ grouped
          let orelse ← if handlers.isEmpty then pure [] else elseBlock expr self
          let final ← if ← reserved? "finally" then block expr self else pure []
          ensure (!handlers.isEmpty || !final.isEmpty)
          pure (.tryBlock (!grouped.isEmpty) body handlers orelse final))
        (do
          let handlers := plain' ++ grouped'
          let orelse ← if handlers.isEmpty then pure [] else elseBlock expr' self'
          let final ← if ← reserved? "finally" then block expr' self' else pure []
          ensure (!handlers.isEmpty || !final.isEmpty)
          pure (.tryBlock (!grouped'.isEmpty) body' handlers orelse final)) Stmt.Like :=
    .cond h (.next (hfinal _ _ _ _ _ _ h))
      (.bind (agrees_elseBlock hexpr hself) fun _ _ _ => hfinal _ _ _ _ _ _ h)
  exact .bind (agrees_block hexpr hself) fun _ _ _ =>
    .bind (agrees_handler hexpr hself false).many fun _ _ hplain => .cond (isEmpty_eq hplain)
      (.bind (agrees_handler hexpr hself true).many fun _ _ hgrouped =>
        hrest _ _ _ _ _ _ (isEmpty_eq (List.rel_append hplain hgrouped)))
      (.next (hrest _ _ _ _ _ _ (isEmpty_eq (List.rel_append hplain .nil))))

omit hself in
lemma agrees_subject : Agrees (n + 1) (subject expr) (subject expr') Expr.Like := by
  refine .bind agrees_position fun start start' _ => .bind (agrees_item hexpr).commaList ?_
  rintro ⟨items, trailing⟩ ⟨items', trailing'⟩ ⟨hitems, rfl⟩
  have hvalue : Expr.Like (tupleOf start items trailing).value
    (tupleOf start' items' trailing).value := (tupleOf_like trailing hitems).value
  exact .same (agrees_ensure (congrArg not (isStarred_eq hvalue))) fun _ => .pure hvalue

/-- Of a case nothing is asked. -/
lemma agrees_caseBlock {pattern pattern' : Parser Pattern}
    (hpattern : Agrees (n + 1) pattern pattern' PatternLike) :
    Agrees (n + 1) (caseBlock expr pattern self) (caseBlock expr' pattern' self')
      fun _ _ => True :=
  .same (agrees_word _) fun _ => .bind (agrees_openSequence hpattern) fun _ _ _ =>
    .same (agrees_reserved? _) fun _ => .ite
      (.bind (hexpr _) fun _ _ _ => .next <|
        .bind (agrees_block hexpr hself) fun _ _ _ => .pure trivial)
      (.next <| .bind (agrees_block hexpr hself) fun _ _ _ => .pure trivial)

lemma agrees_matching {pattern pattern' : Parser Pattern}
    (hpattern : Agrees (n + 1) pattern pattern' PatternLike) :
    Agrees (n + 1) (matching expr pattern self) (matching expr' pattern' self') Stmt.Like :=
  .same (agrees_word _) fun _ => .bind (agrees_subject hexpr) fun _ _ _ =>
    .same (agrees_symbol _) fun _ => .same (agrees_expect _) fun _ =>
      .same (agrees_expect _) fun _ =>
        .bind (agrees_caseBlock hexpr hself hpattern).many1 fun _ _ _ =>
          .same (agrees_expect _) fun _ => .pure (.other rfl rfl)

/-! ### Definitions -/

lemma agrees_classDef {decorators decorators' : List (Located Expr)}
    (hdecorators : List.Forall₂ ExprsLike decorators decorators') :
    Agrees (n + 1) (classDef expr self decorators) (classDef expr' self' decorators')
      Stmt.Like := by
  have hbody (id : String) {bases bases' : List Expr} {ks ks' : List Keyword}
      (hbases : List.Forall₂ Expr.Like bases bases')
      (hks : List.Forall₂ (KeywordOf.Like Expr.Like) ks ks') :
      Agrees (n + 1)
        (do
          let body ← block expr self
          pure (.classDef ⟨id, bases, ks, body, decorators⟩))
        (do
          let body ← block expr' self'
          pure (.classDef ⟨id, bases', ks', body, decorators'⟩)) Stmt.Like :=
    .bind (agrees_block hexpr hself) fun _ _ hbody =>
      .pure (.classDef (.intro hbases hks hbody hdecorators))
  refine .same (agrees_reserved _) fun _ => .same agrees_name fun id =>
    .same (agrees_symbol? _) fun _ => .ite
      (.bind (agrees_arguments hexpr false) fun args args' hargs => ?_) (.next (hbody id .nil .nil))
  cases hargs with
  | intro hbases hks => exact hbody id hbases hks

lemma agrees_functionDef {decorators decorators' : List (Located Expr)} (isAsync : Bool)
    (hdecorators : List.Forall₂ ExprsLike decorators decorators') :
    Agrees (n + 1) (functionDef expr self decorators isAsync)
      (functionDef expr' self' decorators' isAsync) Stmt.Like := by
  have hbody (id : String) {params params' : Params} {returns returns' : Option (Located Expr)}
      (hparams : ParamsOf.Like Expr.Like params params')
      (hreturns : Option.Rel ExprsLike returns returns') :
      Agrees (n + 1)
        (do
          let body ← block expr self
          pure (.functionDef ⟨isAsync, id, params, returns, body, decorators⟩))
        (do
          let body ← block expr' self'
          pure (.functionDef ⟨isAsync, id, params', returns', body, decorators'⟩)) Stmt.Like :=
    .bind (agrees_block hexpr hself) fun _ _ hbody =>
      .pure (.functionDef (.intro hparams hreturns hbody hdecorators))
  exact .same (agrees_reserved _) fun _ => .same agrees_name fun id =>
    .same (agrees_symbol _) fun _ =>
      .bind (agrees_parameters hexpr true ")") fun _ _ hparams =>
        .same (agrees_symbol? _) fun _ => .ite
          (.bind (hexpr _) fun _ _ hreturns => .next (hbody id hparams (.some hreturns)))
          (.next (hbody id hparams .none))

omit hself in
lemma agrees_decorator : Agrees (n + 1) (decorator expr) (decorator expr') ExprsLike :=
  .same (agrees_symbol _) fun _ => .bind (hexpr _) fun _ _ h =>
    .same (agrees_expect _) fun _ => .pure h

lemma agrees_definition :
    Agrees (n + 1) (definition expr self) (definition expr' self') (Located.Like Stmt.Like) :=
  .bind (agrees_decorator hexpr).many fun _ _ hdecorators => .bind agrees_position fun _ _ _ =>
    .same (agrees_atReserved _) fun _ => .ite
      (.bind (agrees_classDef hexpr hself hdecorators) fun _ _ h => .pure (.intro h))
      (.same (agrees_reserved? _) fun isAsync =>
        .bind (agrees_functionDef hexpr hself isAsync hdecorators) fun _ _ h => .pure (.intro h))

lemma agrees_asyncBlock :
    Agrees (n + 1) (asyncBlock expr self) (asyncBlock expr' self') Stmt.Like :=
  .same (agrees_reserved _) fun _ => .same (agrees_reserved? _) fun _ => .ite
    (agrees_forLoop hexpr hself true)
    (.same (agrees_reserved _) fun _ => agrees_withBlock hexpr hself true)

lemma agrees_compound : Agrees (n + 1) (compound expr self) (compound expr' self') Stmt.Like := by
  have hbranch : Agrees (n + 1) (fun tokens => branch expr self tokens.length tokens)
      (fun tokens => branch expr' self' tokens.length tokens) Stmt.Like := by
    intro ts us hts hcost
    dsimp only
    rw [hts.length_eq]
    exact agrees_branch hexpr hself us.length ts us hts hcost
  exact .same (agrees_reserved? _) fun _ => .ite hbranch <|
    .same (agrees_reserved? _) fun _ => .ite (agrees_whileLoop hexpr hself) <|
    .same (agrees_reserved? _) fun _ => .ite (agrees_forLoop hexpr hself false) <|
    .same (agrees_reserved? _) fun _ => .ite (agrees_withBlock hexpr hself false) <|
    .same (agrees_reserved? _) fun _ => .ite (agrees_tryBlock hexpr hself)
      (agrees_asyncBlock hexpr hself)

omit hexpr hself in
lemma agrees_atReservedTwo (v w : String) :
    Agrees k (atReservedTwo v w) (atReservedTwo v w) Eq := by
  intro ts us hts hcost
  cases hts with
  | nil => exact .some ⟨rfl, .nil, le_rfl⟩
  | cons htu hts =>
    cases hts with
    | nil => exact .some ⟨rfl, .cons htu .nil, le_rfl⟩
    | cons htu' hts => exact .some ⟨by simp only [htu, htu'], .cons htu (.cons htu' hts), le_rfl⟩

omit hexpr hself in
lemma agrees_atDefinition : Agrees k atDefinition atDefinition Eq :=
  .same (agrees_atSymbol _) fun _ => .same (agrees_atReserved _) fun _ =>
    .same (agrees_atReserved _) fun _ => .same (agrees_atReservedTwo _ _) fun _ => .pure rfl

omit hexpr hself in
lemma agrees_atCompound : Agrees k atCompound atCompound Eq := by
  refine .peek fun ts us h => ?_
  congr 1
  funext w
  exact head?_any (f := fun t => decide (t = .reserved w)) h

omit hexpr hself in
lemma agrees_atMatch : Agrees k atMatch atMatch Eq :=
  .peek fun _ _ h => head?_any (f := fun t => decide (t = .name "match".toList)) h

lemma agrees_rule {pattern pattern' : Parser Pattern}
    (hpattern : Agrees (n + 1) pattern pattern' PatternLike) :
    Agrees (n + 1) (rule expr pattern self) (rule expr' pattern' self') BlocksLike :=
  .bind agrees_position fun _ _ _ => .same agrees_atDefinition fun _ => .ite
    (.bind (agrees_definition hexpr hself) fun _ _ h => .pure (.cons h .nil)) <|
    .same agrees_atCompound fun _ => .ite
      (.bind (agrees_compound hexpr hself) fun _ _ h => .pure (.cons (.intro h) .nil)) <|
      .same agrees_atMatch fun _ => .ite
        (.either
          (.bind (agrees_matching hexpr hself hpattern) fun _ _ h => .pure (.cons (.intro h) .nil))
          (agrees_simpleLine hexpr))
        (agrees_simpleLine hexpr)

end

/-- Grammars of two depths agree on what costs less than either. -/
theorem agrees_parse {expr expr' : ExprParser} (hexpr : Alike n expr expr')
    {pattern pattern' : Parser Pattern} (hpattern : Agrees n pattern pattern' PatternLike)
    (hk : k ≤ n) {depth depth' : Nat} (h : k ≤ depth) (h' : k ≤ depth') :
    Agrees k (parse expr pattern depth) (parse expr' pattern' depth') BlocksLike := by
  induction k generalizing depth depth' with
  | zero => exact .zero
  | succ k ih =>
    cases depth with
    | zero => exact absurd h (Nat.not_succ_le_zero k)
    | succ depth =>
      cases depth' with
      | zero => exact absurd h' (Nat.not_succ_le_zero k)
      | succ depth' =>
        exact agrees_rule (fun goal => (hexpr goal).mono hk)
          (ih (Nat.le_of_succ_le hk) (Nat.le_of_succ_le_succ h) (Nat.le_of_succ_le_succ h'))
          (hpattern.mono hk)

end ProbeCatalog.Syntax.Statement

namespace ProbeCatalog.Syntax

open ProbeCatalog.Syntax.Parser

lemma agrees_moduleParser {n length length' : Nat} (h : n ≤ length + 1) (h' : n ≤ length' + 1) :
    Agrees n (moduleParser length) (moduleParser length') BlocksLike := by
  have hexpr := Expression.alike_parse h h'
  have hpattern := Matching.agrees_parse hexpr n.le_succ h h'
  have hstmt := Statement.agrees_parse hexpr hpattern le_rfl h h'
  exact .bind hstmt.many fun _ _ hblocks => .same (agrees_expect _) fun _ =>
    .pure (List.rel_flatten hblocks)

/-- Sources with the same tokens hold like blocks. -/
theorem parseModule_like {s s' : List Char} {block : Block} {tokens tokens' : List Lexeme}
    (htokens : Lexer.lexLines (Lexer.endLastLine (unifyLineEnds s)) = some tokens)
    (htokens' : Lexer.lexLines (Lexer.endLastLine (unifyLineEnds s')) = some tokens')
    (hsame : SameTokens tokens tokens') (h : parseModule s = some block) :
    ∃ block', parseModule s' = some block' ∧ BlocksLike block block' := by
  have hcost := Lexer.cost_lexLines htokens
  have hcost' := Lexer.cost_lexLines htokens'
  rw [← hsame.cost_eq] at hcost'
  have hagrees := agrees_moduleParser (Nat.succ_le_succ hcost) (Nat.succ_le_succ hcost')
    tokens tokens' hsame (Nat.lt_succ_self _)
  simp only [parseModule, htokens, Option.bind_eq_bind, Option.bind_some] at h
  simp only [parseModule, htokens', Option.bind_eq_bind, Option.bind_some]
  rcases rel_cases hagrees with ⟨hx, -⟩ | ⟨⟨found, rest⟩, ⟨found', rest'⟩, hx, hy, hleaves⟩
  · rw [hx] at h
    cases h
  · rw [hx] at h
    cases h
    rw [hy]
    exact ⟨found', rfl, hleaves.result⟩

end ProbeCatalog.Syntax
