import Mathlib.Data.List.Forall2
import ProbeCatalog.Syntax.Grammar.Statement

/-!
# Trees that differ in places only

Two expressions are alike if they are the same but for the places that parameters and default values
keep. Two definitions are alike if what stands in front of their bodies is, and the statements of
their bodies are; of other statements nothing is asked here but that both are others.
-/
namespace ProbeCatalog.Syntax

variable {α β ε : Type}

/-- The values are related, wherever they stand. -/
inductive Located.Like (R : α → β → Prop) : Located α → Located β → Prop
  | intro {pos pos' : Position} {a : α} {b : β} (h : R a b) : Like R ⟨pos, a⟩ ⟨pos', b⟩

/-- The parts of two pairs are related. -/
inductive PairLike {γ δ : Type} (R : α → β → Prop) (S : γ → δ → Prop) : α × γ → β × δ → Prop
  | intro {a : α} {b : β} {c : γ} {d : δ} (h : R a b) (h' : S c d) : PairLike R S (a, c) (b, d)

/-- Keyword arguments of one name. -/
inductive KeywordOf.Like (R : ε → ε → Prop) : KeywordOf ε → KeywordOf ε → Prop
  | intro {id : Option String} {value value' : ε} (h : R value value') :
      Like R ⟨id, value⟩ ⟨id, value'⟩

/-- Clauses whose parts are related. -/
inductive ClauseOf.Like (R : ε → ε → Prop) : ClauseOf ε → ClauseOf ε → Prop
  | intro {isAsync : Bool} {target target' source source' : ε} {conditions conditions' : List ε}
      (htarget : R target target') (hsource : R source source')
      (hconditions : List.Forall₂ R conditions conditions') :
      Like R ⟨isAsync, target, source, conditions⟩ ⟨isAsync, target', source', conditions'⟩

/-- Parameters of one name. -/
inductive ParamOf.Like (R : ε → ε → Prop) : ParamOf ε → ParamOf ε → Prop
  | intro {pos pos' : Position} {id : String} {hint hint' : Option ε}
      {default default' : Option (Located ε)} (hhint : Option.Rel R hint hint')
      (hdefault : Option.Rel (Located.Like R) default default') :
      Like R ⟨pos, id, hint, default⟩ ⟨pos', id, hint', default'⟩

/-- Parameters that take their arguments in the same ways. -/
inductive ParamsOf.Like (R : ε → ε → Prop) : ParamsOf ε → ParamsOf ε → Prop
  | intro {positionalOnly positionalOnly' positional positional' : List (ParamOf ε)}
      {variadic variadic' : Option (ParamOf ε)} {keywordOnly keywordOnly' : List (ParamOf ε)}
      {variadicKeyword variadicKeyword' : Option (ParamOf ε)}
      (hpositionalOnly : List.Forall₂ (ParamOf.Like R) positionalOnly positionalOnly')
      (hpositional : List.Forall₂ (ParamOf.Like R) positional positional')
      (hvariadic : Option.Rel (ParamOf.Like R) variadic variadic')
      (hkeywordOnly : List.Forall₂ (ParamOf.Like R) keywordOnly keywordOnly')
      (hvariadicKeyword : Option.Rel (ParamOf.Like R) variadicKeyword variadicKeyword') :
      Like R ⟨positionalOnly, positional, variadic, keywordOnly, variadicKeyword⟩
        ⟨positionalOnly', positional', variadic', keywordOnly', variadicKeyword'⟩

/-- Pieces of formatted strings, with the same texts. -/
inductive PieceOf.Like (R : ε → ε → Prop) : PieceOf ε → PieceOf ε → Prop
  | literal (text : Text) : Like R (.literal text) (.literal text)
  | plain {value value' : ε} (conversion : Option Conversion) (h : R value value') :
      Like R (.field value conversion none) (.field value' conversion none)
  | shaped {value value' : ε} (conversion : Option Conversion) {format format' : List (PieceOf ε)}
      (h : R value value') (hformat : List.Forall₂ (Like R) format format') :
      Like R (.field value conversion (some format)) (.field value' conversion (some format'))

/-- The expressions differ in places only. -/
inductive Expr.Like : Expr → Expr → Prop
  | constant (c : Constant) : Like (.constant c) (.constant c)
  | name (id : String) : Like (.name id) (.name id)
  | attribute {value value' : Expr} (id : String) (h : Like value value') :
      Like (.attribute value id) (.attribute value' id)
  | subscript {value value' index index' : Expr} (h : Like value value')
      (hindex : Like index index') : Like (.subscript value index) (.subscript value' index')
  | call {function function' : Expr} {args args' : List Expr} {ks ks' : List Keyword}
      (h : Like function function') (hargs : List.Forall₂ Like args args')
      (hks : List.Forall₂ (KeywordOf.Like Like) ks ks') :
      Like (.call function args ks) (.call function' args' ks')
  | unary (op : UnaryOp) {operand operand' : Expr} (h : Like operand operand') :
      Like (.unary op operand) (.unary op operand')
  | binary (op : BinaryOp) {left left' right right' : Expr} (hleft : Like left left')
      (hright : Like right right') : Like (.binary op left right) (.binary op left' right')
  | bool (op : BoolOp) {operands operands' : List Expr}
      (h : List.Forall₂ Like operands operands') : Like (.bool op operands) (.bool op operands')
  | compare {left left' : Expr} {rest rest' : List (CompareOp × Expr)} (h : Like left left')
      (hrest : List.Forall₂ (PairLike Eq Like) rest rest') :
      Like (.compare left rest) (.compare left' rest')
  | conditional {test test' body body' orelse orelse' : Expr} (htest : Like test test')
      (hbody : Like body body') (horelse : Like orelse orelse') :
      Like (.conditional test body orelse) (.conditional test' body' orelse')
  | lambda {ps ps' : Params} {body body' : Expr} (hps : ParamsOf.Like Like ps ps')
      (hbody : Like body body') : Like (.lambda ps body) (.lambda ps' body')
  | named (target : String) {value value' : Expr} (h : Like value value') :
      Like (.named target value) (.named target value')
  | tuple {items items' : List Expr} (h : List.Forall₂ Like items items') :
      Like (.tuple items) (.tuple items')
  | list {items items' : List Expr} (h : List.Forall₂ Like items items') :
      Like (.list items) (.list items')
  | set {items items' : List Expr} (h : List.Forall₂ Like items items') :
      Like (.set items) (.set items')
  | dict {items items' : List (Option Expr × Expr)}
      (h : List.Forall₂ (PairLike (Option.Rel Like) Like) items items') :
      Like (.dict items) (.dict items')
  | listComp {item item' : Expr} {cs cs' : List Clause} (h : Like item item')
      (hcs : List.Forall₂ (ClauseOf.Like Like) cs cs') :
      Like (.listComp item cs) (.listComp item' cs')
  | setComp {item item' : Expr} {cs cs' : List Clause} (h : Like item item')
      (hcs : List.Forall₂ (ClauseOf.Like Like) cs cs') :
      Like (.setComp item cs) (.setComp item' cs')
  | dictComp {key key' value value' : Expr} {cs cs' : List Clause} (hkey : Like key key')
      (h : Like value value') (hcs : List.Forall₂ (ClauseOf.Like Like) cs cs') :
      Like (.dictComp key value cs) (.dictComp key' value' cs')
  | generator {item item' : Expr} {cs cs' : List Clause} (h : Like item item')
      (hcs : List.Forall₂ (ClauseOf.Like Like) cs cs') :
      Like (.generator item cs) (.generator item' cs')
  | await {value value' : Expr} (h : Like value value') : Like (.await value) (.await value')
  | yield {value value' : Option Expr} (h : Option.Rel Like value value') :
      Like (.yield value) (.yield value')
  | yieldFrom {value value' : Expr} (h : Like value value') :
      Like (.yieldFrom value) (.yieldFrom value')
  | starred {value value' : Expr} (h : Like value value') :
      Like (.starred value) (.starred value')
  | slice {lower lower' upper upper' step step' : Option Expr}
      (hlower : Option.Rel Like lower lower') (hupper : Option.Rel Like upper upper')
      (hstep : Option.Rel Like step step') :
      Like (.slice lower upper step) (.slice lower' upper' step')
  | formatted {ps ps' : List Piece} (h : List.Forall₂ (PieceOf.Like Like) ps ps') :
      Like (.formatted ps) (.formatted ps')

/-- Functions of one name and kind, with related statements in their bodies. -/
inductive FunctionOf.Like {σ : Type} (R : σ → σ → Prop) : FunctionOf σ → FunctionOf σ → Prop
  | intro {isAsync : Bool} {id : String} {params params' : Params}
      {returns returns' : Option (Located Expr)} {body body' : List (Located σ)}
      {decorators decorators' : List (Located Expr)}
      (hparams : ParamsOf.Like Expr.Like params params')
      (hreturns : Option.Rel (Located.Like Expr.Like) returns returns')
      (hbody : List.Forall₂ (Located.Like R) body body')
      (hdecorators : List.Forall₂ (Located.Like Expr.Like) decorators decorators') :
      Like R ⟨isAsync, id, params, returns, body, decorators⟩
        ⟨isAsync, id, params', returns', body', decorators'⟩

/-- Classes of one name, with related statements in their bodies. -/
inductive ClassOf.Like {σ : Type} (R : σ → σ → Prop) : ClassOf σ → ClassOf σ → Prop
  | intro {id : String} {bases bases' : List Expr} {ks ks' : List Keyword}
      {body body' : List (Located σ)} {decorators decorators' : List (Located Expr)}
      (hbases : List.Forall₂ Expr.Like bases bases')
      (hks : List.Forall₂ (KeywordOf.Like Expr.Like) ks ks')
      (hbody : List.Forall₂ (Located.Like R) body body')
      (hdecorators : List.Forall₂ (Located.Like Expr.Like) decorators decorators') :
      Like R ⟨id, bases, ks, body, decorators⟩ ⟨id, bases', ks', body', decorators'⟩

/-- The statement is neither a definition nor an expression, and does something. -/
def Stmt.isOther : Stmt → Bool
  | .functionDef _ | .classDef _ | .expression _ | .pass => false
  | _ => true

/-- The statements differ in places only, or do something that providers do not. -/
inductive Stmt.Like : Stmt → Stmt → Prop
  | functionDef {f f' : FunctionDecl} (h : FunctionOf.Like Like f f') :
      Like (.functionDef f) (.functionDef f')
  | classDef {c c' : ClassDecl} (h : ClassOf.Like Like c c') : Like (.classDef c) (.classDef c')
  | expression {e e' : Expr} (h : Expr.Like e e') : Like (.expression e) (.expression e')
  | pass : Like .pass .pass
  | other {s s' : Stmt} (h : s.isOther = true) (h' : s'.isOther = true) : Like s s'

/-- The expressions are alike, wherever they stand. -/
abbrev ExprsLike : Located Expr → Located Expr → Prop := Located.Like Expr.Like

/-- The statements are alike, one by one. -/
abbrev BlocksLike : Block → Block → Prop := List.Forall₂ (Located.Like Stmt.Like)

lemma Located.Like.value {R : α → β → Prop} {a : Located α} {b : Located β} (h : Like R a b) :
    R a.value b.value := by
  cases h with
  | intro h => exact h

lemma values_like {R : α → β → Prop} {as : List (Located α)} {bs : List (Located β)}
    (h : List.Forall₂ (Located.Like R) as bs) :
    List.Forall₂ R (as.map (·.value)) (bs.map (·.value)) := by
  rw [List.forall₂_map_left_iff, List.forall₂_map_right_iff]
  exact h.imp fun _ _ h => h.value

lemma all_eq {R : α → β → Prop} {f : α → Bool} {g : β → Bool} {as : List α} {bs : List β}
    (h : List.Forall₂ R as bs) (hf : ∀ a b, R a b → f a = g b) : as.all f = bs.all g := by
  induction h with
  | nil => rfl
  | cons h _ ih => rw [List.all_cons, List.all_cons, hf _ _ h, ih]

lemma any_eq {R : α → β → Prop} {f : α → Bool} {g : β → Bool} {as : List α} {bs : List β}
    (h : List.Forall₂ R as bs) (hf : ∀ a b, R a b → f a = g b) : as.any f = bs.any g := by
  induction h with
  | nil => rfl
  | cons h _ ih => rw [List.any_cons, List.any_cons, hf _ _ h, ih]

lemma isEmpty_eq {R : α → β → Prop} {as : List α} {bs : List β} (h : List.Forall₂ R as bs) :
    as.isEmpty = bs.isEmpty := by
  cases h <;> rfl

lemma isSome_eq {R : α → β → Prop} {x : Option α} {y : Option β} (h : Option.Rel R x y) :
    x.isSome = y.isSome := by
  cases h <;> rfl

lemma isNone_eq {R : α → β → Prop} {x : Option α} {y : Option β} (h : Option.Rel R x y) :
    x.isNone = y.isNone := by
  cases h <;> rfl

/-! ### What the grammar asks of expressions -/

namespace Expression

mutual

lemma isTarget_eq {e e' : Expr} (h : Expr.Like e e') : isTarget e = isTarget e' := by
  cases h with
  | tuple h => exact areTargets_eq h
  | list h => exact areTargets_eq h
  | starred h => exact isPlainTarget_eq h
  | _ => rfl
termination_by sizeOf e

lemma areTargets_eq {es es' : List Expr} (h : List.Forall₂ Expr.Like es es') :
    isTarget.areTargets es = isTarget.areTargets es' := by
  cases h with
  | nil => rfl
  | cons h hs => rw [isTarget.areTargets, isTarget.areTargets, isTarget_eq h, areTargets_eq hs]
termination_by sizeOf es

lemma isPlainTarget_eq {e e' : Expr} (h : Expr.Like e e') :
    isTarget.isPlainTarget e = isTarget.isPlainTarget e' := by
  cases h with
  | tuple h => exact areTargets_eq h
  | list h => exact areTargets_eq h
  | _ => rfl
termination_by sizeOf e

end

lemma isStarred_eq {e e' : Expr} (h : Expr.Like e e') : isStarred e = isStarred e' := by
  cases h <;> rfl

end Expression

namespace Statement

lemma isSingleTarget_eq {e e' : Expr} (h : Expr.Like e e') :
    isSingleTarget e = isSingleTarget e' := by
  cases h <;> rfl

mutual

lemma isDeletable_eq {e e' : Expr} (h : Expr.Like e e') : isDeletable e = isDeletable e' := by
  cases h with
  | tuple h => exact areDeletable_eq h
  | list h => exact areDeletable_eq h
  | _ => rfl
termination_by sizeOf e

lemma areDeletable_eq {es es' : List Expr} (h : List.Forall₂ Expr.Like es es') :
    isDeletable.areDeletable es = isDeletable.areDeletable es' := by
  cases h with
  | nil => rfl
  | cons h hs =>
    rw [isDeletable.areDeletable, isDeletable.areDeletable, isDeletable_eq h, areDeletable_eq hs]
termination_by sizeOf es

end

end Statement

end ProbeCatalog.Syntax
