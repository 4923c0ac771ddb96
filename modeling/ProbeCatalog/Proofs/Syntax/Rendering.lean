import ProbeCatalog.Proofs.Outcome
import ProbeCatalog.Syntax.Printer.Statement

/-!
# Expressions that have a text

The printer fails for two reasons only, and both can be seen in the tree: a whole number of
more than 4300 digits, and a field of a formatted string whose text holds a backslash. The
place of an expression and the quotes around it do not matter.
-/
namespace ProbeCatalog.Syntax.Printer

mutual

/-- No whole number in the expression is too long, and no field needs a backslash. -/
def Renders : Expr → Prop
  | .constant (.integer n) => n < numberBound
  | .constant _ => True
  | .name _ => True
  | .attribute value _ => Renders value
  | .subscript value index => Renders value ∧ Renders index
  | .call function args ks => Renders function ∧ AllRender args ∧ KeywordsRender ks
  | .unary _ operand => Renders operand
  | .binary _ left right => Renders left ∧ Renders right
  | .bool _ values => AllRender values
  | .compare left rest => Renders left ∧ ComparisonsRender rest
  | .conditional test body orelse => Renders body ∧ Renders test ∧ Renders orelse
  | .lambda ps body => ParametersRender ps ∧ Renders body
  | .named _ value => Renders value
  | .tuple items => AllRender items
  | .list items => AllRender items
  | .set items => AllRender items
  | .dict items => DictRenders items
  | .listComp item cs => Renders item ∧ ClausesRender cs
  | .setComp item cs => Renders item ∧ ClausesRender cs
  | .dictComp key value cs => Renders key ∧ Renders value ∧ ClausesRender cs
  | .generator item cs => Renders item ∧ ClausesRender cs
  | .await value => Renders value
  | .yield value => MaybeRenders value
  | .yieldFrom value => Renders value
  | .starred value => Renders value
  | .slice lower upper step => MaybeRenders lower ∧ MaybeRenders upper ∧ MaybeRenders step
  | .formatted ps => PiecesRender ps

def AllRender : List Expr → Prop
  | [] => True
  | e :: es => Renders e ∧ AllRender es

def MaybeRenders : Option Expr → Prop
  | none => True
  | some e => Renders e

def ComparisonsRender : List (CompareOp × Expr) → Prop
  | [] => True
  | (_, e) :: rest => Renders e ∧ ComparisonsRender rest

def KeywordsRender : List Keyword → Prop
  | [] => True
  | ⟨_, value⟩ :: ks => Renders value ∧ KeywordsRender ks

def DictRenders : List (Option Expr × Expr) → Prop
  | [] => True
  | (none, value) :: items => Renders value ∧ DictRenders items
  | (some key, value) :: items => Renders key ∧ Renders value ∧ DictRenders items

def ClausesRender : List Clause → Prop
  | [] => True
  | ⟨_, target, source, conditions⟩ :: cs =>
    Renders target ∧ Renders source ∧ AllRender conditions ∧ ClausesRender cs

def ParamRenders : Param → Prop
  | ⟨_, _, hint, none⟩ => MaybeRenders hint
  | ⟨_, _, hint, some ⟨_, value⟩⟩ => MaybeRenders hint ∧ Renders value

def ParamsRender : List Param → Prop
  | [] => True
  | p :: ps => ParamRenders p ∧ ParamsRender ps

def MaybeParamRenders : Option Param → Prop
  | none => True
  | some p => ParamRenders p

def ParametersRender : Params → Prop
  | ⟨positionalOnly, positional, variadic, keywordOnly, variadicKeyword⟩ =>
    ParamsRender positionalOnly ∧ ParamsRender positional ∧ MaybeParamRenders variadic ∧
      ParamsRender keywordOnly ∧ MaybeParamRenders variadicKeyword

def PiecesRender : List Piece → Prop
  | [] => True
  | .literal _ :: ps => PiecesRender ps
  | .field value _ none :: ps =>
    Renders value ∧ (∀ s, expr true Level.test.next value = .ok s → '\\' ∉ s.toList) ∧
      PiecesRender ps
  | .field value _ (some format) :: ps =>
    Renders value ∧ PiecesRender format ∧
      (∀ s, expr true Level.test.next value = .ok s → '\\' ∉ s.toList) ∧ PiecesRender ps

end

lemma succeeds_constant (plain : Bool) (c : Constant) :
    Succeeds (constant plain c) ↔ Renders (.constant c) := by
  cases c with
  | integer n =>
    rw [constant, Renders]
    split
    · exact iff_of_true (succeeds_pure _) ‹_›
    · refine iff_of_false ?_ ‹_›
      rintro ⟨_, h⟩
      cases h
  | none => exact iff_of_true (succeeds_pure _) trivial
  | true => exact iff_of_true (succeeds_pure _) trivial
  | false => exact iff_of_true (succeeds_pure _) trivial
  | ellipsis => exact iff_of_true (succeeds_pure _) trivial
  | float x => exact iff_of_true (succeeds_pure _) trivial
  | imaginary x => exact iff_of_true (succeeds_pure _) trivial
  | string t marked => exact iff_of_true (succeeds_pure _) trivial
  | bytes octets => exact iff_of_true (succeeds_pure _) trivial

lemma succeeds_field (value : String) (conversion : Option Conversion) (format : Option Text) :
    Succeeds (field value conversion format) ↔ '\\' ∉ value.toList := by
  unfold field
  split
  · rename_i h
    refine iff_of_false ?_ (by simpa using h)
    rintro ⟨_, h⟩
    cases h
  · rename_i h
    exact iff_of_true (succeeds_pure _) (by simpa using h)

/-- A field and the pieces after it, from the text of its expression. -/
lemma succeeds_field_then {α β : Type} {x : Printed String} {conversion : Option Conversion}
    {format : Option Text} {y : Printed α} {f : Text → α → β} :
    Succeeds (x >>= fun v => field v conversion format >>= fun s => y >>= fun r => pure (f s r)) ↔
      Succeeds x ∧ (∀ s, x = .ok s → '\\' ∉ s.toList) ∧ Succeeds y := by
  rw [succeeds_bind]
  simp only [succeeds_two, succeeds_field]
  constructor
  · rintro ⟨s, hs, hfield, hy⟩
    refine ⟨⟨s, hs⟩, fun s' hs' => ?_, hy⟩
    rw [hs] at hs'
    cases hs'
    exact hfield
  · rintro ⟨⟨s, hs⟩, hfield, hy⟩
    exact ⟨s, hs, hfield s hs, hy⟩

/-- The same with a format between the expression and the field. -/
lemma succeeds_format_then {α β : Type} {x : Printed String} {z : Printed Text}
    {conversion : Option Conversion} {y : Printed α} {f : Text → α → β} :
    Succeeds (x >>= fun v => z >>= fun t => field v conversion (some t) >>= fun s =>
        y >>= fun r => pure (f s r)) ↔
      Succeeds x ∧ Succeeds z ∧ (∀ s, x = .ok s → '\\' ∉ s.toList) ∧ Succeeds y := by
  have hrest (v : String) : Succeeds (z >>= fun t => field v conversion (some t) >>= fun s =>
      y >>= fun r => pure (f s r)) ↔ Succeeds z ∧ '\\' ∉ v.toList ∧ Succeeds y :=
    succeeds_then fun t => by rw [succeeds_two, succeeds_field]
  rw [succeeds_bind]
  simp only [hrest]
  constructor
  · rintro ⟨s, hs, hz, hfield, hy⟩
    refine ⟨⟨s, hs⟩, hz, fun s' hs' => ?_, hy⟩
    rw [hs] at hs'
    cases hs'
    exact hfield
  · rintro ⟨⟨s, hs⟩, hz, hfield, hy⟩
    exact ⟨s, hs, hz, hfield s hs, hy⟩

/-- A tuple stands without brackets in an index, which changes nothing here. -/
lemma succeeds_subscript (plain : Bool) (level : Level) (value index : Expr) :
    Succeeds (expr plain level (.subscript value index)) ↔
      Succeeds (expr plain .atom value) ∧ Succeeds (expr plain .test index) := by
  by_cases h : ∃ item items, index = .tuple (item :: items)
  · obtain ⟨item, items, rfl⟩ := h
    rw [expr, expr.eq_def plain .test, succeeds_two, succeeds_bind_pure]
  · rw [expr, succeeds_two]
    exact fun item items hi => h ⟨item, items, hi⟩

mutual

lemma succeeds_expr (plain : Bool) (level : Level) :
    (e : Expr) → (Succeeds (expr plain level e) ↔ Renders e)
  | .constant c => by rw [expr]; exact succeeds_constant plain c
  | .name id => by rw [expr]; exact iff_of_true (succeeds_pure _) trivial
  | .attribute value id => by
    rw [expr, Renders, succeeds_bind_pure]
    exact succeeds_expr plain _ value
  | .subscript value index => by
    rw [Renders, succeeds_subscript]
    exact and_congr (succeeds_expr plain _ value) (succeeds_expr plain _ index)
  | .call function args ks => by
    rw [expr, Renders, succeeds_three]
    exact and_congr (succeeds_expr plain _ function)
      (and_congr (succeeds_exprs plain _ args) (succeeds_keywords plain ks))
  | .unary op operand => by
    rw [expr, Renders, succeeds_bind_pure]
    exact succeeds_expr plain _ operand
  | .binary op left right => by
    rw [expr, Renders, succeeds_two]
    exact and_congr (succeeds_expr plain _ left) (succeeds_expr plain _ right)
  | .bool op values => by
    rw [expr, Renders, succeeds_bind_pure]
    exact succeeds_operands plain _ values
  | .compare left rest => by
    rw [expr, Renders, succeeds_two]
    exact and_congr (succeeds_expr plain _ left) (succeeds_comparisons plain rest)
  | .conditional test body orelse => by
    rw [expr, Renders, succeeds_three]
    exact and_congr (succeeds_expr plain _ body)
      (and_congr (succeeds_expr plain _ test) (succeeds_expr plain _ orelse))
  | .lambda ps body => by
    rw [expr, Renders, succeeds_two]
    exact and_congr (succeeds_parameters plain ps) (succeeds_expr plain _ body)
  | .named target value => by
    rw [expr, Renders, succeeds_bind_pure]
    exact succeeds_expr plain _ value
  | .tuple items => by
    rw [expr, Renders, succeeds_bind_pure]
    exact succeeds_exprs plain _ items
  | .list items => by
    rw [expr, Renders, succeeds_bind_pure]
    exact succeeds_exprs plain _ items
  | .set items => by
    rw [expr, Renders, succeeds_bind_pure]
    exact succeeds_exprs plain _ items
  | .dict items => by
    rw [expr, Renders, succeeds_bind_pure]
    exact succeeds_dictItems plain items
  | .listComp item cs => by
    rw [expr, Renders, succeeds_two]
    exact and_congr (succeeds_expr plain _ item) (succeeds_clauses plain cs)
  | .setComp item cs => by
    rw [expr, Renders, succeeds_two]
    exact and_congr (succeeds_expr plain _ item) (succeeds_clauses plain cs)
  | .dictComp key value cs => by
    rw [expr, Renders, succeeds_three]
    exact and_congr (succeeds_expr plain _ key)
      (and_congr (succeeds_expr plain _ value) (succeeds_clauses plain cs))
  | .generator item cs => by
    rw [expr, Renders, succeeds_two]
    exact and_congr (succeeds_expr plain _ item) (succeeds_clauses plain cs)
  | .await value => by
    rw [expr, Renders, succeeds_bind_pure]
    exact succeeds_expr plain _ value
  | .yield none => by rw [expr, Renders]; exact iff_of_true (succeeds_pure _) trivial
  | .yield (some value) => by
    rw [expr, Renders, MaybeRenders, succeeds_bind_pure]
    exact succeeds_expr plain _ value
  | .yieldFrom value => by
    rw [expr, Renders, succeeds_bind_pure]
    exact succeeds_expr plain _ value
  | .starred value => by
    rw [expr, Renders, succeeds_bind_pure]
    exact succeeds_expr plain _ value
  | .slice lower upper step => by
    rw [expr, Renders, succeeds_three]
    exact and_congr (succeeds_maybe plain _ lower)
      (and_congr (succeeds_maybe plain _ upper) (succeeds_maybe plain _ step))
  | .formatted ps => by
    rw [expr, Renders]
    split
    · rw [succeeds_bind_pure]
      exact succeeds_pieces ps
    · rw [succeeds_bind_pure]
      exact succeeds_parts ps

lemma succeeds_exprs (plain : Bool) (level : Level) :
    (es : List Expr) → (Succeeds (exprs plain level es) ↔ AllRender es)
  | [] => by rw [exprs]; exact iff_of_true (succeeds_pure _) trivial
  | e :: es => by
    rw [exprs, AllRender, succeeds_two]
    exact and_congr (succeeds_expr plain _ e) (succeeds_exprs plain _ es)

lemma succeeds_operands (plain : Bool) (level : Level) :
    (es : List Expr) → (Succeeds (operands plain level es) ↔ AllRender es)
  | [] => by rw [operands]; exact iff_of_true (succeeds_pure _) trivial
  | e :: es => by
    rw [operands, AllRender, succeeds_two]
    exact and_congr (succeeds_expr plain _ e) (succeeds_operands plain _ es)

lemma succeeds_maybe (plain : Bool) (mark : String) :
    (e : Option Expr) → (Succeeds (maybe plain mark e) ↔ MaybeRenders e)
  | none => by rw [maybe]; exact iff_of_true (succeeds_pure _) trivial
  | some e => by
    rw [maybe, MaybeRenders, succeeds_bind_pure]
    exact succeeds_expr plain _ e

lemma succeeds_comparisons (plain : Bool) :
    (rest : List (CompareOp × Expr)) →
      (Succeeds (comparisons plain rest) ↔ ComparisonsRender rest)
  | [] => by rw [comparisons]; exact iff_of_true (succeeds_pure _) trivial
  | (op, e) :: rest => by
    rw [comparisons, ComparisonsRender, succeeds_two]
    exact and_congr (succeeds_expr plain _ e) (succeeds_comparisons plain rest)

lemma succeeds_keywords (plain : Bool) :
    (ks : List Keyword) → (Succeeds (keywords plain ks) ↔ KeywordsRender ks)
  | [] => by rw [keywords]; exact iff_of_true (succeeds_pure _) trivial
  | ⟨id, value⟩ :: ks => by
    unfold keywords
    rw [KeywordsRender, succeeds_two]
    exact and_congr (succeeds_expr plain _ value) (succeeds_keywords plain ks)

lemma succeeds_dictItems (plain : Bool) :
    (items : List (Option Expr × Expr)) →
      (Succeeds (dictItems plain items) ↔ DictRenders items)
  | [] => by rw [dictItems]; exact iff_of_true (succeeds_pure _) trivial
  | (none, value) :: items => by
    rw [dictItems, DictRenders, succeeds_two]
    exact and_congr (succeeds_expr plain _ value) (succeeds_dictItems plain items)
  | (some key, value) :: items => by
    rw [dictItems, DictRenders, succeeds_three]
    exact and_congr (succeeds_expr plain _ key)
      (and_congr (succeeds_expr plain _ value) (succeeds_dictItems plain items))

lemma succeeds_clauses (plain : Bool) :
    (cs : List Clause) → (Succeeds (clauses plain cs) ↔ ClausesRender cs)
  | [] => by rw [clauses]; exact iff_of_true (succeeds_pure _) trivial
  | ⟨isAsync, target, source, conditions⟩ :: cs => by
    rw [clauses, ClausesRender, succeeds_then fun _ => succeeds_three]
    exact and_congr (succeeds_expr plain _ target) (and_congr (succeeds_expr plain _ source)
      (and_congr (succeeds_exprs plain _ conditions) (succeeds_clauses plain cs)))

lemma succeeds_param (plain : Bool) :
    (p : Param) → (Succeeds (param plain p) ↔ ParamRenders p)
  | ⟨pos, id, hint, none⟩ => by
    rw [param, ParamRenders, succeeds_bind_pure]
    exact succeeds_maybe plain _ hint
  | ⟨pos, id, hint, some ⟨at', value⟩⟩ => by
    rw [param, ParamRenders, succeeds_two]
    exact and_congr (succeeds_maybe plain _ hint) (succeeds_expr plain _ value)

lemma succeeds_params (plain : Bool) :
    (ps : List Param) → (Succeeds (params plain ps) ↔ ParamsRender ps)
  | [] => by rw [params]; exact iff_of_true (succeeds_pure _) trivial
  | p :: ps => by
    rw [params, ParamsRender, succeeds_two]
    exact and_congr (succeeds_param plain p) (succeeds_params plain ps)

lemma succeeds_maybeParam (plain : Bool) (mark : String) :
    (p : Option Param) → (Succeeds (maybeParam plain mark p) ↔ MaybeParamRenders p)
  | none => by rw [maybeParam]; exact iff_of_true (succeeds_pure _) trivial
  | some p => by
    rw [maybeParam, MaybeParamRenders, succeeds_bind_pure]
    exact succeeds_param plain p

lemma succeeds_parameters (plain : Bool) :
    (ps : Params) → (Succeeds (parameters plain ps) ↔ ParametersRender ps)
  | ⟨positionalOnly, positional, variadic, keywordOnly, variadicKeyword⟩ => by
    rw [parameters, ParametersRender, succeeds_then fun _ => succeeds_then fun _ => succeeds_three]
    exact and_congr (succeeds_params plain positionalOnly) <|
      and_congr (succeeds_params plain positional) <|
        and_congr (succeeds_maybeParam plain _ variadic) <|
          and_congr (succeeds_params plain keywordOnly)
            (succeeds_maybeParam plain _ variadicKeyword)

lemma succeeds_pieces : (ps : List Piece) → (Succeeds (pieces ps) ↔ PiecesRender ps)
  | [] => by rw [pieces]; exact iff_of_true (succeeds_pure _) trivial
  | .literal t :: ps => by
    rw [pieces, PiecesRender, succeeds_bind_pure]
    exact succeeds_pieces ps
  | .field value conversion none :: ps => by
    rw [pieces, PiecesRender, succeeds_field_then]
    exact and_congr (succeeds_expr true _ value) (and_congr_right' (succeeds_pieces ps))
  | .field value conversion (some format) :: ps => by
    rw [pieces, PiecesRender, succeeds_format_then]
    exact and_congr (succeeds_expr true _ value)
      (and_congr (succeeds_pieces format) (and_congr_right' (succeeds_pieces ps)))

lemma succeeds_parts : (ps : List Piece) → (Succeeds (parts ps) ↔ PiecesRender ps)
  | [] => by rw [parts]; exact iff_of_true (succeeds_pure _) trivial
  | .literal t :: ps => by
    rw [parts, PiecesRender, succeeds_bind_pure]
    exact succeeds_parts ps
  | .field value conversion none :: ps => by
    rw [parts, PiecesRender, succeeds_field_then]
    exact and_congr (succeeds_expr true _ value) (and_congr_right' (succeeds_parts ps))
  | .field value conversion (some format) :: ps => by
    rw [parts, PiecesRender, succeeds_format_then]
    exact and_congr (succeeds_expr true _ value)
      (and_congr (succeeds_pieces format) (and_congr_right' (succeeds_parts ps)))

end

end ProbeCatalog.Syntax.Printer
