import ProbeCatalog.Proofs.Syntax.Parsing
import ProbeCatalog.Syntax.Grammar.Expression

/-!
# Expressions that are read

Each rule of the grammar gives expressions as they are spelled in sources, if the parser that it
calls for the expressions inside does. So does the grammar as a whole, by induction on its depth.
-/
namespace ProbeCatalog.Syntax.Expression

open ProbeCatalog.Syntax.Parser
open Formatted (joined_joinLiterals)

/-- The parser gives expressions as they may be read from a source. -/
abbrev GivesSpelled (p : Parser (Located Expr)) : Prop := Gives p fun e => Spelled e.value

/-- The parser does so for each kind of expression. -/
def Sound (self : ExprParser) : Prop := ∀ goal, GivesSpelled (self goal)

lemma spelled_none : ∀ e ∈ (none : Option Expr), Spelled e := nofun

lemma spelled_some {e : Expr} (h : Spelled e) : ∀ e' ∈ some e, Spelled e' := fun _ he =>
  Option.some.inj he ▸ h

lemma spelled_tupleOf {start : Position} {items : List (Located Expr)} {trailing : Bool}
    (h : ∀ e ∈ items, Spelled e.value) : Spelled (tupleOf start items trailing).value := by
  rw [tupleOf.eq_def]
  split
  · exact h _ List.mem_cons_self
  · exact .tuple (List.forall_mem_map.mpr h)

section

variable {self : ExprParser} (hself : Sound self)
include hself

lemma gives_starred (goal : Goal) : GivesSpelled (starred self goal) :=
  gives_position.after fun _ => (gives_expect _).after fun _ =>
    (hself goal).bind fun _ h => .pure (.starred h)

lemma gives_starredOr (goal : Goal) {rule : Parser (Located Expr)} (hrule : GivesSpelled rule) :
    GivesSpelled (starredOr self goal rule) :=
  (gives_atSymbol _).after fun _ => .ite (gives_starred hself goal) hrule

end

/-! ### Operators -/

lemma gives_leftChain (meaning : String → Option BinaryOp) {operand : Parser (Located Expr)}
    (h : GivesSpelled operand) : GivesSpelled (leftChain meaning operand) := by
  have hstep : Gives (do
      let op ← operator meaning
      let right ← operand
      pure (op, right.value)) fun step => Spelled step.2 :=
    (gives_operator meaning).after fun _ => h.bind fun _ hright => .pure hright
  refine gives_position.after fun start => h.bind fun first hfirst =>
    hstep.many.bind fun rest hrest => .pure ?_
  induction rest generalizing first with
  | nil => exact hfirst
  | cons step rest ih =>
    obtain ⟨hright, hrest⟩ := List.forall_mem_cons.mp hrest
    exact ih _ (.binary _ hfirst hright) hrest

lemma gives_wordChain (w : String) (op : BoolOp) {operand : Parser (Located Expr)}
    (h : GivesSpelled operand) : GivesSpelled (wordChain w op operand) := by
  refine gives_position.after fun start => h.bind fun first hfirst =>
    ((gives_expect _).after fun _ => h).many.bind fun rest hrest => ?_
  cases rest with
  | nil => exact .pure hfirst
  | cons e rest =>
    refine .pure (.bool op (List.forall_mem_cons.mpr ⟨hfirst, ?_⟩))
    exact List.forall_mem_map.mpr hrest

lemma gives_comparison : Runs comparison :=
  (gives_reserved? _).after fun _ => .ite (.pure trivial) <|
    (gives_reserved? _).after fun _ =>
      .ite ((gives_expect _).after fun _ => .pure trivial) <|
        (gives_reserved? _).after fun _ =>
          .ite ((gives_reserved? _).after fun _ => .ite (.pure trivial) (.pure trivial))
            (gives_operator _)

/-! ### Strings -/

/-- Only formatted strings have pieces, and those are joined. -/
lemma spelled_joinStrings {read : List Char → Option Expr} {literals : List StringLiteral}
    {e : Expr} (h : joinStrings read literals = some e) : Spelled e := by
  rw [joinStrings] at h
  split at h
  · obtain ⟨parts, -, h⟩ := Option.bind_eq_some_iff.mp h
    cases h
    exact .constant _
  · split at h
    · cases h
    · split at h
      · obtain ⟨parts, -, h⟩ := Option.bind_eq_some_iff.mp h
        cases h
        exact .formatted (joined_joinLiterals _)
      · obtain ⟨parts, -, h⟩ := Option.bind_eq_some_iff.mp h
        cases h
        exact .constant _

lemma gives_stringLiteral : Runs stringLiteral := by
  intro tokens a rest hfine h
  rw [stringLiteral.eq_def] at h
  split at h
  · cases h
    exact ⟨trivial, List.suffix_cons _ _⟩
  · cases h

/-- Whatever the fields hold, which are read apart from the tokens. -/
lemma gives_strings (self : ExprParser) : Gives (strings self) Spelled := by
  refine gives_stringLiteral.many1.after fun literals => ?_
  split
  · rename_i e he
    exact .pure (spelled_joinStrings he)
  · exact .failure

section

variable {self : ExprParser} (hself : Sound self)
include hself

/-! ### Brackets -/

lemma gives_loopTargets : Gives (loopTargets self) Spelled :=
  gives_position.after fun _ =>
    (gives_starredOr hself .bitOr (hself .bitOr)).commaList.bind fun _ hitems =>
      (gives_ensure _).after fun _ => .pure (spelled_tupleOf hitems)

lemma gives_clause : Gives (clause self) ClauseSpelled :=
  (gives_reserved? _).after fun _ => (gives_expect _).after fun _ =>
    (gives_loopTargets hself).bind fun _ htarget => (gives_expect _).after fun _ =>
      (hself .disjunction).bind fun _ hsource =>
        ((gives_expect _).after fun _ => hself .disjunction).many.bind fun _ hconditions =>
          .pure (.intro htarget hsource (List.forall_mem_map.mpr hconditions))

lemma gives_clauses? : Gives (clauses? self) fun cs => ∀ c ∈ cs, ∀ x ∈ c, ClauseSpelled x :=
  (gives_atReserved _).after fun _ => (gives_atReserved _).after fun _ =>
    .ite ((gives_clause hself).many1.bind fun _ hcs => .pure fun _ h => Option.some.inj h ▸ hcs)
      (.pure nofun)

lemma gives_item : GivesSpelled (item self) := gives_starredOr hself .bitOr (hself .named)

lemma gives_furtherItems (close : String) :
    Gives (furtherItems self close) fun items => ∀ e ∈ items, Spelled e.value :=
  (gives_symbol? _).after fun _ => .ite ((gives_item hself).commaListTo close) <|
    (gives_expect _).after fun _ => .pure nofun

lemma gives_yielded : GivesSpelled (yielded self) :=
  gives_position.after fun _ => (gives_expect _).after fun _ => (gives_reserved? _).after fun _ =>
    .ite ((hself .expression).bind fun _ h => .pure (.yieldFrom h)) <|
      (hself .starExpressions).maybe.bind fun _ h => .pure <| .yield fun e he => by
        obtain ⟨v, hv, rfl⟩ := Option.map_eq_some_iff.mp he
        exact h v hv

/-- What stands in brackets after a first item: clauses, or further items. -/
lemma gives_round : GivesSpelled (round self) := by
  refine gives_position.after fun _ => (gives_expect _).after fun _ =>
    (gives_symbol? _).after fun _ => .ite (.pure (.tuple nofun)) <|
      (gives_atReserved _).after fun _ =>
        .ite ((gives_yielded hself).bind fun _ h => (gives_expect _).after fun _ => .pure h) <|
        (gives_item hself).bind fun first hfirst =>
          (gives_clauses? hself).bind fun clauses hclauses => ?_
  cases clauses with
  | some clauses =>
    exact (gives_ensure _).after fun _ => (gives_expect _).after fun _ =>
      .pure (.generator hfirst (hclauses clauses rfl))
  | none =>
    exact (gives_atSymbol _).after fun _ =>
      .ite ((gives_furtherItems hself _).bind fun rest hrest => .pure <| .tuple <|
          List.forall_mem_cons.mpr ⟨hfirst, List.forall_mem_map.mpr hrest⟩) <|
        (gives_expect _).after fun _ => (gives_ensure _).after fun _ => .pure hfirst

lemma gives_square : GivesSpelled (square self) := by
  refine gives_position.after fun _ => (gives_expect _).after fun _ =>
    (gives_symbol? _).after fun _ => .ite (.pure (.list nofun)) <|
      (gives_item hself).bind fun first hfirst =>
        (gives_clauses? hself).bind fun clauses hclauses => ?_
  cases clauses with
  | some clauses =>
    exact (gives_ensure _).after fun _ => (gives_expect _).after fun _ =>
      .pure (.listComp hfirst (hclauses clauses rfl))
  | none =>
    exact (gives_furtherItems hself _).bind fun rest hrest => .pure <| .list <|
      List.forall_mem_cons.mpr ⟨hfirst, List.forall_mem_map.mpr hrest⟩

/-- An item of a dictionary as it may be read from a source. -/
abbrev DictItemSpelled (i : Option Expr × Expr) : Prop := (∀ k ∈ i.1, Spelled k) ∧ Spelled i.2

lemma gives_dictItem : Gives (dictItem self) DictItemSpelled :=
  (gives_symbol? _).after fun _ =>
    .ite ((hself .bitOr).bind fun _ h => .pure ⟨nofun, h⟩) <|
      (hself .expression).bind fun _ hkey => (gives_expect _).after fun _ =>
        (hself .expression).bind fun _ hvalue =>
          .pure ⟨spelled_some hkey, hvalue⟩

lemma gives_furtherDictItems :
    Gives (furtherDictItems self) fun items => ∀ i ∈ items, DictItemSpelled i :=
  (gives_symbol? _).after fun _ => .ite ((gives_dictItem hself).commaListTo _) <|
    (gives_expect _).after fun _ => .pure nofun

omit hself in
lemma spelled_dict {items : List (Option Expr × Expr)} (h : ∀ i ∈ items, DictItemSpelled i) :
    Spelled (.dict items) := .dict (fun i hi => (h i hi).1) fun i hi => (h i hi).2

lemma gives_curly : GivesSpelled (curly self) := by
  refine gives_position.after fun _ => (gives_expect _).after fun _ =>
    (gives_symbol? _).after fun _ => .ite (.pure (.dict nofun nofun)) <|
      (gives_atSymbol _).after fun _ => .ite ((gives_dictItem hself).bind fun first hfirst =>
        (gives_furtherDictItems hself).bind fun rest hrest =>
          .pure (spelled_dict (List.forall_mem_cons.mpr ⟨hfirst, hrest⟩))) <|
      (gives_atNameThen _).after fun _ => (gives_item hself).bind fun first hfirst =>
        (gives_symbolIf _ _).after fun _ => .ite ?_ ?_
  · refine (hself .expression).bind fun value hvalue =>
      (gives_clauses? hself).bind fun clauses hclauses => ?_
    cases clauses with
    | some clauses =>
      exact (gives_expect _).after fun _ => .pure (.dictComp hfirst hvalue (hclauses clauses rfl))
    | none =>
      exact (gives_furtherDictItems hself).bind fun rest hrest => .pure <| spelled_dict <|
        List.forall_mem_cons.mpr ⟨⟨spelled_some hfirst, hvalue⟩, hrest⟩
  · refine (gives_clauses? hself).bind fun clauses hclauses => ?_
    cases clauses with
    | some clauses =>
      exact (gives_ensure _).after fun _ => (gives_expect _).after fun _ =>
        .pure (.setComp hfirst (hclauses clauses rfl))
    | none =>
      exact (gives_furtherItems hself _).bind fun rest hrest => .pure <| .set <|
        List.forall_mem_cons.mpr ⟨hfirst, List.forall_mem_map.mpr hrest⟩

/-! ### Atoms and what may follow them -/

omit hself in
lemma gives_literal : Runs literal := by
  intro tokens a rest hfine h
  cases tokens with
  | nil => cases h
  | cons t tokens =>
    obtain ⟨c, -, heq⟩ := Option.map_eq_some_iff.mp h
    cases heq
    exact ⟨trivial, List.suffix_cons _ _⟩

lemma gives_atom : GivesSpelled (atom self) := by
  refine gives_position.after fun _ => (gives_atSymbol _).after fun _ => .ite (gives_round hself) <|
    (gives_atSymbol _).after fun _ => .ite (gives_square hself) <|
      (gives_atSymbol _).after fun _ => .ite (gives_curly hself) <|
        gives_name.maybe.bind fun id hid => ?_
  cases id with
  | some id => exact .pure (.name (hid id rfl))
  | none =>
    refine gives_literal.maybe.after fun c => ?_
    cases c with
    | some c => exact .pure (.constant c)
    | none => exact (gives_strings self).bind fun _ h => .pure h

omit hself in
/-- An argument as it may be read from a source. -/
def ArgumentSpelled : Argument → Prop
  | .positional value => Spelled value
  | .keyword k => KeywordSpelled k

lemma gives_argument : Gives (argument self) ArgumentSpelled :=
  (gives_atSymbol _).after fun _ =>
    .ite ((gives_starred hself _).bind fun _ h => .pure h) <| (gives_symbol? _).after fun _ =>
      .ite ((hself .expression).bind fun _ h => .pure (.intro nofun h)) <|
        (gives_atNameThen _).after fun _ =>
          .ite (gives_name.bind fun _ hkey => (gives_expect _).after fun _ =>
            (hself .expression).bind fun _ h =>
              .pure (.intro (fun _ hi => Option.some.inj hi ▸ hkey) h)) <|
          (hself .named).bind fun _ h => .pure h

/-- Positional arguments and keywords as they may be read from a source. -/
abbrev ArgumentsSpelled (args : List Expr × List Keyword) : Prop :=
  (∀ a ∈ args.1, Spelled a) ∧ ∀ k ∈ args.2, KeywordSpelled k

omit hself in
lemma spelled_arguments {args : List Argument} (h : ∀ a ∈ args, ArgumentSpelled a) :
    ArgumentsSpelled (args.filterMap Argument.positional?, args.filterMap Argument.keyword?) := by
  constructor
  · intro e he
    obtain ⟨a, ha, hpositional⟩ := List.mem_filterMap.mp he
    cases a with
    | positional value => exact Option.some.inj hpositional ▸ h _ ha
    | keyword k => cases hpositional
  · intro k hk
    obtain ⟨a, ha, hkeyword⟩ := List.mem_filterMap.mp hk
    cases a with
    | positional value => cases hkeyword
    | keyword k => exact Option.some.inj hkeyword ▸ h _ ha

lemma gives_arguments (isCall : Bool) : Gives (arguments self isCall) ArgumentsSpelled := by
  refine (gives_symbol? _).after fun _ => .ite (.pure ⟨nofun, nofun⟩) <|
    (gives_argument hself).bind fun first hfirst =>
      (gives_clauses? hself).bind fun clauses hclauses => ?_
  have hrest (rest : List Argument) (hrest : ∀ a ∈ rest, ArgumentSpelled a) :
      Gives (ensure (inOrder (first :: rest)) >>= fun _ =>
        pure ((first :: rest).filterMap Argument.positional?,
          (first :: rest).filterMap Argument.keyword?)) ArgumentsSpelled :=
    (gives_ensure _).after fun _ =>
      .pure (spelled_arguments (List.forall_mem_cons.mpr ⟨hfirst, hrest⟩))
  cases clauses with
  | none =>
    have hmore : Gives (commaListTo ")" (argument self)) fun rest =>
        ∀ a ∈ rest, ArgumentSpelled a :=
      (gives_argument hself).commaListTo _
    cases first <;>
      exact (gives_symbol? _).after fun _ => .ite (hmore.bind hrest) <|
        (gives_expect _).after fun _ => Gives.bind (.pure (List.forall_mem_nil _)) hrest
  | some clauses =>
    cases first with
    | keyword k => exact .failure
    | positional value =>
      exact (gives_ensure _).after fun _ => (gives_expect _).after fun _ => .pure
        ⟨List.forall_mem_singleton.mpr (.generator hfirst (hclauses clauses rfl)), nofun⟩

lemma gives_bound : Gives (bound self) fun b => ∀ e ∈ b, Spelled e :=
  (gives_atSymbol _).after fun _ => (gives_atSymbol _).after fun _ =>
    (gives_atSymbol _).after fun _ => .ite (.pure nofun) <|
      (hself .expression).bind fun _ h => .pure (spelled_some h)

lemma gives_sliceFrom {lower : Option Expr} (hlower : ∀ e ∈ lower, Spelled e) :
    Gives (sliceFrom self lower) Spelled := by
  refine (gives_expect _).after fun _ => (gives_bound hself).bind fun upper hupper => ?_
  have hslice (step : Option Expr) (hstep : ∀ e ∈ step, Spelled e) :
      Gives (pure (.slice lower upper step)) Spelled := .pure (.slice hlower hupper hstep)
  exact (gives_symbol? _).after fun _ => .ite ((gives_bound hself).bind hslice)
    (Gives.bind (.pure spelled_none) hslice)

lemma gives_index : GivesSpelled (index self) :=
  gives_position.after fun _ => (gives_atSymbol _).after fun _ => .ite (gives_starred hself _) <|
    (gives_atSymbol _).after fun _ =>
      .ite ((gives_sliceFrom hself spelled_none).bind fun _ h => .pure h) <|
        (gives_atNameThen _).after fun _ => (hself .named).bind fun _ hvalue =>
          (gives_atSymbol _).after fun _ =>
            .ite ((gives_sliceFrom hself (spelled_some hvalue)).bind fun _ h => .pure h)
              (.pure hvalue)

lemma gives_indices : Gives (indices self) Spelled :=
  gives_position.after fun _ => (gives_index hself).commaList.bind fun _ hitems =>
    .pure (spelled_tupleOf hitems)

lemma gives_trailer :
    Gives (trailer self) fun apply => ∀ value, Spelled value → Spelled (apply value) :=
  (gives_symbol? _).after fun _ =>
    .ite (gives_name.bind fun _ hid => .pure fun _ hvalue => .attribute hvalue hid) <|
      (gives_symbol? _).after fun _ =>
        .ite ((gives_arguments hself true).bind fun _ hargs =>
          .pure fun _ hfunction => .call hfunction hargs.1 hargs.2) <|
        (gives_expect _).after fun _ => (gives_indices hself).bind fun _ hindex =>
          (gives_expect _).after fun _ => .pure fun _ hvalue => .subscript hvalue hindex

lemma gives_primary : GivesSpelled (primary self) := by
  refine gives_position.after fun start => (gives_atom hself).bind fun first hfirst =>
    (gives_trailer hself).many.bind fun trailers htrailers => .pure ?_
  induction trailers generalizing first with
  | nil => exact hfirst
  | cons apply trailers ih =>
    obtain ⟨happly, htrailers⟩ := List.forall_mem_cons.mp htrailers
    exact ih _ (happly _ hfirst) htrailers

lemma gives_power : GivesSpelled (power self) := by
  have hexponent (start : Position) (base : Located Expr) (hbase : Spelled base.value) :
      GivesSpelled (do
        if ← symbol? "**" then
          let exponent ← self .factor
          pure ⟨start, .binary .pow base.value exponent.value⟩
        else pure base) :=
    (gives_symbol? _).after fun _ =>
      .ite ((hself .factor).bind fun _ h => .pure (.binary _ hbase h)) (.pure hbase)
  exact gives_position.after fun start => (gives_reserved? _).after fun _ =>
    .ite ((gives_primary hself).bind fun _ h =>
        Gives.bind (.pure (Spelled.await h)) fun base hbase => hexponent start base hbase) <|
      (gives_primary hself).bind fun base hbase => hexponent start base hbase

lemma gives_factor : GivesSpelled (factor self) := by
  refine gives_position.after fun _ => (gives_operator _).maybe.after fun op => ?_
  cases op with
  | some op => exact (hself .factor).bind fun _ h => .pure (.unary op h)
  | none => exact gives_power hself

lemma gives_bitOr : GivesSpelled (bitOr self) :=
  gives_leftChain _ <| gives_leftChain _ <| gives_leftChain _ <| gives_leftChain _ <|
    gives_leftChain _ <| gives_leftChain _ <| gives_factor hself

lemma gives_compared : GivesSpelled (compared self) := by
  have hstep : Gives (do
      let op ← comparison
      let right ← bitOr self
      pure (op, right.value)) fun step => Spelled step.2 :=
    gives_comparison.after fun _ => (gives_bitOr hself).bind fun _ hright => .pure hright
  refine gives_position.after fun _ => (gives_bitOr hself).bind fun left hleft =>
    hstep.many.bind fun rest hrest => ?_
  cases rest with
  | nil => exact .pure hleft
  | cons r rest => exact .pure (.compare hleft hrest)

lemma gives_inversion : GivesSpelled (inversion self) :=
  gives_position.after fun _ => (gives_reserved? _).after fun _ =>
    .ite ((hself .inversion).bind fun _ h => .pure (.unary _ h)) (gives_compared hself)

lemma gives_disjunction : GivesSpelled (disjunction self) :=
  gives_wordChain _ _ <| gives_wordChain _ _ <| gives_inversion hself

/-! ### Parameters -/

omit hself in
/-- An item of a list of parameters as it may be read from a source. -/
def ItemSpelled : ParamItem → Prop
  | .plain p | .variadic p | .variadicKeyword p => ParamSpelled p
  | .slash | .star => True

lemma gives_paramName (isTyped isStarTyped : Bool) :
    Gives (paramName self isTyped isStarTyped) ParamSpelled := by
  refine gives_position.after fun pos => gives_name.bind fun id hid =>
    (gives_symbolIf _ _).after fun _ => ?_
  have hhint (hint : Option Expr) (h : ∀ e ∈ hint, Spelled e) :
      Gives (pure ⟨pos, id, hint, none⟩) ParamSpelled := .pure (.intro hid h nofun)
  have hvalue (value : Located Expr) (h : Spelled value.value) :
      Gives (pure (some value.value) >>= fun hint => pure ⟨pos, id, hint, none⟩) ParamSpelled :=
    Gives.bind (.pure (spelled_some h)) hhint
  exact .ite (.ite ((gives_starredOr hself _ (hself _)).bind hvalue) ((hself _).bind hvalue))
    (Gives.bind (.pure spelled_none) hhint)

lemma gives_paramItem (isTyped : Bool) : Gives (paramItem self isTyped) ItemSpelled :=
  (gives_symbol? _).after fun _ => .ite (.pure trivial) <| (gives_symbol? _).after fun _ =>
    .ite ((gives_paramName hself _ _).bind fun _ h => .pure h) <|
      (gives_symbol? _).after fun _ =>
        .ite ((gives_atSymbol _).after fun _ => .ite (.pure trivial) <|
          (gives_paramName hself _ _).bind fun _ h => .pure h) <|
        (gives_paramName hself _ _).bind fun p hp => (gives_symbol? _).after fun _ =>
          .ite ((hself .expression).bind fun value hvalue => .pure <| by
            obtain ⟨hid, hhint, -⟩ := hp
            exact .intro hid hhint fun _ hd => Option.some.inj hd ▸ hvalue) (.pure hp)

omit hself in
lemma spelled_plainRun {items : List ParamItem} (h : ∀ i ∈ items, ItemSpelled i) :
    (∀ p ∈ (plainRun items).1, ParamSpelled p) ∧ ∀ i ∈ (plainRun items).2, ItemSpelled i := by
  induction items with
  | nil => exact ⟨nofun, nofun⟩
  | cons i items ih =>
    obtain ⟨hi, hitems⟩ := List.forall_mem_cons.mp h
    cases i with
    | plain p => exact ⟨List.forall_mem_cons.mpr ⟨hi, (ih hitems).1⟩, (ih hitems).2⟩
    | slash => exact ⟨nofun, h⟩
    | star => exact ⟨nofun, h⟩
    | variadic p => exact ⟨nofun, h⟩
    | variadicKeyword p => exact ⟨nofun, h⟩

omit hself in
lemma spelled_all {ps : Params} (hpositionalOnly : ∀ p ∈ ps.positionalOnly, ParamSpelled p)
    (hpositional : ∀ p ∈ ps.positional, ParamSpelled p)
    (hvariadic : ∀ p ∈ ps.variadic, ParamSpelled p)
    (hkeywordOnly : ∀ p ∈ ps.keywordOnly, ParamSpelled p)
    (hvariadicKeyword : ∀ p ∈ ps.variadicKeyword, ParamSpelled p) :
    ∀ p ∈ ps.all, ParamSpelled p := by
  simp only [ParamsOf.all, List.forall_mem_append, Option.mem_toList]
  exact ⟨⟨⟨⟨hpositionalOnly, hpositional⟩, hvariadic⟩, hkeywordOnly⟩, hvariadicKeyword⟩

omit hself in
/-- After the parameters by keyword only one that takes all other keywords may stand. -/
lemma spelled_ending {positionalOnly positional keywordOnly : List Param}
    {variadic : Option Param} {rest : List ParamItem} {ps : Params}
    (hpositionalOnly : ∀ p ∈ positionalOnly, ParamSpelled p)
    (hpositional : ∀ p ∈ positional, ParamSpelled p) (hvariadic : ∀ p ∈ variadic, ParamSpelled p)
    (hkeywordOnly : ∀ p ∈ keywordOnly, ParamSpelled p)
    (hps : (match rest with
      | [] => some ⟨positionalOnly, positional, variadic, keywordOnly, none⟩
      | [.variadicKeyword p] => some ⟨positionalOnly, positional, variadic, keywordOnly, some p⟩
      | _ => none) = some ps)
    (hrest : ∀ i ∈ rest, ItemSpelled i) : ∀ p ∈ ps.all, ParamSpelled p := by
  split at hps
  · cases hps
    exact spelled_all hpositionalOnly hpositional hvariadic hkeywordOnly nofun
  · cases hps
    refine spelled_all hpositionalOnly hpositional hvariadic hkeywordOnly fun p hp => ?_
    exact Option.some.inj hp ▸ hrest _ List.mem_cons_self
  · cases hps

omit hself in
/-- The parameters are those given and those that the items hold. -/
lemma spelled_assembleRest {positionalOnly positional : List Param} {items : List ParamItem}
    {ps : Params} (hpositionalOnly : ∀ p ∈ positionalOnly, ParamSpelled p)
    (hpositional : ∀ p ∈ positional, ParamSpelled p) (h : ∀ i ∈ items, ItemSpelled i)
    (hps : assembleRest positionalOnly positional items = some ps) :
    ∀ p ∈ ps.all, ParamSpelled p := by
  have hnone : ∀ p ∈ (none : Option Param), ParamSpelled p := nofun
  simp only [assembleRest] at hps
  split at hps
  · rename_i rest
    obtain ⟨hkeywordOnly, hrest⟩ := spelled_plainRun (List.forall_mem_cons.mp h).2
    exact spelled_ending hpositionalOnly hpositional hnone hkeywordOnly
      (Option.ite_none_left_eq_some.mp hps).2 hrest
  · rename_i p rest
    obtain ⟨hp, hitems⟩ := List.forall_mem_cons.mp h
    obtain ⟨hkeywordOnly, hrest⟩ := spelled_plainRun hitems
    have hvariadic : ∀ q ∈ some p, ParamSpelled q := fun q hq => Option.some.inj hq ▸ hp
    exact spelled_ending hpositionalOnly hpositional hvariadic hkeywordOnly hps hrest
  · exact spelled_ending hpositionalOnly hpositional hnone (List.forall_mem_nil _) hps h

omit hself in
lemma spelled_assemble {items : List ParamItem} {ps : Params} (h : ∀ i ∈ items, ItemSpelled i)
    (hps : assemble items = some ps) : ∀ p ∈ ps.all, ParamSpelled p := by
  simp only [assemble] at hps
  obtain ⟨hfirst, hrest⟩ := spelled_plainRun h
  split at hps
  · rename_i rest heq
    rw [heq] at hrest
    obtain ⟨hsecond, hrest⟩ := spelled_plainRun (List.forall_mem_cons.mp hrest).2
    exact spelled_assembleRest hfirst hsecond hrest (Option.ite_none_left_eq_some.mp hps).2
  · exact spelled_assembleRest (List.forall_mem_nil _) hfirst hrest
      (Option.ite_none_right_eq_some.mp hps).2

lemma gives_parameters (isTyped : Bool) (close : String) :
    Gives (parameters self isTyped close) fun ps => ∀ p ∈ ps.all, ParamSpelled p := by
  refine ((gives_paramItem hself isTyped).commaListTo close).bind fun items hitems => ?_
  split
  · rename_i ps hps
    exact .pure (spelled_assemble hitems hps)
  · exact .failure

/-! ### Whole expressions -/

lemma gives_lambda : GivesSpelled (lambda self) :=
  gives_position.after fun _ => (gives_expect _).after fun _ =>
    (gives_parameters hself _ _).bind fun _ hps => (hself .expression).bind fun _ hbody =>
      .pure (.lambda hps hbody)

lemma gives_expression : GivesSpelled (expression self) := by
  have hchoice : Gives (do
      reserved "if"
      let test ← self .disjunction
      reserved "else"
      let orelse ← self .expression
      pure (test.value, orelse.value)) fun choice => Spelled choice.1 ∧ Spelled choice.2 :=
    (gives_expect _).after fun _ => (hself .disjunction).bind fun _ htest =>
      (gives_expect _).after fun _ => (hself .expression).bind fun _ horelse =>
        .pure ⟨htest, horelse⟩
  refine (gives_atReserved _).after fun _ => .ite (gives_lambda hself) <|
    gives_position.after fun start => (gives_disjunction hself).bind fun body hbody =>
      hchoice.maybe.bind fun choice h => ?_
  cases choice with
  | none => exact .pure hbody
  | some choice => exact .pure (.conditional (h choice rfl).1 hbody (h choice rfl).2)

lemma gives_named : GivesSpelled (named self) :=
  (gives_atNameThen _).after fun _ =>
    .ite (gives_position.after fun _ => gives_name.bind fun _ hid => (gives_expect _).after fun _ =>
      (hself .expression).bind fun _ hvalue => .pure (.named hid hvalue)) (gives_expression hself)

lemma gives_starExpressions : GivesSpelled (starExpressions self) :=
  gives_position.after fun _ =>
    (gives_starredOr hself _ (gives_expression hself)).commaList.bind fun _ hitems =>
      .pure (spelled_tupleOf hitems)

lemma sound_rule : Sound (rule self)
  | .starExpressions => gives_starExpressions hself
  | .named => gives_named hself
  | .expression => gives_expression hself
  | .disjunction => gives_disjunction hself
  | .inversion => gives_inversion hself
  | .bitOr => gives_bitOr hself
  | .factor => gives_factor hself

end

/-- Whatever the depth, the expressions that are read are spelled as in sources. -/
theorem sound_parse (depth : Nat) : Sound (parse depth) := by
  induction depth with
  | zero => exact fun _ => .failure
  | succ depth ih => exact sound_rule ih

end ProbeCatalog.Syntax.Expression
