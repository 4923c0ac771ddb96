import ProbeCatalog.Proofs.Syntax.Patterns
import ProbeCatalog.Proofs.Syntax.Places
import ProbeCatalog.Syntax.Source

/-!
# Definitions that are read

What stands before the body of a class or a function is spelled as in sources, wherever the
definition stands in the source. Of other statements nothing is said but that the definitions
inside of them are spelled so.
-/
namespace ProbeCatalog.Syntax

open ProbeCatalog.Syntax.Parser
open Expression (Sound GivesSpelled)

/-- What stands before the body of a definition is as it may be read from a source. -/
def HeadSpelled : Stmt → Prop
  | .classDef c => IsWord c.name ∧ (∀ d ∈ c.decorators, Spelled d.value) ∧
      (∀ b ∈ c.bases, Spelled b) ∧ ∀ k ∈ c.keywords, KeywordSpelled k
  | .functionDef f => IsWord f.name ∧ ∀ p ∈ f.params.all, ParamSpelled p
  | _ => True

/-- So are all definitions of a block, at any depth. -/
def BlockSpelled (b : Block) : Prop := ∀ s ∈ everyStatement b, HeadSpelled s.value

/-- So are a statement and all definitions inside of it. -/
def StmtSpelled (s : Stmt) : Prop := HeadSpelled s ∧ BlockSpelled (children s)

lemma blockSpelled_nil : BlockSpelled [] := nofun

lemma blockSpelled_cons {s : Located Stmt} {b : Block} :
    BlockSpelled (s :: b) ↔ StmtSpelled s.value ∧ BlockSpelled b := by
  simp only [BlockSpelled, StmtSpelled, everyStatement_cons, List.forall_mem_append,
    List.forall_mem_cons]
  tauto

lemma blockSpelled_append {b c : Block} :
    BlockSpelled (b ++ c) ↔ BlockSpelled b ∧ BlockSpelled c := by
  simp only [BlockSpelled, everyStatement_append, List.forall_mem_append]

lemma blockSpelled_flatten {bs : List Block} (h : ∀ b ∈ bs, BlockSpelled b) :
    BlockSpelled bs.flatten := by
  induction bs with
  | nil => exact blockSpelled_nil
  | cons b bs ih =>
    obtain ⟨hb, hbs⟩ := List.forall_mem_cons.mp h
    exact blockSpelled_append.mpr ⟨hb, ih hbs⟩

lemma blockSpelled_of_forall {b : Block} (h : ∀ s ∈ b, StmtSpelled s.value) : BlockSpelled b := by
  induction b with
  | nil => exact blockSpelled_nil
  | cons s b ih =>
    obtain ⟨hs, hb⟩ := List.forall_mem_cons.mp h
    exact blockSpelled_cons.mpr ⟨hs, ih hb⟩

/-- The definitions directly inside of a definition are among those of the block. -/
lemma blockSpelled_children {b : Block} (h : BlockSpelled b) {s : Located Stmt}
    (hs : s ∈ everyStatement b) : BlockSpelled (children s.value) := by
  induction b using block_induction with
  | nil => cases hs
  | cons t rest ihinner ihrest =>
    obtain ⟨⟨hhead, hinner⟩, hrest⟩ := blockSpelled_cons.mp h
    rw [everyStatement_cons, List.mem_append, List.mem_cons] at hs
    rcases hs with hs | rfl | hs
    · exact ihinner hinner hs
    · exact hinner
    · exact ihrest hrest hs

/-! ### Simple statements -/

namespace Statement

/-- The parser gives statements of which the definitions are as in sources. -/
abbrev GivesStmt (p : Parser Stmt) : Prop := Gives p StmtSpelled

/-- The parser gives blocks of which the definitions are as in sources. -/
abbrev GivesBlock (p : Parser Block) : Prop := Gives p BlockSpelled

/-- A statement without blocks. -/
def IsSimple : Stmt → Prop
  | .functionDef _ | .classDef _ | .forLoop _ _ _ _ _ | .whileLoop _ _ _ | .branch _ _ _
  | .withBlock _ _ _ | .matching _ _ | .tryBlock _ _ _ _ _ => False
  | _ => True

/-- The parser gives statements without blocks. -/
abbrev GivesSimple (p : Parser Stmt) : Prop := Gives p IsSimple

lemma IsSimple.children {s : Stmt} (h : IsSimple s) : children s = [] := by
  cases s with
  | functionDef | classDef | forLoop | whileLoop | branch | withBlock | matching | tryBlock =>
    exact h.elim
  | _ => rfl

lemma IsSimple.class?_eq_none {s : Located Stmt} (h : IsSimple s.value) : class? s = none := by
  obtain ⟨pos, s⟩ := s
  cases s with
  | classDef => exact h.elim
  | _ => rfl

lemma IsSimple.spelled {s : Stmt} (h : IsSimple s) : StmtSpelled s := by
  refine ⟨?_, h.children ▸ blockSpelled_nil⟩
  cases s with
  | functionDef | classDef => exact h.elim
  | _ => trivial

section

variable {expr : ExprParser} (hexpr : Sound expr)

include hexpr in
lemma runs_assigned : Runs (assigned expr) :=
  (gives_atReserved _).after fun _ =>
    .ite ((Expression.gives_yielded hexpr).after fun _ => .pure trivial) <|
      (hexpr _).after fun _ => .pure trivial

include hexpr in
lemma gives_assignment : GivesSimple (assignment expr) := by
  have hassigned := runs_assigned hexpr
  refine (gives_atSymbol _).after fun bracketed => hassigned.after fun first =>
    (gives_symbol? _).after fun _ => .ite ?_ ?_
  · refine (gives_ensure _).after fun _ => (hexpr _).after fun hint => ?_
    exact (gives_symbol? _).after fun _ => .optional hassigned fun _ =>
      .pure trivial
  · refine (gives_operator _).maybe.after fun op => ?_
    cases op with
    | some op =>
      exact (gives_ensure _).after fun _ => hassigned.after fun _ =>
        .pure trivial
    | none =>
      refine ((gives_expect _).after fun _ => hassigned).many.after fun rest => ?_
      split
      · exact .pure trivial
      · exact (gives_ensure _).after fun _ => .pure trivial

lemma runs_dottedName : Runs dottedName :=
  (Matching.runs_name.sepBy1 _).after fun _ => .pure trivial

lemma runs_boundAs : Runs boundAs :=
  (gives_reserved? _).after fun _ =>
    .ite (Matching.runs_name.after fun _ => .pure trivial) (.pure trivial)

lemma runs_imported {subject : Parser String} (h : Runs subject) : Runs (imported subject) :=
  h.after fun _ => runs_boundAs.after fun _ => .pure trivial

lemma gives_importing : GivesSimple importing :=
  (gives_expect _).after fun _ => ((runs_imported runs_dottedName).sepBy1 _).after fun _ =>
    .pure trivial

lemma runs_dots : Runs dots := (gives_operator _).many.after fun _ => .pure trivial

lemma runs_importedNames : Runs importedNames :=
  (gives_symbol? _).after fun _ => .ite (.pure trivial) <| (gives_symbol? _).after fun _ =>
    .ite ((runs_imported Matching.runs_name).commaList.after fun _ =>
      (gives_expect _).after fun _ => .pure trivial) <|
    ((runs_imported Matching.runs_name).sepBy1 _).imp fun _ _ => trivial

lemma gives_importingFrom : GivesSimple importingFrom := by
  refine (gives_expect _).after fun _ => runs_dots.after fun level => ?_
  have hrest (module : Option String) : GivesSimple (do
      reserved "import"
      let names ← importedNames
      pure (.importingFrom level module names)) :=
    (gives_expect _).after fun _ => runs_importedNames.after fun _ =>
      .pure trivial
  exact (gives_atReserved _).after fun _ =>
    .ite ((Gives.run _).after hrest) (runs_dottedName.after fun _ => (Gives.run _).after hrest)

include hexpr in
lemma runs_valueOf (goal : Goal) : Runs (valueOf (expr goal)) :=
  (hexpr goal).maybe.after fun _ => .pure trivial

include hexpr in
lemma gives_raising : GivesSimple (raising expr) := by
  refine (gives_expect _).after fun _ => (runs_valueOf hexpr _).after fun exception => ?_
  cases exception with
  | none => exact .pure trivial
  | some exception =>
    exact (gives_reserved? _).after fun _ => .optional (hexpr _) fun _ =>
      .pure trivial

include hexpr in
lemma gives_deleting : GivesSimple (deleting expr) :=
  (gives_expect _).after fun _ => (hexpr _).commaList.after fun _ => (gives_ensure _).after fun _ =>
    .pure trivial

include hexpr in
lemma gives_asserting : GivesSimple (asserting expr) :=
  (gives_expect _).after fun _ => (hexpr _).after fun _ => (gives_symbol? _).after fun _ =>
    .optional (hexpr _) fun _ => .pure trivial

include hexpr in
lemma gives_simpleStmt : GivesSimple (simpleStmt expr) := by
  have hnames := Matching.runs_name.sepBy1 ","
  exact (gives_reserved? _).after fun _ => .ite (.pure trivial) <|
    (gives_reserved? _).after fun _ => .ite (.pure trivial) <|
    (gives_reserved? _).after fun _ => .ite (.pure trivial) <|
    (gives_reserved? _).after fun _ =>
      .ite ((runs_valueOf hexpr _).after fun _ => .pure trivial) <|
    (gives_atReserved _).after fun _ => .ite (gives_raising hexpr) <|
    (gives_atReserved _).after fun _ => .ite gives_importing <|
    (gives_atReserved _).after fun _ => .ite gives_importingFrom <|
    (gives_atReserved _).after fun _ => .ite (gives_deleting hexpr) <|
    (gives_atReserved _).after fun _ => .ite (gives_asserting hexpr) <|
    (gives_reserved? _).after fun _ =>
      .ite (hnames.after fun _ => .pure trivial) <|
    (gives_reserved? _).after fun _ =>
      .ite (hnames.after fun _ => .pure trivial) <|
      gives_assignment hexpr

include hexpr in
lemma gives_simple : Gives (simple expr) fun s => IsSimple s.value :=
  gives_position.after fun _ => (gives_simpleStmt hexpr).bind fun _ h => .pure h

include hexpr in
lemma gives_simpleLine : Gives (simpleLine expr) fun b => ∀ s ∈ b, IsSimple s.value :=
  ((gives_simple hexpr).sepBy1 _).bind fun _ hstmts => (gives_symbol? _).after fun _ =>
    (gives_expect _).after fun _ => .pure hstmts

include hexpr in
lemma gives_line : GivesBlock (simpleLine expr) :=
  (gives_simpleLine hexpr).imp fun _ hstmts =>
    blockSpelled_of_forall fun s hs => (hstmts s hs).spelled

/-! ### Compound statements -/

variable {self : Parser Block} (hself : GivesBlock self)

section

include hexpr hself

lemma gives_block : GivesBlock (block expr self) := by
  refine (gives_expect _).after fun _ => (gives_expect _).maybe.after fun newline => ?_
  cases newline with
  | some _ =>
    exact (gives_expect _).after fun _ => hself.many1.bind fun _ hstmts =>
      (gives_expect _).after fun _ => .pure (blockSpelled_flatten hstmts)
  | none => exact gives_line hexpr

lemma gives_elseBlock : GivesBlock (elseBlock expr self) :=
  (gives_reserved? _).after fun _ => .ite (gives_block hexpr hself) (.pure blockSpelled_nil)

omit hexpr hself in
/-- A statement with two blocks, and no definition. -/
lemma stmtSpelled_of_blocks {s : Stmt} {body orelse : Block} (hhead : HeadSpelled s)
    (hchildren : children s = body ++ orelse) (hbody : BlockSpelled body)
    (horelse : BlockSpelled orelse) : StmtSpelled s :=
  ⟨hhead, hchildren ▸ blockSpelled_append.mpr ⟨hbody, horelse⟩⟩

lemma gives_branch (bound : Nat) : GivesStmt (branch expr self bound) := by
  induction bound with
  | zero => exact .failure
  | succ bound ih =>
    refine (hexpr _).after fun _ => (gives_block hexpr hself).bind fun body hbody =>
      gives_position.after fun start => (gives_reserved? _).after fun _ => .ite ?_ ?_
    · exact ih.bind fun next hnext => .pure <| stmtSpelled_of_blocks trivial rfl hbody <|
        blockSpelled_cons.mpr ⟨hnext, blockSpelled_nil⟩
    · exact (gives_elseBlock hexpr hself).bind fun _ horelse =>
        .pure (stmtSpelled_of_blocks trivial rfl hbody horelse)

lemma gives_whileLoop : GivesStmt (whileLoop expr self) :=
  (hexpr _).after fun _ => (gives_block hexpr hself).bind fun _ hbody =>
    (gives_elseBlock hexpr hself).bind fun _ horelse =>
      .pure (stmtSpelled_of_blocks trivial rfl hbody horelse)

lemma gives_forLoop (isAsync : Bool) : GivesStmt (forLoop expr self isAsync) :=
  (Expression.gives_loopTargets hexpr).after fun _ => (gives_expect _).after fun _ =>
    (hexpr _).after fun _ => (gives_block hexpr hself).bind fun _ hbody =>
      (gives_elseBlock hexpr hself).bind fun _ horelse =>
        .pure (stmtSpelled_of_blocks trivial rfl hbody horelse)

omit hself in
lemma runs_withItem : Runs (withItem expr) :=
  (hexpr _).after fun _ => (gives_reserved? _).after fun _ =>
    .ite ((Expression.gives_starredOr hexpr _ (hexpr _)).after fun _ =>
      (gives_ensure _).after fun _ => .pure trivial) (.pure trivial)

omit hself in
lemma runs_bracketedItems : Runs (bracketedItems expr) :=
  (gives_expect _).after fun _ => (runs_withItem hexpr).commaList.after fun _ =>
    (gives_expect _).after fun _ => (gives_atSymbol _).after fun _ =>
      (gives_ensure _).after fun _ => .pure trivial

lemma gives_withBlock (isAsync : Bool) : GivesStmt (withBlock expr self isAsync) := by
  have hitems : Runs (sepBy1 "," (withItem expr)) :=
    ((runs_withItem hexpr).sepBy1 ",").imp fun _ _ => trivial
  exact ((runs_bracketedItems hexpr).either hitems).after fun _ =>
    (gives_block hexpr hself).bind fun _ hbody => .pure ⟨trivial, hbody⟩

lemma gives_handler (grouped : Bool) :
    Gives (handler expr self grouped) fun h => BlockSpelled h.body := by
  have hrest : Gives (do
      if !grouped && (← atSymbol ":") then
        let body ← block expr self
        pure ⟨none, none, body⟩
      else
        let type ← expr .expression
        let id ← boundAs
        let body ← block expr self
        pure ⟨some type.value, id, body⟩ : Parser Handler) fun h => BlockSpelled h.body :=
    (gives_atSymbol _).after fun _ =>
      .ite ((gives_block hexpr hself).bind fun _ hbody => .pure hbody) <|
        (hexpr _).after fun _ => runs_boundAs.after fun _ =>
          (gives_block hexpr hself).bind fun _ hbody => .pure hbody
  exact (gives_expect _).after fun _ => .ite ((gives_expect _).after fun _ => hrest) hrest

omit hexpr hself in
lemma blockSpelled_flatMap {α : Type} {f : α → Block} {as : List α}
    (h : ∀ a ∈ as, BlockSpelled (f a)) : BlockSpelled (as.flatMap f) := by
  rw [List.flatMap_def]
  exact blockSpelled_flatten (List.forall_mem_map.mpr h)

lemma gives_tryBlock : GivesStmt (tryBlock expr self) := by
  refine (gives_block hexpr hself).bind fun body hbody =>
    (gives_handler hexpr hself false).many.bind fun plain hplain => ?_
  have hgrouped (grouped : List Handler) (hgrouped : ∀ h ∈ grouped, BlockSpelled h.body) :
      GivesStmt (do
        let handlers := plain ++ grouped
        let orelse ← if handlers.isEmpty then pure [] else elseBlock expr self
        let final ← if ← reserved? "finally" then block expr self else pure []
        ensure (!handlers.isEmpty || !final.isEmpty)
        pure (.tryBlock (!grouped.isEmpty) body handlers orelse final)) := by
    have hhandlers := blockSpelled_flatMap (List.forall_mem_append.mpr ⟨hplain, hgrouped⟩)
    have hfinal (orelse final : Block) (horelse : BlockSpelled orelse)
        (hfinal : BlockSpelled final) : GivesStmt (do
          ensure (!(plain ++ grouped).isEmpty || !final.isEmpty)
          pure (.tryBlock (!grouped.isEmpty) body (plain ++ grouped) orelse final)) :=
      (gives_ensure _).after fun _ => .pure ⟨trivial, by
        simp only [children, blockSpelled_append]
        exact ⟨⟨⟨hbody, hhandlers⟩, horelse⟩, hfinal⟩⟩
    have horelse (orelse : Block) (h : BlockSpelled orelse) : GivesStmt (do
        let final ← if ← reserved? "finally" then block expr self else pure []
        ensure (!(plain ++ grouped).isEmpty || !final.isEmpty)
        pure (.tryBlock (!grouped.isEmpty) body (plain ++ grouped) orelse final)) :=
      (gives_reserved? _).after fun _ =>
        .ite ((gives_block hexpr hself).bind fun final => hfinal orelse final h)
          (Gives.bind (.pure blockSpelled_nil) fun final => hfinal orelse final h)
    exact .ite (Gives.bind (.pure blockSpelled_nil) horelse)
      ((gives_elseBlock hexpr hself).bind horelse)
  exact .ite ((gives_handler hexpr hself true).many.bind hgrouped)
    (Gives.bind (.pure (List.forall_mem_nil _)) hgrouped)

omit hself in
lemma runs_subject : Runs (subject expr) :=
  gives_position.after fun _ => (Expression.gives_item hexpr).commaList.after fun _ =>
    (gives_ensure _).after fun _ => .pure trivial

lemma gives_classDef {decorators : List (Located Expr)} (h : ∀ d ∈ decorators, Spelled d.value) :
    GivesStmt (classDef expr self decorators) := by
  refine (gives_expect _).after fun _ => gives_name.bind fun id hid =>
    (gives_symbol? _).after fun _ => ?_
  have hrest (args : List Expr × List Keyword) (hargs : Expression.ArgumentsSpelled args) :
      GivesStmt (do
        let body ← block expr self
        pure (.classDef ⟨id, args.1, args.2, body, decorators⟩)) :=
    (gives_block hexpr hself).bind fun _ hbody => .pure ⟨⟨hid, h, hargs.1, hargs.2⟩, hbody⟩
  exact .ite ((Expression.gives_arguments hexpr false).bind hrest)
    (Gives.bind (.pure ⟨List.forall_mem_nil _, List.forall_mem_nil _⟩) hrest)

lemma gives_functionDef (decorators : List (Located Expr)) (isAsync : Bool) :
    GivesStmt (functionDef expr self decorators isAsync) :=
  (gives_expect _).after fun _ => gives_name.bind fun _ hid => (gives_expect _).after fun _ =>
    (Expression.gives_parameters hexpr _ _).bind fun _ hps => (gives_symbol? _).after fun _ =>
      .optional (hexpr _) fun _ => (gives_block hexpr hself).bind fun _ hbody =>
        .pure ⟨⟨hid, hps⟩, hbody⟩

omit hself in
lemma gives_decorator : Expression.GivesSpelled (decorator expr) :=
  (gives_expect _).after fun _ => (hexpr _).bind fun _ h => (gives_expect _).after fun _ => .pure h

lemma gives_definition : Gives (definition expr self) fun s => StmtSpelled s.value := by
  refine (gives_decorator hexpr).many.bind fun decorators hdecorators =>
    gives_position.after fun start => ?_
  have hrest (s : Stmt) (h : StmtSpelled s) :
      Gives (pure ⟨start, s⟩ : Parser (Located Stmt)) fun s => StmtSpelled s.value := .pure h
  exact (gives_atReserved _).after fun _ =>
    .ite ((gives_classDef hexpr hself hdecorators).bind hrest) <|
      (gives_reserved? _).after fun isAsync =>
        (gives_functionDef hexpr hself decorators isAsync).bind hrest

lemma gives_asyncBlock : GivesStmt (asyncBlock expr self) :=
  (gives_expect _).after fun _ => (gives_reserved? _).after fun _ =>
    .ite (gives_forLoop hexpr hself true) <| (gives_expect _).after fun _ =>
      gives_withBlock hexpr hself true

omit hexpr hself in
lemma runs_atReservedTwo (v w : String) : Runs (atReservedTwo v w) := by
  intro tokens a rest hfine h
  rw [atReservedTwo.eq_def] at h
  split at h
  · cases h
    exact ⟨trivial, List.suffix_rfl⟩
  · cases h
    exact ⟨trivial, List.suffix_rfl⟩

lemma gives_compound : GivesStmt (compound expr self) :=
  (gives_reserved? _).after fun _ =>
    .ite (fun tokens => gives_branch hexpr hself tokens.length tokens) <|
  (gives_reserved? _).after fun _ => .ite (gives_whileLoop hexpr hself) <|
  (gives_reserved? _).after fun _ => .ite (gives_forLoop hexpr hself false) <|
  (gives_reserved? _).after fun _ => .ite (gives_withBlock hexpr hself false) <|
  (gives_reserved? _).after fun _ => .ite (gives_tryBlock hexpr hself) <|
  gives_asyncBlock hexpr hself

omit hexpr hself in
lemma runs_atDefinition : Runs atDefinition :=
  (gives_atSymbol _).after fun _ => (gives_atReserved _).after fun _ =>
    (gives_atReserved _).after fun _ => (runs_atReservedTwo _ _).after fun _ => .pure trivial

variable {pattern : Parser Pattern} (hpattern : Runs pattern)
include hpattern

lemma gives_caseBlock : Gives (caseBlock expr pattern self) fun c => BlockSpelled c.body := by
  exact (gives_expect _).after fun _ => (Matching.runs_openSequence hpattern).after fun _ =>
    (gives_reserved? _).after fun _ => .optional (hexpr _) fun _ =>
      (gives_block hexpr hself).bind fun _ hbody => .pure hbody

lemma gives_matching : GivesStmt (matching expr pattern self) :=
  (gives_expect _).after fun _ => (runs_subject hexpr).after fun _ =>
    (gives_expect _).after fun _ => (gives_expect _).after fun _ => (gives_expect _).after fun _ =>
      (gives_caseBlock hexpr hself hpattern).many1.bind fun _ hcases =>
        (gives_expect _).after fun _ => .pure ⟨trivial, blockSpelled_flatMap hcases⟩

lemma gives_rule : GivesBlock (rule expr pattern self) := by
  have hsingle {start : Position} {s : Stmt} (h : StmtSpelled s) :
      BlockSpelled [⟨start, s⟩] := blockSpelled_cons.mpr ⟨h, blockSpelled_nil⟩
  refine gives_position.after fun start => runs_atDefinition.after fun _ =>
    .ite ((gives_definition hexpr hself).bind fun s h => .pure (hsingle h)) <|
      Gives.peek.after fun _ =>
        .ite ((gives_compound hexpr hself).bind fun s h => .pure (hsingle h)) <|
          Gives.peek.after fun _ =>
            .ite (Gives.either ?_ (gives_line hexpr)) (gives_line hexpr)
  exact (gives_matching hexpr hself hpattern).bind fun _ h => .pure (hsingle h)

end

include hexpr in
lemma gives_parse {pattern : Parser Pattern} (hpattern : Runs pattern) (depth : Nat) :
    GivesBlock (parse expr pattern depth) := by
  induction depth with
  | zero => exact .failure
  | succ depth ih => exact gives_rule hexpr ih hpattern

end

end Statement

/-- Wherever a definition stands in a source, it is spelled as in sources. -/
theorem blockSpelled_parseModule {source : List Char} {block : Block}
    (h : parseModule source = some block) : BlockSpelled block := by
  obtain ⟨tokens, htokens, h⟩ := Option.bind_eq_some_iff.mp h
  obtain ⟨⟨block', rest⟩, hblock, h⟩ := Option.bind_eq_some_iff.mp h
  cases h
  have hexpr (length : Nat) : Sound (exprParser length) := Expression.sound_parse _
  have hmodule (length : Nat) : Gives (moduleParser length) BlockSpelled :=
    (Statement.gives_parse (hexpr length) (Matching.runs_parse _ _) _).many.bind
      fun _ hstmts => (gives_expect _).after fun _ => .pure (blockSpelled_flatten hstmts)
  exact (hmodule _ tokens _ rest (Lexer.fine_lexLines htokens) hblock).1

end ProbeCatalog.Syntax
