import ProbeCatalog.Proofs.Syntax.Sources

/-!
# Outlines of sources

The outline of a block tells the places of its innermost classes, and a line end after each. What
the grammar takes for a block has the outline of the block in it, in order. So each innermost class
of a source begins on a later line than the one before.
-/
namespace ProbeCatalog.Syntax

open ProbeCatalog.Syntax.Parser
open Expression (Sound)
open Statement

/-- What an outline is made of. -/
inductive Mark where
  /-- The word that begins a class. -/
  | opening (pos : Position)
  | lineEnd

/-- The mark that a token leaves. -/
def mark? (t : Lexeme) : Option Mark :=
  if t.value = .reserved "class" then some (.opening t.pos)
  else if t.value = .newline then some .lineEnd
  else none

/-- The marks that tokens leave. -/
def marks (tokens : List Lexeme) : List Mark := tokens.filterMap mark?

/-- The classes of a block, at any depth, that have no class in them. -/
def innermost (b : Block) : List (Located ClassDecl) :=
  (everyClass b).filter fun c => (everyClass c.value.body).isEmpty

/-- The marks of classes that stand on lines of their own. -/
def marksOf (cs : List (Located ClassDecl)) : List Mark :=
  cs.flatMap fun c => [.opening c.pos, .lineEnd]

/-- The marks of the innermost classes of a block. -/
def outline (b : Block) : List Mark := marksOf (innermost b)

/-! ### Outlines of trees -/

lemma everyClass_cons (s : Located Stmt) (b : Block) :
    everyClass (s :: b) = everyClass (children s.value) ++ (class? s).toList ++ everyClass b := by
  rw [everyClass, everyStatement_cons, List.filterMap_append, List.filterMap_cons]
  cases class? s with
  | none => simp [everyClass]
  | some c => simp [everyClass]

lemma everyClass_eq_nil {b : Block}
    (h : ∀ s ∈ b, class? s = none ∧ everyClass (children s.value) = []) : everyClass b = [] := by
  induction b with
  | nil => rfl
  | cons s b ih =>
    obtain ⟨⟨hclass, hinside⟩, hb⟩ := List.forall_mem_cons.mp h
    rw [everyClass_cons, hclass, hinside, ih hb]
    rfl

lemma everyClass_of_simple {b : Block} (h : ∀ s ∈ b, IsSimple s.value) : everyClass b = [] := by
  apply everyClass_eq_nil
  intro s hs
  rw [(h s hs).children]
  exact ⟨(h s hs).class?_eq_none, rfl⟩

lemma everyClass_append (b c : Block) : everyClass (b ++ c) = everyClass b ++ everyClass c := by
  rw [everyClass, everyStatement_append, List.filterMap_append]
  rfl

lemma outline_append (b c : Block) : outline (b ++ c) = outline b ++ outline c := by
  rw [outline, innermost, everyClass_append, List.filter_append, marksOf, List.flatMap_append]
  rfl

lemma outline_flatten (bs : List Block) : outline bs.flatten = bs.flatMap outline := by
  induction bs with
  | nil => rfl
  | cons b bs ih => rw [List.flatten_cons, outline_append, ih, List.flatMap_cons]

lemma outline_flatMap {α : Type} (f : α → Block) (as : List α) :
    outline (as.flatMap f) = as.flatMap fun a => outline (f a) := by
  rw [List.flatMap_def, outline_flatten, List.flatMap_map]

/-- A statement that is no class has the outline of what is inside. -/
lemma outline_single {s : Located Stmt} (h : class? s = none) :
    outline [s] = outline (children s.value) := by
  have hclasses : everyClass [s] = everyClass (children s.value) := by
    rw [everyClass_cons, h]
    simp [everyClass, everyStatement]
  rw [outline, innermost, hclasses]
  rfl

/-- A class has the outline of its body, or its own marks if there is no class in it. -/
lemma outline_class (pos : Position) (c : ClassDecl) :
    (outline [⟨pos, .classDef c⟩]).Sublist (.opening pos :: .lineEnd :: outline c.body) := by
  have hclasses : everyClass [⟨pos, .classDef c⟩] = everyClass c.body ++ [⟨pos, c⟩] := by
    rw [everyClass_cons]
    simp [everyClass, everyStatement, class?, children]
  rw [outline, innermost, hclasses]
  by_cases hempty : everyClass c.body = []
  · simp [hempty, marksOf]
  · have hown : (everyClass c.body).isEmpty = false := by simpa using hempty
    rw [List.filter_append, List.filter_cons_of_neg (by simp [hown]), List.filter_nil,
      List.append_nil]
    exact (List.sublist_cons_self _ _).trans (List.sublist_cons_self _ _)

lemma outline_of_simple {b : Block} (h : ∀ s ∈ b, IsSimple s.value) : outline b = [] := by
  rw [outline, innermost, everyClass_of_simple h]
  rfl

/-! ### Classes on their lines -/

lemma marks_append (tokens more : List Lexeme) :
    marks (tokens ++ more) = marks tokens ++ marks more := List.filterMap_append

lemma opening_of_mark? {t : Lexeme} {pos : Position} (h : mark? t = some (.opening pos)) :
    t.pos = pos := by
  rw [mark?] at h
  split_ifs at h
  · cases h
    rfl
  · cases h

lemma lineEnd_of_mark? {t : Lexeme} (h : mark? t = some .lineEnd) : t.value = .newline := by
  rw [mark?] at h
  split_ifs at h
  · cases h
  · assumption

/-- The first of some marks among those of tokens is left by one of them, the others by later
ones. -/
lemma cons_sublist_marks {m : Mark} {ms : List Mark} {tokens : List Lexeme}
    (h : (m :: ms).Sublist (marks tokens)) : ∃ before t after, tokens = before ++ t :: after ∧
      mark? t = some m ∧ ms.Sublist (marks after) := by
  obtain ⟨front, back, hmarks, hm, hms⟩ := List.cons_sublist_iff.mp h
  obtain ⟨taken, left, rfl, rfl, rfl⟩ := List.filterMap_eq_append_iff.mp hmarks
  obtain ⟨t, ht, hmark⟩ := List.mem_filterMap.mp hm
  obtain ⟨before, between, rfl⟩ := List.append_of_mem ht
  refine ⟨before, t, between ++ left, by simp, hmark, ?_⟩
  rw [marks_append]
  exact hms.trans (List.sublist_append_right _ _)

/-- Classes whose marks are left by tokens in order stand on lines in order. -/
lemma pairwise_of_marksOf {cs : List (Located ClassDecl)} {tokens : List Lexeme}
    (h : (marksOf cs).Sublist (marks tokens)) (hordered : tokens.Pairwise Follows) :
    (∀ c ∈ cs, ∃ t ∈ tokens, t.pos = c.pos) ∧
      cs.Pairwise fun c d => c.pos.line < d.pos.line := by
  induction cs generalizing tokens with
  | nil => exact ⟨List.forall_mem_nil _, .nil⟩
  | cons c cs ih =>
    obtain ⟨before, t, after, rfl, ht, h⟩ := cons_sublist_marks h
    obtain ⟨between, u, after, rfl, hu, h⟩ := cons_sublist_marks h
    obtain ⟨-, hordered, -⟩ := List.pairwise_append.mp hordered
    obtain ⟨hnext, hordered⟩ := List.pairwise_cons.mp hordered
    obtain ⟨-, hordered, -⟩ := List.pairwise_append.mp hordered
    obtain ⟨hlater, hordered⟩ := List.pairwise_cons.mp hordered
    obtain ⟨hplaces, hlines⟩ := ih h hordered
    have htu := (hnext u (by simp)).1
    refine ⟨List.forall_mem_cons.mpr ⟨⟨t, by simp, opening_of_mark? ht⟩, ?_⟩, .cons ?_ hlines⟩
    · intro d hd
      obtain ⟨v, hv, hpos⟩ := hplaces d hd
      exact ⟨v, by simp [hv], hpos⟩
    · intro d hd
      obtain ⟨v, hv, hpos⟩ := hplaces d hd
      have huv := (hlater v hv).2 (lineEnd_of_mark? hu)
      rw [← opening_of_mark? ht, ← hpos]
      exact htu.trans_lt huv

/-! ### What parsers show -/

namespace Parser

variable {α β : Type} {p q : Parser α} {P : α → Prop} {v w : α → List Mark} {u : β → List Mark}
  {known : List Mark}

/-- The marks that belong to each result are among those that were known and those that the tokens
leave that the parser takes. -/
def Shows (known : List Mark) (p : Parser α) (w : α → List Mark) : Prop :=
  ∀ tokens a rest, Fine tokens → p tokens = some (a, rest) →
    ∃ taken, tokens = taken ++ rest ∧ (w a).Sublist (known ++ marks taken)

namespace Shows

lemma pure {a : α} (h : (w a).Sublist known) : Shows known (pure a) w := by
  intro tokens b rest _ heq
  cases heq
  exact ⟨[], rfl, h.trans (List.sublist_append_left _ _)⟩

lemma failure : Shows known (failure : Parser α) w := fun _ _ _ _ h => nomatch h

/-- What the first parser shows is known to the second. -/
lemma bind {f : α → Parser β} (hp : Shows [] p w) (hf : ∀ a, Shows (known ++ w a) (f a) u) :
    Shows known (p >>= f) u := by
  intro tokens b rest hfine h
  obtain ⟨a, between, ha, hb⟩ := bind_eq_some.mp h
  obtain ⟨first, rfl, hfirst⟩ := hp tokens a between hfine ha
  obtain ⟨second, rfl, hsecond⟩ :=
    hf a between b rest (hfine.of_suffix (List.suffix_append _ _)) hb
  refine ⟨first ++ second, by rw [List.append_assoc], hsecond.trans ?_⟩
  rw [marks_append, ← List.append_assoc]
  exact ((List.Sublist.refl known).append hfirst).append (List.Sublist.refl _)

/-- Tokens that leave nothing of interest, with what is known of their result. -/
lemma given {f : α → Parser β} (hp : Gives p P) (hf : ∀ a, P a → Shows known (f a) u) :
    Shows known (p >>= f) u := by
  intro tokens b rest hfine h
  obtain ⟨a, between, ha, hb⟩ := bind_eq_some.mp h
  obtain ⟨hPa, first, rfl⟩ := hp tokens a between hfine ha
  obtain ⟨second, rfl, hsecond⟩ :=
    hf a hPa between b rest (hfine.of_suffix (List.suffix_append _ _)) hb
  refine ⟨first ++ second, by rw [List.append_assoc], hsecond.trans ?_⟩
  rw [marks_append]
  exact (List.Sublist.refl known).append (List.sublist_append_right _ _)

lemma after {f : α → Parser β} (hp : Gives p P) (hf : ∀ a, Shows known (f a) u) :
    Shows known (p >>= f) u := given hp fun a _ => hf a

/-- A value that is given at once is no step. -/
lemma next {a : α} {f : α → Parser β} (h : Shows known (f a) u) :
    Shows known (Pure.pure a >>= f) u :=
  h

/-- What is known is the mark that the token before has left. -/
lemma opened {m : Mark} {t : Lexeme} {tokens rest : List Lexeme} {a : α} (hmark : mark? t = some m)
    (hfine : Fine (t :: tokens)) (h : p tokens = some (a, rest)) (hp : Shows [m] p w) :
    ∃ taken, tokens = taken ++ rest ∧ (w a).Sublist (marks (t :: taken)) := by
  obtain ⟨taken, rfl, hshown⟩ := hp tokens a rest (hfine.of_suffix (List.suffix_cons _ _)) h
  refine ⟨taken, rfl, ?_⟩
  rw [marks, List.filterMap_cons_some hmark]
  exact hshown

/-- A parser that shows more. -/
lemma last (hp : Shows [] p w) (h : ∀ a, (v a).Sublist (known ++ w a)) : Shows known p v := by
  intro tokens a rest hfine heq
  obtain ⟨taken, rfl, hshown⟩ := hp tokens a rest hfine heq
  refine ⟨taken, rfl, (h a).trans ?_⟩
  exact (List.Sublist.refl known).append hshown

lemma ite {c : Prop} [Decidable c] (hp : Shows known p w) (hq : Shows known q w) :
    Shows known (if c then p else q) w := by
  split
  · exact hp
  · exact hq

lemma maybe (hp : Shows [] p w) : Shows [] (maybe p) fun a => a.elim [] w := by
  intro tokens a rest hfine h
  rw [Parser.maybe] at h
  split at h
  · rename_i heq
    cases h
    exact hp tokens _ rest hfine heq
  · cases h
    exact ⟨[], rfl, List.nil_sublist _⟩

lemma either (hp : Shows known p w) (hq : Shows known q w) : Shows known (either p q) w := by
  intro tokens a rest hfine h
  rw [Parser.either] at h
  split at h
  · rename_i heq
    cases h
    exact hp tokens a rest hfine heq
  · exact hq tokens a rest hfine h

lemma manyWithin (hp : Shows [] p w) (bound : Nat) :
    Shows [] (manyWithin p bound) fun as => as.flatMap w := by
  induction bound with
  | zero =>
    intro tokens as rest hfine h
    cases h
    exact ⟨[], rfl, List.Sublist.refl _⟩
  | succ bound ih =>
    intro tokens as rest hfine h
    rw [Parser.manyWithin] at h
    split at h
    · cases h
      exact ⟨[], rfl, List.Sublist.refl _⟩
    · rename_i a rest' heq
      obtain ⟨⟨as', rest''⟩, hmore, heq'⟩ := Option.map_eq_some_iff.mp h
      cases heq'
      obtain ⟨first, rfl, hfirst⟩ := hp tokens a rest' hfine heq
      obtain ⟨others, rfl, hothers⟩ :=
        ih rest' as' rest (hfine.of_suffix (List.suffix_append _ _)) hmore
      refine ⟨first ++ others, by rw [List.append_assoc], ?_⟩
      simp only [marks_append, List.flatMap_cons]
      exact hfirst.append hothers

lemma many (hp : Shows [] p w) : Shows [] (many p) fun as => as.flatMap w :=
  fun tokens => hp.manyWithin tokens.length tokens

lemma many1 (hp : Shows [] p w) : Shows [] (many1 p) fun as => as.flatMap w :=
  hp.bind fun a => hp.many.bind fun as => pure (by rw [List.flatMap_cons, List.nil_append])

end Shows

lemma shows_lineEnd : Shows [] (expect .newline) fun _ => [.lineEnd] := by
  intro tokens a rest _ h
  cases tokens with
  | nil => cases h
  | cons t tokens =>
    rw [expect, Option.ite_none_right_eq_some] at h
    obtain ⟨ht, h⟩ := h
    cases h
    have hmark : mark? t = some .lineEnd := by
      rw [mark?, if_neg (by simp [ht]), if_pos ht]
    refine ⟨[t], rfl, ?_⟩
    rw [marks, List.filterMap_cons_some hmark]
    exact List.Sublist.refl _

end Parser

namespace Statement

variable {expr : ExprParser} (hexpr : Sound expr) {self : Parser Block}
  (hself : Shows [] self outline)

/-- The parser shows the outlines of its statements, wherever these stand. -/
def ShowsStmt (p : Parser Stmt) : Prop := ∀ pos, Shows [] p fun s => outline [⟨pos, s⟩]

include hexpr

lemma shows_simpleLine : Shows [] (simpleLine expr) fun b => .lineEnd :: outline b :=
  .given ((gives_simple hexpr).sepBy1 _) fun _ hstmts => .after (gives_symbol? _) fun _ =>
    shows_lineEnd.bind fun _ => .pure (by rw [outline_of_simple hstmts]; exact .refl _)

include hself

/-- A block begins with a line end, or ends with one and has no class in it. -/
lemma shows_block : Shows [] (block expr self) fun b => .lineEnd :: outline b := by
  refine .after (gives_expect _) fun _ => shows_lineEnd.maybe.bind fun newline => ?_
  cases newline with
  | some _ =>
    refine .after (gives_expect _) fun _ => hself.many1.bind fun stmts =>
      .after (gives_expect _) fun _ => .pure ?_
    rw [outline_flatten]
    exact List.Sublist.refl _
  | none => exact shows_simpleLine hexpr

lemma shows_body : Shows [] (block expr self) outline :=
  (shows_block hexpr hself).last fun _ => List.sublist_cons_self _ _

lemma shows_elseBlock : Shows [] (elseBlock expr self) outline :=
  .after (gives_reserved? _) fun _ => .ite (shows_body hexpr hself) (.pure (List.Sublist.refl _))

omit hexpr hself in
lemma sublist_of_children {s : Located Stmt} {known : List Mark} (hclass : class? s = none)
    (h : outline (children s.value) = known) : (outline [s]).Sublist known := by
  rw [outline_single hclass, h]

lemma shows_branch (bound : Nat) : ShowsStmt (branch expr self bound) := by
  intro pos
  induction bound generalizing pos with
  | zero => exact .failure
  | succ bound ih =>
    refine .after (hexpr _) fun _ => (shows_body hexpr hself).bind fun body =>
      .after gives_position fun start => .after (gives_reserved? _) fun _ => .ite ?_ ?_
    · exact (ih start).bind fun next => .pure (sublist_of_children rfl (outline_append _ _))
    · exact (shows_elseBlock hexpr hself).bind fun _ =>
        .pure (sublist_of_children rfl (outline_append _ _))

lemma shows_whileLoop : ShowsStmt (whileLoop expr self) := fun _ =>
  .after (hexpr _) fun _ => (shows_body hexpr hself).bind fun _ =>
    (shows_elseBlock hexpr hself).bind fun _ => .pure (sublist_of_children rfl (outline_append _ _))

lemma shows_forLoop (isAsync : Bool) : ShowsStmt (forLoop expr self isAsync) := fun _ =>
  .after (Expression.gives_loopTargets hexpr) fun _ => .after (gives_expect _) fun _ =>
    .after (hexpr _) fun _ => (shows_body hexpr hself).bind fun _ =>
      (shows_elseBlock hexpr hself).bind fun _ =>
        .pure (sublist_of_children rfl (outline_append _ _))

lemma shows_withBlock (isAsync : Bool) : ShowsStmt (withBlock expr self isAsync) := fun _ =>
  .after ((runs_bracketedItems hexpr).either
      (((runs_withItem hexpr).sepBy1 ",").imp fun _ _ => trivial)) fun _ =>
    (shows_body hexpr hself).bind fun _ => .pure (sublist_of_children rfl rfl)

lemma shows_handler (grouped : Bool) :
    Shows [] (handler expr self grouped) fun h => outline h.body := by
  have hrest : Shows [] (do
      if !grouped && (← atSymbol ":") then
        let body ← block expr self
        pure ⟨none, none, body⟩
      else
        let type ← expr .expression
        let id ← boundAs
        let body ← block expr self
        pure ⟨some type.value, id, body⟩ : Parser Handler) fun h => outline h.body :=
    .after (gives_atSymbol _) fun _ =>
      .ite ((shows_body hexpr hself).bind fun _ => .pure (List.Sublist.refl _)) <|
        .after (hexpr _) fun _ => .after runs_boundAs fun _ =>
          (shows_body hexpr hself).bind fun _ => .pure (List.Sublist.refl _)
  exact .after (gives_expect _) fun _ => .ite (.after (gives_expect _) fun _ => hrest) hrest

lemma shows_tryBlock : ShowsStmt (tryBlock expr self) := by
  intro pos
  have hfinal (body orelse : Block) (plain grouped : List Handler) :
      Shows ([] ++ outline body ++ plain.flatMap (fun h => outline h.body) ++
        grouped.flatMap (fun h => outline h.body) ++ outline orelse) (do
          let final ← if ← reserved? "finally" then block expr self else pure []
          ensure (!(plain ++ grouped).isEmpty || !final.isEmpty)
          pure (.tryBlock (!grouped.isEmpty) body (plain ++ grouped) orelse final) : Parser Stmt)
        fun s => outline [⟨pos, s⟩] := by
    have hend (final : Block) : Shows ([] ++ outline body ++
        plain.flatMap (fun h => outline h.body) ++ grouped.flatMap (fun h => outline h.body) ++
          outline orelse ++ outline final) (do
            ensure (!(plain ++ grouped).isEmpty || !final.isEmpty)
            pure (.tryBlock (!grouped.isEmpty) body (plain ++ grouped) orelse final) : Parser Stmt)
          fun s => outline [⟨pos, s⟩] :=
      .after (gives_ensure _) fun _ => .pure <| sublist_of_children rfl <| by
        simp only [children, outline_append, outline_flatMap, List.flatMap_append,
          List.nil_append, List.append_assoc]
    exact .after (gives_reserved? _) fun _ => .ite ((shows_body hexpr hself).bind hend)
      (Shows.bind (.pure (List.Sublist.refl _)) hend)
  have hhandlers (body : Block) (plain grouped : List Handler) :
      Shows ([] ++ outline body ++ plain.flatMap (fun h => outline h.body) ++
        grouped.flatMap (fun h => outline h.body)) (do
          let handlers := plain ++ grouped
          let orelse ← if handlers.isEmpty then pure [] else elseBlock expr self
          let final ← if ← reserved? "finally" then block expr self else pure []
          ensure (!handlers.isEmpty || !final.isEmpty)
          pure (.tryBlock (!grouped.isEmpty) body handlers orelse final) : Parser Stmt)
        fun s => outline [⟨pos, s⟩] :=
    .ite (Shows.bind (.pure (List.Sublist.refl _)) fun orelse => hfinal body orelse plain grouped)
      ((shows_elseBlock hexpr hself).bind fun orelse => hfinal body orelse plain grouped)
  exact (shows_body hexpr hself).bind fun body => (shows_handler hexpr hself false).many.bind
    fun plain => .ite ((shows_handler hexpr hself true).many.bind (hhandlers body plain))
      (Shows.bind (.pure (List.Sublist.refl _)) (hhandlers body plain))

/-- The marks of a class are left by the word that begins it and by what comes after it. -/
lemma shows_classDef (decorators : List (Located Expr)) {tokens rest : List Lexeme} {s : Stmt}
    (hfine : Fine tokens) (h : classDef expr self decorators tokens = some (s, rest)) :
    ∃ t taken, tokens = t :: (taken ++ rest) ∧
      (outline [⟨t.pos, s⟩]).Sublist (marks (t :: taken)) := by
  obtain ⟨⟨⟩, between, hword, hlater⟩ := bind_eq_some.mp h
  cases tokens with
  | nil => cases hword
  | cons t tokens =>
    rw [reserved, expect, Option.ite_none_right_eq_some] at hword
    obtain ⟨ht, heq⟩ := hword
    cases heq
    have hbody (id : String) (args : List Expr × List Keyword) : Shows [.opening t.pos] (do
        let body ← block expr self
        pure (.classDef ⟨id, args.1, args.2, body, decorators⟩)) fun s => outline [⟨t.pos, s⟩] :=
      (shows_block hexpr hself).bind fun _ => .pure (outline_class _ _)
    have hmark : mark? t = some (.opening t.pos) := if_pos ht
    obtain ⟨taken, rfl, hshown⟩ :=
      Shows.opened (w := fun s => outline [⟨t.pos, s⟩]) hmark hfine hlater <|
        .after gives_name fun id => .after (gives_symbol? _) fun _ =>
          .ite (.after (Expression.gives_arguments hexpr false) (hbody id))
            (.next (hbody id ([], [])))
    exact ⟨t, taken, rfl, hshown⟩

lemma shows_functionDef (decorators : List (Located Expr)) (isAsync : Bool) :
    ShowsStmt (functionDef expr self decorators isAsync) := fun _ =>
  .after (gives_expect _) fun _ => .after gives_name fun _ => .after (gives_expect _) fun _ =>
    .after (Expression.gives_parameters hexpr _ _) fun _ => .after (gives_symbol? _) fun _ =>
      .ite
        (.after (hexpr _) fun _ => .next <|
          (shows_body hexpr hself).bind fun _ => .pure (sublist_of_children rfl rfl))
        (.next <| (shows_body hexpr hself).bind fun _ => .pure (sublist_of_children rfl rfl))

lemma shows_definition : Shows [] (definition expr self) fun s => outline [s] := by
  refine .after (gives_decorator hexpr).many fun decorators => ?_
  have hfunction (start : Position) : Shows [] (do
      let isAsync ← reserved? "async"
      let stmt ← functionDef expr self decorators isAsync
      pure (⟨start, stmt⟩ : Located Stmt)) fun s => outline [s] :=
    .after (gives_reserved? _) fun isAsync =>
      (shows_functionDef hexpr hself decorators isAsync start).bind fun _ =>
        .pure (List.Sublist.refl _)
  -- The place that is looked at first is that of the word that begins the class.
  intro tokens s rest hfine h
  obtain ⟨start, tokens', hstart, h⟩ := bind_eq_some.mp h
  obtain ⟨isClass, tokens'', hlook, h⟩ := bind_eq_some.mp h
  obtain ⟨-, rfl⟩ := Prod.mk.inj (Option.some.inj hlook)
  have hsame : tokens' = tokens := by
    cases tokens with
    | nil => cases hstart; rfl
    | cons t tokens => cases hstart; rfl
  subst hsame
  cases isClass with
  | true =>
    obtain ⟨stmt, rest', hclass, h⟩ := bind_eq_some.mp h
    cases h
    obtain ⟨t, taken, rfl, hshown⟩ := shows_classDef hexpr hself decorators hfine hclass
    cases hstart
    exact ⟨t :: taken, rfl, hshown⟩
  | false => exact hfunction start _ s rest hfine h

lemma shows_asyncBlock : ShowsStmt (asyncBlock expr self) := fun pos =>
  .after (gives_expect _) fun _ => .after (gives_reserved? _) fun _ =>
    .ite (shows_forLoop hexpr hself true pos) <| .after (gives_expect _) fun _ =>
      shows_withBlock hexpr hself true pos

lemma shows_compound : ShowsStmt (compound expr self) := fun pos =>
  .after (gives_reserved? _) fun _ =>
    .ite (fun tokens => shows_branch hexpr hself tokens.length pos tokens) <|
  .after (gives_reserved? _) fun _ => .ite (shows_whileLoop hexpr hself pos) <|
  .after (gives_reserved? _) fun _ => .ite (shows_forLoop hexpr hself false pos) <|
  .after (gives_reserved? _) fun _ => .ite (shows_withBlock hexpr hself false pos) <|
  .after (gives_reserved? _) fun _ => .ite (shows_tryBlock hexpr hself pos) <|
  shows_asyncBlock hexpr hself pos

variable {pattern : Parser Pattern} (hpattern : Runs pattern)
include hpattern

lemma shows_caseBlock : Shows [] (caseBlock expr pattern self) fun c => outline c.body :=
  .after (gives_expect _) fun _ => .after (Matching.runs_openSequence hpattern) fun _ =>
    .after (gives_reserved? _) fun _ => .ite
      (.after (hexpr _) fun _ => .next <|
        (shows_body hexpr hself).bind fun _ => .pure (List.Sublist.refl _))
      (.next <| (shows_body hexpr hself).bind fun _ => .pure (List.Sublist.refl _))

lemma shows_matching : ShowsStmt (matching expr pattern self) := fun _ =>
  .after (gives_expect _) fun _ => .after (runs_subject hexpr) fun _ =>
    .after (gives_expect _) fun _ => .after (gives_expect _) fun _ =>
      .after (gives_expect _) fun _ => (shows_caseBlock hexpr hself hpattern).many1.bind fun _ =>
        .after (gives_expect _) fun _ => .pure (sublist_of_children rfl (outline_flatMap _ _))

lemma shows_rule : Shows [] (rule expr pattern self) outline := by
  have hline : Shows [] (simpleLine expr) outline :=
    (shows_simpleLine hexpr).last fun _ => List.sublist_cons_self _ _
  exact .after gives_position fun start => .after runs_atDefinition fun _ =>
    .ite ((shows_definition hexpr hself).bind fun _ => .pure (List.Sublist.refl _)) <|
      .after Gives.peek fun _ =>
        .ite ((shows_compound hexpr hself start).bind fun _ => .pure (List.Sublist.refl _)) <|
          .after Gives.peek fun _ => .ite (.either ((shows_matching hexpr hself hpattern start).bind
            fun _ => .pure (List.Sublist.refl _)) hline) hline

omit hself in
lemma shows_parse (depth : Nat) : Shows [] (parse expr pattern depth) outline := by
  induction depth with
  | zero => exact .failure
  | succ depth ih => exact shows_rule hexpr ih hpattern

end Statement

/-- The innermost classes of a source begin on lines of their own, in order. -/
theorem pairwise_innermost {source : List Char} {block : Block}
    (h : parseModule source = some block) :
    (innermost block).Pairwise fun c d => c.pos.line < d.pos.line := by
  obtain ⟨tokens, htokens, h⟩ := Option.bind_eq_some_iff.mp h
  obtain ⟨⟨block', rest⟩, hblock, h⟩ := Option.bind_eq_some_iff.mp h
  cases h
  have hexpr (length : Nat) : Sound (exprParser length) := Expression.sound_parse _
  have hmodule (length : Nat) : Shows [] (moduleParser length) outline :=
    (shows_parse (hexpr length) (Matching.runs_parse _ _) _).many.bind fun stmts =>
      .after (gives_expect _) fun _ => .pure (by rw [outline_flatten]; exact .refl _)
  obtain ⟨taken, rfl, hshown⟩ :=
    hmodule _ tokens _ rest (Lexer.fine_lexLines htokens) hblock
  obtain ⟨hordered, -, -⟩ := List.pairwise_append.mp (Lexer.laid_lexLines htokens).pairwise
  exact (pairwise_of_marksOf hshown hordered).2

end ProbeCatalog.Syntax
