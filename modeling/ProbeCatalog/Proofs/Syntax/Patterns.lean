import ProbeCatalog.Proofs.Syntax.Expressions
import ProbeCatalog.Syntax.Grammar.Pattern

/-!
# Patterns that are read

Nothing is said of the patterns themselves: the rules for them leave words as the names among the
tokens, so that the rules after them may be told.
-/
namespace ProbeCatalog.Syntax.Matching

open ProbeCatalog.Syntax.Parser

lemma runs_underscore : Runs underscore := gives_expect _

lemma runs_atUnderscore : Runs atUnderscore := Gives.peek

lemma runs_endsName : Runs endsName :=
  (gives_atSymbol _).after fun _ => (gives_atSymbol _).after fun _ =>
    (gives_atSymbol _).after fun _ => .pure trivial

lemma runs_name : Runs name := gives_name.imp fun _ _ => trivial

lemma runs_captured : Runs captured :=
  runs_atUnderscore.after fun _ => (gives_ensure _).after fun _ => runs_name.after fun _ =>
    runs_endsName.after fun _ => (gives_ensure _).after fun _ => .pure trivial

lemma runs_dotted : Runs dotted :=
  runs_name.after fun _ => ((gives_expect _).after fun _ => runs_name).many.after fun _ =>
    .pure trivial

lemma runs_unsigned : Runs unsigned := by
  intro tokens a rest hfine h
  rw [unsigned.eq_def] at h
  split at h
  · obtain ⟨_, -, heq⟩ := Option.map_eq_some_iff.mp h
    cases heq
    exact ⟨trivial, List.suffix_cons _ _⟩
  · cases h

lemma runs_numeric : Runs numeric := by
  refine (gives_symbol? _).after fun _ => runs_unsigned.after fun _ =>
    (gives_operator _).maybe.after fun op => ?_
  cases op with
  | none => exact .pure trivial
  | some op =>
    exact (gives_ensure _).after fun _ => runs_unsigned.after fun _ =>
      (gives_ensure _).after fun _ => .pure trivial

lemma runs_singleton : Runs singleton :=
  (gives_reserved? _).after fun _ => .ite (.pure trivial) <|
    (gives_reserved? _).after fun _ => .ite (.pure trivial) <|
      (gives_expect _).after fun _ => .pure trivial

lemma runs_strings (expr : ExprParser) : Runs (Expression.strings expr) :=
  (Expression.gives_strings expr).imp fun _ _ => trivial

lemma runs_key (expr : ExprParser) : Runs (key expr) := by
  refine Gives.peek.after fun _ => .ite runs_numeric <| Gives.peek.after fun _ =>
    .ite (runs_strings expr) <| runs_singleton.maybe.after fun c => ?_
  cases c with
  | some c => exact .pure trivial
  | none =>
    refine runs_dotted.after fun value => ?_
    split
    · exact .pure trivial
    · exact .failure

section

variable {self : Parser Pattern} (hself : Runs self)
include hself

lemma runs_item : Runs (item self) :=
  (gives_symbol? _).after fun _ =>
    .ite (runs_atUnderscore.after fun _ =>
      .ite (runs_underscore.after fun _ => .pure trivial) <|
        runs_captured.after fun _ => .pure trivial) hself

lemma runs_furtherItems : Runs (furtherItems self) := by
  refine (gives_symbol? _).after fun _ => .ite ?_ (.pure trivial)
  refine (runs_item hself).commaList.maybe.after fun found => ?_
  split
  · exact .pure trivial
  · exact .pure trivial

lemma runs_openSequence : Runs (openSequence self) :=
  (runs_item hself).after fun _ => (runs_furtherItems hself).after fun _ =>
    .ite (.pure trivial) <| (gives_ensure _).after fun _ => .pure trivial

lemma runs_mapping (expr : ExprParser) : Runs (mapping expr self) := by
  have hentry : Runs (do
      let k ← key expr
      symbol ":"
      let p ← self
      pure (k, p)) :=
    (runs_key expr).after fun _ => (gives_expect _).after fun _ => hself.after fun _ =>
      .pure trivial
  refine (hentry.sepBy1 ",").maybe.after fun items => ?_
  have hrest (comma : Bool) : Runs (do
      if ← symbolIf comma "**" then
        let rest ← captured
        let _ ← symbol? ","
        symbol "\x7d"
        pure (Pattern.mapping (items.getD []) (some rest))
      else
        symbol "\x7d"
        pure (Pattern.mapping (items.getD []) none)) :=
    (gives_symbolIf _ _).after fun _ =>
      .ite (runs_captured.after fun _ => (gives_symbol? _).after fun _ =>
        (gives_expect _).after fun _ => .pure trivial) <|
      (gives_expect _).after fun _ => .pure trivial
  exact .ite ((Gives.run true).after hrest) ((gives_symbol? _).after hrest)

lemma runs_argument : Runs (argument self) :=
  (gives_atNameThen _).after fun _ =>
    .ite (runs_name.after fun _ => (gives_expect _).after fun _ => hself.after fun _ =>
      .pure trivial) <| hself.after fun _ => .pure trivial

lemma runs_named : Runs (named self) := by
  refine runs_atUnderscore.after fun _ => .ite (runs_underscore.after fun _ => .pure trivial) <|
    runs_dotted.after fun head => (gives_symbol? _).after fun _ => .ite ?_ ?_
  · exact ((runs_argument hself).commaListTo _).after fun _ => (gives_ensure _).after fun _ =>
      .pure trivial
  · refine runs_endsName.after fun _ => (gives_ensure _).after fun _ => ?_
    split
    · exact .pure trivial
    · exact .pure trivial

lemma runs_closed (expr : ExprParser) : Runs (closed expr self) := by
  refine Gives.peek.after fun _ => .ite (runs_numeric.after fun _ => .pure trivial) <|
    Gives.peek.after fun _ => .ite ((runs_strings expr).after fun _ => .pure trivial) <|
      (gives_symbol? _).after fun _ => .ite ?_ <| (gives_symbol? _).after fun _ => .ite ?_ <|
        (gives_symbol? _).after fun _ => .ite (runs_mapping hself expr) <|
          runs_singleton.maybe.after fun c => ?_
  · exact (gives_symbol? _).after fun _ => .ite (.pure trivial) <|
      (runs_openSequence hself).after fun _ => (gives_expect _).after fun _ => .pure trivial
  · exact ((runs_item hself).commaListTo _).after fun _ => .pure trivial
  · cases c with
    | some c => exact .pure trivial
    | none => exact runs_named hself

lemma runs_whole (expr : ExprParser) : Runs (whole expr self) :=
  ((runs_closed hself expr).sepBy1 _).after fun _ => (gives_reserved? _).after fun _ =>
    .ite (runs_captured.after fun _ => .pure trivial) (.pure trivial)

end

lemma runs_parse (expr : ExprParser) (depth : Nat) : Runs (parse expr depth) := by
  induction depth with
  | zero => exact .failure
  | succ depth ih => exact runs_whole ih expr

end ProbeCatalog.Syntax.Matching
