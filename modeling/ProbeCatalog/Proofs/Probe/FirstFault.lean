import ProbeCatalog.Proofs.Probe.Annotations
import ProbeCatalog.Proofs.Probe.Rules

/-!
# The first broken rule

`extract` lowers exactly the methods that keep all rules, and of a method that breaks several it
tells the first rule in the list, at the first place that breaks it.

Functions of the 3.11 grammar have no type parameters, so the rule against them has nothing to
look at here.
-/
namespace ProbeCatalog.Extraction

open Syntax

/-- The rules for methods. -/
inductive Rule where
  | notAsync
  | name
  | notSpecial
  | decorators
  | receiver
  | variadic
  | keywordOnly
  | defaults
  | count
  | returns
  | body
  | arguments

/-- The rules before the one for the arguments, in the order in which they count. -/
def Rule.early : List Rule :=
  [.notAsync, .name, .notSpecial, .decorators, .receiver, .variadic, .keywordOnly, .defaults,
    .count, .returns, .body]

/-- All rules, in the order in which they count. -/
def Rule.all : List Rule := Rule.early ++ [.arguments]

/-- The character may start the name of a probe. -/
def Starts (c : Char) : Prop := ('A' ≤ c ∧ c ≤ 'Z') ∨ ('a' ≤ c ∧ c ≤ 'z') ∨ c = '_'

/-- The character may stand in the name of a probe, after its start. -/
def Follows (c : Char) : Prop := Starts c ∨ ('0' ≤ c ∧ c ≤ '9')

/-- The statement does nothing. -/
def Idle (s : Stmt) : Prop :=
  s = .pass ∨ (∃ text marked, s = .expression (.constant (.string text marked))) ∨
    s = .expression (.constant .ellipsis)

/-- The parameter is annotated with a type. -/
def Typed (p : Param) (t : ArgType) : Prop :=
  ∃ hint, p.hint = some hint ∧ Hint.resolve hint = some t

/-- What a rule asks of a method. -/
def Keeps (f : FunctionDecl) : Rule → Prop
  | .notAsync => f.isAsync = false
  | .name => ∃ c cs, f.name.toList = c :: cs ∧ Starts c ∧ ∀ d ∈ cs, Follows d
  | .notSpecial => ¬ (['_', '_'] <+: f.name.toList ∧ ['_', '_'] <:+ f.name.toList)
  | .decorators => ∀ d ∈ f.decorators, d.value = .name "staticmethod"
  | .receiver => ∀ p ∈ f.params.byPosition.head?, p.name ≠ "self" ∧ p.name ≠ "cls"
  | .variadic => f.params.variadic = none ∧ f.params.variadicKeyword = none
  | .keywordOnly => f.params.keywordOnly = []
  | .defaults => ∀ p ∈ f.params.byPosition, p.default = none
  | .count => f.params.byPosition.length ≤ 12
  | .returns => ∀ r ∈ f.returns, r.value = .constant .none
  | .body => ∀ s ∈ f.body, Idle s.value
  | .arguments => ∀ p ∈ f.params.byPosition, ∃ t, Typed p t

/-- The first of a list that is not as it should be. -/
def First {α : Type} (good : α → Prop) (as : List α) (a : α) : Prop :=
  ∃ before after, as = before ++ a :: after ∧ (∀ b ∈ before, good b) ∧ ¬ good a

/-- What a method that breaks a rule is told, and what it is pointed at. -/
inductive Breaks (m : Located FunctionDecl) : Rule → MethodFault → Site → Prop
  | async (h : ¬ Keeps m.value .notAsync) : Breaks m .notAsync .async (.ofFunction m)
  | name (h : ¬ Keeps m.value .name) : Breaks m .name .name (.ofFunction m)
  | special (h : ¬ Keeps m.value .notSpecial) : Breaks m .notSpecial .special (.ofFunction m)
  | decorator {d : Located Expr}
      (h : First (fun d => d.value = .name "staticmethod") m.value.decorators d) :
      Breaks m .decorators .decorator (.ofExpr d)
  | receiver {p : Param} (h : m.value.params.byPosition.head? = some p)
      (hname : p.name = "self" ∨ p.name = "cls") : Breaks m .receiver .receiver (.ofParam p)
  | variadic (h : ¬ Keeps m.value .variadic) : Breaks m .variadic .variadic (.ofFunction m)
  | keywordOnly {p : Param} (h : m.value.params.keywordOnly.head? = some p) :
      Breaks m .keywordOnly .keywordOnly (.ofParam p)
  | default {p : Param} {e : Located Expr}
      (h : First (fun p => p.default = none) m.value.params.byPosition p)
      (he : p.default = some e) : Breaks m .defaults .default (.ofExpr e)
  | count (h : ¬ Keeps m.value .count) : Breaks m .count .tooManyArguments (.ofFunction m)
  | returns {r : Located Expr} (h : m.value.returns = some r) (hr : r.value ≠ .constant .none) :
      Breaks m .returns .returns (.ofExpr r)
  | body {s : Located Stmt} (h : First (fun s => Idle s.value) m.value.body s) :
      Breaks m .body .implementation (.ofStmt s)
  | unannotated {p : Param}
      (h : First (fun p => ∃ t, Typed p t) m.value.params.byPosition p) (hp : p.hint = none) :
      Breaks m .arguments (.unannotated p.name) (.ofParam p)
  | unsupported {p : Param} {hint : Expr}
      (h : First (fun p => ∃ t, Typed p t) m.value.params.byPosition p) (hp : p.hint = some hint) :
      Breaks m .arguments (.unsupported p.name) (.ofParam p)

/-! ### The rules as checks -/

section

variable {m : Located FunctionDecl} {r : Rejection}

/-- Rejects a method as a whole, if it is at fault. -/
def here (m : Located FunctionDecl) (broken : Bool) (fault : MethodFault) : Except Rejection Unit :=
  if broken then reject fault (.ofFunction m) else .ok ()

/-- The check of one rule. -/
def check (m : Located FunctionDecl) : Rule → Except Rejection Unit
  | .notAsync => here m m.value.isAsync .async
  | .name => here m (!Identifier.isAsciiIdentifier m.value.name.toList) .name
  | .notSpecial => here m (isSpecial m.value.name.toList) .special
  | .decorators =>
    forbid (m.value.decorators.find? fun d => dottedName d.value ≠ some allowedDecorator) .decorator
      .ofExpr
  | .receiver =>
    forbid (m.value.params.byPosition.head?.filter fun p => receiverNames.contains p.name) .receiver
      .ofParam
  | .variadic =>
    here m (m.value.params.variadic.isSome || m.value.params.variadicKeyword.isSome) .variadic
  | .keywordOnly => forbid m.value.params.keywordOnly.head? .keywordOnly .ofParam
  | .defaults => forbid (Extraction.defaults m.value.params).head? .default .ofExpr
  | .count => here m (maxProbeArguments < m.value.params.byPosition.length) .tooManyArguments
  | .returns => forbid (returned m.value) .returns .ofExpr
  | .body => forbid (m.value.body.find? (!isFiller ·.value)) .implementation .ofStmt
  | .arguments => m.value.params.byPosition.mapM argument >>= fun _ => pure ()

lemma here_eq_error {broken : Bool} {fault : MethodFault} :
    here m broken fault = .error r ↔
      ¬ here m broken fault = .ok () ∧ r = ⟨.ofMethod fault, some (.ofFunction m)⟩ := by
  cases broken with
  | true =>
    constructor
    · intro h
      cases h
      exact ⟨nofun, rfl⟩
    · rintro ⟨-, rfl⟩
      rfl
  | false => exact iff_of_false nofun fun h => h.1 rfl

lemma forbid_eq_error {α : Type} {found : Option α} {fault : MethodFault} {site : α → Site} :
    forbid found fault site = .error r ↔
      ∃ a, found = some a ∧ r = ⟨.ofMethod fault, some (site a)⟩ := by
  cases found with
  | none => exact iff_of_false nofun (by rintro ⟨_, h, -⟩; cases h)
  | some a =>
    constructor
    · intro h
      cases h
      exact ⟨a, rfl, rfl⟩
    · rintro ⟨_, h, rfl⟩
      cases h
      rfl

/-! ### What the checks look for -/

lemma isAsciiIdentifier_iff {cs : List Char} : Identifier.isAsciiIdentifier cs = true ↔
    ∃ c rest, cs = c :: rest ∧ Starts c ∧ ∀ d ∈ rest, Follows d := by
  cases cs with
  | nil => exact iff_of_false nofun (by rintro ⟨_, _, h, -⟩; cases h)
  | cons c cs =>
    have hupper (c : Char) : c.isUpper = true ↔ 'A' ≤ c ∧ c ≤ 'Z' := decide_eq_true_iff
    have hlower (c : Char) : c.isLower = true ↔ 'a' ≤ c ∧ c ≤ 'z' :=
      Bool.and_eq_true_iff.trans (and_congr decide_eq_true_iff decide_eq_true_iff)
    have hletter (c : Char) : Identifier.isAsciiLetter c = true ∨ c = '_' ↔ Starts c := by
      rw [Identifier.isAsciiLetter, Bool.or_eq_true, hupper, hlower, or_assoc, Starts]
    have hdigit (c : Char) : c.isDigit = true ↔ '0' ≤ c ∧ c ≤ '9' := by
      simp [Char.isDigit, Char.le_def]
    have hfollows (d : Char) :
        (Identifier.isAsciiLetter d = true ∨ d.isDigit = true) ∨ d = '_' ↔ Follows d := by
      rw [Follows, ← hletter, ← hdigit, or_right_comm]
    simp [Identifier.isAsciiIdentifier, hletter, hfollows]

lemma isSpecial_iff {cs : List Char} :
    isSpecial cs = true ↔ ['_', '_'] <+: cs ∧ ['_', '_'] <:+ cs := by
  rw [isSpecial, Bool.and_eq_true, List.isPrefixOf_iff_prefix, List.isSuffixOf_iff_suffix]

/-- A dotted name without a dot is a name. -/
lemma dottedName_eq_iff {e : Expr} {name : String} (hname : '.' ∉ name.toList) :
    dottedName e = some name ↔ e = .name name := by
  constructor
  · intro h
    obtain ⟨ss, hss, rfl⟩ := Option.map_eq_some_iff.mp h
    rw [dottedSegments.eq_def] at hss
    split at hss
    · cases hss
      rw [String.intercalate_singleton]
    · obtain ⟨init, hinit, rfl⟩ := Option.map_eq_some_iff.mp hss
      rw [String.intercalate_append_of_ne_nil (Hint.ne_nil_of_dotted hinit)
        (List.cons_ne_nil _ _)] at hname
      exact absurd (by simp) hname
    · cases hss
  · rintro rfl
    rw [dottedName, dottedSegments, Option.map_some, String.intercalate_singleton]

lemma isFiller_iff {s : Stmt} : isFiller s = true ↔ Idle s := by
  constructor
  · intro h
    unfold isFiller at h
    split at h
    · exact Or.inl rfl
    · exact Or.inr (Or.inl ⟨_, _, rfl⟩)
    · exact Or.inr (Or.inr rfl)
    · cases h
  · rintro (rfl | ⟨text, marked, rfl⟩ | rfl) <;> rfl

lemma receiver_iff {p : Param} :
    receiverNames.contains p.name = true ↔ p.name = "self" ∨ p.name = "cls" := by
  simp [receiverNames]

lemma argument_eq_ok {p : Param} {a : Argument} :
    argument p = .ok a ↔ a.name = p.name ∧ Typed p a.type := by
  cases hp : p.hint with
  | none => simp [argument, Typed, hp, reject]
  | some hint =>
    cases ht : Hint.resolve hint with
    | none => simp [argument, Typed, hp, ht, reject]
    | some t =>
      have hiff : Typed p a.type ↔ a.type = t := by simp [Typed, hp, ht, eq_comm]
      have hok : argument p = .ok ⟨p.name, t⟩ := by simp only [argument, hp, ht]
      rw [hok, hiff, Except.ok.injEq]
      constructor
      · rintro rfl
        exact ⟨rfl, rfl⟩
      · rintro ⟨hname, rfl⟩
        rw [← hname]

lemma argument_eq_error {p : Param} : argument p = .error r ↔
    (p.hint = none ∧ r = ⟨.ofMethod (.unannotated p.name), some (.ofParam p)⟩) ∨
      ∃ hint, p.hint = some hint ∧ Hint.resolve hint = none ∧
        r = ⟨.ofMethod (.unsupported p.name), some (.ofParam p)⟩ := by
  cases hp : p.hint with
  | none => simp [argument, hp, reject, eq_comm]
  | some hint =>
    cases ht : Hint.resolve hint with
    | none => simp [argument, hp, ht, reject, eq_comm]
    | some t => simp [argument, hp, ht]

lemma succeeds_argument {p : Param} : Succeeds (argument p) ↔ ∃ t, Typed p t := by
  constructor
  · rintro ⟨a, ha⟩
    exact ⟨a.type, (argument_eq_ok.mp ha).2⟩
  · rintro ⟨t, ht⟩
    exact ⟨⟨p.name, t⟩, argument_eq_ok.mpr ⟨rfl, ht⟩⟩

/-- A search for what is at fault finds the first. -/
lemma find?_eq_some_iff_first {α : Type} {bad : α → Bool} {good : α → Prop}
    (h : ∀ a, bad a = true ↔ ¬ good a) {as : List α} {a : α} :
    as.find? bad = some a ↔ First good as a := by
  have hgood (a : α) : (!bad a) = true ↔ good a := by
    rw [Bool.not_eq_true', ← Bool.not_eq_true, h, not_not]
  rw [List.find?_eq_some_iff_append, First]
  simp only [h, hgood]
  constructor
  · rintro ⟨ha, before, after, heq, hbefore⟩
    exact ⟨before, after, heq, hbefore, ha⟩
  · rintro ⟨before, after, heq, hbefore, ha⟩
    exact ⟨ha, before, after, heq, hbefore⟩

lemma defaults_head?_eq_some {params : Params} {e : Located Expr} :
    (Extraction.defaults params).head? = some e ↔
      ∃ p, First (fun p => p.default = none) params.byPosition p ∧ p.default = some e := by
  rw [Extraction.defaults, List.head?_filterMap, List.findSome?_eq_some_iff]
  constructor
  · rintro ⟨before, p, after, heq, hp, hbefore⟩
    exact ⟨p, ⟨before, after, heq, hbefore, fun hnone => Option.some_ne_none e (hp.symm.trans hnone)⟩, hp⟩
  · rintro ⟨p, ⟨before, after, heq, hbefore, -⟩, hp⟩
    exact ⟨before, p, after, heq, hp, hbefore⟩

/-! ### Each check decides its rule -/

lemma check_eq_ok_iff {rule : Rule} : check m rule = .ok () ↔ Keeps m.value rule := by
  cases rule with
  | notAsync => exact here_eq_ok
  | name =>
    rw [Keeps, ← isAsciiIdentifier_iff, ← Bool.not_eq_false']
    exact here_eq_ok
  | notSpecial =>
    rw [Keeps, ← isSpecial_iff, Bool.not_eq_true]
    exact here_eq_ok
  | decorators =>
    have hallowed : '.' ∉ allowedDecorator.toList := by decide
    rw [check, forbid_eq_ok, List.find?_eq_none]
    simp only [decide_eq_true_eq, not_not, dottedName_eq_iff hallowed]
    rfl
  | receiver =>
    rw [check, forbid_eq_ok, receiver_eq_none]
    simp [Keeps, receiverNames]
  | variadic =>
    rw [check, here, here_eq_ok]
    simp [Keeps]
  | keywordOnly =>
    rw [check, forbid_eq_ok, List.head?_eq_none_iff, Keeps]
  | defaults =>
    rw [check, forbid_eq_ok, defaults_eq_none, Keeps]
  | count =>
    rw [check, here, here_eq_ok, decide_eq_false_iff_not, Nat.not_lt]
    rfl
  | returns =>
    rw [check, forbid_eq_ok, returned_eq_none]
    simp only [Keeps, Hint.isNone_iff]
  | body =>
    rw [check, forbid_eq_ok, List.find?_eq_none]
    simp [Keeps, isFiller_iff]
  | arguments =>
    rw [check, ← succeeds_unit, succeeds_bind_pure, succeeds_mapM, Keeps]
    simp only [succeeds_argument]

/-- A rule about the method as a whole is checked without looking for a place. -/
lemma check_here_eq_error {rule : Rule} {fault : MethodFault} {broken : Bool}
    (hcheck : check m rule = here m broken fault) : check m rule = .error r ↔
      ¬ Keeps m.value rule ∧ r = ⟨.ofMethod fault, some (.ofFunction m)⟩ := by
  rw [hcheck, here_eq_error, ← hcheck, check_eq_ok_iff]

lemma decorator_found {d : Located Expr} :
    m.value.decorators.find? (fun d => dottedName d.value ≠ some allowedDecorator) = some d ↔
      First (fun d => d.value = .name "staticmethod") m.value.decorators d := by
  have hallowed : '.' ∉ allowedDecorator.toList := by decide
  refine find?_eq_some_iff_first fun d => ?_
  rw [decide_eq_true_eq, ne_eq, dottedName_eq_iff hallowed]
  rfl

lemma statement_found {s : Located Stmt} :
    m.value.body.find? (!isFiller ·.value) = some s ↔
      First (fun s => Idle s.value) m.value.body s := by
  refine find?_eq_some_iff_first fun s => ?_
  rw [← isFiller_iff, Bool.not_eq_true', Bool.not_eq_true]

lemma receiver_found {p : Param} :
    (m.value.params.byPosition.head?.filter fun p => receiverNames.contains p.name) = some p ↔
      m.value.params.byPosition.head? = some p ∧ (p.name = "self" ∨ p.name = "cls") := by
  rw [Option.filter_eq_some_iff, receiver_iff]

lemma returned_found {e : Located Expr} :
    returned m.value = some e ↔ m.value.returns = some e ∧ e.value ≠ .constant .none := by
  rw [returned, Option.filter_eq_some_iff, Bool.not_eq_true', ← Bool.not_eq_true, Hint.isNone_iff]

lemma arguments_eq_error : check m .arguments = .error r ↔
    ∃ p, First (fun p => ∃ t, Typed p t) m.value.params.byPosition p ∧ argument p = .error r := by
  rw [check, bind_pure_eq_error, mapM_eq_error]
  simp only [succeeds_argument]
  constructor
  · rintro ⟨before, p, after, heq, hbefore, hp⟩
    have hnot : ¬ ∃ t, Typed p t := by
      rw [← succeeds_argument, not_succeeds]
      exact ⟨r, hp⟩
    exact ⟨p, ⟨before, after, heq, hbefore, hnot⟩, hp⟩
  · rintro ⟨p, ⟨before, after, heq, hbefore, -⟩, hp⟩
    exact ⟨before, p, after, heq, hbefore, hp⟩

lemma breaks_of_error {rule : Rule} (h : check m rule = .error r) :
    ∃ fault site, Breaks m rule fault site ∧ r = ⟨.ofMethod fault, some site⟩ := by
  cases rule with
  | notAsync =>
    obtain ⟨hbroken, rfl⟩ := (check_here_eq_error rfl).mp h
    exact ⟨_, _, .async hbroken, rfl⟩
  | name =>
    obtain ⟨hbroken, rfl⟩ := (check_here_eq_error rfl).mp h
    exact ⟨_, _, .name hbroken, rfl⟩
  | notSpecial =>
    obtain ⟨hbroken, rfl⟩ := (check_here_eq_error rfl).mp h
    exact ⟨_, _, .special hbroken, rfl⟩
  | decorators =>
    obtain ⟨d, hd, rfl⟩ := forbid_eq_error.mp h
    exact ⟨_, _, .decorator (decorator_found.mp hd), rfl⟩
  | receiver =>
    obtain ⟨p, hp, rfl⟩ := forbid_eq_error.mp h
    obtain ⟨hhead, hname⟩ := receiver_found.mp hp
    exact ⟨_, _, .receiver hhead hname, rfl⟩
  | variadic =>
    obtain ⟨hbroken, rfl⟩ := (check_here_eq_error rfl).mp h
    exact ⟨_, _, .variadic hbroken, rfl⟩
  | keywordOnly =>
    obtain ⟨p, hp, rfl⟩ := forbid_eq_error.mp h
    exact ⟨_, _, .keywordOnly hp, rfl⟩
  | defaults =>
    obtain ⟨e, he, rfl⟩ := forbid_eq_error.mp h
    obtain ⟨p, hp, hdefault⟩ := defaults_head?_eq_some.mp he
    exact ⟨_, _, .default hp hdefault, rfl⟩
  | count =>
    obtain ⟨hbroken, rfl⟩ := (check_here_eq_error rfl).mp h
    exact ⟨_, _, .count hbroken, rfl⟩
  | returns =>
    obtain ⟨e, he, rfl⟩ := forbid_eq_error.mp h
    obtain ⟨hreturns, hvalue⟩ := returned_found.mp he
    exact ⟨_, _, .returns hreturns hvalue, rfl⟩
  | body =>
    obtain ⟨s, hs, rfl⟩ := forbid_eq_error.mp h
    exact ⟨_, _, .body (statement_found.mp hs), rfl⟩
  | arguments =>
    obtain ⟨p, hfirst, hp⟩ := arguments_eq_error.mp h
    rcases argument_eq_error.mp hp with ⟨hhint, rfl⟩ | ⟨hint, hhint, -, rfl⟩
    · exact ⟨_, _, .unannotated hfirst hhint, rfl⟩
    · exact ⟨_, _, .unsupported hfirst hhint, rfl⟩

lemma error_of_breaks {rule : Rule} {fault : MethodFault} {site : Site}
    (h : Breaks m rule fault site) : check m rule = .error ⟨.ofMethod fault, some site⟩ := by
  cases h with
  | async h => exact (check_here_eq_error rfl).mpr ⟨h, rfl⟩
  | name h => exact (check_here_eq_error rfl).mpr ⟨h, rfl⟩
  | special h => exact (check_here_eq_error rfl).mpr ⟨h, rfl⟩
  | decorator h => exact forbid_eq_error.mpr ⟨_, decorator_found.mpr h, rfl⟩
  | receiver h hname => exact forbid_eq_error.mpr ⟨_, receiver_found.mpr ⟨h, hname⟩, rfl⟩
  | variadic h => exact (check_here_eq_error rfl).mpr ⟨h, rfl⟩
  | keywordOnly h => exact forbid_eq_error.mpr ⟨_, h, rfl⟩
  | default h he => exact forbid_eq_error.mpr ⟨_, defaults_head?_eq_some.mpr ⟨_, h, he⟩, rfl⟩
  | count h => exact (check_here_eq_error rfl).mpr ⟨h, rfl⟩
  | returns h hr => exact forbid_eq_error.mpr ⟨_, returned_found.mpr ⟨h, hr⟩, rfl⟩
  | body h => exact forbid_eq_error.mpr ⟨_, statement_found.mpr h, rfl⟩
  | unannotated h hp => exact arguments_eq_error.mpr ⟨_, h, argument_eq_error.mpr (.inl ⟨hp, rfl⟩)⟩
  | @unsupported p hint h hp =>
    have hnone : Hint.resolve hint = none := by
      obtain ⟨-, -, -, -, hnot⟩ := h
      rw [Option.eq_none_iff_forall_ne_some]
      intro t ht
      exact hnot ⟨t, hint, hp, ht⟩
    exact arguments_eq_error.mpr ⟨p, h, argument_eq_error.mpr (.inr ⟨hint, hp, hnone, rfl⟩)⟩

/-! ### The whole method -/

lemma forall_rule {p : Rule → Prop} :
    (∀ rule, p rule) ↔ (∀ rule ∈ Rule.early, p rule) ∧ p .arguments := by
  constructor
  · exact fun h => ⟨fun rule _ => h rule, h .arguments⟩
  · rintro ⟨hearly, hlast⟩ rule
    cases rule with
    | arguments => exact hlast
    | _ => exact hearly _ (by simp [Rule.early])

lemma extract_eq_checks {c : Located ClassDecl} :
    extract c m = (Rule.early.forM (check m) >>= fun _ =>
      m.value.params.byPosition.mapM argument >>= fun args => pure ⟨m.value.name, args⟩) := by
  simp only [Rule.early, List.forM, bind_assoc, pure_bind]
  rfl

lemma forM_all :
    Rule.all.forM (check m) = (Rule.early.forM (check m) >>= fun _ => check m .arguments) := by
  simp only [Rule.all, Rule.early, List.cons_append, List.nil_append, List.forM, bind_assoc,
    bind_pure_unit]

lemma early_eq_ok :
    Rule.early.forM (check m) = .ok () ↔ ∀ rule ∈ Rule.early, Keeps m.value rule := by
  rw [forM_eq_ok]
  simp only [check_eq_ok_iff]

/-- A method fails as its checks do, one after the other. -/
lemma extract_eq_error {c : Located ClassDecl} :
    extract c m = .error r ↔ Rule.all.forM (check m) = .error r := by
  rw [extract_eq_checks, forM_all, bind_eq_error (f := fun _ => check m .arguments), bind_eq_error,
    check]
  refine or_congr Iff.rfl (exists_congr fun _ => and_congr Iff.rfl ?_)
  rw [bind_pure_eq_error, bind_pure_eq_error]

/-- A method is lowered to its name and its typed parameters. -/
lemma extract_eq_ok_iff {c : Located ClassDecl} {p : Probe} :
    extract c m = .ok p ↔ (∀ rule ∈ Rule.early, Keeps m.value rule) ∧ p.name = m.value.name ∧
      List.Forall₂ (fun param arg => arg.name = param.name ∧ Typed param arg.type)
        m.value.params.byPosition p.args := by
  rw [extract_eq_checks, check_eq_ok, early_eq_ok, bind_eq_ok]
  simp only [mapM_eq_ok, argument_eq_ok]
  constructor
  · rintro ⟨hearly, args, hargs, h⟩
    cases h
    exact ⟨hearly, rfl, hargs⟩
  · rintro ⟨hearly, hname, hargs⟩
    refine ⟨hearly, p.args, hargs, ?_⟩
    rw [← hname]
    rfl

lemma typed_of_forall₂ {params : List Param} {args : List Argument}
    (h : List.Forall₂ (fun param arg => arg.name = param.name ∧ Typed param arg.type) params args) :
    ∀ p ∈ params, ∃ t, Typed p t := by
  intro p hp
  obtain ⟨a, -, -, ht⟩ := exists_of_forall₂ h.flip p hp
  exact ⟨a.type, ht⟩

end

end ProbeCatalog.Extraction
