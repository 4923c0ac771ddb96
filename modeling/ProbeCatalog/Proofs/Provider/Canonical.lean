import ProbeCatalog.Proofs.Probe.Rules
import ProbeCatalog.Proofs.Syntax.Rendering
import ProbeCatalog.Provider.Basic

/-!
# Classes that have a canonical text

The rules leave little to print in the body of a class, and all of it can be printed. Whether a
class in order has a canonical text is a question about its decorators, its bases and its
keywords only.
-/
namespace ProbeCatalog

open Syntax Printer

/-- The expressions that stand before the body of the class have texts. -/
def HeadRenders (c : ClassDecl) : Prop :=
  (∀ d ∈ c.decorators, Renders d.value) ∧ AllRender c.bases ∧ KeywordsRender c.keywords

lemma renders_of_dotted {e : Expr} {ss : List String} (h : dottedSegments e = some ss) :
    Renders e := by
  induction e using dottedSegments.induct generalizing ss with
  | case1 id => rw [Renders]; trivial
  | case2 value id ih =>
    rw [dottedSegments] at h
    obtain ⟨ss', h', -⟩ := Option.map_eq_some_iff.mp h
    rw [Renders]
    exact ih h'
  | case3 e hname hattribute =>
    rw [dottedSegments] at h
    · cases h
    · exact hname
    · exact hattribute

lemma renders_of_dottedName {e : Expr} {name : String} (h : dottedName e = some name) :
    Renders e := by
  obtain ⟨ss, hss, -⟩ := Option.map_eq_some_iff.mp h
  exact renders_of_dotted hss

namespace Hint

lemma renders_of_typeName {e : Expr} {name : String} (h : typeName e = some name) :
    Renders e := by
  obtain ⟨name', h', -⟩ := Option.map_eq_some_iff.mp h
  exact renders_of_dottedName h'

lemma renders_of_isNone {e : Expr} (h : isNone e = true) : Renders e := by
  unfold isNone at h
  split at h
  · rw [Renders]
    · trivial
    · exact nofun
  · cases h

/-- An annotation that stands for a type is built from names, literals and missing values. -/
lemma renders_of_resolveWithin {steps : Nat} {e : Expr} {t : ArgType}
    (h : resolveWithin steps e = some t) : Renders e := by
  induction steps, e using resolveWithin.induct generalizing t with
  | case1 e => cases h
  | case2 steps text marked _ =>
    rw [Renders]
    · trivial
    · exact nofun
  | case3 steps id => rw [Renders]; trivial
  | case4 steps value id =>
    obtain ⟨name, hname, -⟩ := Option.bind_eq_some_iff.mp h
    exact renders_of_typeName hname
  | case5 steps head index hhead ih =>
    rw [resolveWithin, if_pos hhead] at h
    obtain ⟨t', ht', -⟩ := Option.bind_eq_some_iff.mp h
    rw [Renders]
    exact ⟨renders_of_typeName hhead, ih ht'⟩
  | case6 steps head index hhead =>
    rw [resolveWithin, if_neg hhead] at h
    cases h
  | case7 steps left right hright ih =>
    rw [resolveWithin, if_pos hright] at h
    obtain ⟨t', ht', -⟩ := Option.bind_eq_some_iff.mp h
    rw [Renders]
    exact ⟨ih ht', renders_of_isNone hright⟩
  | case8 steps left right hright hleft ih =>
    rw [resolveWithin, if_neg hright, if_pos hleft] at h
    obtain ⟨t', ht', -⟩ := Option.bind_eq_some_iff.mp h
    rw [Renders]
    exact ⟨renders_of_isNone hleft, ih ht'⟩
  | case9 steps left right hright hleft =>
    rw [resolveWithin, if_neg hright, if_neg hleft] at h
    cases h
  | case10 steps e h1 h2 h3 h4 h5 =>
    rw [resolveWithin] at h
    · cases h
    all_goals assumption

end Hint

lemma renders_of_argument {p : Param} {a : Argument} (h : Extraction.argument p = .ok a)
    (hdefault : p.default = none) : ParamRenders p := by
  obtain ⟨pos, name, hint, default⟩ := p
  cases hdefault
  rw [ParamRenders]
  cases hint with
  | none => rw [MaybeRenders]; trivial
  | some e =>
    rw [MaybeRenders]
    simp only [Extraction.argument] at h
    split at h
    · cases h
    · exact Hint.renders_of_resolveWithin ‹_›

lemma paramsRender_iff {ps : List Param} : ParamsRender ps ↔ ∀ p ∈ ps, ParamRenders p := by
  induction ps with
  | nil => rw [ParamsRender]; exact iff_of_true trivial nofun
  | cons p ps ih => rw [ParamsRender, List.forall_mem_cons, ih]

/-! ### Statements -/

/-- A statement that has lines at every depth. -/
def HasLines (s : Stmt) : Prop := ∀ depth, Succeeds (stmt depth s)

lemma succeeds_block {depth : Nat} {b : Block} (h : ∀ s ∈ b, HasLines s.value) :
    Succeeds (block depth b) := by
  induction b with
  | nil => rw [block]; exact succeeds_pure _
  | cons s b ih =>
    obtain ⟨hs, hb⟩ := List.forall_mem_cons.mp h
    rw [block, succeeds_two]
    exact ⟨hs depth, ih hb⟩

/-- Documentation has a line, though it is not the line of a statement. -/
lemma succeeds_documented {depth : Nat} {b : Block} (h : ∀ s ∈ b, HasLines s.value) :
    Succeeds (documented depth b) := by
  rw [documented.eq_def]
  split
  · exact succeeds_pure _
  · rw [succeeds_bind_pure]
    exact succeeds_block (List.forall_mem_cons.mp h).2
  · obtain ⟨hs, hb⟩ := List.forall_mem_cons.mp h
    rw [succeeds_two]
    exact ⟨hs depth, succeeds_block hb⟩

lemma hasLines_of_isFiller {s : Stmt} (h : isFiller s = true) : HasLines s := by
  intro depth
  unfold isFiller at h
  split at h
  · exact ⟨_, rfl⟩
  · exact ⟨_, rfl⟩
  · exact ⟨_, rfl⟩
  · cases h

lemma succeeds_decorators {depth : Nat} {ds : List (Located Expr)} :
    Succeeds (decorators depth ds) ↔ ∀ d ∈ ds, Renders d.value := by
  induction ds with
  | nil => rw [decorators]; exact iff_of_true (succeeds_pure _) nofun
  | cons d ds ih =>
    rw [decorators, succeeds_two, ih, succeeds_expr, List.forall_mem_cons]

lemma succeeds_classHead {name : String} {bases : List Expr} {ks : List Keyword} :
    Succeeds (classHead name bases ks) ↔ AllRender bases ∧ KeywordsRender ks := by
  rw [classHead, succeeds_two, succeeds_exprs, succeeds_keywords]

lemma succeeds_functionHead {isAsync : Bool} {name : String} {ps : Params}
    {returns : Option (Located Expr)} :
    Succeeds (functionHead isAsync name ps returns) ↔
      ParametersRender ps ∧ MaybeRenders (returns.map (·.value)) := by
  rw [functionHead, succeeds_two, succeeds_parameters, after, succeeds_maybe]

/-- All parts of a method that keeps the rules have texts. -/
lemma hasLines_of_extract {c : Located ClassDecl} {m : Located FunctionDecl} {p : Probe}
    (h : extract c m = .ok p) : HasLines (.functionDef m.value) := by
  obtain ⟨hrules, args, hargs, -⟩ := extract_eq_ok.mp h
  have hpositional : ∀ p ∈ m.value.params.byPosition, ParamRenders p := by
    intro p hp
    obtain ⟨a, ha⟩ := succeeds_mapM.mp ⟨args, hargs⟩ p hp
    exact renders_of_argument ha (hrules.noDefaults p hp)
  have hreturns : MaybeRenders (m.value.returns.map (·.value)) := by
    cases hr : m.value.returns with
    | none => rw [Option.map_none, MaybeRenders]; trivial
    | some r =>
      rw [Option.map_some, MaybeRenders]
      exact Hint.renders_of_isNone (hrules.returns r hr)
  obtain ⟨pos, isAsync, name, ps, returns, body, ds⟩ := m
  intro depth
  rw [stmt, succeeds_three, succeeds_decorators, succeeds_functionHead]
  refine ⟨fun d hd => renders_of_dottedName (hrules.decorators d hd), ⟨?_, hreturns⟩,
    succeeds_documented fun s hs => hasLines_of_isFiller (hrules.body s hs)⟩
  obtain ⟨positionalOnly, positional, variadic, keywordOnly, variadicKeyword⟩ := ps
  obtain ⟨hpositionalOnly, hpositional⟩ := List.forall_mem_append.mp hpositional
  rw [ParametersRender, paramsRender_iff, paramsRender_iff,
    show variadic = none from hrules.variadic, show keywordOnly = [] from hrules.keywordOnly,
    show variadicKeyword = none from hrules.variadicKeyword, MaybeParamRenders, ParamsRender]
  exact ⟨hpositionalOnly, hpositional, trivial, trivial, trivial⟩

namespace Provider

/-- Nothing but fillers and methods stands in the body of a class in order. -/
lemma findProbes_eq_ok {extractor : Extractor} {c : Located ClassDecl} {probes : List Probe}
    (h : findProbes extractor c = .ok probes) :
    (∀ s ∈ c.value.body, isForeign s = false) ∧
      (methods c.value).mapM (extractor c) = .ok probes := by
  rw [findProbes, mapError_eq_ok, findProbesBy] at h
  split at h
  · cases h
  · split at h
    · cases h
    · rename_i hmember
      have hprobes := mapError_eq_ok.mp h
      exact ⟨fun s hs => by simpa using List.find?_eq_none.mp hmember s hs, hprobes⟩

lemma method?_eq_some {s : Located Stmt} {m : Located FunctionDecl} (h : method? s = some m) :
    s = ⟨m.pos, .functionDef m.value⟩ := by
  unfold method? at h
  split at h
  · cases h
    rfl
  · cases h

lemma method?_of_isFiller {s : Located Stmt} (h : isFiller s.value = true) :
    method? s = none := by
  unfold method?
  split
  · cases h
  · rfl

/-- What is not foreign is a filler or a method. -/
lemma not_isForeign {s : Located Stmt} (h : isForeign s = false) :
    isFiller s.value = true ∨ ∃ m, method? s = some m := by
  cases hfiller : isFiller s.value with
  | true => exact Or.inl rfl
  | false =>
    rw [isForeign, hfiller, Bool.not_false, Bool.true_and, Option.isNone_eq_false_iff,
      Option.isSome_iff_exists] at h
    exact Or.inr h

end Provider

/-- A class in order has a canonical text exactly if its head can be printed. -/
lemma succeeds_text {c : Located ClassDecl} {probes : List Probe}
    (h : Provider.findProbes extract c = .ok probes) :
    Succeeds (Declaration.text c.value) ↔ HeadRenders c.value := by
  obtain ⟨hmembers, hprobes⟩ := Provider.findProbes_eq_ok h
  have hbody : ∀ s ∈ c.value.body, HasLines s.value := by
    intro s hs
    rcases Provider.not_isForeign (hmembers s hs) with hfiller | ⟨m, hm⟩
    · exact hasLines_of_isFiller hfiller
    · obtain ⟨p, hp⟩ :=
        succeeds_mapM.mp ⟨probes, hprobes⟩ m (List.mem_filterMap.mpr ⟨s, hs, hm⟩)
      rw [Provider.method?_eq_some hm]
      exact hasLines_of_extract hp
  obtain ⟨pos, name, bases, ks, body, ds⟩ := c
  rw [Declaration.text, statementText, succeeds_map, stmt, succeeds_three, succeeds_decorators,
    succeeds_classHead, HeadRenders, iff_true_intro (succeeds_documented hbody), and_true]

end ProbeCatalog
