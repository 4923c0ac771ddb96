import ProbeCatalog.Proofs.Probe.FirstFault
import ProbeCatalog.Proofs.Provider.Canonical

/-!
# The phases of a class

What is said of a class that declares no probes depends on the phase in which it fails: its bases
come first, then all its members, and then the methods one after the other. A filler counts in none
of the phases. Only its bases give a class of the 3.11 grammar type parameters.
-/
namespace ProbeCatalog.Provider

open Syntax
open Extraction (Idle First)

/-- A chain of attributes that begins with a name. -/
inductive Chain : Expr → Prop
  | start (id : String) : Chain (.name id)
  | step {value : Expr} (id : String) (h : Chain value) : Chain (.attribute value id)

/-- The expression is a dotted name with a last segment. -/
def EndsIn (e : Expr) (last : String) : Prop :=
  e = .name last ∨ ∃ value, Chain value ∧ e = .attribute value last

/-- A base of the class is `Generic[..]` or `Protocol[..]`, from whatever module. -/
def TakesParameters (c : ClassDecl) : Prop :=
  ∃ head index, .subscript head index ∈ c.bases ∧ (EndsIn head "Generic" ∨ EndsIn head "Protocol")

/-- The statement may stand in the body of a class. -/
def Belongs (s : Located Stmt) : Prop := Idle s.value ∨ ∃ f, s.value = .functionDef f

/-- The extractor looks at nothing but the method. -/
def MethodOnly {ε : Type} (extractor : ExtractorOf ε) : Prop :=
  ∀ c c' m, extractor c m = extractor c' m

/-- A class with another body. -/
def withBody (c : Located ClassDecl) (b : Block) : Located ClassDecl :=
  ⟨c.pos, { c.value with body := b }⟩

/-- Fillers were put into a body or taken out of it. -/
inductive Repads (b : Block) : Block → Prop
  | refl : Repads b b
  | insert {before after : Block} {s : Located Stmt} (h : Repads b (before ++ after))
      (hs : Idle s.value) : Repads b (before ++ s :: after)
  | delete {before after : Block} {s : Located Stmt} (h : Repads b (before ++ s :: after))
      (hs : Idle s.value) : Repads b (before ++ after)

/-- The kind of a failure, without its place. -/
def kind {ε : Type} : Rejection ⊕ ε → Fault ⊕ ε := Sum.map (·.fault) id

/-! ### Bases -/

lemma exists_dottedSegments_iff {e : Expr} : (∃ ss, dottedSegments e = some ss) ↔ Chain e := by
  constructor
  · rintro ⟨ss, h⟩
    induction e using dottedSegments.induct generalizing ss with
    | case1 id => exact .start id
    | case2 value id ih =>
      obtain ⟨ss', h', -⟩ := Option.map_eq_some_iff.mp h
      exact .step id (ih ss' h')
    | case3 e hname hattribute =>
      rw [dottedSegments] at h
      · cases h
      · exact hname
      · exact hattribute
  · intro h
    induction h with
    | start id => exact ⟨[id], rfl⟩
    | step id _ ih =>
      obtain ⟨ss, hss⟩ := ih
      exact ⟨ss ++ [id], by rw [dottedSegments, hss, Option.map_some]⟩

lemma lastSegment_eq_some_iff {e : Expr} {last : String} :
    lastSegment e = some last ↔ EndsIn e last := by
  constructor
  · intro h
    obtain ⟨ss, hss, hlast⟩ := Option.bind_eq_some_iff.mp h
    rw [dottedSegments.eq_def] at hss
    split at hss
    · cases hss
      cases hlast
      exact Or.inl rfl
    · obtain ⟨init, hinit, rfl⟩ := Option.map_eq_some_iff.mp hss
      rw [List.getLast?_concat] at hlast
      cases hlast
      exact Or.inr ⟨_, exists_dottedSegments_iff.mp ⟨init, hinit⟩, rfl⟩
    · cases hss
  · rintro (rfl | ⟨value, hvalue, rfl⟩)
    · rfl
    · obtain ⟨ss, hss⟩ := exists_dottedSegments_iff.mpr hvalue
      simp [lastSegment, dottedSegments, hss]

lemma isGenericBase_iff {e : Expr} : isGenericBase e = true ↔
    ∃ head index, e = .subscript head index ∧ (EndsIn head "Generic" ∨ EndsIn head "Protocol") := by
  constructor
  · intro h
    unfold isGenericBase at h
    split at h
    · rename_i head index
      cases hlast : lastSegment head with
      | none =>
        rw [hlast] at h
        cases h
      | some last =>
        have hcases : last = "Generic" ∨ last = "Protocol" := by
          simpa [hlast, genericBases] using h
        have hends := lastSegment_eq_some_iff.mp hlast
        rcases hcases with rfl | rfl
        · exact ⟨head, index, rfl, Or.inl hends⟩
        · exact ⟨head, index, rfl, Or.inr hends⟩
    · cases h
  · rintro ⟨head, index, rfl, h | h⟩
    · rw [isGenericBase, lastSegment_eq_some_iff.mpr h]
      rfl
    · rw [isGenericBase, lastSegment_eq_some_iff.mpr h]
      rfl

lemma hasTypeParameters_iff {c : ClassDecl} : hasTypeParameters c = true ↔ TakesParameters c := by
  rw [hasTypeParameters, List.any_eq_true]
  constructor
  · rintro ⟨e, he, h⟩
    obtain ⟨head, index, rfl, hends⟩ := isGenericBase_iff.mp h
    exact ⟨head, index, he, hends⟩
  · rintro ⟨head, index, he, hends⟩
    exact ⟨_, he, isGenericBase_iff.mpr ⟨head, index, rfl, hends⟩⟩

/-! ### Members -/

lemma isForeign_iff {s : Located Stmt} : isForeign s = true ↔ ¬ Belongs s := by
  have hmethod : (method? s).isNone = true ↔ ¬ ∃ f, s.value = .functionDef f := by
    obtain ⟨pos, stmt⟩ := s
    cases stmt <;> simp [method?]
  rw [isForeign, Bool.and_eq_true, hmethod, Bool.not_eq_true', ← Bool.not_eq_true,
    Extraction.isFiller_iff, Belongs, not_or]

lemma find?_isForeign_eq_none {b : Block} : b.find? isForeign = none ↔ ∀ s ∈ b, Belongs s := by
  rw [List.find?_eq_none]
  simp only [isForeign_iff, not_not]

lemma find?_isForeign_eq_some {b : Block} {s : Located Stmt} :
    b.find? isForeign = some s ↔ First Belongs b s :=
  Extraction.find?_eq_some_iff_first fun _ => isForeign_iff

section

variable {ε : Type} {extractor : ExtractorOf ε} {c : Located ClassDecl}

/-- In order up to its methods, a class fails or succeeds as they do. -/
lemma findProbesBy_eq_mapM (hbases : ¬ TakesParameters c.value)
    (hbody : ∀ s ∈ c.value.body, Belongs s) :
    findProbesBy extractor c = ((methods c.value).mapM (extractor c)).mapError .inr := by
  rw [findProbesBy, if_neg (hasTypeParameters_iff.not.mpr hbases),
    find?_isForeign_eq_none.mpr hbody]

lemma findProbesBy_eq_foreign (hbases : ¬ TakesParameters c.value) {s : Located Stmt}
    (hs : First Belongs c.value.body s) : findProbesBy extractor c =
      .error (.inl ⟨.ofClass .otherContents, some (.ofStmt s)⟩) := by
  rw [findProbesBy, if_neg (hasTypeParameters_iff.not.mpr hbases), find?_isForeign_eq_some.mpr hs]

lemma findProbesBy_eq_generic (hbases : TakesParameters c.value) : findProbesBy extractor c =
    .error (.inl ⟨.ofClass .typeParameters, some (.ofClass c)⟩) := by
  rw [findProbesBy, if_pos (hasTypeParameters_iff.mpr hbases)]

/-- Every member belongs there, or there is a first one that does not. -/
lemma belong_or_first (b : Block) : (∀ s ∈ b, Belongs s) ∨ ∃ s, First Belongs b s := by
  cases h : b.find? isForeign with
  | none => exact Or.inl (find?_isForeign_eq_none.mp h)
  | some s => exact Or.inr ⟨s, find?_isForeign_eq_some.mp h⟩

/-- What the class itself is told: a base that gives type parameters comes before all members,
and the first foreign member before all methods. -/
lemma findProbesBy_eq_inl {r : Rejection} : findProbesBy extractor c = .error (.inl r) ↔
    (TakesParameters c.value ∧ r = ⟨.ofClass .typeParameters, some (.ofClass c)⟩) ∨
      (¬ TakesParameters c.value ∧ ∃ s, First Belongs c.value.body s ∧
        r = ⟨.ofClass .otherContents, some (.ofStmt s)⟩) := by
  by_cases hbases : TakesParameters c.value
  · rw [findProbesBy_eq_generic hbases]
    simp [hbases, eq_comm]
  · rcases belong_or_first c.value.body with hbody | ⟨s, hs⟩
    · rw [findProbesBy_eq_mapM hbases hbody, mapError_eq_error]
      constructor
      · rintro ⟨_, -, h⟩
        cases h
      · rintro (⟨h, -⟩ | ⟨-, s, hs, -⟩)
        · exact absurd h hbases
        · obtain ⟨before, after, heq, -, hnot⟩ := hs
          exact absurd (hbody s (by simp [heq])) hnot
    · rw [findProbesBy_eq_foreign hbases hs]
      constructor
      · intro h
        cases h
        exact Or.inr ⟨hbases, s, hs, rfl⟩
      · rintro (⟨h, -⟩ | ⟨-, s', hs', rfl⟩)
        · exact absurd h hbases
        · have heq := (find?_isForeign_eq_some.mpr hs).symm.trans (find?_isForeign_eq_some.mpr hs')
          cases heq
          rfl

/-- A class that is told nothing of its own is in order up to its methods. -/
lemma in_order_of_not_inl (h : ∀ r, findProbesBy extractor c ≠ .error (.inl r)) :
    ¬ TakesParameters c.value ∧ ∀ s ∈ c.value.body, Belongs s := by
  have hbases : ¬ TakesParameters c.value := fun hbases => h _ (findProbesBy_eq_generic hbases)
  rcases belong_or_first c.value.body with hbody | ⟨s, hs⟩
  · exact ⟨hbases, hbody⟩
  · exact absurd (findProbesBy_eq_foreign hbases hs) (h _)

lemma findProbesBy_eq_inr {e : ε} : findProbesBy extractor c = .error (.inr e) ↔
    ¬ TakesParameters c.value ∧ (∀ s ∈ c.value.body, Belongs s) ∧
      ∃ before m after, methods c.value = before ++ m :: after ∧
        (∀ m' ∈ before, Succeeds (extractor c m')) ∧ extractor c m = .error e := by
  constructor
  · intro h
    have hnot : ∀ r, findProbesBy extractor c ≠ .error (.inl r) := by
      rw [h]
      exact nofun
    obtain ⟨hbases, hbody⟩ := in_order_of_not_inl hnot
    rw [findProbesBy_eq_mapM hbases hbody, mapError_eq_error] at h
    obtain ⟨e', he', heq⟩ := h
    cases heq
    exact ⟨hbases, hbody, mapM_eq_error.mp he'⟩
  · rintro ⟨hbases, hbody, hfirst⟩
    rw [findProbesBy_eq_mapM hbases hbody, mapError_eq_error]
    exact ⟨e, mapM_eq_error.mpr hfirst, rfl⟩

lemma findProbesBy_eq_ok {probes : List Probe} : findProbesBy extractor c = .ok probes ↔
    ¬ TakesParameters c.value ∧ (∀ s ∈ c.value.body, Belongs s) ∧
      List.Forall₂ (fun m p => extractor c m = .ok p) (methods c.value) probes := by
  constructor
  · intro h
    have hnot : ∀ r, findProbesBy extractor c ≠ .error (.inl r) := by
      rw [h]
      exact nofun
    obtain ⟨hbases, hbody⟩ := in_order_of_not_inl hnot
    rw [findProbesBy_eq_mapM hbases hbody, mapError_eq_ok, mapM_eq_ok] at h
    exact ⟨hbases, hbody, h⟩
  · rintro ⟨hbases, hbody, hmethods⟩
    rw [findProbesBy_eq_mapM hbases hbody, mapError_eq_ok, mapM_eq_ok]
    exact hmethods

/-! ### Fillers -/

lemma isFiller_of_idle {s : Located Stmt} (hs : Idle s.value) :
    isForeign s = false ∧ method? s = none := by
  have hfiller := Extraction.isFiller_iff.mpr hs
  exact ⟨by rw [isForeign, hfiller]; rfl, method?_of_isFiller hfiller⟩

/-- A filler more is seen neither by the search for foreign members nor among the methods. -/
lemma filler_unseen {before after : Block} {s : Located Stmt} (hs : Idle s.value) :
    (before ++ s :: after).find? isForeign = (before ++ after).find? isForeign ∧
      (before ++ s :: after).filterMap method? = (before ++ after).filterMap method? := by
  obtain ⟨hforeign, hmethod⟩ := isFiller_of_idle hs
  constructor
  · rw [List.find?_append, List.find?_append, List.find?_cons_of_neg (by simp [hforeign])]
  · rw [List.filterMap_append, List.filterMap_append, List.filterMap_cons_none hmethod]

lemma Repads.unseen {b b' : Block} (h : Repads b b') :
    b'.find? isForeign = b.find? isForeign ∧ b'.filterMap method? = b.filterMap method? := by
  induction h with
  | refl => exact ⟨rfl, rfl⟩
  | insert _ hs ih => exact ⟨(filler_unseen hs).1.trans ih.1, (filler_unseen hs).2.trans ih.2⟩
  | delete _ hs ih =>
    exact ⟨(filler_unseen hs).1.symm.trans ih.1, (filler_unseen hs).2.symm.trans ih.2⟩

/-- All phases look past fillers. Only the site of a class may change with them. -/
lemma kind_of_repads (hextractor : MethodOnly extractor) {b : Block} (h : Repads c.value.body b) :
    (findProbesBy extractor (withBody c b)).mapError kind =
      (findProbesBy extractor c).mapError kind := by
  obtain ⟨hforeign, hmethods⟩ := h.unseen
  have hextract : extractor (withBody c b) = extractor c := funext (hextractor _ _)
  by_cases hbases : TakesParameters c.value
  · have hbases' : TakesParameters (withBody c b).value := hbases
    rw [findProbesBy_eq_generic hbases, findProbesBy_eq_generic hbases']
    rfl
  · have hbases' : ¬ TakesParameters (withBody c b).value := hbases
    rcases belong_or_first c.value.body with hbody | ⟨s, hs⟩
    · have hbody' : ∀ s ∈ (withBody c b).value.body, Belongs s :=
        find?_isForeign_eq_none.mp (hforeign.trans (find?_isForeign_eq_none.mpr hbody))
      rw [findProbesBy_eq_mapM hbases hbody, findProbesBy_eq_mapM hbases' hbody', hextract, methods,
        methods, ← hmethods, withBody]
    · have hs' : First Belongs (withBody c b).value.body s :=
        find?_isForeign_eq_some.mp (hforeign.trans (find?_isForeign_eq_some.mpr hs))
      rw [findProbesBy_eq_foreign hbases hs, findProbesBy_eq_foreign hbases' hs']

/-! ### Bodies in a row -/

lemma findProbesBy_withBody_eq_ok (hextractor : MethodOnly extractor) {b : Block}
    {probes : List Probe} : findProbesBy extractor (withBody c b) = .ok probes ↔
      ¬ TakesParameters c.value ∧ (∀ s ∈ b, Belongs s) ∧
        (b.filterMap method?).mapM (extractor c) = .ok probes := by
  have hextract : extractor (withBody c b) = extractor c := funext (hextractor _ _)
  rw [findProbesBy_eq_ok, ← mapM_eq_ok, hextract]
  rfl

lemma findProbesBy_append (hextractor : MethodOnly extractor) {b b' : Block} {probes : List Probe} :
    findProbesBy extractor (withBody c (b ++ b')) = .ok probes ↔
      ∃ ps ps', findProbesBy extractor (withBody c b) = .ok ps ∧
        findProbesBy extractor (withBody c b') = .ok ps' ∧ ps ++ ps' = probes := by
  simp only [findProbesBy_withBody_eq_ok hextractor, List.forall_mem_append,
    List.filterMap_append, mapM_append_eq_ok]
  constructor
  · rintro ⟨hparameters, ⟨hall, hall'⟩, ps, ps', hps, hps', heq⟩
    exact ⟨ps, ps', ⟨hparameters, hall, hps⟩, ⟨hparameters, hall', hps'⟩, heq⟩
  · rintro ⟨ps, ps', ⟨hparameters, hall, hps⟩, ⟨-, hall', hps'⟩, heq⟩
    exact ⟨hparameters, ⟨hall, hall'⟩, ps, ps', hps, hps', heq⟩

end

lemma methodOnly_extract : MethodOnly extract := fun _ _ _ => rfl

/-- A class with one method behind a filler. -/
def gauge : Located ClassDecl :=
  ⟨⟨1, 0⟩, "Gauge", [], [],
    [⟨⟨2, 4⟩, .pass⟩,
      ⟨⟨3, 4⟩, .functionDef ⟨false, "level",
        ⟨[], [⟨⟨3, 14⟩, "depth", some (.name "int"), none⟩], none, [], none⟩, none,
        [⟨⟨3, 27⟩, .pass⟩], []⟩⟩],
    []⟩

end ProbeCatalog.Provider
