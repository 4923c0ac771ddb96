import ProbeCatalog.Proofs.Provider.Origins
import ProbeCatalog.Proofs.Syntax.Alike.Printing

/-!
# Providers do not depend on places

Of two classes that differ in places only, either is a provider if the other is, and the providers
have one name, one hash, one text and the same probes.
-/
namespace ProbeCatalog

open Syntax

/-! ### Names and annotations -/

lemma dottedSegments_eq {e e' : Expr} (h : Expr.Like e e') :
    dottedSegments e = dottedSegments e' := by
  cases h with
  | «attribute» id h => rw [dottedSegments, dottedSegments, dottedSegments_eq h]
  | _ => rfl
termination_by sizeOf e

lemma dottedName_eq {e e' : Expr} (h : Expr.Like e e') : dottedName e = dottedName e' := by
  rw [dottedName, dottedName, dottedSegments_eq h]

lemma lastSegment_eq {e e' : Expr} (h : Expr.Like e e') : lastSegment e = lastSegment e' := by
  rw [lastSegment, lastSegment, dottedSegments_eq h]

namespace Hint

lemma typeName_eq {e e' : Expr} (h : Expr.Like e e') : typeName e = typeName e' := by
  rw [typeName, typeName, dottedName_eq h]

lemma isNone_eq {e e' : Expr} (h : Expr.Like e e') : isNone e = isNone e' := by
  cases h <;> rfl

lemma weight_eq {e e' : Expr} (h : Expr.Like e e') : weight e = weight e' := by
  cases h with
  | subscript h hindex => rw [weight, weight, weight_eq hindex]
  | binary op hleft hright => rw [weight, weight, weight_eq hleft, weight_eq hright]
  | _ => rfl
termination_by sizeOf e

lemma resolveWithin_like (steps : Nat) {e e' : Expr} (h : Expr.Like e e') :
    resolveWithin steps e = resolveWithin steps e' := by
  induction steps generalizing e e' with
  | zero => rfl
  | succ steps ih =>
    cases h with
    | «attribute» id h =>
      rw [resolveWithin, resolveWithin, typeName_eq (.attribute id h)]
    | subscript h hindex => rw [resolveWithin, resolveWithin, typeName_eq h, ih hindex]
    | binary op hleft hright =>
      cases op with
      | bitOr =>
        rw [resolveWithin, resolveWithin, isNone_eq hleft, isNone_eq hright, ih hleft, ih hright]
      | _ => rfl
    | _ => rfl

lemma resolve_eq {e e' : Expr} (h : Expr.Like e e') : resolve e = resolve e' := by
  rw [resolve, resolve, weight_eq h, resolveWithin_like _ h]

end Hint

/-! ### Methods -/

lemma isFiller_of_isOther {s : Stmt} (h : s.isOther = true) : isFiller s = false := by
  cases s <;> first | rfl | cases h

/-- Statements that are alike do nothing, both or neither. -/
lemma isFiller_eq {s s' : Stmt} (h : Stmt.Like s s') : isFiller s = isFiller s' := by
  cases h with
  | expression h => cases h <;> rfl
  | other h h' => rw [isFiller_of_isOther h, isFiller_of_isOther h']
  | _ => rfl

/-- Statements that do nothing hold no places. -/
lemma eq_of_isFiller {s s' : Stmt} (h : Stmt.Like s s') (hs : isFiller s = true) : s = s' := by
  cases h with
  | expression h =>
    cases h with
    | constant c => rfl
    | _ => cases hs
  | pass => rfl
  | other h _ =>
    rw [isFiller_of_isOther h] at hs
    cases hs
  | _ => cases hs

/-- What succeeds for some items succeeds for related ones. -/
lemma mapM_like {ε α β γ : Type} {R : α → β → Prop} {f : α → Except ε γ} {g : β → Except ε γ}
    {as : List α} {bs : List β} (h : List.Forall₂ R as bs)
    (hf : ∀ a b c, R a b → f a = .ok c → g b = .ok c) {cs : List γ} (hcs : as.mapM f = .ok cs) :
    bs.mapM g = .ok cs := by
  rw [mapM_eq_ok] at hcs ⊢
  induction h generalizing cs with
  | nil =>
    cases hcs
    exact .nil
  | cons hab _ ih =>
    cases hcs with
    | cons hc hcs => exact .cons (hf _ _ _ hab hc) (ih hcs)

namespace Extraction

lemma byPosition_like {ps ps' : Params} (h : ParamsOf.Like Expr.Like ps ps') :
    List.Forall₂ (ParamOf.Like Expr.Like) ps.byPosition ps'.byPosition := by
  cases h with
  | intro honly hpositional => exact List.rel_append honly hpositional

lemma argument_like {p p' : Param} {a : Argument} (h : ParamOf.Like Expr.Like p p')
    (ha : argument p = .ok a) : argument p' = .ok a := by
  cases h with
  | intro hhint _ =>
    cases hhint with
    | none => cases ha
    | @some hint hint' hhint =>
      simp only [argument, Hint.resolve_eq hhint] at ha ⊢
      cases hresolve : Hint.resolve hint' with
      | none =>
        rw [hresolve] at ha
        cases ha
      | some type =>
        rw [hresolve] at ha
        exact ha

lemma exists_of_rel {α β : Type} {R : α → β → Prop} {x : Option α} {y : Option β}
    (h : Option.Rel R x y) : ∀ b ∈ y, ∃ a ∈ x, R a b := by
  rintro b rfl
  cases h with
  | some h => exact ⟨_, rfl, h⟩

lemma eq_none_of_rel {α β : Type} {R : α → β → Prop} {x : Option α} {y : Option β}
    (h : Option.Rel R x y) (hx : x = none) : y = none := by
  subst hx
  cases h
  rfl

lemma head?_rel {α β : Type} {R : α → β → Prop} {as : List α} {bs : List β}
    (h : List.Forall₂ R as bs) : Option.Rel R as.head? bs.head? := by
  cases h with
  | nil => exact .none
  | cons h _ => exact .some h

lemma Rules.like {f f' : FunctionDecl} (h : FunctionOf.Like Stmt.Like f f') (hf : Rules f) :
    Rules f' := by
  cases h with
  | intro hparams hreturns hbody hdecorators =>
    have hposition := byPosition_like hparams
    refine {
      notAsync := hf.notAsync
      name := hf.name
      notSpecial := hf.notSpecial
      decorators := fun d' hd' => ?_
      receiver := fun p' hp' => ?_
      variadic := ?_
      variadicKeyword := ?_
      keywordOnly := ?_
      noDefaults := fun p' hp' => ?_
      count := hposition.length_eq ▸ hf.count
      returns := fun r' hr' => ?_
      body := fun s' hs' => ?_ }
    · obtain ⟨d, hd, hlike⟩ := exists_of_forall₂ hdecorators d' hd'
      rw [← dottedName_eq hlike.value]
      exact hf.decorators d hd
    · obtain ⟨p, hp, hlike⟩ := exists_of_rel (head?_rel hposition) p' hp'
      have hname := hf.receiver p hp
      cases hlike
      exact hname
    · cases hparams with
      | intro _ _ hvariadic _ _ => exact eq_none_of_rel hvariadic hf.variadic
    · cases hparams with
      | intro _ _ _ _ hvariadicKeyword => exact eq_none_of_rel hvariadicKeyword hf.variadicKeyword
    · have hnone := hf.keywordOnly
      cases hparams with
      | intro _ _ _ hkeywordOnly _ =>
        dsimp only at hnone
        rwa [hnone, List.forall₂_nil_left_iff] at hkeywordOnly
    · obtain ⟨p, hp, hlike⟩ := exists_of_forall₂ hposition p' hp'
      have hnone := hf.noDefaults p hp
      cases hlike with
      | intro _ hdefault => exact eq_none_of_rel hdefault hnone
    · obtain ⟨r, hr, hlike⟩ := exists_of_rel hreturns r' hr'
      rw [← Hint.isNone_eq hlike.value]
      exact hf.returns r hr
    · obtain ⟨s, hs, hlike⟩ := exists_of_forall₂ hbody s' hs'
      rw [← isFiller_eq hlike.value]
      exact hf.body s hs

end Extraction

open Extraction in
/-- Methods that are alike declare the same probe. -/
lemma extract_like {c c' : Located ClassDecl} {m m' : Located FunctionDecl} {p : Probe}
    (h : Located.Like (FunctionOf.Like Stmt.Like) m m') (hp : extract c m = .ok p) :
    extract c' m' = .ok p := by
  obtain ⟨hrules, args, hargs, rfl⟩ := extract_eq_ok.mp hp
  cases h with
  | intro h =>
    refine extract_eq_ok.mpr ⟨hrules.like h, args, ?_, ?_⟩
    · cases h with
      | intro hparams _ _ _ =>
        exact mapM_like (byPosition_like hparams) (fun _ _ _ => argument_like) hargs
    · cases h
      rfl

/-! ### Texts -/

namespace Syntax.Printer

/-- The lines of the first statement of a body. -/
def opening (depth : Nat) : Stmt → Printed (List String)
  | .expression (.constant (.string text marked)) =>
    pure [indented depth (documentation text marked)]
  | s => stmt depth s

lemma documented_cons {depth : Nat} {pos : Position} {s : Stmt} {rest : Block} :
    documented depth (⟨pos, s⟩ :: rest) = (do
      let ls ← opening depth s
      let rs ← block depth rest
      pure (ls ++ rs)) := by
  rw [documented.eq_def]
  split
  · rename_i heq
    cases heq
  · rename_i heq
    cases heq
    rfl
  · rename_i hother heq
    cases heq
    rw [opening]
    exact fun text marked h => hother text marked (by rw [h])

/-- The statements have the same lines, also as the first of a body. -/
structure SameLines (s s' : Stmt) : Prop where
  stmt (depth : Nat) : stmt depth s = stmt depth s'
  opening (depth : Nat) : opening depth s = opening depth s'

/-- The statements of two blocks have the same lines, one by one. -/
abbrev SameBlocks (b b' : Block) : Prop := List.Forall₂ (Located.Like SameLines) b b'

lemma block_eq {b b' : Block} (h : SameBlocks b b') (depth : Nat) :
    block depth b = block depth b' := by
  induction h with
  | nil => rfl
  | cons h _ ih =>
    cases h with
    | intro h => rw [block, block, h.stmt, ih]

lemma documented_eq {b b' : Block} (h : SameBlocks b b') (depth : Nat) :
    documented depth b = documented depth b' := by
  cases h with
  | nil => rfl
  | cons h hs =>
    cases h with
    | intro h => rw [documented_cons, documented_cons, h.opening, block_eq hs]

lemma sameBlocks_of_isFiller {b b' : Block} (h : BlocksLike b b')
    (hb : ∀ s ∈ b, isFiller s.value = true) : SameBlocks b b' := by
  induction h with
  | nil => exact .nil
  | cons h _ ih =>
    obtain ⟨hs, hmore⟩ := List.forall_mem_cons.mp hb
    cases h with
    | intro h =>
      obtain rfl := eq_of_isFiller h hs
      exact .cons (.intro ⟨fun _ => rfl, fun _ => rfl⟩) (ih hmore)

/-- Functions whose bodies do nothing. -/
lemma sameLines_functionDef {f f' : FunctionDecl} (h : FunctionOf.Like Stmt.Like f f')
    (hf : ∀ s ∈ f.body, isFiller s.value = true) :
    SameLines (.functionDef f) (.functionDef f') := by
  have hstmt (depth : Nat) : stmt depth (.functionDef f) = stmt depth (.functionDef f') := by
    cases h with
    | intro hparams hreturns hbody hdecorators =>
      rw [stmt, stmt, decorators_eq hdecorators, functionHead_eq hparams hreturns,
        documented_eq (sameBlocks_of_isFiller hbody hf)]
  exact ⟨hstmt, hstmt⟩

end Syntax.Printer

namespace Provider

open Syntax.Printer

lemma isGenericBase_eq {e e' : Expr} (h : Expr.Like e e') : isGenericBase e = isGenericBase e' := by
  cases h with
  | subscript h _ => rw [isGenericBase, isGenericBase, lastSegment_eq h]
  | _ => rfl

lemma method?_of_isOther {pos : Position} {s : Stmt} (h : s.isOther = true) :
    method? ⟨pos, s⟩ = none := by
  cases s <;> first | rfl | cases h

/-- Statements that define functions that are alike, or both none. -/
lemma method?_rel {s s' : Located Stmt} (h : Located.Like Stmt.Like s s') :
    Option.Rel (Located.Like (FunctionOf.Like Stmt.Like)) (method? s) (method? s') := by
  cases h with
  | intro h =>
    cases h with
    | functionDef h => exact .some (.intro h)
    | other h h' => rw [method?_of_isOther h, method?_of_isOther h']; exact .none
    | _ => exact .none

lemma isForeign_eq {s s' : Located Stmt} (h : Located.Like Stmt.Like s s') :
    isForeign s = isForeign s' := by
  rw [isForeign, isForeign, isFiller_eq h.value, isNone_eq (method?_rel h)]

/-- The statements of a class whose methods are probes. -/
lemma sameBlocks_of_methods {c : Located ClassDecl} {b b' : Block} (h : BlocksLike b b')
    (hforeign : ∀ s ∈ b, isForeign s = false)
    (hprobes : ∀ s ∈ b, ∀ m, method? s = some m → ∃ p, extract c m = .ok p) :
    SameBlocks b b' := by
  induction h with
  | nil => exact .nil
  | cons h _ ih =>
    obtain ⟨hs, hforeign⟩ := List.forall_mem_cons.mp hforeign
    obtain ⟨hprobe, hprobes⟩ := List.forall_mem_cons.mp hprobes
    refine .cons ?_ (ih hforeign hprobes)
    rcases not_isForeign hs with hfiller | ⟨m, hm⟩
    · cases h with
      | intro h =>
        obtain rfl := eq_of_isFiller h hfiller
        exact .intro ⟨fun _ => rfl, fun _ => rfl⟩
    · obtain ⟨p, hp⟩ := hprobe m hm
      obtain ⟨hrules, -⟩ := extract_eq_ok.mp hp
      obtain rfl := method?_eq_some hm
      cases h with
      | intro h =>
        cases h with
        | functionDef h => exact .intro (sameLines_functionDef h hrules.body)
        | other h _ => cases h

variable {c c' : Located ClassDecl} {p : Provider}

lemma hasTypeParameters_of_findProbes {probes : List Probe}
    (h : findProbes extract c = .ok probes) : hasTypeParameters c.value = false := by
  rw [findProbes, mapError_eq_ok, findProbesBy] at h
  split at h
  · cases h
  · rename_i hparameters
    exact Bool.eq_false_iff.mpr hparameters

lemma findProbes_like {probes : List Probe} (h : Located.Like (ClassOf.Like Stmt.Like) c c')
    (hprobes : findProbes extract c = .ok probes) : findProbes extract c' = .ok probes := by
  obtain ⟨hmembers, hmethods⟩ := findProbes_eq_ok hprobes
  have hparameters := hasTypeParameters_of_findProbes hprobes
  cases h with
  | intro h =>
    cases h with
    | @intro _ bases bases' _ _ body body' _ _ hbases _ hbody _ =>
      have hbases' : bases'.any isGenericBase = false := by
        rw [← any_eq hbases fun _ _ => isGenericBase_eq]
        exact hparameters
      have hforeign : body'.find? isForeign = none := by
        rw [List.find?_eq_none]
        intro s' hs'
        obtain ⟨s, hs, hlike⟩ := exists_of_forall₂ hbody s' hs'
        rw [← isForeign_eq hlike, hmembers s hs]
        exact Bool.false_ne_true
      have hlike : List.Forall₂ (Located.Like (FunctionOf.Like Stmt.Like))
          (body.filterMap method?) (body'.filterMap method?) := by
        refine List.rel_filterMap (fun s s' h => ?_) hbody
        exact method?_rel h
      simp only [findProbes, findProbesBy, hasTypeParameters, hbases', hforeign]
      exact mapError_eq_ok.mpr <| mapError_eq_ok.mpr <|
        mapM_like hlike (fun _ _ _ => extract_like) hmethods

lemma text_like {probes : List Probe} (h : Located.Like (ClassOf.Like Stmt.Like) c c')
    (hprobes : findProbes extract c = .ok probes) :
    Declaration.text c.value = Declaration.text c'.value := by
  obtain ⟨hmembers, hmethods⟩ := findProbes_eq_ok hprobes
  have hextract (s : Located Stmt) (hs : s ∈ c.value.body) (m : Located FunctionDecl)
      (hm : method? s = some m) : ∃ p, extract c m = .ok p :=
    succeeds_mapM.mp ⟨probes, hmethods⟩ m (List.mem_filterMap.mpr ⟨s, hs, hm⟩)
  cases h with
  | intro h =>
    cases h with
    | intro hbases hks hbody hdecorators =>
      have hsame := sameBlocks_of_methods hbody hmembers hextract
      rw [Declaration.text, Declaration.text, statementText, statementText, stmt, stmt,
        decorators_eq hdecorators, classHead_eq hbases hks, documented_eq hsame]

/-- Classes that differ in places only give the same provider. -/
theorem ofClass_like (h : Located.Like (ClassOf.Like Stmt.Like) c c')
    (hp : ofClass extract c = .ok p) :
    ∃ p', ofClass extract c' = .ok p' ∧ p'.name = p.name ∧ p'.hash = p.hash ∧
      p'.canonicalText = p.canonicalText ∧ p'.probes = p.probes := by
  obtain ⟨hprobes, htext, hdeclaration, hfits⟩ := ofClass_eq_ok hp
  have hname : c'.value.name = c.value.name := by
    cases h with
    | intro h => cases h with
      | intro _ _ _ _ => rfl
  refine ⟨⟨p.name, p.hash, p.canonicalText, c'.value, p.probes⟩, ?_, rfl, rfl, rfl, rfl⟩
  rw [ofClass, findProbes_like h hprobes]
  dsimp only
  rw [describe, ← text_like h hprobes, htext]
  dsimp only
  rw [hfits.name, hfits.hash, hdeclaration, hname]

end Provider

end ProbeCatalog
