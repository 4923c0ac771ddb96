import ProbeCatalog.Probe.Extraction
import ProbeCatalog.Proofs.Outcome

/-!
# The rules for methods

`extract` has a result for exactly those methods that keep all rules, and the result is made
of the name and the arguments.
-/
namespace ProbeCatalog

open Syntax

namespace Extraction

/-- The rules that do not look into the annotations of arguments. -/
structure Rules (f : FunctionDecl) : Prop where
  notAsync : f.isAsync = false
  name : Identifier.isAsciiIdentifier f.name.toList = true
  notSpecial : isSpecial f.name.toList = false
  decorators : ∀ d ∈ f.decorators, dottedName d.value = some allowedDecorator
  receiver : ∀ p ∈ f.params.byPosition.head?, receiverNames.contains p.name = false
  variadic : f.params.variadic = none
  variadicKeyword : f.params.variadicKeyword = none
  keywordOnly : f.params.keywordOnly = []
  noDefaults : ∀ p ∈ f.params.byPosition, p.default = none
  count : f.params.byPosition.length ≤ maxProbeArguments
  returns : ∀ r ∈ f.returns, Hint.isNone r.value = true
  body : ∀ s ∈ f.body, isFiller s.value = true

lemma here_eq_ok {broken : Bool} {fault : MethodFault} {site : Site} :
    (if broken then reject fault site else .ok () : Except Rejection Unit) = .ok () ↔
      broken = false := by
  cases broken with
  | true => exact iff_of_false nofun nofun
  | false => exact iff_of_true rfl rfl

lemma forbid_eq_ok {α : Type} {found : Option α} {fault : MethodFault} {site : α → Site} :
    forbid found fault site = .ok () ↔ found = none := by
  cases found with
  | none => exact iff_of_true rfl rfl
  | some a => exact iff_of_false nofun nofun

lemma check_eq_ok {β : Type} {x : Except Rejection Unit} {f : Unit → Except Rejection β} {b : β} :
    (x >>= f) = .ok b ↔ x = .ok () ∧ f () = .ok b := by
  rw [bind_eq_ok]
  exact ⟨fun ⟨(), hx, hf⟩ => ⟨hx, hf⟩, fun ⟨hx, hf⟩ => ⟨(), hx, hf⟩⟩

lemma receiver_eq_none {ps : List Param} :
    (ps.head?.filter fun p => receiverNames.contains p.name) = none ↔
      ∀ p ∈ ps.head?, receiverNames.contains p.name = false := by
  cases ps with
  | nil => simp
  | cons p ps => simp [Option.filter]

lemma defaults_eq_none {params : Params} :
    (defaults params).head? = none ↔ ∀ p ∈ params.byPosition, p.default = none := by
  rw [List.head?_eq_none_iff, defaults, List.filterMap_eq_nil_iff]

lemma returned_eq_none {f : FunctionDecl} :
    returned f = none ↔ ∀ r ∈ f.returns, Hint.isNone r.value = true := by
  cases h : f.returns with
  | none => simp [returned, h]
  | some r => simp [returned, h, Option.filter]

end Extraction

open Extraction in
lemma extract_eq_ok {c : Located ClassDecl} {m : Located FunctionDecl} {p : Probe} :
    extract c m = .ok p ↔ Rules m.value ∧
      ∃ args, m.value.params.byPosition.mapM argument = .ok args ∧
        (⟨m.value.name, args⟩ : Probe) = p := by
  have hok (args : List Argument) : (pure ⟨m.value.name, args⟩ : Except Rejection Probe) = .ok p ↔
      (⟨m.value.name, args⟩ : Probe) = p := ⟨Except.ok.inj, congrArg _⟩
  simp only [extract, check_eq_ok, here_eq_ok, forbid_eq_ok, receiver_eq_none, defaults_eq_none,
    returned_eq_none]
  simp only [bind_eq_ok, hok]
  constructor
  · rintro ⟨hasync, hname, hspecial, hdecorator, hreceiver, hvariadic, hkeyword, hdefault, hcount,
      hreturns, hbody, hargs⟩
    refine ⟨?_, hargs⟩
    rw [Bool.or_eq_false_iff] at hvariadic
    exact {
      notAsync := hasync
      name := by simpa using hname
      notSpecial := hspecial
      decorators := by simpa using hdecorator
      receiver := hreceiver
      variadic := by simpa using hvariadic.1
      variadicKeyword := by simpa using hvariadic.2
      keywordOnly := by simpa using hkeyword
      noDefaults := hdefault
      count := by simpa using hcount
      returns := hreturns
      body := by simpa using hbody }
  · rintro ⟨h, hargs⟩
    exact ⟨h.notAsync, by simpa using h.name, h.notSpecial, by simpa using h.decorators, h.receiver,
      by simp [h.variadic, h.variadicKeyword], by simp [h.keywordOnly], h.noDefaults,
      by simpa using h.count, h.returns, by simpa using h.body, hargs⟩

end ProbeCatalog
