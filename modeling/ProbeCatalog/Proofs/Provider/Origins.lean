import ProbeCatalog.Cache.File
import ProbeCatalog.Proofs.Analysis.Loops
import ProbeCatalog.Proofs.Probe.Annotations
import ProbeCatalog.Proofs.Provider.Canonical
import ProbeCatalog.Proofs.Provider.Naming
import ProbeCatalog.Proofs.Provider.Storage

/-!
# Where providers come from

A provider comes from a class, from a source, from a scan or an analysis, from octets or from a
cache, or from another provider that was parted from its probes. Wherever it comes from, its
hash and its name fit its text and its class. If it was extracted by the rules for probes, the
probes have plain names and known types.
-/
namespace ProbeCatalog

open Syntax

namespace Provider

/-- The provider comes from one of the places that give providers, in any number of steps. -/
inductive Obtained : Provider → Prop
  | ofClass {extractor : Extractor} {c : Located ClassDecl} {p : Provider}
      (h : ofClass extractor c = .ok p) : Obtained p
  | ofSource {extractor : Extractor} {source : List Char} {p : Provider}
      (h : ofSource extractor source = .ok p) : Obtained p
  | scan {extractor : Extractor} {rule : MarkerRule} {block : Block} {ps : List Provider}
      {p : Provider} (h : Scanner.scan extractor rule block = .ok ps) (hp : p ∈ ps) : Obtained p
  | analyze {a : Analysis.Analyzer} {root : Route} {project : Entry}
      {found : List Discovered} {errors : List FileError} {d : Discovered}
      (h : Analysis.analyze a root project = .ok (found, errors)) (hd : d ∈ found) :
      Obtained d.provider
  | separate {p : Provider} (h : Obtained p) : Obtained p.separate.1
  | read {octets : List UInt8} {p : Provider} (h : Record.read octets = .ok p) : Obtained p
  | readAll {octets : List UInt8} {ps : List Provider} {p : Provider}
      (h : Record.readAll octets = .ok ps) (hp : p ∈ ps) : Obtained p
  | load {d : Disk} {r : Route} {key : String} {p : Provider}
      (h : (Cache.load d r key).2 = .ok (some p)) : Obtained p

/-- The provider was extracted by the rules for probes. -/
inductive Extracted : Provider → Prop
  | ofClass {c : Located ClassDecl} {p : Provider} (h : ofClass extract c = .ok p) : Extracted p
  | ofSource {source : List Char} {p : Provider} (h : ofSource extract source = .ok p) :
      Extracted p
  | scan {rule : MarkerRule} {block : Block} {ps : List Provider} {p : Provider}
      (h : Scanner.scan extract rule block = .ok ps) (hp : p ∈ ps) : Extracted p
  | analyze {markers : List String} {matcher : Option Ignore.Matcher} {root : Route}
      {project : Entry} {found : List Discovered} {errors : List FileError} {d : Discovered}
      (h : Analysis.analyze ⟨extract, markers, matcher⟩ root project = .ok (found, errors))
      (hd : d ∈ found) : Extracted d.provider

/-- The hash is that of the text and the name that of the class. -/
structure Fits (p : Provider) : Prop where
  hash : p.hash = Name.hashOf p.canonicalText
  name : p.name = Name.ofClass p.declaration.name

/-! ### One class -/

lemma ofClass_eq_ok {extractor : Extractor} {c : Located ClassDecl} {p : Provider}
    (h : ofClass extractor c = .ok p) :
    findProbes extractor c = .ok p.probes ∧ Declaration.text c.value = .ok p.canonicalText ∧
      p.declaration = c.value ∧ p.Fits := by
  rw [ofClass] at h
  cases hprobes : findProbes extractor c with
  | error r => rw [hprobes] at h; cases h
  | ok probes =>
    simp only [hprobes, describe] at h
    cases htext : Declaration.text c.value with
    | error u => rw [htext] at h; cases h
    | ok text =>
      rw [htext] at h
      simp only at h
      -- Kept closed, or the checker would compute the hash.
      generalize hhash : Name.hashOf text = hash at h
      generalize hname : Name.ofClass c.value.name = name at h
      cases h
      exact ⟨rfl, rfl, rfl, hhash.symm, hname.symm⟩

lemma ofSource_eq_ok {extractor : Extractor} {source : List Char} {p : Provider}
    (h : ofSource extractor source = .ok p) : ∃ c, ofClass extractor c = .ok p := by
  rw [ofSource] at h
  cases hc : Declaration.parse source with
  | error r => rw [hc] at h; cases h
  | ok c =>
    rw [hc] at h
    exact ⟨c, h⟩

lemma exists_of_scan {extractor : Extractor} {rule : MarkerRule} {block : Block}
    {ps : List Provider} {p : Provider} (h : Scanner.scan extractor rule block = .ok ps)
    (hp : p ∈ ps) : ∃ c, ofClass extractor c = .ok p := by
  rw [Scanner.scan, Analysis.accepted_eq_sift, Analysis.sift_eq_ok] at h
  obtain ⟨-, rfl⟩ := h
  obtain ⟨c, -, hc⟩ := List.mem_filterMap.mp hp
  exact ⟨c, Analysis.provider?_eq_some.mp hc⟩

lemma exists_of_analyze {a : Analysis.Analyzer} {root : Route} {project : Entry}
    {found : List Discovered} {errors : List FileError} {d : Discovered}
    (h : Analysis.analyze a root project = .ok (found, errors)) (hd : d ∈ found) :
    ∃ c, ofClass a.extractor c = .ok d.provider := by
  obtain ⟨matcher, unread, more, -, hvisit, -⟩ := Analysis.visitAll_eq_ok h
  obtain ⟨⟨parts, hparts, rfl⟩, -⟩ := Analysis.visit_eq_ok hvisit
  obtain ⟨part, hpart, hd⟩ := List.mem_flatten.mp hd
  obtain ⟨f, -, hf⟩ := exists_of_forall₂ hparts part hpart
  exact exists_of_scan (Analysis.scan_of_discover hf).2 (List.mem_map_of_mem hd)

/-! ### Stored providers -/

lemma fits_of_toProvider {v : Json} {p : Provider} (h : Record.toProvider v = .ok p) :
    p.Fits := by
  obtain ⟨c, -, hdeclaration, hname, hhash⟩ := Record.toProvider_eq_ok h
  exact ⟨hhash, by rw [← hdeclaration, hname]⟩

lemma fits_of_readAll {octets : List UInt8} {ps : List Provider} {p : Provider}
    (h : Record.readAll octets = .ok ps) (hp : p ∈ ps) : p.Fits := by
  obtain ⟨v, -, h⟩ := bind_eq_ok.mp h
  cases v with
  | array items =>
    cases hitems : items.mapM Record.toProvider with
    | error f => simp only [Record.lift, hitems] at h; cases h
    | ok qs =>
      simp only [Record.lift, hitems] at h
      cases h
      obtain ⟨v, -, hv⟩ := exists_of_forall₂ (mapM_eq_ok.mp hitems) p hp
      exact fits_of_toProvider hv
  | _ => cases h

/-- What is loaded was read from octets. -/
lemma exists_read_of_load {d : Disk} {r : Route} {key : String} {p : Provider}
    (h : (Cache.load d r key).2 = .ok (some p)) : ∃ octets, Record.read octets = .ok p := by
  rw [Cache.load] at h
  split at h
  · cases h
  · split at h
    · cases h
    · rename_i row _
      exact ⟨row.payload, by simpa [mapError_eq_ok, map_eq_ok] using h⟩

lemma fits_of_load {d : Disk} {r : Route} {key : String} {p : Provider}
    (h : (Cache.load d r key).2 = .ok (some p)) : p.Fits := by
  obtain ⟨octets, hread⟩ := exists_read_of_load h
  obtain ⟨v, hv⟩ := Record.read_eq_ok hread
  exact fits_of_toProvider hv

/-- No step on the way loses the fit. -/
lemma Obtained.fits {p : Provider} (h : Obtained p) : p.Fits := by
  induction h with
  | ofClass h => exact (ofClass_eq_ok h).2.2.2
  | ofSource h =>
    obtain ⟨c, hc⟩ := ofSource_eq_ok h
    exact (ofClass_eq_ok hc).2.2.2
  | scan h hp =>
    obtain ⟨c, hc⟩ := exists_of_scan h hp
    exact (ofClass_eq_ok hc).2.2.2
  | analyze h hd =>
    obtain ⟨c, hc⟩ := exists_of_analyze h hd
    exact (ofClass_eq_ok hc).2.2.2
  | separate _ ih => exact ⟨ih.hash, ih.name⟩
  | read h =>
    obtain ⟨v, hv⟩ := Record.read_eq_ok h
    exact fits_of_toProvider hv
  | readAll h hp => exact fits_of_readAll h hp
  | load h => exact fits_of_load h

lemma Fits.isUnique {p : Provider} (h : p.Fits) : Name.IsUnique p.uniqueName := by
  rw [uniqueName, h.name, h.hash]
  refine Name.isUnique_unique ?_ (Name.isHash_hashOf _)
  rw [Name.ofClass, String.toList_ofList]
  exact Name.words_snakeCase _

lemma Extracted.exists_ofClass {p : Provider} (h : Extracted p) :
    ∃ c, Provider.ofClass extract c = .ok p := by
  cases h with
  | ofClass h => exact ⟨_, h⟩
  | ofSource h => exact ofSource_eq_ok h
  | scan h hp => exact exists_of_scan h hp
  | analyze h hd => exact exists_of_analyze h hd

lemma Extracted.fits {p : Provider} (h : Extracted p) : p.Fits := by
  obtain ⟨c, hc⟩ := h.exists_ofClass
  exact (ofClass_eq_ok hc).2.2.2

end Provider

/-! ### Probes that keep the rules -/

/-- The types that arguments may have: those of the list of types, and text and octets that may
be missing. -/
inductive Hint.Known : ArgType → Prop
  | listed {name lowered : String} (h : (name, lowered) ∈ Hint.supported) :
      Known ⟨name, lowered, name = Hint.alwaysNullable⟩
  | optional {name : String} (h : name = "str" ∨ name = "bytes") : Known ⟨name, "char *", true⟩

namespace Hint

lemma known_of_typeOf? {name : String} {t : ArgType} (h : typeOf? name = some t) : Known t := by
  obtain ⟨lowered, hmem, rfl⟩ := mem_supported_of_typeOf? h
  exact .listed hmem

/-- What may be declared as missing is text or octets. -/
lemma mem_optionalTypes {name : String} (h : Text.ofString name ∈ optionalTypes) :
    name = "str" ∨ name = "bytes" := by
  rw [optionalTypes, List.mem_cons, List.mem_singleton] at h
  exact h.imp (fun h => Text.ofString_injective h) fun h => Text.ofString_injective h

lemma lowered_of_optional : ∀ entry ∈ supported,
    entry.1 = "str" ∨ entry.1 = "bytes" → entry.2 = "char *" := by decide

lemma known_of_nullable {t t' : ArgType} (ht : Known t) (h : nullable t = some t') :
    Known t' := by
  rw [nullable, Option.ite_none_right_eq_some] at h
  obtain ⟨hmem, h⟩ := h
  cases h
  cases ht with
  | @listed name lowered hlisted =>
    have hname := mem_optionalTypes hmem
    obtain rfl : lowered = "char *" := lowered_of_optional _ hlisted hname
    exact .optional hname
  | optional hname => exact .optional hname

/-- Each way to write an annotation gives a known type. -/
lemma known_of_resolveWithin {steps : Nat} {e : Expr} {t : ArgType}
    (h : resolveWithin steps e = some t) : Known t := by
  induction steps, e using resolveWithin.induct generalizing t with
  | case1 e => cases h
  | case2 steps text marked ih =>
    rw [resolveWithin] at h
    obtain ⟨cs, -, h⟩ := Option.bind_eq_some_iff.mp h
    obtain ⟨e, -, h⟩ := Option.bind_eq_some_iff.mp h
    exact ih e h
  | case3 steps id => exact known_of_typeOf? h
  | case4 steps value id =>
    obtain ⟨name, -, h⟩ := Option.bind_eq_some_iff.mp h
    exact known_of_typeOf? h
  | case5 steps head index hhead ih =>
    rw [resolveWithin, if_pos hhead] at h
    obtain ⟨t', ht', h⟩ := Option.bind_eq_some_iff.mp h
    exact known_of_nullable (ih ht') h
  | case6 steps head index hhead =>
    rw [resolveWithin, if_neg hhead] at h
    cases h
  | case7 steps left right hright ih =>
    rw [resolveWithin, if_pos hright] at h
    obtain ⟨t', ht', h⟩ := Option.bind_eq_some_iff.mp h
    exact known_of_nullable (ih ht') h
  | case8 steps left right hright hleft ih =>
    rw [resolveWithin, if_neg hright, if_pos hleft] at h
    obtain ⟨t', ht', h⟩ := Option.bind_eq_some_iff.mp h
    exact known_of_nullable (ih ht') h
  | case9 steps left right hright hleft =>
    rw [resolveWithin, if_neg hright, if_neg hleft] at h
    cases h
  | case10 steps e h1 h2 h3 h4 h5 =>
    rw [resolveWithin] at h
    · cases h
    all_goals assumption

lemma lowered_of_alwaysNullable : ∀ entry ∈ supported,
    entry.1 = alwaysNullable → entry.2 = "char *" := by decide

/-- Only text may be missing. -/
lemma Known.lowered {t : ArgType} (h : Known t) (hnullable : t.nullable = true) :
    t.lowered = Text.ofString "char *" := by
  cases h with
  | listed hlisted =>
    exact congrArg Text.ofString
      (lowered_of_alwaysNullable _ hlisted (of_decide_eq_true hnullable))
  | optional => rfl

lemma Known.isScalar {t : ArgType} (h : Known t) : t.declared.IsScalar ∧ t.lowered.IsScalar := by
  cases h with
  | listed h => exact ⟨⟨_, rfl⟩, ⟨_, rfl⟩⟩
  | optional h => exact ⟨⟨_, rfl⟩, ⟨_, rfl⟩⟩

end Hint

/-- What the name and the arguments of an extracted probe look like. -/
structure Probe.Lowered (p : Probe) : Prop where
  name : ∃ s : String, p.name = Text.ofString s ∧
    Identifier.isAsciiIdentifier s.toList = true ∧
    ¬ (['_', '_'] <+: s.toList ∧ ['_', '_'] <:+ s.toList)
  count : p.args.length ≤ 12
  types : ∀ a ∈ p.args, Hint.Known a.type

lemma known_of_argument {param : Param} {a : Argument}
    (h : Extraction.argument param = .ok a) : Hint.Known a.type := by
  rw [Extraction.argument] at h
  split at h
  · cases h
  · split at h
    · cases h
    · rename_i hresolve
      cases h
      exact Hint.known_of_resolveWithin hresolve

lemma lowered_of_extract {c : Located ClassDecl} {m : Located FunctionDecl} {p : Probe}
    (h : extract c m = .ok p) : p.Lowered := by
  obtain ⟨hrules, args, hargs, rfl⟩ := extract_eq_ok.mp h
  have hpairs := mapM_eq_ok.mp hargs
  refine ⟨⟨m.value.name, rfl, hrules.name, ?_⟩, ?_, ?_⟩
  · rintro ⟨hstart, hend⟩
    have := hrules.notSpecial
    rw [Extraction.isSpecial, List.isPrefixOf_iff_prefix.mpr hstart,
      List.isSuffixOf_iff_suffix.mpr hend] at this
    cases this
  · exact hpairs.length_eq ▸ hrules.count
  · intro a ha
    obtain ⟨param, -, hparam⟩ := exists_of_forall₂ hpairs a ha
    exact known_of_argument hparam

/-- The texts of an extracted probe are written with characters. -/
lemma isScalar_of_extract {c : Located ClassDecl} {m : Located FunctionDecl} {p : Probe}
    (h : extract c m = .ok p) : p.IsScalar := by
  obtain ⟨-, args, hargs, rfl⟩ := extract_eq_ok.mp h
  refine ⟨⟨_, rfl⟩, fun a ha => ?_⟩
  obtain ⟨param, -, hparam⟩ := exists_of_forall₂ (mapM_eq_ok.mp hargs) a ha
  refine ⟨?_, (known_of_argument hparam).isScalar⟩
  rw [Extraction.argument] at hparam
  split at hparam
  · cases hparam
  · split at hparam
    · cases hparam
    · cases hparam
      exact ⟨_, rfl⟩

/-- Each probe of an extracted provider comes from a method of its class. -/
lemma Provider.Extracted.exists_extract {p : Provider} (h : Extracted p) :
    ∀ probe ∈ p.probes, ∃ c m, extract c m = .ok probe := by
  obtain ⟨c, hc⟩ := h.exists_ofClass
  have hprobes := (findProbes_eq_ok (ofClass_eq_ok hc).1).2
  intro probe hprobe
  obtain ⟨m, -, hm⟩ := exists_of_forall₂ (mapM_eq_ok.mp hprobes) probe hprobe
  exact ⟨c, m, hm⟩

lemma Provider.Extracted.isScalar {p : Provider} (h : Extracted p) : p.IsScalar := by
  intro probe hprobe
  obtain ⟨c, m, hm⟩ := h.exists_extract probe hprobe
  exact isScalar_of_extract hm

lemma Provider.Extracted.lowered {p : Provider} (h : Extracted p) :
    ∀ probe ∈ p.probes, probe.Lowered := by
  intro probe hprobe
  obtain ⟨c, m, hm⟩ := h.exists_extract probe hprobe
  exact lowered_of_extract hm

/-- A class with one probe, whose argument may be missing. -/
def alarmSource : String := "class Alarm:\n  def ring(by: Optional[str]) -> None: ..."

lemma exists_alarm : ∃ p, Provider.ofSource extract alarmSource.toList = .ok p ∧
    p.probes = [⟨"ring", [⟨"by", ⟨"str", "char *", true⟩⟩]⟩] := by
  have hprobes : (Provider.ofSource extract alarmSource.toList).toOption.map (·.probes) =
      some [⟨"ring", [⟨"by", ⟨"str", "char *", true⟩⟩]⟩] := by decide +kernel
  exact toOption_map_eq_some.mp hprobes

end ProbeCatalog
