import Mathlib.Data.List.Nodup
import ProbeCatalog.Proofs.Json.Writing
import ProbeCatalog.Proofs.Outcome
import ProbeCatalog.Proofs.Text.Utf8
import ProbeCatalog.Provider.Record

/-!
# Stored providers read back

A record is well formed if its canonical text declares a class of its name and its hash is
that of the text. Well-formed records are read as they were written, others are refused, and
nothing else than well-formed records is ever read. The declaration that a provider carries
along is not compared: reading parses the canonical text anew.
-/
namespace ProbeCatalog

open Syntax

/-- The text consists of characters. -/
def Text.IsScalar (t : Text) : Prop := ∃ cs, t = Text.ofChars cs

/-- The texts of the probe consist of characters. -/
def Probe.IsScalar (p : Probe) : Prop :=
  p.name.IsScalar ∧
    ∀ a ∈ p.args, a.name.IsScalar ∧ a.type.declared.IsScalar ∧ a.type.lowered.IsScalar

lemma Text.ofString_injective : Function.Injective Text.ofString := by
  intro s t h
  have := congrArg Text.toString? h
  rwa [Text.toString?_ofString, Text.toString?_ofString, Option.some.injEq] at this

namespace Provider

/-- The texts of the probes consist of characters. -/
def IsScalar (p : Provider) : Prop := ∀ probe ∈ p.probes, probe.IsScalar

/-- The canonical text declares one class and this class has the name of the record; the hash
is that of the text. -/
def WellFormed (p : Provider) : Prop :=
  (∃ c, Declaration.parse p.canonicalText.toList = .ok c ∧ Name.ofClass c.value.name = p.name) ∧
    p.hash = Name.hashOf p.canonicalText

end Provider

/-! ### Fields -/

namespace Json

lemma lookup_of_mem {α : Type} {fields : List (Text × α)} (h : (fields.map (·.1)).Nodup)
    {key : Text} {a : α} (hmem : (key, a) ∈ fields) : fields.lookup key = some a := by
  induction fields with
  | nil => cases hmem
  | cons f fields ih =>
    rw [List.map_cons, List.nodup_cons] at h
    rw [List.lookup_cons]
    rcases List.mem_cons.mp hmem with heq | hmem
    · rw [← heq, beq_self_eq_true]
    · have hne : key ≠ f.1 := by
        rintro rfl
        exact h.1 (List.mem_map_of_mem (f := (·.1)) hmem)
      rw [beq_false_of_ne hne]
      exact ih h.2 hmem

lemma mem_of_lookup {α : Type} {fields : List (Text × α)} {key : Text} {a : α}
    (h : fields.lookup key = some a) : (key, a) ∈ fields := by
  obtain ⟨before, after, rfl, _⟩ := List.lookup_eq_some_iff.mp h
  simp

/-- Putting fields in order changes no field. -/
lemma field?_inOrder {fields : List (Text × Json)} (h : (fields.map (·.1)).Nodup) {key : Text}
    {v : Json} (hv : field? key fields = some v) :
    field? key ((inOrder fields).map fun f => (f.1, sorted f.2)) = some (sorted v) := by
  have hmem : (key, v) ∈ inOrder fields := (inOrder_perm fields).mem_iff.mpr (mem_of_lookup hv)
  apply lookup_of_mem
  · simpa [List.map_map, Function.comp_def] using nodup_inOrder h
  · exact List.mem_map.mpr ⟨(key, v), hmem, rfl⟩

end Json

namespace Record

/-- Fields under names. -/
def named (fields : List (String × Json)) : Fields :=
  fields.map fun f => (Text.ofString f.1, f.2)

lemma nodup_named {fields : List (String × Json)} (h : (fields.map (·.1)).Nodup) :
    ((named fields).map (·.1)).Nodup := by
  have := List.Nodup.map Text.ofString_injective h
  rwa [named, List.map_map] at *

/-- Every field of an object is found by its name, whatever the order of the fields. -/
lemma field?_sorted (fields : List (String × Json)) (h : (fields.map (·.1)).Nodup) (name : String)
    (v : Json) (hv : (name, v) ∈ fields) :
    Json.field? name ((Json.inOrder (named fields)).map fun f => (f.1, f.2.sorted)) =
      some v.sorted := by
  have hmem : (Text.ofString name, v) ∈ named fields :=
    List.mem_map_of_mem (f := fun f : String × Json => (Text.ofString f.1, f.2)) hv
  exact Json.field?_inOrder (nodup_named h) (Json.lookup_of_mem (nodup_named h) hmem)

lemma require_sorted (fields : List (String × Json)) (h : (fields.map (·.1)).Nodup) (name : String)
    (v : Json) (hv : (name, v) ∈ fields) :
    require ((Json.inOrder (named fields)).map fun f => (f.1, f.2.sorted)) name = .ok v.sorted := by
  rw [require, field?_sorted fields h name v hv]

lemma sorted_named (fields : List (String × Json)) :
    (Json.object (named fields)).sorted =
      .object ((Json.inOrder (named fields)).map fun f => (f.1, f.2.sorted)) :=
  Json.sorted_object _

/-! ### Probes read back -/

/-- The fields of an argument. -/
def argumentFields (a : Argument) : List (String × Json) :=
  [("name", .string a.name), ("python_type", .string a.type.declared),
    ("c_type", .string a.type.lowered), ("nullable", .bool a.type.nullable)]

lemma toArgument_sorted (a : Argument) : toArgument (ofArgument a).sorted = .ok a := by
  have hfields : ofArgument a = .object (named (argumentFields a)) := rfl
  have hfield := require_sorted (argumentFields a) (by simp [argumentFields])
  have hname := hfield "name" (.string a.name) (by simp [argumentFields])
  have hdeclared := hfield "python_type" (.string a.type.declared) (by simp [argumentFields])
  have hlowered := hfield "c_type" (.string a.type.lowered) (by simp [argumentFields])
  have hnullable := hfield "nullable" (.bool a.type.nullable) (by simp [argumentFields])
  rw [hfields, sorted_named, toArgument, requireText, requireText, requireText, requireBool, hname,
    hdeclared, hlowered, hnullable]
  rfl

/-- The fields of a probe. -/
def probeFields (p : Probe) : List (String × Json) :=
  [("name", .string p.name), ("args", .array (p.args.map ofArgument))]

lemma mapM_sorted {α : Type} {write : α → Json} {read : Json → Except FormatFault α}
    (h : ∀ a, read (write a).sorted = .ok a) (as : List α) :
    (Json.sortedItems (as.map write)).mapM read = .ok as := by
  rw [Json.sortedItems_eq_map]
  induction as with
  | nil => rfl
  | cons a as ih => rw [List.map_cons, List.map_cons, List.mapM_cons, h, ih]; rfl

lemma toProbe_sorted (p : Probe) : toProbe (ofProbe p).sorted = .ok p := by
  have hfields : ofProbe p = .object (named (probeFields p)) := rfl
  have hfield := require_sorted (probeFields p) (by simp [probeFields])
  have hname := hfield "name" (.string p.name) (by simp [probeFields])
  have hargs := hfield "args" (.array (p.args.map ofArgument)) (by simp [probeFields])
  have hitems := mapM_sorted toArgument_sorted p.args
  rw [hfields, sorted_named, toProbe, requireText, requireItems, hname, hargs]
  simp only [Json.sorted, bind, Except.bind, pure, Except.pure, hitems]

/-! ### Providers read back -/

/-- The fields of a provider. -/
def providerFields (p : Provider) : List (String × Json) :=
  [("version", .integer recordVersion), ("name", .string p.name), ("hash", .string p.hash),
    ("canonical_text", .string p.canonicalText), ("probes", .array (p.probes.map ofProbe))]

lemma parseText_ofString (s : String) : parseText (Text.ofString s) =
    match Declaration.parse s.toList with
    | .ok c => .ok (s, c.value)
    | .error r => .error (.notClass r) := by
  cases h : Declaration.parse s.toList with
  | error r => simp only [parseText, Text.ofString, Text.toChars?_ofChars, h]
  | ok c => simp only [parseText, Text.ofString, Text.toChars?_ofChars, h, String.ofList_toList]

/-- What the reader makes of a written record: the checks on its text, name and hash decide. -/
lemma toProvider_sorted (p : Provider) : toProvider (ofProvider p).sorted =
    match Declaration.parse p.canonicalText.toList with
    | .error r => .error (.notClass r)
    | .ok c =>
      if Name.hashOf p.canonicalText ≠ p.hash then
        .error (.hashMismatch p.name p.hash (Name.hashOf p.canonicalText))
      else if Name.ofClass c.value.name ≠ p.name then
        .error (.nameMismatch p.name (Name.ofClass c.value.name))
      else .ok { p with declaration := c.value } := by
  have hfields : ofProvider p = .object (named (providerFields p)) := rfl
  have hfield := require_sorted (providerFields p) (by simp [providerFields])
  have hname := hfield "name" (.string p.name) (by simp [providerFields])
  have hhash := hfield "hash" (.string p.hash) (by simp [providerFields])
  have htext := hfield "canonical_text" (.string p.canonicalText) (by simp [providerFields])
  have hprobes := hfield "probes" (.array (p.probes.map ofProbe)) (by simp [providerFields])
  have hitems := mapM_sorted toProbe_sorted p.probes
  rw [hfields, sorted_named, toProvider, requireText, requireText, requireText, requireItems,
    hname, hhash, htext, hprobes]
  simp only [Json.sorted, bind, Except.bind, pure, Except.pure, parseText_ofString]
  cases hc : Declaration.parse p.canonicalText.toList with
  | error r => rfl
  | ok c =>
    by_cases hh : Name.hashOf p.canonicalText = p.hash
    · by_cases hn : Name.ofClass c.value.name = p.name
      · simp [hh, hn, hitems]
      · have := Text.ofString_injective.ne hn
        simp [hh, hn, this]
        rfl
    · have := Text.ofString_injective.ne hh
      simp [hh, this]
      rfl

lemma decode_compact {v : Json} (h : v.Storable) :
    decode (Utf8.encode (Json.compact v).toList) = .ok v.sorted := by
  simp only [decode, Utf8.decode_encode, Json.read_compact h]

/-! ### What is written can be read -/

lemma storable_named {fields : List (String × Json)} (hkeys : (fields.map (·.1)).Nodup)
    (h : ∀ f ∈ fields, f.2.Storable) : (Json.object (named fields)).Storable := by
  refine .object (nodup_named hkeys) ?_ ?_
  · exact List.forall_mem_map.mpr fun f _ => ⟨f.1.toList, rfl⟩
  · exact List.forall_mem_map.mpr h

lemma storable_text {t : Text} (h : t.IsScalar) : (Json.string t).Storable := by
  obtain ⟨cs, rfl⟩ := h
  exact .string cs

lemma storable_ofArgument {a : Argument}
    (h : a.name.IsScalar ∧ a.type.declared.IsScalar ∧ a.type.lowered.IsScalar) :
    (ofArgument a).Storable := by
  have hfields : ∀ f ∈ argumentFields a, f.2.Storable := by
    simp only [argumentFields, List.forall_mem_cons]
    exact ⟨storable_text h.1, storable_text h.2.1, storable_text h.2.2, .bool _, by simp⟩
  exact storable_named (by simp [argumentFields]) hfields

lemma storable_ofProbe {p : Probe} (h : p.IsScalar) : (ofProbe p).Storable := by
  have hargs : (Json.array (p.args.map ofArgument)).Storable :=
    .array (List.forall_mem_map.mpr fun a ha => storable_ofArgument (h.2 a ha))
  have hfields : ∀ f ∈ probeFields p, f.2.Storable := by
    simp only [probeFields, List.forall_mem_cons]
    exact ⟨storable_text h.1, hargs, by simp⟩
  exact storable_named (by simp [probeFields]) hfields

lemma storable_ofProvider {p : Provider} (h : p.IsScalar) : (ofProvider p).Storable := by
  have htext (s : String) : (Json.string (Text.ofString s)).Storable := storable_text ⟨_, rfl⟩
  have hprobes : (Json.array (p.probes.map ofProbe)).Storable :=
    .array (List.forall_mem_map.mpr fun probe hp => storable_ofProbe (h probe hp))
  have hfields : ∀ f ∈ providerFields p, f.2.Storable := by
    simp only [providerFields, List.forall_mem_cons]
    refine ⟨.integer _ ?_, htext _, htext _, htext _, hprobes, by simp⟩
    exact Nat.one_lt_pow (by decide) (by decide)
  exact storable_named (by simp [providerFields]) hfields

lemma read_serialize {p : Provider} (h : p.IsScalar) :
    read (serialize p) = lift (toProvider (ofProvider p).sorted) := by
  rw [read, serialize, write, decode_compact (storable_ofProvider h)]
  rfl

/-- A well-formed record is read with the declaration that its canonical text holds. -/
lemma toProvider_wellFormed {p : Provider} (h : p.WellFormed) :
    ∃ d, toProvider (ofProvider p).sorted = .ok { p with declaration := d } := by
  obtain ⟨⟨c, hc, hname⟩, hhash⟩ := h
  refine ⟨c.value, ?_⟩
  rw [toProvider_sorted, hc]
  simp only [hhash, hname, ne_eq, not_true, if_false]

lemma exists_read_serialize {p : Provider} (hscalar : p.IsScalar) (hwell : p.WellFormed) :
    ∃ q, read (serialize p) = .ok q ∧ q.same p = true := by
  obtain ⟨d, hd⟩ := toProvider_wellFormed hwell
  refine ⟨{ p with declaration := d }, ?_, by simp [Provider.same]⟩
  rw [read_serialize hscalar, hd]
  rfl

lemma toProvider_malformed {p : Provider} (h : ¬ p.WellFormed) :
    ∃ f, toProvider (ofProvider p).sorted = .error f := by
  rw [toProvider_sorted]
  cases hc : Declaration.parse p.canonicalText.toList with
  | error r => exact ⟨_, rfl⟩
  | ok c =>
    by_cases hhash : Name.hashOf p.canonicalText = p.hash
    · have hname : Name.ofClass c.value.name ≠ p.name := fun hn => h ⟨⟨c, hc, hn⟩, hhash.symm⟩
      simp only [hhash, ne_eq, not_true, if_false, hname, not_false_eq_true, if_true]
      exact ⟨_, rfl⟩
    · simp only [ne_eq, hhash, not_false_eq_true, if_true]
      exact ⟨_, rfl⟩

lemma toProviders_wellFormed {ps : List Provider} (h : ∀ p ∈ ps, p.WellFormed) :
    ∃ qs, (Json.sortedItems (ps.map ofProvider)).mapM toProvider = .ok qs ∧
      List.Forall₂ (fun q p => q.same p = true) qs ps := by
  rw [Json.sortedItems_eq_map]
  induction ps with
  | nil => exact ⟨[], rfl, .nil⟩
  | cons p ps ih =>
    obtain ⟨d, hd⟩ := toProvider_wellFormed (h p (by simp))
    obtain ⟨qs, hqs, hsame⟩ := ih fun p hp => h p (by simp [hp])
    refine ⟨{ p with declaration := d } :: qs, ?_, .cons (by simp [Provider.same]) hsame⟩
    rw [List.map_cons, List.map_cons, List.mapM_cons, hd, hqs]
    rfl

/-! ### What is read is well formed -/

lemma parseText_eq_ok {t : Text} {s : String} {d : ClassDecl} : parseText t = .ok (s, d) ↔
    t = Text.ofString s ∧ ∃ c, Declaration.parse s.toList = .ok c ∧ c.value = d := by
  constructor
  · intro h
    cases ht : t.toChars? with
    | none => simp only [parseText, ht] at h; cases h
    | some cs =>
      cases hc : Declaration.parse cs with
      | error r => simp only [parseText, ht, hc] at h; cases h
      | ok c =>
        simp only [parseText, ht, hc, Except.ok.injEq, Prod.mk.injEq] at h
        obtain ⟨rfl, hd⟩ := h
        rw [Text.ofString, String.toList_ofList]
        exact ⟨Text.eq_ofChars ht, c, hc, hd⟩
  · rintro ⟨rfl, c, hc, rfl⟩
    rw [parseText_ofString, hc]

/-- What is read from an object, and the checks that it passed. -/
lemma toProvider_object {fields : Fields} {p : Provider} : toProvider (.object fields) = .ok p ↔
    requireText fields "name" = .ok p.name ∧ requireText fields "hash" = .ok p.hash ∧
      (∃ text, requireText fields "canonical_text" = .ok text ∧
        parseText text = .ok (p.canonicalText, p.declaration)) ∧
      (∃ items, requireItems fields "probes" = .ok items ∧ items.mapM toProbe = .ok p.probes) ∧
      p.hash = Name.hashOf p.canonicalText ∧ p.name = Name.ofClass p.declaration.name := by
  constructor
  · intro h
    simp only [toProvider, bind_eq_ok] at h
    obtain ⟨name, hname, hash, hhash, text, htext, items, hitems, ⟨source, d⟩, hparsed, h⟩ := h
    -- Kept closed, or the checker would compute the hash.
    generalize hcomputed : Name.hashOf source = computed at h
    generalize hexpected : Name.ofClass d.name = expected at h
    by_cases hh : Text.ofString computed = hash
    · by_cases hn : Text.ofString expected = name
      · simp only [hh, hn, ne_eq, not_true, if_false, bind_eq_ok] at h
        obtain ⟨probes, hprobes, h⟩ := h
        cases h
        rw [← hn] at hname
        rw [← hh] at hhash
        exact ⟨hname, hhash, ⟨text, htext, hparsed⟩, ⟨items, hitems, hprobes⟩, hcomputed.symm,
          hexpected.symm⟩
      · simp only [hh, hn, ne_eq, not_true, if_false, not_false_eq_true, if_true] at h
        cases h
    · simp only [hh, ne_eq, not_false_eq_true, if_true] at h
      cases h
  · cases p with
    | mk name hash source d probes =>
      rintro ⟨hname, hhash, ⟨text, htext, hparsed⟩, ⟨items, hitems, hprobes⟩, hcomputed, hexpected⟩
      simp only at hcomputed hexpected hparsed hprobes
      simp only [toProvider, bind_eq_ok]
      refine ⟨_, hname, _, hhash, text, htext, items, hitems, _, hparsed, ?_⟩
      simp only [← hcomputed, ← hexpected, ne_eq, not_true, if_false, hprobes]
      rfl

/-- The checks that a provider passed when it was read from a value. -/
lemma toProvider_eq_ok {v : Json} {p : Provider} (h : toProvider v = .ok p) :
    ∃ c, Declaration.parse p.canonicalText.toList = .ok c ∧ c.value = p.declaration ∧
      Name.ofClass c.value.name = p.name ∧ p.hash = Name.hashOf p.canonicalText := by
  cases v with
  | object fields =>
    obtain ⟨-, -, ⟨text, -, hparsed⟩, -, hhash, hname⟩ := toProvider_object.mp h
    obtain ⟨-, c, hc, hd⟩ := parseText_eq_ok.mp hparsed
    exact ⟨c, hc, hd, by rw [hd, hname], hhash⟩
  | _ => cases h

lemma wellFormed_of_toProvider {v : Json} {p : Provider} (h : toProvider v = .ok p) :
    p.WellFormed := by
  obtain ⟨c, hc, -, hname, hhash⟩ := toProvider_eq_ok h
  exact ⟨⟨c, hc, hname⟩, hhash⟩

/-- A provider that was read carries the declaration of its text, so it reads back whole. -/
lemma toProvider_of_toProvider {v : Json} {p : Provider} (h : toProvider v = .ok p) :
    toProvider (ofProvider p).sorted = .ok p := by
  obtain ⟨c, hc, hd, hname, hhash⟩ := toProvider_eq_ok h
  rw [toProvider_sorted, hc]
  simp only [hname, ← hhash, ne_eq, not_true, if_false]
  rw [hd]

lemma read_eq_ok {octets : List UInt8} {p : Provider} (h : read octets = .ok p) :
    ∃ v, toProvider v = .ok p := by
  obtain ⟨v, -, h⟩ := bind_eq_ok.mp h
  cases hv : toProvider v with
  | error f => rw [hv] at h; cases h
  | ok q =>
    rw [hv] at h
    cases h
    exact ⟨v, hv⟩

/-- Storing and reading providers. A well-formed record reads back as the same record, any
other is refused as not of the format; lists of well-formed records read back in order; what
is read from any octets is well formed and is a fixed point of writing and reading. -/
theorem storage_round_trip :
    (∀ p : Provider, p.IsScalar →
      (p.WellFormed → ∃ q, read (serialize p) = .ok q ∧ q.same p = true) ∧
      (¬ p.WellFormed → ∃ f, read (serialize p) = .error (.format f))) ∧
    (∀ ps : List Provider, (∀ p ∈ ps, p.IsScalar ∧ p.WellFormed) →
      ∃ qs, readAll (serializeAll ps) = .ok qs ∧
        List.Forall₂ (fun q p => q.same p = true) qs ps) ∧
    (∀ (octets : List UInt8) (p : Provider), read octets = .ok p →
      p.WellFormed ∧ (p.IsScalar → read (serialize p) = .ok p)) := by
  refine ⟨fun p hscalar => ⟨fun h => ?_, fun h => ?_⟩, fun ps h => ?_, fun octets p h => ?_⟩
  · obtain ⟨d, hd⟩ := toProvider_wellFormed h
    refine ⟨{ p with declaration := d }, ?_, by simp [Provider.same]⟩
    rw [read_serialize hscalar, hd]
    rfl
  · obtain ⟨f, hf⟩ := toProvider_malformed h
    refine ⟨f, ?_⟩
    rw [read_serialize hscalar, hf]
    rfl
  · obtain ⟨qs, hqs, hsame⟩ := toProviders_wellFormed fun p hp => (h p hp).2
    have hstorable : (Json.array (ps.map ofProvider)).Storable :=
      .array (List.forall_mem_map.mpr fun p hp => storable_ofProvider (h p hp).1)
    refine ⟨qs, ?_, hsame⟩
    rw [readAll, serializeAll, writeAll, decode_compact hstorable]
    simp only [Json.sorted, bind, Except.bind, hqs]
    rfl
  · obtain ⟨v, hv⟩ := read_eq_ok h
    refine ⟨wellFormed_of_toProvider hv, fun hscalar => ?_⟩
    rw [read_serialize hscalar, toProvider_of_toProvider hv]
    rfl

/-- The text of a class without members. -/
def clockText : String := "class Clock:\n    pass"

/-- A provider of this class under some hash, with a probe as if it had been stored so. -/
def clock (hash : String) : Provider :=
  ⟨"clock", hash, clockText, ⟨"Clock", [], [], [⟨⟨1, 1⟩, .pass⟩], []⟩,
    [⟨"tick", [⟨"at", ⟨"int", "int64", false⟩⟩]⟩]⟩

lemma isScalar_clock (hash : String) : (clock hash).IsScalar := by
  intro probe hp
  rw [List.mem_singleton.mp hp]
  refine ⟨⟨_, rfl⟩, fun a ha => ?_⟩
  rw [List.mem_singleton.mp ha]
  exact ⟨⟨_, rfl⟩, ⟨_, rfl⟩, ⟨_, rfl⟩⟩

lemma wellFormed_clock {hash : String} (h : hash = Name.hashOf clockText) :
    (clock hash).WellFormed := by
  have hname : (Declaration.parse clockText.toList).toOption.map
      (fun c => Name.ofClass c.value.name) = some "clock" := by decide +kernel
  exact ⟨toOption_map_eq_some.mp hname, h⟩

theorem storage_round_trip_clock :
    (∃ q, read (serialize (clock (Name.hashOf clockText))) = .ok q ∧
      q.same (clock (Name.hashOf clockText)) = true) ∧
    (∃ f, read (serialize (clock "")) = .error (.format f)) := by
  have hmalformed : ¬ (clock "").WellFormed := by
    rintro ⟨-, hhash⟩
    exact absurd hhash (by decide +kernel)
  exact ⟨(storage_round_trip.1 _ (isScalar_clock _)).1 (wellFormed_clock rfl),
    (storage_round_trip.1 _ (isScalar_clock _)).2 hmalformed⟩

end Record

end ProbeCatalog
