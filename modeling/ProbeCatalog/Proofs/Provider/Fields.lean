import ProbeCatalog.Proofs.Provider.Storage

/-!
# What a stored record has to hold

A value is read as a provider exactly if it holds one: the fields that are looked at are there, each
of its kind, and the canonical text, the hash and the name belong together. The record that is read
holds these values and nothing else. Fields under other names decide nothing, neither what is read
nor which fault is told.
-/
namespace ProbeCatalog

open Syntax

namespace Record

/-! ### What values hold -/

/-- The value is an object whose fields hold something. -/
def Object {α : Type} (holds : Fields → α → Prop) (v : Json) (a : α) : Prop :=
  ∃ fields, v = .object fields ∧ holds fields a

/-- A field is an array each of whose items is an object that holds something, in order. -/
def Items {α : Type} (holds : Fields → α → Prop) (fields : Fields) (key : String)
    (as : List α) : Prop :=
  ∃ items, Json.field? key fields = some (.array items) ∧ List.Forall₂ (Object holds) items as

/-- The fields hold an argument: three texts and a truth value. -/
structure HoldsArgument (fields : Fields) (a : Argument) : Prop where
  name : Json.field? "name" fields = some (.string a.name)
  declared : Json.field? "python_type" fields = some (.string a.type.declared)
  lowered : Json.field? "c_type" fields = some (.string a.type.lowered)
  nullable : Json.field? "nullable" fields = some (.bool a.type.nullable)

/-- The fields hold a probe: a text and arguments. -/
structure HoldsProbe (fields : Fields) (p : Probe) : Prop where
  name : Json.field? "name" fields = some (.string p.name)
  args : Items HoldsArgument fields "args" p.args

/-- The fields hold a provider: three texts and probes. The canonical text is one class, of which
the name is that of the provider, and the hash is that of the text. -/
structure HoldsProvider (fields : Fields) (p : Provider) : Prop where
  name : Json.field? "name" fields = some (.string p.name)
  hash : Json.field? "hash" fields = some (.string p.hash)
  text : Json.field? "canonical_text" fields = some (.string p.canonicalText)
  probes : Items HoldsProbe fields "probes" p.probes
  oneClass : ∃ pos, parseModule p.canonicalText.toList = some [⟨pos, .classDef p.declaration⟩]
  hashed : p.hash = Name.hashOf p.canonicalText
  named : p.name = Name.ofClass p.declaration.name

/-! ### What values have in common -/

/-- Two objects agree on what is looked at in their fields, or neither value is an object. -/
inductive SameObject (same : Fields → Fields → Prop) : Json → Json → Prop
  | object {fields fields' : Fields} (h : same fields fields') :
      SameObject same (.object fields) (.object fields')
  | other {v w : Json} (hv : ∀ fields, v ≠ .object fields) (hw : ∀ fields, w ≠ .object fields) :
      SameObject same v w

/-- Two fields are arrays of objects that agree in order, or they are the same. -/
inductive SameItems (same : Fields → Fields → Prop) : Option Json → Option Json → Prop
  | items {vs ws : List Json} (h : List.Forall₂ (SameObject same) vs ws) :
      SameItems same (some (.array vs)) (some (.array ws))
  | refl (v : Option Json) : SameItems same v v

/-- The fields agree under a name. -/
def SameField (fields fields' : Fields) (key : String) : Prop :=
  Json.field? key fields = Json.field? key fields'

/-- The fields agree on an argument. -/
def SameArgument (fields fields' : Fields) : Prop :=
  SameField fields fields' "name" ∧ SameField fields fields' "python_type" ∧
    SameField fields fields' "c_type" ∧ SameField fields fields' "nullable"

/-- The fields agree on a probe, and those of its arguments on the arguments. -/
def SameProbe (fields fields' : Fields) : Prop :=
  SameField fields fields' "name" ∧
    SameItems SameArgument (Json.field? "args" fields) (Json.field? "args" fields')

/-- The fields agree on a provider, and those of its probes on the probes. -/
def SameProvider (fields fields' : Fields) : Prop :=
  SameField fields fields' "name" ∧ SameField fields fields' "hash" ∧
    SameField fields fields' "canonical_text" ∧
    SameItems SameProbe (Json.field? "probes" fields) (Json.field? "probes" fields')

/-! ### Kinds that are not taken for others -/

/-- The field holds a number. -/
def HoldsNumber (fields : Fields) (key : String) : Prop :=
  ∃ v : Json, Json.field? key fields = some v ∧ (v.kind = "int" ∨ v.kind = "float")

/-- The field holds a truth value. -/
def HoldsBool (fields : Fields) (key : String) : Prop :=
  ∃ b : Bool, Json.field? key fields = some (.bool b)

/-- Somewhere in the record a number stands where a text or a truth value is looked for, or a truth
value where a text is. -/
inductive Mistaken : Fields → Prop
  | provider {fields : Fields} {key : String} (hkey : key ∈ ["name", "hash", "canonical_text"])
      (h : HoldsNumber fields key ∨ HoldsBool fields key) : Mistaken fields
  | probe {fields probe : Fields} {probes : List Json}
      (hprobes : Json.field? "probes" fields = some (.array probes))
      (hprobe : .object probe ∈ probes)
      (h : HoldsNumber probe "name" ∨ HoldsBool probe "name") : Mistaken fields
  | argument {fields probe argument : Fields} {probes args : List Json}
      (hprobes : Json.field? "probes" fields = some (.array probes))
      (hprobe : .object probe ∈ probes)
      (hargs : Json.field? "args" probe = some (.array args)) (hargument : .object argument ∈ args)
      (h : (∃ key ∈ ["name", "python_type", "c_type"],
        HoldsNumber argument key ∨ HoldsBool argument key) ∨ HoldsNumber argument "nullable") :
      Mistaken fields

/-! ### Single fields -/

section

variable {fields fields' : Fields} {key : String}

lemma require_eq_ok {v : Json} :
    require fields key = .ok v ↔ Json.field? key fields = some v := by
  rw [require]
  cases Json.field? key fields with
  | none =>
    constructor
    · intro h; cases h
    · intro h; cases h
  | some u => rw [Except.ok.injEq, Option.some.injEq]

lemma requireText_eq_ok {t : Text} :
    requireText fields key = .ok t ↔ Json.field? key fields = some (.string t) := by
  rw [requireText, bind_eq_ok]
  constructor
  · rintro ⟨v, hv, h⟩
    cases v with
    | string u => cases h; exact require_eq_ok.mp hv
    | _ => cases h
  · exact fun h => ⟨.string t, require_eq_ok.mpr h, rfl⟩

lemma requireItems_eq_ok {items : List Json} :
    requireItems fields key = .ok items ↔ Json.field? key fields = some (.array items) := by
  rw [requireItems, bind_eq_ok]
  constructor
  · rintro ⟨v, hv, h⟩
    cases v with
    | array vs => cases h; exact require_eq_ok.mp hv
    | _ => cases h
  · exact fun h => ⟨.array items, require_eq_ok.mpr h, rfl⟩

lemma requireBool_eq_ok {b : Bool} :
    requireBool fields key = .ok b ↔ Json.field? key fields = some (.bool b) := by
  rw [requireBool, bind_eq_ok]
  constructor
  · rintro ⟨v, hv, h⟩
    cases v with
    | bool c => cases h; exact require_eq_ok.mp hv
    | _ => cases h
  · exact fun h => ⟨.bool b, require_eq_ok.mpr h, rfl⟩

lemma require_congr (h : SameField fields fields' key) :
    require fields key = require fields' key := by
  rw [require, require, h]

lemma requireText_congr (h : SameField fields fields' key) :
    requireText fields key = requireText fields' key := by
  rw [requireText, requireText, require_congr h]

lemma requireBool_congr (h : SameField fields fields' key) :
    requireBool fields key = requireBool fields' key := by
  rw [requireBool, requireBool, require_congr h]

end

/-! ### Items -/

section

variable {α β : Type} {fields fields' : Fields} {key : String}

lemma items_eq_ok {read : Json → Except FormatFault α} {holds : Fields → α → Prop}
    (h : ∀ v a, read v = .ok a ↔ Object holds v a) {as : List α} :
    (∃ items, requireItems fields key = .ok items ∧ items.mapM read = .ok as) ↔
      Items holds fields key as := by
  simp only [requireItems_eq_ok, mapM_eq_ok, h]
  rfl

lemma mapM_congr {read : Json → Except FormatFault α} {same : Json → Json → Prop}
    (h : ∀ v w, same v w → read v = read w) {vs ws : List Json} (hs : List.Forall₂ same vs ws) :
    vs.mapM read = ws.mapM read := by
  induction hs with
  | nil => rfl
  | cons hv _ ih => rw [List.mapM_cons, List.mapM_cons, h _ _ hv, ih]

/-- Items that agree are read alike, by whatever looks at them in this way only. -/
lemma items_congr {read : Json → Except FormatFault α} {same : Fields → Fields → Prop}
    (h : ∀ v w, SameObject same v w → read v = read w) {next : List Json → Except FormatFault β}
    (hnext : ∀ vs ws, vs.mapM read = ws.mapM read → next vs = next ws)
    (hs : SameItems same (Json.field? key fields) (Json.field? key fields')) :
    (requireItems fields key >>= next) = (requireItems fields' key >>= next) := by
  generalize hv : Json.field? key fields = v at hs
  generalize hw : Json.field? key fields' = w at hs
  cases hs with
  | items hitems =>
    rw [requireItems_eq_ok.mpr hv, requireItems_eq_ok.mpr hw, ok_bind, ok_bind]
    exact hnext _ _ (mapM_congr h hitems)
  | refl => rw [requireItems, requireItems, require_congr (hv.trans hw.symm)]

end

/-! ### Arguments and probes -/

lemma toArgument_eq_ok (v : Json) (a : Argument) :
    toArgument v = .ok a ↔ Object HoldsArgument v a := by
  cases v with
  | object fields =>
    simp only [toArgument, bind_eq_ok, requireText_eq_ok, requireBool_eq_ok]
    constructor
    · rintro ⟨name, hname, declared, hdeclared, lowered, hlowered, nullable, hnullable, h⟩
      cases h
      exact ⟨fields, rfl, hname, hdeclared, hlowered, hnullable⟩
    · rintro ⟨_, hfields, h⟩
      cases hfields
      exact ⟨_, h.name, _, h.declared, _, h.lowered, _, h.nullable, rfl⟩
  | _ =>
    constructor
    · intro h; cases h
    · rintro ⟨_, h, -⟩; cases h

lemma toProbe_eq_ok (v : Json) (p : Probe) : toProbe v = .ok p ↔ Object HoldsProbe v p := by
  cases v with
  | object fields =>
    simp only [toProbe, bind_eq_ok, requireText_eq_ok]
    constructor
    · rintro ⟨items, hitems, args, hargs, name, hname, h⟩
      cases h
      exact ⟨fields, rfl, hname, (items_eq_ok toArgument_eq_ok).mp ⟨items, hitems, hargs⟩⟩
    · rintro ⟨_, hfields, h⟩
      cases hfields
      obtain ⟨items, hitems, hargs⟩ := (items_eq_ok toArgument_eq_ok).mpr h.args
      exact ⟨items, hitems, _, hargs, _, h.name, rfl⟩
  | _ =>
    constructor
    · intro h; cases h
    · rintro ⟨_, h, -⟩; cases h

lemma toArgument_congr (v w : Json) (h : SameObject SameArgument v w) :
    toArgument v = toArgument w := by
  cases h with
  | object h =>
    obtain ⟨hname, hdeclared, hlowered, hnullable⟩ := h
    rw [toArgument, toArgument, requireText_congr hname, requireText_congr hdeclared,
      requireText_congr hlowered, requireBool_congr hnullable]
  | other hv hw =>
    have hother {u : Json} (hu : ∀ fields, u ≠ .object fields) :
        toArgument u = .error .notArgument := by
      cases u with
      | object fields => exact absurd rfl (hu fields)
      | _ => rfl
    rw [hother hv, hother hw]

lemma toProbe_congr (v w : Json) (h : SameObject SameProbe v w) : toProbe v = toProbe w := by
  cases h with
  | object h =>
    obtain ⟨hname, hargs⟩ := h
    rw [toProbe, toProbe, requireText_congr hname]
    apply items_congr toArgument_congr _ hargs
    intro vs ws hread
    rw [hread]
  | other hv hw =>
    have hother {u : Json} (hu : ∀ fields, u ≠ .object fields) : toProbe u = .error .notProbe := by
      cases u with
      | object fields => exact absurd rfl (hu fields)
      | _ => rfl
    rw [hother hv, hother hw]

/-! ### Providers -/

lemma parse_eq_ok {source : List Char} {c : Located ClassDecl} :
    Declaration.parse source = .ok c ↔ parseModule source = some [⟨c.pos, .classDef c.value⟩] := by
  rw [Declaration.parse]
  constructor
  · intro h
    split at h
    · cases h
    · cases h
      assumption
    · cases h
  · intro h
    rw [h]

lemma toProvider_eq_ok_iff (v : Json) (p : Provider) :
    toProvider v = .ok p ↔ Object HoldsProvider v p := by
  cases v with
  | object fields =>
    rw [toProvider_object]
    simp only [requireText_eq_ok, items_eq_ok toProbe_eq_ok]
    constructor
    · rintro ⟨hname, hhash, ⟨text, htext, hparsed⟩, hprobes, hhashed, hnamed⟩
      obtain ⟨rfl, c, hc, hd⟩ := parseText_eq_ok.mp hparsed
      have hclass := parse_eq_ok.mp hc
      rw [hd] at hclass
      exact ⟨fields, rfl, hname, hhash, htext, hprobes, ⟨_, hclass⟩, hhashed, hnamed⟩
    · rintro ⟨_, hfields, h⟩
      cases hfields
      obtain ⟨pos, hclass⟩ := h.oneClass
      have hc : Declaration.parse p.canonicalText.toList = .ok ⟨pos, p.declaration⟩ :=
        parse_eq_ok.mpr hclass
      exact ⟨h.name, h.hash, ⟨_, h.text, parseText_eq_ok.mpr ⟨rfl, _, hc, rfl⟩⟩, h.probes,
        h.hashed, h.named⟩
  | _ =>
    constructor
    · intro h; cases h
    · rintro ⟨_, h, -⟩; cases h

lemma toProvider_congr (v w : Json) (h : SameObject SameProvider v w) :
    toProvider v = toProvider w := by
  cases h with
  | object h =>
    obtain ⟨hname, hhash, htext, hprobes⟩ := h
    rw [toProvider, toProvider, requireText_congr hname, requireText_congr hhash,
      requireText_congr htext]
    congr! 6
    apply items_congr toProbe_congr _ hprobes
    intro vs ws hread
    rw [hread]
  | other hv hw =>
    have hother {u : Json} (hu : ∀ fields, u ≠ .object fields) :
        toProvider u = .error .notProvider := by
      cases u with
      | object fields => exact absurd rfl (hu fields)
      | _ => rfl
    rw [hother hv, hother hw]

/-! ### Mistaken values -/

lemma not_text {fields : Fields} {key : String} {t : Text}
    (h : Json.field? key fields = some (.string t)) :
    ¬ (HoldsNumber fields key ∨ HoldsBool fields key) := by
  rintro (⟨v, hv, hkind⟩ | ⟨b, hb⟩)
  · rw [h] at hv
    cases hv
    have hword : "str" = "int" ∨ "str" = "float" := hkind
    exact absurd hword (by decide)
  · rw [h] at hb
    cases hb

lemma not_number {fields : Fields} {key : String} {b : Bool}
    (h : Json.field? key fields = some (.bool b)) : ¬ HoldsNumber fields key := by
  rintro ⟨v, hv, hkind⟩
  rw [h] at hv
  cases hv
  have hword : "bool" = "int" ∨ "bool" = "float" := hkind
  exact absurd hword (by decide)

/-- Each object among the items holds something. -/
lemma Items.holds {α : Type} {holds : Fields → α → Prop} {fields item : Fields} {key : String}
    {as : List α} (h : Items holds fields key as) {items : List Json}
    (hitems : Json.field? key fields = some (.array items)) (hitem : .object item ∈ items) :
    ∃ a, holds item a := by
  obtain ⟨items', hitems', hall⟩ := h
  rw [hitems] at hitems'
  cases hitems'
  obtain ⟨a, -, item', heq, ha⟩ := exists_of_forall₂ hall.flip _ hitem
  cases heq
  exact ⟨a, ha⟩

lemma not_mistaken {fields : Fields} {p : Provider} (h : HoldsProvider fields p) :
    ¬ Mistaken fields := by
  intro hm
  cases hm with
  | provider hkey hkind =>
    simp only [List.mem_cons, List.not_mem_nil, or_false] at hkey
    rcases hkey with rfl | rfl | rfl
    · exact not_text h.name hkind
    · exact not_text h.hash hkind
    · exact not_text h.text hkind
  | probe hprobes hprobe hkind =>
    obtain ⟨probe, hp⟩ := h.probes.holds hprobes hprobe
    exact not_text hp.name hkind
  | argument hprobes hprobe hargs hargument hkind =>
    obtain ⟨probe, hp⟩ := h.probes.holds hprobes hprobe
    obtain ⟨a, ha⟩ := hp.args.holds hargs hargument
    rcases hkind with ⟨key, hkey, hkind⟩ | hkind
    · simp only [List.mem_cons, List.not_mem_nil, or_false] at hkey
      rcases hkey with rfl | rfl | rfl
      · exact not_text ha.name hkind
      · exact not_text ha.declared hkind
      · exact not_text ha.lowered hkind
    · exact not_number ha.nullable hkind

lemma error_of_not_holds {v : Json} (h : ¬ ∃ p, Object HoldsProvider v p) :
    ∃ f, toProvider v = .error f := by
  apply not_succeeds.mp
  rintro ⟨p, hp⟩
  exact h ⟨p, (toProvider_eq_ok_iff v p).mp hp⟩

/-- A value is read as a provider exactly if it holds this provider, and is refused if it holds
none. What it has under other names, on any level, decides neither. A number never stands for a text
or a truth value, nor a truth value for a text. -/
theorem reads_what_fields_hold :
    (∀ v p, toProvider v = .ok p ↔ Object HoldsProvider v p) ∧
    (∀ v, (¬ ∃ p, Object HoldsProvider v p) → ∃ f, toProvider v = .error f) ∧
    (∀ v w, SameObject SameProvider v w → toProvider v = toProvider w) ∧
    ∀ fields, Mistaken fields → ∃ f, toProvider (.object fields) = .error f := by
  refine ⟨toProvider_eq_ok_iff, fun v => error_of_not_holds, toProvider_congr, ?_⟩
  intro fields hm
  apply error_of_not_holds
  rintro ⟨p, _, hfields, h⟩
  cases hfields
  exact not_mistaken h hm

/-- A stored record, the same with another version and a field of another name, and the same with a
number for its name. -/
theorem reads_what_fields_hold_clock :
    ∃ fields d, (ofProvider (clock (Name.hashOf clockText))).sorted = .object fields ∧
      HoldsProvider fields { clock (Name.hashOf clockText) with declaration := d } ∧
      toProvider (.object ((Text.ofString "version", .null) ::
        (Text.ofString "note", .bool true) :: fields)) =
          .ok { clock (Name.hashOf clockText) with declaration := d } ∧
      (∃ f, toProvider (.object ((Text.ofString "name", .integer 1) :: fields)) = .error f) ∧
      ∃ f, toProvider .null = .error f := by
  obtain ⟨hreads, hrefuses, hsame, hmistaken⟩ := reads_what_fields_hold
  obtain ⟨d, hd⟩ := toProvider_wellFormed (wellFormed_clock rfl)
  obtain ⟨fields, hfields, hholds⟩ := (hreads _ _).mp hd
  have hother (key : String) (hversion : key ≠ "version") (hnote : key ≠ "note") :
      SameField ((Text.ofString "version", .null) :: (Text.ofString "note", .bool true) :: fields)
        fields key := by
    rw [SameField, Json.field?, List.lookup_cons, List.lookup_cons,
      beq_false_of_ne (Text.ofString_injective.ne hversion),
      beq_false_of_ne (Text.ofString_injective.ne hnote)]
    rfl
  have hagree : SameProvider ((Text.ofString "version", .null) ::
      (Text.ofString "note", .bool true) :: fields) fields := by
    refine ⟨hother _ (by decide) (by decide), hother _ (by decide) (by decide),
      hother _ (by decide) (by decide), ?_⟩
    rw [hother "probes" (by decide) (by decide)]
    exact .refl _
  refine ⟨fields, d, hfields, hholds, ?_, ?_, ?_⟩
  · rw [hsame _ _ (.object hagree), ← hfields]
    exact hd
  · have hnumber : HoldsNumber ((Text.ofString "name", .integer 1) :: fields) "name" :=
      ⟨.integer 1, rfl, .inl rfl⟩
    exact hmistaken _ (.provider List.mem_cons_self (.inl hnumber))
  · exact hrefuses _ (by rintro ⟨p, fields, h, -⟩; cases h)

end Record

end ProbeCatalog
