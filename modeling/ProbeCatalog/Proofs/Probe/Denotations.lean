import ProbeCatalog.Proofs.Probe.Annotations
import ProbeCatalog.Proofs.Syntax.Weights

/-!
# What annotations denote

The annotations that are supported are those of a small grammar, and `resolve` gives the type that
the grammar gives. An annotation in a string literal takes a step of its own; since it weighs no
more than its text, the steps that `resolve` allows for a literal are enough for what it holds.
-/
namespace ProbeCatalog.Hint

open Syntax

/-- The name without one leading module, if there is one. -/
def Drops (name key : String) : Prop :=
  name.toList = "ctypes.".toList ++ key.toList ∨ name.toList = "typing.".toList ++ key.toList ∨
    (name = key ∧ ¬ "ctypes.".toList <+: name.toList ∧ ¬ "typing.".toList <+: name.toList)

/-- The expression says that its index may be missing. -/
def IsOptional (head : Expr) : Prop := ∃ name, dottedName head = some name ∧ Drops name "Optional"

/-- The grammar of annotations, with the types that they denote. -/
inductive Denotes : Expr → ArgType → Prop
  | named {e : Expr} {name key : String} {t : ArgType} (hname : dottedName e = some name)
      (hkey : Drops name key) (ht : typeOf? key = some t) : Denotes e t
  | quoted {text : Text} {marked : Bool} {cs : List Char} {a : Expr} {t : ArgType}
      (hcs : text.toChars? = some cs) (ha : parseExpression cs = some a) (h : Denotes a t) :
      Denotes (.constant (.string text marked)) t
  | optional {head a : Expr} {t : ArgType} (hhead : IsOptional head) (h : Denotes a t)
      (ht : t.declared = "str" ∨ t.declared = "bytes") :
      Denotes (.subscript head a) { t with nullable := true }
  | orNone {a : Expr} {t : ArgType} (h : Denotes a t)
      (ht : t.declared = "str" ∨ t.declared = "bytes") :
      Denotes (.binary .bitOr a (.constant .none)) { t with nullable := true }
  | noneOr {a : Expr} {t : ArgType} (h : Denotes a t)
      (ht : t.declared = "str" ∨ t.declared = "bytes") :
      Denotes (.binary .bitOr (.constant .none) a) { t with nullable := true }

/-- One of the three ways to say that what an annotation denotes may be missing. -/
inductive Wraps (a : Expr) : Expr → Prop
  | optional {head : Expr} (hhead : IsOptional head) : Wraps a (.subscript head a)
  | orNone : Wraps a (.binary .bitOr a (.constant .none))
  | noneOr : Wraps a (.binary .bitOr (.constant .none) a)

/-- The string literal holds the annotation. -/
def Quotes (a e : Expr) : Prop :=
  ∃ text marked cs, e = .constant (.string text marked) ∧ Text.toChars? text = some cs ∧
    parseExpression cs = some a

/-- The annotations differ in how it is said that they may be missing, in how often, and in what
stands in string literals, at any depth. -/
inductive Alike : Expr → Expr → Prop
  | refl (e : Expr) : Alike e e
  | symm {e e' : Expr} (h : Alike e e') : Alike e' e
  | trans {e e' e'' : Expr} (h : Alike e e') (h' : Alike e' e'') : Alike e e''
  | wraps {a a' e e' : Expr} (h : Alike a a') (he : Wraps a e) (he' : Wraps a' e') : Alike e e'
  | again {a e e' : Expr} (he : Wraps a e) (he' : Wraps e e') : Alike e' e
  | quotes {a e : Expr} (h : Quotes a e) : Alike e a

/-! ### Names -/

lemma isPrefixOf?_eq_none_iff {start cs : List Char} :
    start.isPrefixOf? cs = none ↔ ¬ start <+: cs := by
  rw [← Option.not_isSome_iff_eq_none, Option.isSome_iff_exists]
  simp only [List.isPrefixOf?_eq_some_iff_append_eq]
  rfl

lemma firstM_modules (cs : List Char) : modules.firstM (·.isPrefixOf? cs) =
    ("ctypes.".toList.isPrefixOf? cs <|> "typing.".toList.isPrefixOf? cs) := by
  rw [modules, List.firstM, List.firstM, List.firstM]
  cases "ctypes.".toList.isPrefixOf? cs <;> cases "typing.".toList.isPrefixOf? cs <;> rfl

/-- No name begins with both modules. -/
lemma not_both_modules {cs ds : List Char} :
    "ctypes.".toList ++ cs ≠ "typing.".toList ++ ds := by
  intro h
  have hhead := congrArg List.head? h
  simp at hhead

lemma withoutModule_eq_iff {name key : String} : withoutModule name = key ↔ Drops name key := by
  have hprefix {m rest : List Char} (h : m.isPrefixOf? name.toList = some rest) :
      name.toList = m ++ rest := (List.isPrefixOf?_eq_some_iff_append_eq.mp h).symm
  have hlist {rest : List Char} : String.ofList rest = key ↔ rest = key.toList := by
    rw [← String.toList_inj, String.toList_ofList]
  rw [withoutModule, firstM_modules, Drops]
  cases hctypes : "ctypes.".toList.isPrefixOf? name.toList with
  | some rest =>
    have hname := hprefix hctypes
    change String.ofList rest = key ↔ _
    rw [hlist, hname]
    constructor
    · rintro rfl
      exact Or.inl rfl
    · rintro (h | h | ⟨-, h, -⟩)
      · exact List.append_cancel_left h
      · exact absurd h not_both_modules
      · exact absurd (List.prefix_append _ _) h
  | none =>
    have hnot := isPrefixOf?_eq_none_iff.mp hctypes
    cases htyping : "typing.".toList.isPrefixOf? name.toList with
    | some rest =>
      have hname := hprefix htyping
      change String.ofList rest = key ↔ _
      rw [hlist, hname]
      constructor
      · rintro rfl
        exact Or.inr (Or.inl rfl)
      · rintro (h | h | ⟨-, -, h⟩)
        · exact absurd h.symm not_both_modules
        · exact List.append_cancel_left h
        · exact absurd (List.prefix_append _ _) h
    | none =>
      have hnot' := isPrefixOf?_eq_none_iff.mp htyping
      constructor
      · rintro rfl
        exact Or.inr (Or.inr ⟨rfl, hnot, hnot'⟩)
      · rintro (h | h | ⟨h, -, -⟩)
        · exact absurd ⟨_, h.symm⟩ hnot
        · exact absurd ⟨_, h.symm⟩ hnot'
        · exact h

/-- The name of a type is a dotted name without its module. -/
lemma typeName_eq_some_iff {e : Expr} {key : String} :
    typeName e = some key ↔ ∃ name, dottedName e = some name ∧ Drops name key := by
  rw [typeName, Option.map_eq_some_iff]
  simp only [withoutModule_eq_iff]

lemma nullable_eq_some_iff {t t' : ArgType} : nullable t = some t' ↔
    (t.declared = "str" ∨ t.declared = "bytes") ∧ { t with nullable := true } = t' := by
  rw [nullable, Option.ite_none_right_eq_some, Option.some.injEq, optionalTypes]
  simp

/-! ### What is resolved is denoted -/

theorem denotes_of_resolveWithin {steps : Nat} {e : Expr} {t : ArgType}
    (h : resolveWithin steps e = some t) : Denotes e t := by
  induction steps, e using resolveWithin.induct generalizing t with
  | case1 e => cases h
  | case2 steps text marked ih =>
    rw [resolveWithin] at h
    obtain ⟨cs, hcs, h⟩ := Option.bind_eq_some_iff.mp h
    obtain ⟨a, ha, h⟩ := Option.bind_eq_some_iff.mp h
    exact .quoted hcs ha (ih a h)
  | case3 steps id =>
    rw [resolveWithin] at h
    have hname : dottedName (.name id) = some id := by
      rw [dottedName, dottedSegments, Option.map_some, String.intercalate_singleton]
    exact .named hname (withoutModule_eq_iff.mp rfl) h
  | case4 steps value id =>
    rw [resolveWithin] at h
    obtain ⟨key, hkey, ht⟩ := Option.bind_eq_some_iff.mp h
    obtain ⟨name, hname, hdrops⟩ := typeName_eq_some_iff.mp hkey
    exact .named hname hdrops ht
  | case5 steps head index hhead ih =>
    rw [resolveWithin, if_pos hhead] at h
    obtain ⟨t', ht', h⟩ := Option.bind_eq_some_iff.mp h
    obtain ⟨hoptional, rfl⟩ := nullable_eq_some_iff.mp h
    exact .optional (typeName_eq_some_iff.mp hhead) (ih ht') hoptional
  | case6 steps head index hhead =>
    rw [resolveWithin, if_neg hhead] at h
    cases h
  | case7 steps left right hright ih =>
    rw [resolveWithin, if_pos hright] at h
    obtain ⟨t', ht', h⟩ := Option.bind_eq_some_iff.mp h
    obtain ⟨hoptional, rfl⟩ := nullable_eq_some_iff.mp h
    rw [isNone_iff.mp hright]
    exact .orNone (ih ht') hoptional
  | case8 steps left right hright hleft ih =>
    rw [resolveWithin, if_neg hright, if_pos hleft] at h
    obtain ⟨t', ht', h⟩ := Option.bind_eq_some_iff.mp h
    obtain ⟨hoptional, rfl⟩ := nullable_eq_some_iff.mp h
    rw [isNone_iff.mp hleft]
    exact .noneOr (ih ht') hoptional
  | case9 steps left right hright hleft =>
    rw [resolveWithin, if_neg hright, if_neg hleft] at h
    cases h
  | case10 steps e h1 h2 h3 h4 h5 =>
    rw [resolveWithin] at h
    · cases h
    all_goals assumption

/-! ### What is denoted is resolved -/

lemma length_toChars? {text : Text} {cs : List Char} (h : text.toChars? = some cs) :
    cs.length = text.length := by
  rw [Text.eq_ofChars h, Text.ofChars, List.length_map]

lemma not_denotes_none {t : ArgType} : ¬ Denotes (.constant .none) t := by
  intro h
  cases h with
  | named hname => cases hname

lemma resolve_of_dotted {e : Expr} {name key : String} {t : ArgType}
    (hname : dottedName e = some name) (hkey : Drops name key) (ht : typeOf? key = some t) :
    resolve e = some t := by
  have hkey' : typeName e = some key := typeName_eq_some_iff.mpr ⟨name, hname, hkey⟩
  obtain ⟨ss, hss, -⟩ := Option.map_eq_some_iff.mp hname
  rw [dottedSegments.eq_def] at hss
  split at hss
  · rename_i id
    have hid : withoutModule id = key := by
      have hsame : typeName (.name id) = some (withoutModule id) := by
        rw [typeName, dottedName, dottedSegments, Option.map_some, String.intercalate_singleton,
          Option.map_some]
      exact Option.some.inj (hsame.symm.trans hkey')
    change typeOf? (withoutModule id) = some t
    rw [hid, ht]
  · rename_i value id
    change (typeName (.attribute value id)).bind typeOf? = some t
    rw [hkey', Option.bind_some, ht]
  · cases hss

/-- The steps that are counted by the weight are enough. -/
theorem resolve_of_denotes {e : Expr} {t : ArgType} (h : Denotes e t) : resolve e = some t := by
  induction h with
  | named hname hkey ht => exact resolve_of_dotted hname hkey ht
  | @quoted text marked cs a t hcs ha _ ih =>
    have hle : weight a ≤ text.length := (weight_parseExpression ha).trans (length_toChars? hcs).le
    rw [resolve, weight, resolveWithin]
    simp only [hcs, ha, Option.bind_eq_bind, Option.bind_some]
    exact resolveWithin_of_le hle ih
  | optional hhead _ ht ih =>
    rw [resolve, weight, resolveWithin, if_pos (typeName_eq_some_iff.mpr hhead),
      resolveWithin_of_le le_rfl ih]
    exact nullable_eq_some_iff.mpr ⟨ht, rfl⟩
  | @orNone a t _ ht ih =>
    have hle : weight a ≤ weight a + weight (.constant .none) := Nat.le_add_right _ _
    rw [resolve, weight, resolveWithin, if_pos (isNone_iff.mpr rfl), resolveWithin_of_le hle ih]
    exact nullable_eq_some_iff.mpr ⟨ht, rfl⟩
  | @noneOr a t h ht ih =>
    have hle : weight a ≤ weight (.constant .none) + weight a := Nat.le_add_left _ _
    have hnone : ¬ isNone a = true := by
      intro hnone
      rw [isNone_iff.mp hnone] at h
      exact not_denotes_none h
    rw [resolve, weight, resolveWithin, if_neg hnone, if_pos (isNone_iff.mpr rfl),
      resolveWithin_of_le hle ih]
    exact nullable_eq_some_iff.mpr ⟨ht, rfl⟩

theorem resolve_eq_some_iff {e : Expr} {t : ArgType} : resolve e = some t ↔ Denotes e t :=
  ⟨denotes_of_resolveWithin, resolve_of_denotes⟩

/-! ### Annotations that denote the same -/

/-- What may be missing is a text or octets, however this is said. -/
lemma Wraps.denotes_iff {a e : Expr} {t : ArgType} (h : Wraps a e) : Denotes e t ↔
    ∃ t', Denotes a t' ∧ (t'.declared = "str" ∨ t'.declared = "bytes") ∧
      { t' with nullable := true } = t := by
  constructor
  · intro he
    cases h with
    | optional hhead =>
      cases he with
      | named hname => cases hname
      | optional _ ha ht => exact ⟨_, ha, ht, rfl⟩
    | orNone =>
      cases he with
      | named hname => cases hname
      | orNone ha ht => exact ⟨_, ha, ht, rfl⟩
      | noneOr ha ht => exact absurd ha not_denotes_none
    | noneOr =>
      cases he with
      | named hname => cases hname
      | orNone ha ht => exact absurd ha not_denotes_none
      | noneOr ha ht => exact ⟨_, ha, ht, rfl⟩
  · rintro ⟨t', ha, ht, rfl⟩
    cases h with
    | optional hhead => exact .optional hhead ha ht
    | orNone => exact .orNone ha ht
    | noneOr => exact .noneOr ha ht

lemma Wraps.resolve_eq {a e : Expr} (h : Wraps a e) : resolve e = (resolve a).bind nullable := by
  ext t
  rw [resolve_eq_some_iff, h.denotes_iff, Option.bind_eq_some_iff]
  simp only [resolve_eq_some_iff, nullable_eq_some_iff]

/-- What may be missing already does not change by being said to once more. -/
lemma nullable_nullable {t t' : ArgType} (h : nullable t = some t') : nullable t' = some t' := by
  obtain ⟨ht, rfl⟩ := nullable_eq_some_iff.mp h
  exact nullable_eq_some_iff.mpr ⟨ht, rfl⟩

lemma Wraps.resolve_again {a e e' : Expr} (he : Wraps a e) (he' : Wraps e e') :
    resolve e' = resolve e := by
  rw [he'.resolve_eq, he.resolve_eq, Option.bind_assoc]
  refine Option.bind_congr fun t _ => ?_
  cases h : nullable t with
  | none => rfl
  | some t' => rw [Option.bind_some, nullable_nullable h]

lemma Quotes.resolve_eq {a e : Expr} (h : Quotes a e) : resolve e = resolve a := by
  obtain ⟨text, marked, cs, rfl, hcs, ha⟩ := h
  ext t
  rw [resolve_eq_some_iff, resolve_eq_some_iff]
  constructor
  · intro he
    cases he with
    | named hname => cases hname
    | quoted hcs' ha' h =>
      rw [hcs] at hcs'
      cases hcs'
      rw [ha] at ha'
      cases ha'
      exact h
  · exact fun h => .quoted hcs ha h

lemma Alike.resolve_eq {e e' : Expr} (h : Alike e e') : resolve e = resolve e' := by
  induction h with
  | refl e => rfl
  | symm _ ih => exact ih.symm
  | trans _ _ ih ih' => exact ih.trans ih'
  | wraps _ he he' ih => rw [he.resolve_eq, he'.resolve_eq, ih]
  | again he he' => exact he.resolve_again he'
  | quotes h => exact h.resolve_eq

/-- An annotation gives the type that the grammar gives, and none if the grammar gives none. So the
three ways to say that a value may be missing are the same, once is as good as twice, and a string
literal is as good as what it holds, at any depth. -/
theorem resolve_follows_grammar :
    (∀ e t, resolve e = some t ↔ Denotes e t) ∧
    (∀ e, resolve e = none ↔ ∀ t, ¬ Denotes e t) ∧
    (∀ a e e', Wraps a e → Wraps a e' → resolve e = resolve e') ∧
    (∀ a e e', Wraps a e → Wraps e e' → resolve e' = resolve e) ∧
    (∀ a e, Quotes a e → resolve e = resolve a) ∧
    (∀ e e', Alike e e' → resolve e = resolve e') := by
  refine ⟨fun e t => resolve_eq_some_iff, fun e => ?_, fun a e e' he he' => ?_,
    fun a e e' he he' => he.resolve_again he', fun a e h => h.resolve_eq,
    fun e e' h => h.resolve_eq⟩
  · rw [Option.eq_none_iff_forall_ne_some]
    simp only [ne_eq, resolve_eq_some_iff]
  · rw [he.resolve_eq, he'.resolve_eq]

/-- A text that may be missing, said in a subscript and again in a literal with a literal. -/
def deepHint : Expr :=
  .subscript (.attribute (.name "typing") "Optional")
    (.constant (.string (Text.ofString "None | 'str'") false))

theorem resolve_follows_grammar_deepHint :
    Alike deepHint (.binary .bitOr (.name "str") (.constant .none)) ∧
      resolve deepHint = some ⟨"str", "char *", true⟩ := by
  have hinner : Quotes (.name "str") (.constant (.string (Text.ofString "str") false)) :=
    ⟨_, _, "str".toList, rfl, rfl, rfl⟩
  have houter : Quotes
      (.binary .bitOr (.constant .none) (.constant (.string (Text.ofString "str") false)))
      (.constant (.string (Text.ofString "None | 'str'") false)) :=
    ⟨_, _, "None | 'str'".toList, rfl, rfl, rfl⟩
  have hoptional : IsOptional (.attribute (.name "typing") "Optional") :=
    ⟨"typing.Optional", rfl, Or.inr (Or.inl rfl)⟩
  have halike : Alike deepHint (.binary .bitOr (.name "str") (.constant .none)) :=
    (Alike.wraps (.quotes houter) (.optional hoptional) .orNone).trans <|
      (Alike.again .noneOr .orNone).trans (.wraps (.quotes hinner) .noneOr .orNone)
  obtain ⟨-, -, -, -, -, hresolve⟩ := resolve_follows_grammar
  exact ⟨halike, (hresolve _ _ halike).trans rfl⟩

end ProbeCatalog.Hint
