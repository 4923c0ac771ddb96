import ProbeCatalog.Proofs.Outcome
import ProbeCatalog.Proofs.Syntax.Literals
import ProbeCatalog.Probe.Hint
import ProbeCatalog.Syntax.Printer.Expression

/-!
# What annotations say

The type of an argument can be read off the text of its annotation. Between the marks of the text
stand words; one of them names the type, as it is or in a string literal, and all others tell only
that the value may be missing.
-/
namespace ProbeCatalog.Hint

open Syntax Printer Strings
open Lexer (isQuote)

/-- The marks between the words of an annotation. -/
def isMark (c : Char) : Bool := ['[', ']', '(', ')', '|', ' '].contains c

/-- A comma. -/
def isComma (c : Char) : Bool := c = ','

/-- No word has any of these. -/
def isBreak (c : Char) : Bool := isMark c || isComma c

/-- The words that tell only that a value may be missing, with the gap between two marks. -/
def wrappers : List (List Char) :=
  ["", "None", "Optional", "ctypes.Optional", "typing.Optional"].map String.toList

lemma not_isBreak_of_isQuote {c : Char} (h : isQuote c = true) : isBreak c = false := by
  rcases isQuote_iff.mp h with rfl | rfl <;> rfl

lemma isBreak_of_isMark {c : Char} (h : isMark c = true) : isBreak c = true := by
  rw [isBreak, h, Bool.true_or]

lemma isBreak_of_isComma {c : Char} (h : isComma c = true) : isBreak c = true := by
  rw [isBreak, h, Bool.or_true]

/-- A comma is no mark. -/
lemma not_isComma_of_isMark {c : Char} (h : isMark c = true) :
    isQuote c = false ∧ isComma c = false := by
  have hplain : Plain isComma ['[', ']', '(', ')', '|', ' '] := by decide
  exact hplain c (List.contains_iff_mem.mp h)

/-! ### Names of types -/

lemma plain_supported : ∀ entry ∈ supported, Plain isBreak entry.1.toList := by decide

lemma plain_modules : ∀ m ∈ modules, Plain isBreak m := by decide

/-- A module is the start of the name that it is taken away from. -/
lemma withoutModule_cases (id : String) : withoutModule id = id ∨
    ∃ m ∈ modules, id.toList = m ++ (withoutModule id).toList := by
  rw [withoutModule]
  split
  · rename_i rest h
    obtain ⟨m, hm, hrest⟩ := exists_of_firstM h
    refine Or.inr ⟨m, hm, ?_⟩
    rw [String.toList_ofList]
    exact (List.isPrefixOf?_eq_some_iff_append_eq.mp hrest).symm
  · exact Or.inl rfl

lemma plain_of_withoutModule {id : String} (h : Plain isBreak (withoutModule id).toList) :
    Plain isBreak id.toList := by
  rcases withoutModule_cases id with heq | ⟨m, hm, heq⟩
  · rwa [heq] at h
  · rw [heq]
    exact List.forall_mem_append.mpr ⟨plain_modules m hm, h⟩

/-- A type is that of an entry in the list of types. -/
lemma mem_supported_of_typeOf? {name : String} {t : ArgType} (h : typeOf? name = some t) :
    ∃ lowered : String, (name, lowered) ∈ supported ∧
      t = ⟨name, lowered, name = alwaysNullable⟩ := by
  obtain ⟨_, hlowered, rfl⟩ := Option.map_eq_some_iff.mp h
  obtain ⟨lowered, hlookup, hlowered⟩ := Option.bind_eq_some_iff.mp hlowered
  cases hlowered
  obtain ⟨before, after, heq, -⟩ := List.lookup_eq_some_iff.mp hlookup
  exact ⟨lowered, by rw [heq]; simp, rfl⟩

lemma plain_of_typeOf? {id : String} {t : ArgType} (h : typeOf? (withoutModule id) = some t) :
    Plain isBreak id.toList := by
  obtain ⟨lowered, hmem, -⟩ := mem_supported_of_typeOf? h
  have hplain := plain_supported (withoutModule id, lowered) hmem
  exact plain_of_withoutModule hplain

lemma typeOf?_wrappers : ∀ id ∈ ["", "None", "Optional", "ctypes.Optional", "typing.Optional"],
    typeOf? (withoutModule id) = none := by decide

lemma isNone_iff {e : Expr} : isNone e = true ↔ e = .constant .none := by
  constructor
  · intro h
    unfold isNone at h
    split at h
    · rfl
    · cases h
  · rintro rfl
    rfl

/-! ### Steps -/

/-- More steps lead to the same type. -/
lemma resolveWithin_succ {steps : Nat} {e : Expr} {t : ArgType}
    (h : resolveWithin steps e = some t) : resolveWithin (steps + 1) e = some t := by
  induction steps, e using resolveWithin.induct generalizing t with
  | case1 e => cases h
  | case2 steps text marked ih =>
    rw [resolveWithin] at h ⊢
    obtain ⟨cs, hcs, h⟩ := Option.bind_eq_some_iff.mp h
    obtain ⟨e, he, h⟩ := Option.bind_eq_some_iff.mp h
    simp only [hcs, he, Option.bind_eq_bind, Option.bind_some]
    exact ih e h
  | case3 steps id => exact h
  | case4 steps value id => exact h
  | case5 steps head index hhead ih =>
    rw [resolveWithin, if_pos hhead] at h ⊢
    obtain ⟨t', ht', h⟩ := Option.bind_eq_some_iff.mp h
    rw [ih ht']
    exact h
  | case6 steps head index hhead =>
    rw [resolveWithin, if_neg hhead] at h
    cases h
  | case7 steps left right hright ih =>
    rw [resolveWithin, if_pos hright] at h ⊢
    obtain ⟨t', ht', h⟩ := Option.bind_eq_some_iff.mp h
    rw [ih ht']
    exact h
  | case8 steps left right hright hleft ih =>
    rw [resolveWithin, if_neg hright, if_pos hleft] at h ⊢
    obtain ⟨t', ht', h⟩ := Option.bind_eq_some_iff.mp h
    rw [ih ht']
    exact h
  | case9 steps left right hright hleft =>
    rw [resolveWithin, if_neg hright, if_neg hleft] at h
    cases h
  | case10 steps e h1 h2 h3 h4 h5 =>
    rw [resolveWithin] at h
    · cases h
    all_goals assumption

lemma resolveWithin_of_le {steps more : Nat} (hle : steps ≤ more) {e : Expr} {t : ArgType}
    (h : resolveWithin steps e = some t) : resolveWithin more e = some t := by
  induction hle with
  | refl => exact h
  | step _ ih => exact resolveWithin_succ ih

/-- The mark of a literal does not matter. -/
lemma resolveWithin_marked {steps : Nat} {text : Text} (marked other : Bool) :
    resolveWithin steps (.constant (.string text marked)) =
      resolveWithin steps (.constant (.string text other)) := by
  cases steps with
  | zero => rfl
  | succ steps => rw [resolveWithin, resolveWithin]

/-! ### Words -/

/-- The word names a type, as it is or in a string literal. -/
inductive Names : List Char → ArgType → Prop
  | word {id : String} {t : ArgType} (h : typeOf? (withoutModule id) = some t) :
      Names id.toList t
  | literal {text : Text} {marked : Bool} {steps : Nat} {t : ArgType}
      (h : resolveWithin steps (.constant (.string text marked)) = some t) :
      Names (if marked then 'u' :: quoted text else quoted text) t

variable {w : List Char} {ws : List (List Char)} {t t' : ArgType}

/-- The quoted text of a literal can be told, with or without its mark. -/
lemma literal_injective {text text' : Text} {marked marked' : Bool}
    (h : (if marked then 'u' :: quoted text else quoted text) =
      if marked' then 'u' :: quoted text' else quoted text') : text = text' := by
  have hquote (u : Text) (v : List Char) : quoted u ≠ 'u' :: v := by
    intro heq
    have hfirst : (quotedParts u).1 = 'u' := (List.cons_eq_cons.mp heq).1
    have hu := (guarded_quotedParts u).1
    rw [hfirst] at hu
    cases hu
  cases marked with
  | true =>
    cases marked' with
    | true => exact quoted_injective (List.cons_eq_cons.mp h).2
    | false => exact absurd h.symm (hquote _ _)
  | false =>
    cases marked' with
    | true => exact absurd h (hquote _ _)
    | false => exact quoted_injective h

lemma exists_quote_mem_literal (text : Text) (marked : Bool) :
    ∃ c, isQuote c = true ∧ c ∈ if marked then 'u' :: quoted text else quoted text := by
  have hmem : (quotedParts text).1 ∈ quoted text := List.mem_cons_self
  refine ⟨_, (guarded_quotedParts text).1, ?_⟩
  cases marked with
  | true => exact List.mem_cons_of_mem _ hmem
  | false => exact hmem

lemma Names.whole (h : Names w t) : Whole isBreak w := by
  cases h with
  | word h => exact (plain_of_typeOf? h).whole
  | @literal text marked steps t h =>
    have hwhole := whole_quoted (fun _ => not_isBreak_of_isQuote) text
    cases marked with
    | true =>
      have hletter : Plain isBreak ['u'] := by decide
      exact hletter.sealed.append hwhole
    | false => exact hwhole

/-- A literal is no word, since it has quotes. -/
lemma ne_literal {id : String} {text : Text} {marked : Bool}
    (h : typeOf? (withoutModule id) = some t) :
    id.toList ≠ if marked then 'u' :: quoted text else quoted text := by
  intro heq
  obtain ⟨c, hc, hmem⟩ := exists_quote_mem_literal text marked
  rw [← heq] at hmem
  rw [(plain_of_typeOf? h c hmem).1] at hc
  cases hc

/-- A word names one type. -/
lemma Names.unique (h : Names w t) (h' : Names w t') : t = t' := by
  generalize hw : w = v at h'
  cases h with
  | @word id _ h =>
    cases h' with
    | word h' =>
      obtain rfl := String.toList_injective hw
      exact Option.some.inj (h.symm.trans h')
    | literal h' => exact absurd hw (ne_literal h)
  | @literal text marked steps _ h =>
    cases h' with
    | word h' => exact absurd hw.symm (ne_literal h')
    | @literal text' marked' steps' _ h' =>
      obtain rfl := literal_injective hw
      rw [resolveWithin_marked marked' marked] at h'
      have hmore := resolveWithin_of_le (Nat.le_max_left steps steps') h
      rw [resolveWithin_of_le (Nat.le_max_right steps steps') h'] at hmore
      exact (Option.some.inj hmore).symm

lemma plain_wrappers : ∀ v ∈ wrappers, Plain isBreak v := by decide

lemma Names.not_mem_wrappers (h : Names w t) : w ∉ wrappers := by
  intro hmem
  cases h with
  | @word id _ h =>
    obtain ⟨id', hid', heq⟩ := List.mem_map.mp hmem
    obtain rfl := String.toList_injective heq
    rw [typeOf?_wrappers id' hid'] at h
    cases h
  | @literal text marked _ _ _ =>
    obtain ⟨c, hc, hmem'⟩ := exists_quote_mem_literal text marked
    rw [(plain_wrappers _ hmem c hmem').1] at hc
    cases hc

/-- The words of an annotation with what they say: one of them names a type, and if there are
others, the value may be missing. -/
inductive Says : List (List Char) → ArgType → Prop
  | word {w : List Char} {t : ArgType} (h : Names w t) : Says [w] t
  | before {v : List Char} {ws : List (List Char)} {t : ArgType} (h : Says ws t)
      (hv : v ∈ wrappers) : Says (v :: ws) { t with nullable := true }
  | after {v : List Char} {ws : List (List Char)} {t : ArgType} (h : Says ws t)
      (hv : v ∈ wrappers) : Says (ws ++ [v]) { t with nullable := true }

lemma Says.whole (h : Says ws t) : ∀ w ∈ ws, Whole isBreak w := by
  induction h with
  | word h => exact List.forall_mem_singleton.mpr h.whole
  | before _ hv ih => exact List.forall_mem_cons.mpr ⟨(plain_wrappers _ hv).whole, ih⟩
  | after _ hv ih =>
    exact List.forall_mem_append.mpr
      ⟨ih, List.forall_mem_singleton.mpr (plain_wrappers _ hv).whole⟩

lemma Says.ne_nil (h : Says ws t) : ws ≠ [] := by
  cases h with
  | word _ => exact List.cons_ne_nil _ _
  | before _ _ => exact List.cons_ne_nil _ _
  | after _ _ => exact List.append_ne_nil_of_right_ne_nil _ (List.cons_ne_nil _ _)

/-- What the words say can be read off them. -/
lemma Says.eq (h : Says ws t) : ∃ w t', Names w t' ∧ ws.filter (· ∉ wrappers) = [w] ∧
    t = if ws.length = 1 then t' else { t' with nullable := true } := by
  have hmore {t' : ArgType} {k : Nat} :
      ({ (if k = 1 then t' else { t' with nullable := true }) with nullable := true } : ArgType) =
        { t' with nullable := true } := by
    split <;> rfl
  induction h with
  | @word w t h =>
    refine ⟨w, t, h, ?_, rfl⟩
    rw [List.filter_singleton, decide_eq_true h.not_mem_wrappers]
    rfl
  | @before v ws t h hv ih =>
    obtain ⟨w, t', hw, hfilter, rfl⟩ := ih
    have hlength : (v :: ws).length ≠ 1 := by
      have := List.length_pos_iff.mpr h.ne_nil
      rw [List.length_cons]
      omega
    refine ⟨w, t', hw, ?_, ?_⟩
    · rw [List.filter_cons_of_neg (by simpa using hv), hfilter]
    · rw [if_neg hlength, hmore]
  | @after v ws t h hv ih =>
    obtain ⟨w, t', hw, hfilter, rfl⟩ := ih
    have hlength : (ws ++ [v]).length ≠ 1 := by
      have := List.length_pos_iff.mpr h.ne_nil
      rw [List.length_append, List.length_singleton]
      omega
    refine ⟨w, t', hw, ?_, ?_⟩
    · rw [List.filter_append, hfilter, List.filter_cons_of_neg (by simpa using hv)]
      rfl
    · rw [if_neg hlength, hmore]

lemma Says.unique (h : Says ws t) (h' : Says ws t') : t = t' := by
  obtain ⟨w, u, hw, hfilter, rfl⟩ := h.eq
  obtain ⟨w', u', hw', hfilter', rfl⟩ := h'.eq
  rw [hfilter] at hfilter'
  obtain rfl : w = w' := List.singleton_inj.mp hfilter'
  rw [hw.unique hw']

/-! ### Texts -/

lemma not_isWhole_of_dotted {e : Expr} {ss : List String} (h : dottedSegments e = some ss) :
    isWhole e = false := by
  rw [dottedSegments.eq_def] at h
  split at h
  · rfl
  · rfl
  · cases h

lemma ne_nil_of_dotted {e : Expr} {ss : List String} (h : dottedSegments e = some ss) :
    ss ≠ [] := by
  rw [dottedSegments.eq_def] at h
  split at h
  · cases h
    exact List.cons_ne_nil _ _
  · obtain ⟨ss', -, rfl⟩ := Option.map_eq_some_iff.mp h
    exact List.append_ne_nil_of_right_ne_nil _ (List.cons_ne_nil _ _)
  · cases h

lemma text_of_dotted {e : Expr} {ss : List String} (h : dottedSegments e = some ss)
    (plain : Bool) (level : Level) : expr plain level e = .ok (".".intercalate ss) := by
  induction e using dottedSegments.induct generalizing ss level with
  | case1 id =>
    rw [dottedSegments] at h
    cases h
    rw [expr]
    rfl
  | case2 value id ih =>
    rw [dottedSegments] at h
    obtain ⟨ss', h', rfl⟩ := Option.map_eq_some_iff.mp h
    rw [expr, ih h' .atom, String.intercalate_append_of_ne_nil (ne_nil_of_dotted h')
      (List.cons_ne_nil _ _), not_isWhole_of_dotted h']
    rfl
  | case3 e hname hattribute =>
    rw [dottedSegments] at h
    · cases h
    · exact hname
    · exact hattribute

/-- A dotted name is its own text. -/
lemma text_of_typeName {e : Expr} {name : String} (h : typeName e = some name) (plain : Bool)
    (level : Level) : ∃ id, expr plain level e = .ok id ∧ withoutModule id = name := by
  obtain ⟨id, hid, hname⟩ := Option.map_eq_some_iff.mp h
  obtain ⟨ss, hss, rfl⟩ := Option.map_eq_some_iff.mp hid
  exact ⟨_, text_of_dotted hss plain level, hname⟩

lemma nullable_eq {t t' : ArgType} (h : nullable t = some t') :
    t' = { t with nullable := true } := by
  rw [nullable, Option.ite_none_right_eq_some] at h
  exact (Option.some.inj h.2).symm

lemma mem_wrappers_of_optional {id : String} (h : withoutModule id = "Optional") :
    id.toList ∈ wrappers := by
  rcases withoutModule_cases id with heq | ⟨m, hm, heq⟩
  · rw [← heq, h]
    decide
  · have hall : ∀ m ∈ modules, m ++ "Optional".toList ∈ wrappers := by decide
    rw [heq, h]
    exact hall m hm

lemma text_of_isNone {e : Expr} (h : isNone e = true) (plain : Bool) (level : Level) :
    expr plain level e = .ok "None" := by
  unfold isNone at h
  split at h
  · rw [expr]
    rfl
  · cases h

/-- The text is made of words that say what type it is. -/
def TextSays (text : List Char) (t : ArgType) : Prop :=
  ∃ ws, Pieces isMark ws text ∧ Says ws t

lemma TextSays.unique {text : List Char} (h : TextSays text t) (h' : TextSays text t') :
    t = t' := by
  obtain ⟨ws, hws, h⟩ := h
  obtain ⟨ws', hws', h'⟩ := h'
  obtain rfl : ws = ws' := hws.cut.symm.trans hws'.cut
  exact h.unique h'

/-- Commas stand inside of literals only. -/
lemma TextSays.whole {text : List Char} (h : TextSays text t) : Whole isComma text := by
  obtain ⟨ws, hws, h⟩ := h
  exact hws.whole (fun _ => not_isComma_of_isMark) fun w hw =>
    (h.whole w hw).mono fun _ => isBreak_of_isComma

/-- A word is a piece of a text, as no mark stands in it. -/
lemma whole_mark (h : Whole isBreak w) : Whole isMark w := h.mono fun _ => isBreak_of_isMark

lemma Names.textSays (h : Names w t) : TextSays w t := ⟨[w], .single (whole_mark h.whole), .word h⟩

section

variable {text v : List Char} {c : Char} (h : TextSays text t) (hc : isMark c = true)
  (hv : v ∈ wrappers)
include h hc hv

lemma TextSays.before : TextSays (v ++ c :: text) { t with nullable := true } := by
  obtain ⟨ws, hws, h⟩ := h
  exact ⟨v :: ws, .cons (whole_mark (plain_wrappers v hv).whole) hc hws, .before h hv⟩

lemma TextSays.after : TextSays (text ++ c :: v) { t with nullable := true } := by
  obtain ⟨ws, hws, h⟩ := h
  exact ⟨ws ++ [v], hws.append hc (.single (whole_mark (plain_wrappers v hv).whole)), .after h hv⟩

end

section

variable {s id : String}

/-- Brackets stand around annotations that may be missing only. -/
lemma TextSays.bracketed {place own : Level} (h : TextSays s.toList t)
    (hnullable : t.nullable = true) : TextSays (bracketed place own s).toList t := by
  rw [Printer.bracketed]
  split
  · have hclosed := h.after (c := ')') (v := []) rfl (by decide)
    have hboth := hclosed.before (c := '(') (v := []) rfl (by decide)
    rw [← hnullable] at hboth
    simpa using hboth
  · exact h

lemma TextSays.indexed (h : TextSays s.toList t) (hid : id.toList ∈ wrappers) :
    TextSays (id ++ "[" ++ s ++ "]").toList { t with nullable := true } := by
  have hclosed := h.after (c := ']') (v := []) rfl (by decide)
  simpa using hclosed.before (c := '[') rfl hid

lemma TextSays.orNone (h : TextSays s.toList t) :
    TextSays (s ++ " " ++ "|" ++ " " ++ "None").toList { t with nullable := true } := by
  have hblank := h.after (c := ' ') (v := []) rfl (by decide)
  have hstroke := hblank.after (c := '|') (v := []) rfl (by decide)
  simpa using hstroke.after (c := ' ') (v := "None".toList) rfl (by decide)

lemma TextSays.noneOr (h : TextSays s.toList t) :
    TextSays ("None" ++ " " ++ "|" ++ " " ++ s).toList { t with nullable := true } := by
  have hblank := h.before (c := ' ') (v := []) rfl (by decide)
  have hstroke := hblank.before (c := '|') (v := []) rfl (by decide)
  simpa using hstroke.before (c := ' ') (v := "None".toList) rfl (by decide)

end

/-- The words of the text of an annotation say what the annotation stands for. -/
theorem says_of_resolveWithin {steps : Nat} {e : Expr} {t : ArgType}
    (h : resolveWithin steps e = some t) {level : Level} {s : String}
    (hs : expr false level e = .ok s) : TextSays s.toList t := by
  induction steps, e using resolveWithin.induct generalizing t level s with
  | case1 e => cases h
  | case2 steps text marked _ =>
    rw [expr] at hs
    obtain rfl := Except.ok.inj hs
    rw [String.toList_ofList]
    exact (Names.literal h).textSays
  | case3 steps id =>
    rw [expr] at hs
    obtain rfl := Except.ok.inj hs
    exact (Names.word h).textSays
  | case4 steps value id =>
    obtain ⟨name, hname, h⟩ := Option.bind_eq_some_iff.mp h
    obtain ⟨id', hid', rfl⟩ := text_of_typeName hname false level
    rw [hid'] at hs
    obtain rfl := Except.ok.inj hs
    exact (Names.word h).textSays
  | case5 steps head index hhead ih =>
    rw [resolveWithin, if_pos hhead] at h
    obtain ⟨t', ht', h⟩ := Option.bind_eq_some_iff.mp h
    obtain rfl := nullable_eq h
    obtain ⟨id, hid, hoptional⟩ := text_of_typeName hhead false .atom
    rw [expr] at hs
    · simp only [bind_eq_ok] at hs
      obtain ⟨v, hv, i, hi, hs⟩ := hs
      obtain rfl := Except.ok.inj hs
      obtain rfl := Except.ok.inj (hid.symm.trans hv)
      exact (ih ht' hi).indexed (mem_wrappers_of_optional hoptional)
    · rintro item items rfl
      cases steps <;> cases ht'
  | case6 steps head index hhead =>
    rw [resolveWithin, if_neg hhead] at h
    cases h
  | case7 steps left right hright ih =>
    rw [resolveWithin, if_pos hright] at h
    obtain ⟨t', ht', h⟩ := Option.bind_eq_some_iff.mp h
    obtain rfl := nullable_eq h
    rw [expr] at hs
    simp only [bind_eq_ok] at hs
    obtain ⟨l, hl, r, hr, hs⟩ := hs
    obtain rfl := Except.ok.inj hs
    obtain rfl := Except.ok.inj ((text_of_isNone hright _ _).symm.trans hr)
    exact (ih ht' hl).orNone.bracketed rfl
  | case8 steps left right hright hleft ih =>
    rw [resolveWithin, if_neg hright, if_pos hleft] at h
    obtain ⟨t', ht', h⟩ := Option.bind_eq_some_iff.mp h
    obtain rfl := nullable_eq h
    rw [expr] at hs
    simp only [bind_eq_ok] at hs
    obtain ⟨l, hl, r, hr, hs⟩ := hs
    obtain rfl := Except.ok.inj hs
    obtain rfl := Except.ok.inj ((text_of_isNone hleft _ _).symm.trans hl)
    exact (ih ht' hr).noneOr.bracketed rfl
  | case9 steps left right hright hleft =>
    rw [resolveWithin, if_neg hright, if_neg hleft] at h
    cases h
  | case10 steps e h1 h2 h3 h4 h5 =>
    rw [resolveWithin] at h
    · cases h
    all_goals assumption

end ProbeCatalog.Hint
