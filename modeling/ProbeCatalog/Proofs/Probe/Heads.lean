import ProbeCatalog.Proofs.Probe.Annotations
import ProbeCatalog.Proofs.Probe.Rules
import ProbeCatalog.Proofs.Syntax.Lines
import ProbeCatalog.Proofs.Syntax.Sources
import ProbeCatalog.Syntax.Printer.Statement

/-!
# What the heads of methods say

The probe that a method declares can be read off the line on which its name and its parameters
stand. Commas part the parameters, unless they stand inside of a literal; the end of the line is
one of two.
-/
namespace ProbeCatalog

open Syntax Printer Strings
open Lexer (isQuote isWordChar)

/-! ### Parameters -/

lemma takeWhile_word {id : String} (h : IsWord id) {c : Char} (hc : isWordChar c = false)
    (rest : List Char) : (id.toList ++ c :: rest).takeWhile isWordChar = id.toList := by
  rw [List.takeWhile_append_of_pos h, List.takeWhile_cons_of_neg (by simp [hc]), List.append_nil]

/-- A word at the start of a text ends before the first character that belongs to none. -/
lemma word_append_inj {id id' : String} (h : IsWord id) (h' : IsWord id') {c c' : Char}
    (hc : isWordChar c = false) (hc' : isWordChar c' = false) {rest rest' : List Char}
    (heq : id.toList ++ c :: rest = id'.toList ++ c' :: rest') : id = id' ∧ rest = rest' := by
  have hid : id.toList = id'.toList := by
    rw [← takeWhile_word h hc rest, heq, takeWhile_word h' hc' rest']
  rw [hid, List.append_cancel_left_eq, List.cons_eq_cons] at heq
  exact ⟨String.toList_injective hid, heq.2⟩

/-- The text is that of a parameter. -/
def ItemSays (item : List Char) (a : Argument) : Prop :=
  ∃ id text, item = id.toList ++ ':' :: ' ' :: text ∧ IsWord id ∧ a.name = Text.ofString id ∧
    Hint.TextSays text a.type

variable {item : List Char} {a a' : Argument}

lemma ItemSays.unique (h : ItemSays item a) (h' : ItemSays item a') : a = a' := by
  obtain ⟨id, text, rfl, hid, hname, htext⟩ := h
  obtain ⟨id', text', heq, hid', hname', htext'⟩ := h'
  obtain ⟨rfl, hrest⟩ := word_append_inj hid hid' rfl rfl heq
  obtain ⟨-, rfl⟩ := List.cons_eq_cons.mp hrest
  cases a
  cases a'
  cases hname
  cases hname'
  cases htext.unique htext'
  rfl

open Hint (isComma)

lemma ItemSays.whole (h : ItemSays item a) : Whole isComma item := by
  obtain ⟨id, text, rfl, hid, -, htext⟩ := h
  have hword : Plain isComma id.toList := fun c hc => ⟨(plain_of_isWord hid c hc).1, by
    refine decide_eq_false ?_
    rintro rfl
    cases hid ',' hc⟩
  have hcolon : Plain isComma [':', ' '] := by decide
  have hwhole := (hword.whole.mark hcolon (List.cons_ne_nil _ _)).append htext.whole
  rwa [List.append_assoc] at hwhole

/-- No blank stands before a parameter. -/
lemma ItemSays.head (h : ItemSays item a) : item.head? ≠ some ' ' := by
  obtain ⟨id, text, rfl, hid, -⟩ := h
  rw [List.head?_append]
  cases hhead : id.toList.head? with
  | none => exact nofun
  | some c =>
    rintro heq
    cases heq
    cases hid ' ' (List.mem_of_mem_head? hhead)

/-- What stands between two commas is a parameter, or a mark, or nothing. -/
def isEntry (item : List Char) : Bool := item ≠ [] && item ≠ ['/']

lemma ItemSays.isEntry (h : ItemSays item a) : isEntry item = true := by
  obtain ⟨id, text, rfl, -⟩ := h
  have hmem : ':' ∈ id.toList ++ ':' :: ' ' :: text :=
    List.mem_append_right _ List.mem_cons_self
  rw [ProbeCatalog.isEntry, Bool.and_eq_true, decide_eq_true_iff, decide_eq_true_iff]
  refine ⟨List.ne_nil_of_mem hmem, fun heq => ?_⟩
  rw [heq] at hmem
  revert hmem
  decide

/-- The parameters of a method, parted at the commas. -/
def entries (text : List Char) : List (List Char) :=
  ((cut isComma .code text).map (·.dropWhile (· = ' '))).filter isEntry

lemma pieces_cons {sep : Char → Bool} {c : Char} (hc : Plain sep [c]) {t text : List Char}
    {ts : List (List Char)} (h : Pieces sep (t :: ts) text) :
    Pieces sep ((c :: t) :: ts) (c :: text) := by
  cases h with
  | single h => exact .single (hc.sealed.append h)
  | cons h hd hrest => exact .cons (hc.sealed.append h) hd hrest

lemma pieces_commas {i : String} {items : List String}
    (h : ∀ j ∈ i :: items, Whole isComma j.toList) :
    Pieces isComma (i.toList :: items.map fun j => ' ' :: j.toList)
      (", ".intercalate (i :: items)).toList := by
  induction items generalizing i with
  | nil => simpa using Pieces.single (h i List.mem_cons_self)
  | cons j items ih =>
    obtain ⟨hi, hitems⟩ := List.forall_mem_cons.mp h
    have hrest := pieces_cons (c := ' ') (by decide) (ih hitems)
    rw [String.intercalate_cons_cons, String.toList_append, String.toList_append, List.append_assoc]
    exact .cons hi (c := ',') rfl hrest

lemma dropWhile_blank (h : item.head? ≠ some ' ') : item.dropWhile (· = ' ') = item := by
  cases item with
  | nil => rfl
  | cons c cs =>
    rw [List.dropWhile_cons_of_neg]
    rw [decide_eq_true_iff]
    rintro rfl
    exact h rfl

lemma entries_intercalate {items : List String}
    (h : ∀ i ∈ items, Whole isComma i.toList ∧ i.toList.head? ≠ some ' ') :
    entries (", ".intercalate items).toList = (items.map String.toList).filter isEntry := by
  cases items with
  | nil => rfl
  | cons i items =>
    have hblank (j : String) (hj : j ∈ i :: items) := dropWhile_blank (h j hj).2
    rw [entries, (pieces_commas fun j hj => (h j hj).1).cut, List.map_cons, List.map_map,
      List.map_cons, hblank i List.mem_cons_self]
    congr 2
    refine List.map_congr_left fun j hj => ?_
    simpa using hblank j (List.mem_cons_of_mem i hj)

/-! ### Heads -/

/-- The end of the line, without an annotation and with one. -/
def endings : List (List Char) := ["):".toList, ") -> None:".toList]

lemma ending_inj {cs cs' ending ending' : List Char} (h : ending ∈ endings)
    (h' : ending' ∈ endings) (heq : cs ++ ending = cs' ++ ending') : cs = cs' := by
  have hreverse := congrArg List.reverse heq
  simp only [endings, List.mem_cons, List.not_mem_nil, or_false] at h h'
  rcases h with rfl | rfl <;> rcases h' with rfl | rfl
  · exact List.append_cancel_right heq
  · simp at hreverse
  · simp at hreverse
  · exact List.append_cancel_right heq

/-- The line is the head of the method that declares a probe. -/
inductive HeadSays : List Char → Probe → Prop
  | intro {name : String} {items : List String} {ending : List Char} {args : List Argument}
      (hname : IsWord name)
      (hitems : ∀ i ∈ items, Whole isComma i.toList ∧ i.toList.head? ≠ some ' ')
      (hargs : List.Forall₂ ItemSays ((items.map String.toList).filter isEntry) args)
      (hending : ending ∈ endings) :
      HeadSays ("    def ".toList ++ (name.toList ++
        '(' :: ((", ".intercalate items).toList ++ ending))) ⟨name, args⟩

lemma HeadSays.unique {line : List Char} {p p' : Probe} (h : HeadSays line p)
    (h' : HeadSays line p') : p = p' := by
  generalize hline : line = line' at h'
  cases h with
  | intro hname hitems hargs hending =>
    cases h' with
    | intro hname' hitems' hargs' hending' =>
      obtain ⟨rfl, hrest⟩ := word_append_inj hname hname' rfl rfl (List.append_cancel_left hline)
      have htext := ending_inj hending hending' hrest
      rw [← entries_intercalate hitems, htext, entries_intercalate hitems'] at hargs
      have hunique : Relator.RightUnique ItemSays := fun _ _ _ => ItemSays.unique
      rw [hunique.forall₂ hargs hargs']

/-! ### Methods that keep the rules -/

lemma itemSays_of_argument {p : Param} (h : Extraction.argument p = .ok a)
    (hspelled : ParamSpelled p) (hdefault : p.default = none) {s : String}
    (hs : param false p = .ok s) : ItemSays s.toList a := by
  obtain ⟨pos, id, hint, default⟩ := p
  cases hdefault
  cases hspelled with
  | intro hid _ _ =>
    cases hint with
    | none => cases h
    | some e =>
      simp only [Extraction.argument] at h
      split at h
      · cases h
      · rename_i t ht
        cases h
        rw [param] at hs
        obtain ⟨hinted, hhinted, hs⟩ := bind_eq_ok.mp hs
        rw [maybe] at hhinted
        obtain ⟨text, htext, hhinted⟩ := bind_eq_ok.mp hhinted
        obtain rfl := Except.ok.inj hhinted
        obtain rfl := Except.ok.inj hs
        refine ⟨id, text.toList, ?_, hid, rfl, Hint.says_of_resolveWithin ht htext⟩
        rw [String.toList_append, String.toList_append]
        rfl

lemma params_append {plain : Bool} {ps qs : List Param} {ss ts : List String}
    (hps : params plain ps = .ok ss) (hqs : params plain qs = .ok ts) :
    params plain (ps ++ qs) = .ok (ss ++ ts) := by
  induction ps generalizing ss with
  | nil =>
    rw [params] at hps
    obtain rfl := Except.ok.inj hps
    exact hqs
  | cons p ps ih =>
    rw [params] at hps
    simp only [bind_eq_ok] at hps
    obtain ⟨s, hs, ss', hss', h⟩ := hps
    obtain rfl := Except.ok.inj h
    rw [List.cons_append, params, hs, ih hss']
    rfl

lemma itemsSay_of_arguments {ps : List Param} {args : List Argument}
    (h : List.Forall₂ (fun p a => Extraction.argument p = .ok a) ps args)
    (hspelled : ∀ p ∈ ps, ParamSpelled p) (hdefault : ∀ p ∈ ps, p.default = none)
    {ss : List String} (hss : params false ps = .ok ss) :
    List.Forall₂ ItemSays (ss.map String.toList) args := by
  induction h generalizing ss with
  | nil =>
    rw [params] at hss
    obtain rfl := Except.ok.inj hss
    exact .nil
  | cons ha _ ih =>
    obtain ⟨hp, hps⟩ := List.forall_mem_cons.mp hspelled
    obtain ⟨hnone, hdefault⟩ := List.forall_mem_cons.mp hdefault
    rw [params] at hss
    simp only [bind_eq_ok] at hss
    obtain ⟨s, hs, ss', hss', hss⟩ := hss
    obtain rfl := Except.ok.inj hss
    exact .cons (itemSays_of_argument ha hp hnone hs) (ih hps hdefault hss')

/-- A stroke may stand between commas as well as a parameter. -/
lemma whole_of_item {i : String} (h : i = "/" ∨ ∃ a, ItemSays i.toList a) :
    Whole isComma i.toList ∧ i.toList.head? ≠ some ' ' := by
  rcases h with rfl | ⟨a, ha⟩
  · have hplain : Plain isComma "/".toList := by decide
    exact ⟨hplain.whole, by decide⟩
  · exact ⟨ha.whole, ha.head⟩

lemma filter_isEntry {ss : List String} (h : ∀ i ∈ ss, ∃ a, ItemSays i.toList a) :
    (ss.map String.toList).filter isEntry = ss.map String.toList := by
  refine List.filter_eq_self.mpr (List.forall_mem_map.mpr fun i hi => ?_)
  obtain ⟨a, ha⟩ := h i hi
  exact ha.isEntry

/-- The parameters of a method that keeps the rules are its arguments, with a stroke between those
by position only and the others. -/
lemma parameters_eq_ok {f : FunctionDecl} (hrules : Extraction.Rules f) {args : List Argument}
    (hargs : List.Forall₂ (fun p a => Extraction.argument p = .ok a) f.params.byPosition args)
    (hspelled : ∀ p ∈ f.params.all, ParamSpelled p) {s : String}
    (hs : parameters false f.params = .ok s) :
    ∃ items, (∀ i ∈ items, Whole isComma i.toList ∧ i.toList.head? ≠ some ' ') ∧
      List.Forall₂ ItemSays ((items.map String.toList).filter isEntry) args ∧
      s = ", ".intercalate items := by
  obtain ⟨isAsync, name, ⟨positionalOnly, positional, variadic, keywordOnly, variadicKeyword⟩,
    returns, body, decorators⟩ := f
  obtain rfl : variadic = none := hrules.variadic
  obtain rfl : keywordOnly = [] := hrules.keywordOnly
  obtain rfl : variadicKeyword = none := hrules.variadicKeyword
  simp only [parameters, bind_eq_ok] at hs
  obtain ⟨po, hpo, p, hp, v, hv, ko, hko, vk, hvk, hs⟩ := hs
  rw [maybeParam] at hv hvk
  rw [params] at hko
  obtain rfl := Except.ok.inj hv
  obtain rfl := Except.ok.inj hvk
  obtain rfl := Except.ok.inj hko
  obtain rfl := Except.ok.inj hs
  have hspelled' : ∀ q ∈ positionalOnly ++ positional, ParamSpelled q := fun q hq =>
    hspelled q (by simpa [ParamsOf.all] using hq)
  have hsay := itemsSay_of_arguments hargs hspelled' hrules.noDefaults (params_append hpo hp)
  have hitem : ∀ i ∈ po ++ p, ∃ a, ItemSays i.toList a := fun i hi => by
    obtain ⟨a, -, ha⟩ := exists_of_forall₂ (List.Forall₂.flip hsay) _ (List.mem_map_of_mem hi)
    exact ⟨a, ha⟩
  obtain ⟨hpositionalOnly, hpositional⟩ := List.forall_mem_append.mp hitem
  have hslash : ∀ i ∈ (if po.isEmpty then [] else ["/"]), i = "/" := fun i hi => by
    split at hi
    · cases hi
    · exact List.mem_singleton.mp hi
  generalize (if po.isEmpty then [] else ["/"]) = slash at hslash
  refine ⟨po ++ slash ++ p, List.forall_mem_append.mpr ⟨List.forall_mem_append.mpr
    ⟨fun i hi => whole_of_item (Or.inr (hpositionalOnly i hi)),
      fun i hi => whole_of_item (Or.inl (hslash i hi))⟩,
    fun i hi => whole_of_item (Or.inr (hpositional i hi))⟩, ?_, by simp⟩
  have hnone : (slash.map String.toList).filter isEntry = [] := by
    refine List.filter_eq_nil_iff.mpr (List.forall_mem_map.mpr fun i hi => ?_)
    rw [hslash i hi]
    decide
  rw [List.map_append, List.map_append, List.filter_append, List.filter_append, hnone,
    List.append_nil, filter_isEntry hpositionalOnly, filter_isEntry hpositional, ← List.map_append]
  exact hsay

lemma ending_of_returns {returns : Option (Located Expr)}
    (h : ∀ r ∈ returns, Hint.isNone r.value = true) {s : String}
    (hs : after " -> " (returns.map (·.value)) = .ok s) : (")" ++ s ++ ":").toList ∈ endings := by
  rw [after] at hs
  cases returns with
  | none =>
    rw [Option.map_none, maybe] at hs
    obtain rfl := Except.ok.inj hs
    decide
  | some r =>
    rw [Option.map_some, maybe, Hint.text_of_isNone (h r rfl)] at hs
    obtain rfl := Except.ok.inj hs
    decide

/-- The head of a method that keeps the rules is that of its probe. -/
theorem headSays_of_extract {c : Located ClassDecl} {m : Located FunctionDecl} {p : Probe}
    (h : extract c m = .ok p) (hspelled : HeadSpelled (.functionDef m.value)) {head : String}
    (hhead : functionHead m.value.isAsync m.value.name m.value.params m.value.returns = .ok head) :
    HeadSays (indented 1 (head ++ ":")).toList p := by
  obtain ⟨hrules, args, hargs, rfl⟩ := extract_eq_ok.mp h
  obtain ⟨hname, hparams⟩ := hspelled
  rw [functionHead] at hhead
  simp only [bind_eq_ok] at hhead
  obtain ⟨ps, hps, r, hr, hhead⟩ := hhead
  obtain rfl := Except.ok.inj hhead
  obtain ⟨items, hitems, hall, rfl⟩ := parameters_eq_ok hrules (mapM_eq_ok.mp hargs) hparams hps
  have hending : (")" ++ r ++ ":").toList ∈ endings := ending_of_returns hrules.returns hr
  have hline : (indented 1 (bool m.value.isAsync "async " ++ "def " ++ m.value.name ++ "(" ++
      ", ".intercalate items ++ ")" ++ r ++ ":")).toList = "    def ".toList ++
        (m.value.name.toList ++ '(' :: ((", ".intercalate items).toList ++
          (")" ++ r ++ ":").toList)) := by
    rw [hrules.notAsync]
    simp [indented, Printer.bool]
  rw [hline]
  exact .intro hname hitems hall hending

end ProbeCatalog
