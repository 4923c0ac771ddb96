import ProbeCatalog.Proofs.Outcome
import ProbeCatalog.Proofs.Syntax.Formatting
import ProbeCatalog.Proofs.Syntax.Spelled

/-!
# Expressions stand on one line

The text of an expression that was read from a source has line feeds inside of its string literals
only. Each text is put together from marks, names and the texts of smaller expressions; after such
a text there is always a mark before the next one, so that no quotes come together.
-/
namespace ProbeCatalog.Syntax.Printer

open Strings
open Lexer (isQuote isWordChar)

/-- A line feed. -/
def isLineFeed (c : Char) : Bool := c = '\n'

/-- The text has line feeds inside of its literals only. -/
abbrev OneLine (s : String) : Prop := Whole isLineFeed s.toList

/-- The text does so, and any other text may follow. -/
abbrev Ended (s : String) : Prop := Sealed isLineFeed s.toList

/-- The text does so, and may follow any other text. -/
def Trailing (s : String) : Prop := OneLine s ∧ ∀ c ∈ s.toList.head?, isQuote c = false

/-- A text without line feeds and quotes. -/
def IsMark (s : String) : Prop := s.toList ≠ [] ∧ Plain isLineFeed s.toList

instance (s : String) : Decidable (IsMark s) := inferInstanceAs (Decidable (_ ∧ _))

variable {s t m : String} {ss : List String}

lemma not_isLineFeed_of_isQuote {c : Char} (h : isQuote c = true) : isLineFeed c = false := by
  rcases isQuote_iff.mp h with rfl | rfl <;> rfl

lemma IsMark.ended (h : IsMark m) : Ended m := h.2.sealed

lemma ended_empty : Ended "" := .nil

lemma oneLine_mark (h : OneLine s) (hm : IsMark m) : Ended (s ++ m) := by
  rw [Ended, String.toList_append]
  exact h.mark hm.2 hm.1

lemma oneLine_append (h : Ended s) (ht : OneLine t) : OneLine (s ++ t) := by
  rw [OneLine, String.toList_append]
  exact h.append ht

lemma oneLine_trailing (h : OneLine s) (ht : Trailing t) : OneLine (s ++ t) := by
  rw [OneLine, String.toList_append]
  exact h.append ht.1 ht.2

lemma trailing_empty : Trailing "" := ⟨ended_empty.whole, nofun⟩

lemma trailing_append (hm : IsMark m) (ht : OneLine t) : Trailing (m ++ t) := by
  refine ⟨oneLine_append hm.ended ht, fun c hc => ?_⟩
  rw [String.toList_append, List.head?_append_of_ne_nil _ hm.1] at hc
  exact (hm.2 c (List.mem_of_mem_head? hc)).1

lemma trailing_trailing (h : Trailing s) (ht : Trailing t) : Trailing (s ++ t) := by
  refine ⟨oneLine_trailing h.1 ht, fun c hc => ?_⟩
  rw [String.toList_append, List.head?_append] at hc
  cases hs : s.toList.head? with
  | none =>
    rw [hs] at hc
    exact ht.2 c hc
  | some d =>
    rw [hs] at hc
    exact h.2 c (hs.trans hc)

lemma plain_of_isWord {id : String} (h : IsWord id) : Plain isLineFeed id.toList := by
  intro c hc
  have hword := h c hc
  constructor
  · cases hquote : isQuote c with
    | false => rfl
    | true => rcases isQuote_iff.mp hquote with rfl | rfl <;> cases hword
  · refine decide_eq_false ?_
    rintro rfl
    cases hword

lemma ended_of_isWord {id : String} (h : IsWord id) : Ended id := (plain_of_isWord h).sealed

lemma oneLine_intercalate (hm : IsMark m) (h : ∀ s ∈ ss, OneLine s) :
    OneLine (m.intercalate ss) := by
  induction ss with
  | nil => exact ended_empty.whole
  | cons s ss ih =>
    obtain ⟨hs, hss⟩ := List.forall_mem_cons.mp h
    cases ss with
    | nil => simpa using hs
    | cons t ss =>
      rw [String.intercalate_cons_cons]
      exact oneLine_append (oneLine_mark hs hm) (ih hss)

lemma oneLine_bracketed (place own : Level) (h : OneLine s) : OneLine (bracketed place own s) := by
  rw [bracketed]
  split
  · have hopen : OneLine ("(" ++ s) := oneLine_append (IsMark.ended (by decide)) h
    exact (oneLine_mark hopen (by decide)).whole
  · exact h

lemma oneLine_itemsView (h : ∀ s ∈ ss, OneLine s) : OneLine (itemsView ss) := by
  rw [itemsView.eq_def]
  split
  · exact (oneLine_mark (h _ List.mem_cons_self) (by decide)).whole
  · exact oneLine_intercalate (by decide) h

/-! ### Literals -/

/-- All characters are decimal digits. -/
abbrev Digits (cs : List Char) : Prop := ∀ c ∈ cs, c.isDigit = true

lemma plain_of_digits {cs : List Char} (h : Digits cs) : Plain isLineFeed cs := by
  intro c hc
  have hdigit := h c hc
  constructor
  · cases hquote : isQuote c with
    | false => rfl
    | true => rcases isQuote_iff.mp hquote with rfl | rfl <;> cases hdigit
  · refine decide_eq_false ?_
    rintro rfl
    cases hdigit

lemma digits_toDigits (n : Nat) : Digits (Nat.toDigits 10 n) := fun _ hc =>
  Nat.isDigit_of_mem_toDigits (by decide) (by decide) hc

lemma digits_toString (n : Nat) : Digits (toString n).toList := by
  rw [show (toString n).toList = Nat.toDigits 10 n from String.toList_ofList]
  exact digits_toDigits n

lemma digits_search {significand : Nat} {exponent point : Int} {tries count : Nat} :
    Digits (Decimal.search significand exponent point tries count).digits := by
  induction tries generalizing count with
  | zero => exact List.forall_mem_singleton.mpr rfl
  | succ tries ih =>
    rw [Decimal.search]
    split
    · intro c hc
      rw [Decimal.trimmedDigits, List.mem_reverse] at hc
      exact digits_toDigits _ c (List.mem_reverse.mp ((List.dropWhile_sublist _).subset hc))
    · exact ih

lemma digits_shortest (significand : Nat) (exponent : Int) :
    Digits (Decimal.shortest significand exponent).digits := by
  rw [Decimal.shortest]
  split
  · exact List.forall_mem_singleton.mpr rfl
  · exact digits_search

lemma ended_ofList {cs : List Char} (h : Digits cs) : Ended (String.ofList cs) := by
  rw [Ended, String.toList_ofList]
  exact (plain_of_digits h).sealed

lemma ended_append (h : Ended s) (ht : Ended t) : Ended (s ++ t) := by
  rw [Ended, String.toList_append]
  exact Reads.append h ht

lemma ended_exponentText (e : Int) : Ended (Decimal.exponentText e) := by
  have hdigits : Ended (toString e.natAbs) := (plain_of_digits (digits_toString _)).sealed
  rw [Decimal.exponentText]
  refine ended_append ?_ ?_
  · split
    · exact IsMark.ended (by decide)
    · exact IsMark.ended (by decide)
  · split
    · exact ended_append (IsMark.ended (by decide)) hdigits
    · exact hdigits

lemma ended_write (layout : Decimal.Layout) {d : Decimal} (h : Digits d.digits) :
    Ended (layout.write d) := by
  have hzeros (k : Nat) : Digits (List.replicate k '0') := fun c hc => by
    rw [List.eq_of_mem_replicate hc]
    rfl
  have hexponent := ended_append (IsMark.ended (m := "e") (by decide))
    (ended_exponentText (d.point - 1))
  simp only [Decimal.Layout.write]
  split
  · split
    · exact ended_append (IsMark.ended (by decide))
        (ended_ofList (List.forall_mem_append.mpr ⟨hzeros _, h⟩))
    · split
      · refine ended_append (ended_ofList (List.forall_mem_append.mpr ⟨h, hzeros _⟩)) ?_
        split
        · exact IsMark.ended (by decide)
        · exact ended_empty
      · refine ended_append (ended_append (ended_ofList fun c hc => ?_)
          (IsMark.ended (by decide))) (ended_ofList fun c hc => ?_)
        · exact h c (List.mem_of_mem_take hc)
        · exact h c (List.mem_of_mem_drop hc)
  · split
    · exact IsMark.ended (by decide)
    · rename_i digit hdigits
      rw [hdigits] at h
      exact ended_append (ended_ofList h) hexponent
    · rename_i digit rest _ hdigits
      rw [hdigits] at h
      obtain ⟨hdigit, hrest⟩ := List.forall_mem_cons.mp h
      rw [show digit :: '.' :: rest = [digit] ++ (['.'] ++ rest) from rfl, String.ofList_append,
        String.ofList_append]
      exact ended_append (ended_append (ended_ofList (List.forall_mem_singleton.mpr hdigit))
        (ended_append (IsMark.ended (by decide)) (ended_ofList hrest))) hexponent

lemma ended_magnitude (layout : Decimal.Layout) (x : Binary64) : Ended (magnitude layout x) := by
  cases x with
  | finite m q => exact ended_write layout (digits_shortest m q)
  | infinite => exact IsMark.ended (m := "1e309") (by decide)

/-- A literal with the letter in front of it. -/
lemma oneLine_marked {written : List Char} (h : Whole isLineFeed written) (marked : Bool) :
    OneLine (String.ofList (if marked then 'u' :: written else written)) := by
  rw [OneLine, String.toList_ofList]
  cases marked with
  | true =>
    have hletter : Plain isLineFeed ['u'] := by decide
    exact hletter.sealed.append h
  | false => exact h

lemma oneLine_constant {plain : Bool} {c : Constant} (h : constant plain c = .ok s) :
    OneLine s := by
  cases c with
  | none => obtain rfl := Except.ok.inj h; exact (IsMark.ended (by decide)).whole
  | true => obtain rfl := Except.ok.inj h; exact (IsMark.ended (by decide)).whole
  | false => obtain rfl := Except.ok.inj h; exact (IsMark.ended (by decide)).whole
  | ellipsis => obtain rfl := Except.ok.inj h; exact (IsMark.ended (by decide)).whole
  | integer n =>
    rw [constant] at h
    split at h
    · obtain rfl := Except.ok.inj h
      exact (plain_of_digits (digits_toString n)).whole
    · cases h
  | float x => obtain rfl := Except.ok.inj h; exact (ended_magnitude _ x).whole
  | imaginary x =>
    obtain rfl := Except.ok.inj h
    exact (oneLine_mark (ended_magnitude _ x).whole (by decide)).whole
  | string t marked =>
    obtain rfl := Except.ok.inj h
    refine oneLine_marked ?_ marked
    split
    · exact Quotation.whole_write Quotation.isQuotes_allQuotes
        (fun _ => not_isLineFeed_of_isQuote) t
    · exact whole_quoted (fun _ => not_isLineFeed_of_isQuote) t
  | bytes octets =>
    obtain rfl := Except.ok.inj h
    rw [OneLine, String.toList_ofList]
    exact whole_quotedOctets (fun _ => not_isLineFeed_of_isQuote) octets rfl

/-! ### Formatted strings -/

lemma isField_field {value : String} {conversion : Option Conversion} {format : Option Text}
    {t : Text} (h : field value conversion format = .ok t) : IsField t := by
  unfold field at h
  split at h
  · cases h
  · obtain rfl := Except.ok.inj h
    exact ⟨_, rfl⟩

/-- The parts of a formatted string, one for each piece. -/
lemma alternating_parts {ps : List Piece} (hjoined : Joined ps) {ts : List (Text × Bool)}
    (h : parts ps = .ok ts) :
    Alternating ts ∧ (ts.map (·.2)).head? = ps.head?.map (·.isLiteral) := by
  induction ps generalizing ts with
  | nil =>
    rw [parts] at h
    obtain rfl := Except.ok.inj h
    exact ⟨.nil, rfl⟩
  | cons p ps ih =>
    obtain ⟨hfirst, hjoined'⟩ := List.isChain_cons.mp hjoined
    match p with
    | .literal t =>
      rw [parts] at h
      obtain ⟨rest, hrest, h⟩ := bind_eq_ok.mp h
      obtain rfl := Except.ok.inj h
      obtain ⟨halternating, hhead⟩ := ih hjoined' hrest
      refine ⟨.literal halternating ?_, rfl⟩
      rw [hhead]
      intro hliteral
      obtain ⟨q, hq, hqliteral⟩ := Option.map_eq_some_iff.mp hliteral
      exact hfirst q hq ⟨rfl, hqliteral⟩
    | .field value conversion none =>
      rw [parts] at h
      simp only [bind_eq_ok] at h
      obtain ⟨v, -, t, ht, rest, hrest, h⟩ := h
      obtain rfl := Except.ok.inj h
      exact ⟨.field (isField_field ht) (ih hjoined' hrest).1, rfl⟩
    | .field value conversion (some format) =>
      rw [parts] at h
      simp only [bind_eq_ok] at h
      obtain ⟨v, -, f, -, t, ht, rest, hrest, h⟩ := h
      obtain rfl := Except.ok.inj h
      exact ⟨.field (isField_field ht) (ih hjoined' hrest).1, rfl⟩

/-! ### Expressions -/

/-- A text in brackets. -/
lemma oneLine_between {opening closing : String} (hopen : IsMark opening) (h : OneLine s)
    (hclose : IsMark closing) : OneLine (opening ++ s ++ closing) :=
  (oneLine_mark (oneLine_append hopen.ended h) hclose).whole

/-- Two texts with a mark between them. -/
lemma oneLine_joined (h : OneLine s) (hm : IsMark m) (ht : OneLine t) : OneLine (s ++ m ++ t) :=
  oneLine_append (oneLine_mark h hm) ht

/-- A text with something in brackets after it. -/
lemma oneLine_applied {opening closing : String} (h : OneLine s) (hopen : IsMark opening)
    (ht : OneLine t) (hclose : IsMark closing) : OneLine (s ++ opening ++ t ++ closing) :=
  (oneLine_mark (oneLine_joined h hopen ht) hclose).whole

/-- A comprehension, from what stands before its clauses. -/
lemma oneLine_comprehension {closing : String} (h : OneLine s) (ht : Trailing t)
    (hclose : IsMark closing) : OneLine (s ++ t ++ closing) :=
  (oneLine_mark (oneLine_trailing h ht) hclose).whole

lemma isMark_op (op : BinaryOp) : IsMark op.text := by cases op <;> decide

lemma trailing_join (hm : IsMark m) (h : ∀ s ∈ ss, OneLine s) :
    Trailing (String.join (ss.map (m ++ ·))) := by
  induction ss with
  | nil => exact trailing_empty
  | cons s ss ih =>
    obtain ⟨hs, hss⟩ := List.forall_mem_cons.mp h
    rw [List.map_cons, String.join_cons]
    exact trailing_trailing (trailing_append hm hs) (ih hss)

/-- A tuple stands without brackets in an index, as it does at the place of a tuple. -/
lemma oneLine_subscript {plain : Bool} {level : Level} {value index : Expr}
    (hvalue : ∀ {v}, expr plain .atom value = .ok v → OneLine v)
    (hindex : ∀ place {i}, expr plain place index = .ok i → OneLine i)
    (h : expr plain level (.subscript value index) = .ok s) : OneLine s := by
  by_cases htuple : ∃ item items, index = .tuple (item :: items)
  · obtain ⟨item, items, rfl⟩ := htuple
    rw [expr] at h
    simp only [bind_eq_ok] at h
    obtain ⟨v, hv, is, his, h⟩ := h
    obtain rfl := Except.ok.inj h
    have hview : expr plain .tuple (.tuple (item :: items)) = .ok (itemsView is) := by
      rw [expr.eq_def]
      simp only [his]
      rfl
    exact oneLine_applied (hvalue hv) (by decide) (hindex .tuple hview) (by decide)
  · rw [expr] at h
    · simp only [bind_eq_ok] at h
      obtain ⟨v, hv, i, hi, h⟩ := h
      obtain rfl := Except.ok.inj h
      exact oneLine_applied (hvalue hv) (by decide) (hindex .test hi) (by decide)
    · exact fun item items heq => htuple ⟨item, items, heq⟩

mutual

lemma oneLine_expr (plain : Bool) (level : Level) :
    (e : Expr) → Spelled e → ∀ {s}, expr plain level e = .ok s → OneLine s
  | .constant c, _, s, h => by
    rw [expr] at h
    exact oneLine_constant h
  | .name id, .name hid, s, h => by
    rw [expr] at h
    obtain rfl := Except.ok.inj h
    exact (ended_of_isWord hid).whole
  | .attribute value id, .attribute hvalue hid, s, h => by
    rw [expr] at h
    obtain ⟨v, hv, h⟩ := bind_eq_ok.mp h
    obtain rfl := Except.ok.inj h
    refine oneLine_joined (oneLine_expr plain _ value hvalue hv) ?_ (ended_of_isWord hid).whole
    split <;> decide
  | .subscript value index, .subscript hvalue hindex, s, h =>
    oneLine_subscript (oneLine_expr plain _ value hvalue)
      (fun place _ => oneLine_expr plain place index hindex) h
  | .call function args ks, .call hfunction hargs hks, s, h => by
    rw [expr] at h
    simp only [bind_eq_ok] at h
    obtain ⟨f, hf, as, has, kws, hkws, h⟩ := h
    obtain rfl := Except.ok.inj h
    refine oneLine_applied (oneLine_expr plain _ function hfunction hf) (by decide) ?_ (by decide)
    exact oneLine_intercalate (by decide) (List.forall_mem_append.mpr
      ⟨oneLine_exprs plain _ args hargs has, oneLine_keywords plain ks hks hkws⟩)
  | .unary op operand, .unary _ hoperand, s, h => by
    rw [expr] at h
    obtain ⟨v, hv, h⟩ := bind_eq_ok.mp h
    obtain rfl := Except.ok.inj h
    refine oneLine_bracketed _ _ (oneLine_append (IsMark.ended ?_)
      (oneLine_expr plain _ operand hoperand hv))
    cases op <;> decide
  | .binary op left right, .binary _ hleft hright, s, h => by
    rw [expr] at h
    simp only [bind_eq_ok] at h
    obtain ⟨l, hl, r, hr, h⟩ := h
    obtain rfl := Except.ok.inj h
    refine oneLine_bracketed _ _ (oneLine_joined ?_ (by decide)
      (oneLine_expr plain _ right hright hr))
    exact (oneLine_mark (oneLine_mark (oneLine_expr plain _ left hleft hl) (by decide)).whole
      (isMark_op op)).whole
  | .bool op operands, .bool _ hoperands, s, h => by
    rw [expr] at h
    obtain ⟨vs, hvs, h⟩ := bind_eq_ok.mp h
    obtain rfl := Except.ok.inj h
    refine oneLine_bracketed _ _ (oneLine_intercalate ?_
      (oneLine_operands plain _ operands hoperands hvs))
    cases op <;> decide
  | .compare left rest, .compare hleft hrest, s, h => by
    rw [expr] at h
    simp only [bind_eq_ok] at h
    obtain ⟨l, hl, r, hr, h⟩ := h
    obtain rfl := Except.ok.inj h
    exact oneLine_bracketed _ _ (oneLine_trailing (oneLine_expr plain _ left hleft hl)
      (trailing_comparisons plain rest hrest hr))
  | .conditional test body orelse, .conditional htest hbody horelse, s, h => by
    rw [expr] at h
    simp only [bind_eq_ok] at h
    obtain ⟨b, hb, t, ht, o, ho, h⟩ := h
    obtain rfl := Except.ok.inj h
    exact oneLine_bracketed _ _ (oneLine_joined (oneLine_joined
      (oneLine_expr plain _ body hbody hb) (by decide) (oneLine_expr plain _ test htest ht))
      (by decide) (oneLine_expr plain _ orelse horelse ho))
  | .lambda ps body, .lambda hps hbody, s, h => by
    rw [expr] at h
    simp only [bind_eq_ok] at h
    obtain ⟨p, hp, b, hb, h⟩ := h
    obtain rfl := Except.ok.inj h
    refine oneLine_bracketed _ _ (oneLine_joined ?_ (by decide)
      (oneLine_expr plain _ body hbody hb))
    refine oneLine_append (IsMark.ended (by decide)) ?_
    split
    · exact ended_empty.whole
    · exact (trailing_append (by decide) (oneLine_parameters plain ps hps hp)).1
  | .named target value, .named htarget hvalue, s, h => by
    rw [expr] at h
    obtain ⟨v, hv, h⟩ := bind_eq_ok.mp h
    obtain rfl := Except.ok.inj h
    exact oneLine_bracketed _ _ (oneLine_joined (ended_of_isWord htarget).whole (by decide)
      (oneLine_expr plain _ value hvalue hv))
  | .tuple items, .tuple hitems, s, h => by
    rw [expr] at h
    obtain ⟨vs, hvs, h⟩ := bind_eq_ok.mp h
    obtain rfl := Except.ok.inj h
    split
    · exact (IsMark.ended (by decide)).whole
    · exact oneLine_bracketed _ _ (oneLine_itemsView (oneLine_exprs plain _ items hitems hvs))
  | .list items, .list hitems, s, h => by
    rw [expr] at h
    obtain ⟨vs, hvs, h⟩ := bind_eq_ok.mp h
    obtain rfl := Except.ok.inj h
    exact oneLine_between (by decide) (oneLine_intercalate (by decide)
      (oneLine_exprs plain _ items hitems hvs)) (by decide)
  | .set items, .set hitems, s, h => by
    rw [expr] at h
    obtain ⟨vs, hvs, h⟩ := bind_eq_ok.mp h
    obtain rfl := Except.ok.inj h
    refine oneLine_between (by decide) ?_ (by decide)
    split
    · exact (IsMark.ended (by decide)).whole
    · exact oneLine_intercalate (by decide) (oneLine_exprs plain _ items hitems hvs)
  | .dict items, .dict hkeys hvalues, s, h => by
    rw [expr] at h
    obtain ⟨vs, hvs, h⟩ := bind_eq_ok.mp h
    obtain rfl := Except.ok.inj h
    exact oneLine_between (by decide) (oneLine_intercalate (by decide)
      (oneLine_dictItems plain items hkeys hvalues hvs)) (by decide)
  | .listComp item cs, .listComp hitem hcs, s, h => by
    rw [expr] at h
    simp only [bind_eq_ok] at h
    obtain ⟨i, hi, c, hc, h⟩ := h
    obtain rfl := Except.ok.inj h
    exact oneLine_comprehension (oneLine_append (IsMark.ended (by decide))
      (oneLine_expr plain _ item hitem hi)) (trailing_clauses plain cs hcs hc) (by decide)
  | .setComp item cs, .setComp hitem hcs, s, h => by
    rw [expr] at h
    simp only [bind_eq_ok] at h
    obtain ⟨i, hi, c, hc, h⟩ := h
    obtain rfl := Except.ok.inj h
    exact oneLine_comprehension (oneLine_append (IsMark.ended (by decide))
      (oneLine_expr plain _ item hitem hi)) (trailing_clauses plain cs hcs hc) (by decide)
  | .dictComp key value cs, .dictComp hkey hvalue hcs, s, h => by
    rw [expr] at h
    simp only [bind_eq_ok] at h
    obtain ⟨k, hk, v, hv, c, hc, h⟩ := h
    obtain rfl := Except.ok.inj h
    have hkey : OneLine ("\x7b" ++ k) :=
      oneLine_append (IsMark.ended (by decide)) (oneLine_expr plain _ key hkey hk)
    exact oneLine_comprehension (oneLine_joined hkey (by decide)
      (oneLine_expr plain _ value hvalue hv)) (trailing_clauses plain cs hcs hc) (by decide)
  | .generator item cs, .generator hitem hcs, s, h => by
    rw [expr] at h
    simp only [bind_eq_ok] at h
    obtain ⟨i, hi, c, hc, h⟩ := h
    obtain rfl := Except.ok.inj h
    exact oneLine_comprehension (oneLine_append (IsMark.ended (by decide))
      (oneLine_expr plain _ item hitem hi)) (trailing_clauses plain cs hcs hc) (by decide)
  | .await value, .await hvalue, s, h => by
    rw [expr] at h
    obtain ⟨v, hv, h⟩ := bind_eq_ok.mp h
    obtain rfl := Except.ok.inj h
    exact oneLine_bracketed _ _ (oneLine_append (IsMark.ended (by decide))
      (oneLine_expr plain _ value hvalue hv))
  | .yield none, _, s, h => by
    rw [expr] at h
    obtain rfl := Except.ok.inj h
    exact oneLine_bracketed _ _ (IsMark.ended (by decide)).whole
  | .yield (some value), .yield hvalue, s, h => by
    rw [expr] at h
    obtain ⟨v, hv, h⟩ := bind_eq_ok.mp h
    obtain rfl := Except.ok.inj h
    exact oneLine_bracketed _ _ (oneLine_append (IsMark.ended (by decide))
      (oneLine_expr plain _ value (hvalue value rfl) hv))
  | .yieldFrom value, .yieldFrom hvalue, s, h => by
    rw [expr] at h
    obtain ⟨v, hv, h⟩ := bind_eq_ok.mp h
    obtain rfl := Except.ok.inj h
    exact oneLine_bracketed _ _ (oneLine_append (IsMark.ended (by decide))
      (oneLine_expr plain _ value hvalue hv))
  | .starred value, .starred hvalue, s, h => by
    rw [expr] at h
    obtain ⟨v, hv, h⟩ := bind_eq_ok.mp h
    obtain rfl := Except.ok.inj h
    exact oneLine_append (IsMark.ended (by decide)) (oneLine_expr plain _ value hvalue hv)
  | .slice lower upper step, .slice hlower hupper hstep, s, h => by
    rw [expr] at h
    simp only [bind_eq_ok] at h
    obtain ⟨l, hl, u, hu, st, hst, h⟩ := h
    obtain rfl := Except.ok.inj h
    have hl := (oneLine_maybe plain (Or.inl rfl) lower hlower hl).1
    have hu := (oneLine_maybe plain (Or.inl rfl) upper hupper hu).1
    exact oneLine_trailing (oneLine_joined hl (by decide) hu)
      ((oneLine_maybe plain (Or.inr (by decide)) step hstep hst).2 (by decide))
  | .formatted ps, .formatted hjoined, s, h => by
    rw [expr] at h
    split at h
    · obtain ⟨t, -, h⟩ := bind_eq_ok.mp h
      obtain rfl := Except.ok.inj h
      exact whole_plainFormatted (fun _ => not_isLineFeed_of_isQuote) rfl t
    · obtain ⟨ts, hts, h⟩ := bind_eq_ok.mp h
      obtain rfl := Except.ok.inj h
      exact whole_formatted (fun _ => not_isLineFeed_of_isQuote) rfl
        (alternating_parts hjoined hts).1

lemma oneLine_exprs (plain : Bool) (level : Level) :
    (es : List Expr) → (∀ e ∈ es, Spelled e) →
      ∀ {ss}, exprs plain level es = .ok ss → ∀ s ∈ ss, OneLine s
  | [], _, ss, h => by
    rw [exprs] at h
    obtain rfl := Except.ok.inj h
    exact List.forall_mem_nil _
  | e :: es, hspelled, ss, h => by
    obtain ⟨he, hes⟩ := List.forall_mem_cons.mp hspelled
    rw [exprs] at h
    simp only [bind_eq_ok] at h
    obtain ⟨s, hs, ss, hss, h⟩ := h
    obtain rfl := Except.ok.inj h
    exact List.forall_mem_cons.mpr
      ⟨oneLine_expr plain level e he hs, oneLine_exprs plain level es hes hss⟩

lemma oneLine_operands (plain : Bool) (level : Level) :
    (es : List Expr) → (∀ e ∈ es, Spelled e) →
      ∀ {ss}, operands plain level es = .ok ss → ∀ s ∈ ss, OneLine s
  | [], _, ss, h => by
    rw [operands] at h
    obtain rfl := Except.ok.inj h
    exact List.forall_mem_nil _
  | e :: es, hspelled, ss, h => by
    obtain ⟨he, hes⟩ := List.forall_mem_cons.mp hspelled
    rw [operands] at h
    simp only [bind_eq_ok] at h
    obtain ⟨s, hs, ss, hss, h⟩ := h
    obtain rfl := Except.ok.inj h
    exact List.forall_mem_cons.mpr
      ⟨oneLine_expr plain level e he hs, oneLine_operands plain level.next es hes hss⟩

lemma oneLine_maybe (plain : Bool) {mark : String} (hmark : mark = "" ∨ IsMark mark) :
    (e : Option Expr) → (∀ v ∈ e, Spelled v) →
      ∀ {s}, maybe plain mark e = .ok s → OneLine s ∧ (mark ≠ "" → Trailing s)
  | none, _, s, h => by
    rw [maybe] at h
    obtain rfl := Except.ok.inj h
    exact ⟨trailing_empty.1, fun _ => trailing_empty⟩
  | some e, hspelled, s, h => by
    rw [maybe] at h
    obtain ⟨v, hv, h⟩ := bind_eq_ok.mp h
    obtain rfl := Except.ok.inj h
    have hv := oneLine_expr plain _ e (hspelled e rfl) hv
    rcases hmark with rfl | hmark
    · exact ⟨oneLine_append ended_empty hv, fun h => absurd rfl h⟩
    · exact ⟨(trailing_append hmark hv).1, fun _ => trailing_append hmark hv⟩

lemma trailing_comparisons (plain : Bool) :
    (rest : List (CompareOp × Expr)) → (∀ r ∈ rest, Spelled r.2) →
      ∀ {s}, comparisons plain rest = .ok s → Trailing s
  | [], _, s, h => by
    rw [comparisons] at h
    obtain rfl := Except.ok.inj h
    exact trailing_empty
  | (op, e) :: rest, hspelled, s, h => by
    obtain ⟨he, hrest⟩ := List.forall_mem_cons.mp hspelled
    rw [comparisons] at h
    simp only [bind_eq_ok] at h
    obtain ⟨v, hv, ss, hss, h⟩ := h
    obtain rfl := Except.ok.inj h
    refine trailing_trailing (trailing_append ?_ (oneLine_expr plain _ e he hv))
      (trailing_comparisons plain rest hrest hss)
    cases op <;> decide

lemma oneLine_keywords (plain : Bool) :
    (ks : List Keyword) → (∀ k ∈ ks, KeywordSpelled k) →
      ∀ {ss}, keywords plain ks = .ok ss → ∀ s ∈ ss, OneLine s
  | [], _, ss, h => by
    rw [keywords] at h
    obtain rfl := Except.ok.inj h
    exact List.forall_mem_nil _
  | ⟨id, value⟩ :: ks, hspelled, ss, h => by
    obtain ⟨hk, hks⟩ := List.forall_mem_cons.mp hspelled
    cases hk with | intro hid hvalue =>
    unfold keywords at h
    simp only [bind_eq_ok] at h
    obtain ⟨v, hv, ss, hss, h⟩ := h
    obtain rfl := Except.ok.inj h
    refine List.forall_mem_cons.mpr ⟨?_, oneLine_keywords plain ks hks hss⟩
    refine oneLine_append ?_ (oneLine_expr plain _ value hvalue hv)
    cases id with
    | none => exact IsMark.ended (by decide)
    | some id => exact oneLine_mark (ended_of_isWord (hid id rfl)).whole (by decide)

lemma oneLine_dictItems (plain : Bool) :
    (items : List (Option Expr × Expr)) → (∀ i ∈ items, ∀ k ∈ i.1, Spelled k) →
      (∀ i ∈ items, Spelled i.2) →
      ∀ {ss}, dictItems plain items = .ok ss → ∀ s ∈ ss, OneLine s
  | [], _, _, ss, h => by
    rw [dictItems] at h
    obtain rfl := Except.ok.inj h
    exact List.forall_mem_nil _
  | (none, value) :: items, hkeys, hvalues, ss, h => by
    obtain ⟨hvalue, hvalues⟩ := List.forall_mem_cons.mp hvalues
    rw [dictItems] at h
    simp only [bind_eq_ok] at h
    obtain ⟨v, hv, ss, hss, h⟩ := h
    obtain rfl := Except.ok.inj h
    exact List.forall_mem_cons.mpr
      ⟨oneLine_append (IsMark.ended (by decide)) (oneLine_expr plain _ value hvalue hv),
        oneLine_dictItems plain items (List.forall_mem_cons.mp hkeys).2 hvalues hss⟩
  | (some key, value) :: items, hkeys, hvalues, ss, h => by
    obtain ⟨hkey, hkeys⟩ := List.forall_mem_cons.mp hkeys
    obtain ⟨hvalue, hvalues⟩ := List.forall_mem_cons.mp hvalues
    rw [dictItems] at h
    simp only [bind_eq_ok] at h
    obtain ⟨k, hk, v, hv, ss, hss, h⟩ := h
    obtain rfl := Except.ok.inj h
    exact List.forall_mem_cons.mpr
      ⟨oneLine_joined (oneLine_expr plain _ key (hkey key rfl) hk) (by decide)
        (oneLine_expr plain _ value hvalue hv), oneLine_dictItems plain items hkeys hvalues hss⟩

lemma trailing_clauses (plain : Bool) :
    (cs : List Clause) → (∀ c ∈ cs, ClauseSpelled c) →
      ∀ {s}, clauses plain cs = .ok s → Trailing s
  | [], _, s, h => by
    rw [clauses] at h
    obtain rfl := Except.ok.inj h
    exact trailing_empty
  | ⟨isAsync, target, source, conditions⟩ :: cs, hspelled, s, h => by
    obtain ⟨hc, hcs⟩ := List.forall_mem_cons.mp hspelled
    cases hc with | intro htarget hsource hconditions =>
    rw [clauses] at h
    simp only [bind_eq_ok] at h
    obtain ⟨t, ht, s', hs', is, his, rest, hrest, h⟩ := h
    obtain rfl := Except.ok.inj h
    have hsource := oneLine_trailing (oneLine_expr plain _ source hsource hs')
      (trailing_trailing
        (trailing_join (m := " if ") (by decide) (oneLine_exprs plain _ conditions hconditions his))
        (trailing_clauses plain cs hcs hrest))
    have htarget := oneLine_trailing (oneLine_expr plain _ target htarget ht)
      (trailing_append (m := " in ") (by decide) hsource)
    simp only [String.append_assoc] at htarget ⊢
    refine trailing_append ?_ htarget
    split <;> decide

lemma oneLine_param (plain : Bool) :
    (p : Param) → ParamSpelled p → ∀ {s}, param plain p = .ok s → OneLine s
  | ⟨pos, id, hint, none⟩, .intro hid hhint _, s, h => by
    rw [param] at h
    obtain ⟨a, ha, h⟩ := bind_eq_ok.mp h
    obtain rfl := Except.ok.inj h
    exact oneLine_append (ended_of_isWord hid)
      (oneLine_maybe plain (Or.inr (by decide)) hint hhint ha).1
  | ⟨pos, id, hint, some ⟨at', value⟩⟩, .intro hid hhint hdefault, s, h => by
    rw [param] at h
    simp only [bind_eq_ok] at h
    obtain ⟨a, ha, v, hv, h⟩ := h
    obtain rfl := Except.ok.inj h
    exact oneLine_joined (oneLine_append (ended_of_isWord hid)
      (oneLine_maybe plain (Or.inr (by decide)) hint hhint ha).1) (by decide)
      (oneLine_expr plain _ value (hdefault _ rfl) hv)

lemma oneLine_params (plain : Bool) :
    (ps : List Param) → (∀ p ∈ ps, ParamSpelled p) →
      ∀ {ss}, params plain ps = .ok ss → ∀ s ∈ ss, OneLine s
  | [], _, ss, h => by
    rw [params] at h
    obtain rfl := Except.ok.inj h
    exact List.forall_mem_nil _
  | p :: ps, hspelled, ss, h => by
    obtain ⟨hp, hps⟩ := List.forall_mem_cons.mp hspelled
    rw [params] at h
    simp only [bind_eq_ok] at h
    obtain ⟨s, hs, ss, hss, h⟩ := h
    obtain rfl := Except.ok.inj h
    exact List.forall_mem_cons.mpr
      ⟨oneLine_param plain p hp hs, oneLine_params plain ps hps hss⟩

lemma oneLine_maybeParam (plain : Bool) {mark : String} (hmark : IsMark mark) :
    (p : Option Param) → (∀ q ∈ p, ParamSpelled q) →
      ∀ {ss}, maybeParam plain mark p = .ok ss → ∀ s ∈ ss, OneLine s
  | none, _, ss, h => by
    rw [maybeParam] at h
    obtain rfl := Except.ok.inj h
    exact List.forall_mem_nil _
  | some p, hspelled, ss, h => by
    rw [maybeParam] at h
    obtain ⟨s, hs, h⟩ := bind_eq_ok.mp h
    obtain rfl := Except.ok.inj h
    exact List.forall_mem_singleton.mpr
      (oneLine_append hmark.ended (oneLine_param plain p (hspelled p rfl) hs))

lemma oneLine_parameters (plain : Bool) :
    (ps : Params) → (∀ p ∈ ps.all, ParamSpelled p) →
      ∀ {s}, parameters plain ps = .ok s → OneLine s
  | ⟨positionalOnly, positional, variadic, keywordOnly, variadicKeyword⟩, hspelled, s, h => by
    rw [parameters] at h
    simp only [bind_eq_ok] at h
    obtain ⟨po, hpo, p, hp, v, hv, ko, hko, vk, hvk, h⟩ := h
    obtain rfl := Except.ok.inj h
    simp only [ParamsOf.all, List.forall_mem_append, Option.mem_toList] at hspelled
    obtain ⟨⟨⟨⟨hpositionalOnly, hpositional⟩, hvariadic⟩, hkeywordOnly⟩, hvariadicKeyword⟩ :=
      hspelled
    have hpo := oneLine_params plain positionalOnly hpositionalOnly hpo
    have hp := oneLine_params plain positional hpositional hp
    have hv := oneLine_maybeParam plain (by decide) variadic hvariadic hv
    have hko := oneLine_params plain keywordOnly hkeywordOnly hko
    have hvk := oneLine_maybeParam plain (by decide) variadicKeyword hvariadicKeyword hvk
    refine oneLine_intercalate (by decide) ?_
    simp only [List.forall_mem_append]
    refine ⟨⟨⟨⟨⟨hpo, ?_⟩, hp⟩, ?_⟩, hko⟩, hvk⟩
    · split
      · exact List.forall_mem_nil _
      · exact List.forall_mem_singleton.mpr (IsMark.ended (by decide)).whole
    · split
      · exact List.forall_mem_singleton.mpr (IsMark.ended (by decide)).whole
      · exact hv

end

end ProbeCatalog.Syntax.Printer
