import ProbeCatalog.Proofs.Json.Writing

/-!
# The characters of written values

A value without real numbers is written in printable characters of ASCII, and over several lines
with line feeds besides. What a string holds does not matter: all other characters are escaped.
-/
namespace ProbeCatalog.Json

/-- A printable character of ASCII. -/
def IsPrintable (c : Char) : Prop := 32 ≤ c.toNat ∧ c.toNat < 127

instance (c : Char) : Decidable (IsPrintable c) := inferInstanceAs (Decidable (_ ∧ _))

/-- A character that a written value may hold. -/
def IsWritten (c : Char) : Prop := c = '\n' ∨ IsPrintable c

instance (c : Char) : Decidable (IsWritten c) := inferInstanceAs (Decidable (_ ∨ _))

/-- Values without real numbers. -/
inductive Exact : Json → Prop
  | null : Exact .null
  | bool (b : Bool) : Exact (.bool b)
  | integer (n : Int) : Exact (.integer n)
  | string (t : Text) : Exact (.string t)
  | array {items : List Json} (h : ∀ v ∈ items, Exact v) : Exact (.array items)
  | object {fields : List (Text × Json)} (h : ∀ f ∈ fields, Exact f.2) : Exact (.object fields)

/-! ### Strings and numbers -/

lemma isPrintable_of_isHexDigit {c : Char} (h : Table.isHexDigit c = true) : IsPrintable c := by
  simp only [Table.isHexDigit, Char.isDigit, Bool.or_eq_true, Bool.and_eq_true, decide_eq_true_eq,
    Char.le_def, UInt32.le_iff_toNat_le] at h
  have hcode : c.val.toNat = c.toNat := rfl
  simp only [hcode, Char.reduceVal, UInt32.reduceToNat] at h
  rw [IsPrintable]
  omega

lemma isPrintable_unitEscape (n : Nat) : ∀ c ∈ unitEscape n, IsPrintable c := by
  simp only [unitEscape, List.forall_mem_cons]
  refine ⟨by decide, by decide, fun c hc => ?_⟩
  exact isPrintable_of_isHexDigit (List.all_eq_true.mp (all_isHexDigit_hexPadded 4 n) c hc)

lemma isPrintable_writeCodePoint (p : CodePoint) : ∀ c ∈ writeCodePoint p, IsPrintable c := by
  unfold writeCodePoint
  split
  case h_8 =>
    dsimp only
    split
    · rename_i hn
      have hvalid : p.toNat.isValidChar := Or.inl (by omega)
      intro c hc
      rw [List.mem_singleton.mp hc, IsPrintable, Char.ofNat, dif_pos hvalid]
      exact hn
    · split
      · exact isPrintable_unitEscape _
      · exact List.forall_mem_append.mpr ⟨isPrintable_unitEscape _, isPrintable_unitEscape _⟩
  -- All others are written as two characters.
  all_goals exact List.forall_mem_cons.mpr ⟨by decide, List.forall_mem_singleton.mpr (by decide)⟩

/-- All characters of the text may stand in a written value. -/
def AllWritten (s : String) : Prop := ∀ c ∈ s.toList, IsWritten c

instance (s : String) : Decidable (AllWritten s) := List.decidableBAll IsWritten s.toList

lemma AllWritten.append {s t : String} (hs : AllWritten s) (ht : AllWritten t) :
    AllWritten (s ++ t) := by
  rw [AllWritten, String.toList_append]
  exact List.forall_mem_append.mpr ⟨hs, ht⟩

lemma allWritten_writeString (t : Text) : AllWritten (writeString t) := by
  rw [AllWritten, writeString, String.toList_ofList]
  simp only [List.forall_mem_cons, List.forall_mem_append, List.forall_mem_flatMap]
  refine ⟨Or.inr (by decide), fun p _ c hc => Or.inr (isPrintable_writeCodePoint p c hc),
    Or.inr (by decide), by simp⟩

lemma allWritten_integer (n : Int) : AllWritten (toString n) := by
  have hdigits (n : Nat) : ∀ c ∈ Nat.toDigits 10 n, IsWritten c := fun c hc =>
    Or.inr (isPrintable_of_isHexDigit (by
      rw [Table.isHexDigit, Nat.isDigit_of_mem_toDigits (by decide) (by decide) hc]
      rfl))
  cases n with
  | ofNat n => simpa [AllWritten, Int.toString_eq_repr, Int.repr, Nat.repr_eq_ofList_toDigits]
      using hdigits n
  | negSucc n =>
    have hminus : IsWritten '-' := Or.inr (by decide)
    simpa [AllWritten, Int.toString_eq_repr, Int.repr, Nat.repr_eq_ofList_toDigits, hminus]
      using hdigits (n + 1)

/-! ### Values over several lines -/

lemma AllWritten.intercalate {s : String} {items : List String} (hs : AllWritten s)
    (h : ∀ t ∈ items, AllWritten t) : AllWritten (s.intercalate items) := by
  induction items with
  | nil => exact nofun
  | cons t items ih =>
    obtain ⟨ht, hitems⟩ := List.forall_mem_cons.mp h
    cases items with
    | nil => rwa [String.intercalate_singleton]
    | cons u items =>
      rw [String.intercalate_cons_cons]
      exact (ht.append hs).append (ih hitems)

lemma allWritten_lineBreak (depth : Nat) : AllWritten (lineBreak depth) := by
  refine AllWritten.append (by decide) fun c hc => ?_
  rw [String.toList_ofList] at hc
  rw [List.eq_of_mem_replicate hc]
  exact Or.inr (by decide)

lemma AllWritten.enclose {depth : Nat} {opening closing : String} {items : List String}
    (hopening : AllWritten opening) (hclosing : AllWritten closing)
    (h : ∀ t ∈ items, AllWritten t) : AllWritten (enclose depth opening closing items) := by
  have hcomma : AllWritten "," := by decide
  rw [Json.enclose]
  split
  · exact hopening.append hclosing
  · exact (((hopening.append (allWritten_lineBreak _)).append
      ((hcomma.append (allWritten_lineBreak _)).intercalate h)).append
      (allWritten_lineBreak _)).append hclosing

/-- A value is written in printable characters and line feeds. -/
theorem allWritten_prettyAt {v : Json} (h : Exact v) (depth : Nat) :
    AllWritten (prettyAt depth v) := by
  induction h generalizing depth with
  | null => exact (by decide : AllWritten "null")
  | bool b =>
    cases b with
    | false => exact (by decide : AllWritten "false")
    | true => exact (by decide : AllWritten "true")
  | integer n => exact allWritten_integer n
  | string t => exact allWritten_writeString t
  | array _ ih =>
    rw [prettyAt, prettyItems_eq_map]
    refine AllWritten.enclose (by decide) (by decide) ?_
    exact List.forall_mem_map.mpr fun v hv => ih v hv (depth + 1)
  | object _ ih =>
    rw [prettyAt, prettyFields_eq_map, sortFields_map]
    refine AllWritten.enclose (by decide) (by decide) ?_
    simp only [List.forall_mem_map]
    intro f hf
    have hvalue := ih f ((inOrder_perm _).mem_iff.mp hf) (depth + 1)
    exact ((allWritten_writeString f.1).append (by decide)).append hvalue

end ProbeCatalog.Json
