import ProbeCatalog.Proofs.Json.Spelling

/-!
# Numbers that are too long

A reader that finds something wrong says what it is and where it stands, with one exception: whole
numbers of more digits than may be read. A reading that ends so has come to such a run of digits,
and every text that begins like a value up to such a number ends a reading so.
-/
namespace ProbeCatalog.Json

/-- The characters hold a run of more digits than a whole number may have. -/
def HasLongRun (cs : List Char) : Prop :=
  ∃ before digits after, cs = before ++ (digits ++ after) ∧ maxDigits < digits.length ∧
    digits.all Char.isDigit = true

lemma HasLongRun.of_suffix {cs ds : List Char} (h : HasLongRun ds) (hsuffix : ds <:+ cs) :
    HasLongRun cs := by
  obtain ⟨front, rfl⟩ := hsuffix
  obtain ⟨before, digits, after, rfl, hrun⟩ := h
  exact ⟨front ++ before, digits, after, by rw [List.append_assoc], hrun⟩

/-! ### What a reading comes to -/

/-- A reading that stays in a text: it goes on at a place of the text, and if a number is too long
the text holds a long run of digits. -/
def Stays {α : Type} (text : List Char) : Result (α × Cursor) → Prop
  | .ok (_, after) => after.rest <:+ text
  | .error .longNumber => HasLongRun text
  | .error (.malformed _ _) => True

section

variable {α β : Type} {text : List Char} {c : Cursor}

lemma stays_fail (problem : Problem) (position : Nat) :
    Stays text (fail problem position : Result (α × Cursor)) := trivial

lemma Stays.bind {x : Result (α × Cursor)} {f : α × Cursor → Result (β × Cursor)}
    (hx : Stays text x) (hf : ∀ a after, after.rest <:+ text → Stays text (f (a, after))) :
    Stays text (x >>= f) := by
  cases x with
  | error fault => cases fault <;> exact hx
  | ok result =>
    obtain ⟨a, after⟩ := result
    exact hf a after hx

lemma skip_suffix (h : c.rest <:+ text) (n : Nat) : (c.skip n).rest <:+ text :=
  (List.drop_suffix n c.rest).trans h

lemma skipBlanks_suffix (h : c.rest <:+ text) : c.skipBlanks.rest <:+ text := skip_suffix h _

lemma secondUnit_error {fault : ReadFault} (h : secondUnit c = .error fault) :
    ∃ problem position, fault = .malformed problem position := by
  rw [secondUnit] at h
  split at h
  · split at h
    · split at h
      · cases h
      · cases h
        exact ⟨_, _, rfl⟩
    · cases h
  · cases h

lemma stays_secondUnit {f : Option Nat → Result (α × Cursor)} (hf : ∀ m, Stays text (f m)) :
    Stays text (secondUnit c >>= f) := by
  cases hunit : secondUnit c with
  | error fault =>
    obtain ⟨problem, position, rfl⟩ := secondUnit_error hunit
    trivial
  | ok m => exact hf m

lemma stays_escapeAt (start : Nat) (h : c.rest <:+ text) : Stays text (escapeAt start c) := by
  rw [escapeAt]
  split
  · exact stays_fail _ _
  · split
    · exact stays_fail _ _
    · simp only
      split
      · apply stays_secondUnit
        intro m
        cases m with
        | none => exact skip_suffix h 5
        | some m =>
          simp only
          split
          · exact skip_suffix (skip_suffix h 5) 6
          · exact skip_suffix h 5
      · exact skip_suffix h 5
  · split
    · exact skip_suffix h 1
    · exact stays_fail _ _

lemma stays_stringFrom (start fuel : Nat) (h : c.rest <:+ text) :
    Stays text (stringFrom start fuel c) := by
  induction fuel generalizing c with
  | zero => exact stays_fail _ _
  | succ fuel ih =>
    rw [stringFrom]
    split
    · exact stays_fail _ _
    · exact skip_suffix h 1
    · apply (stays_escapeAt start (skip_suffix h 1)).bind
      intro p after hafter
      exact (ih hafter).bind fun t after hafter => hafter
    · split
      · exact stays_fail _ _
      · exact (ih (skip_suffix h 1)).bind fun t after hafter => hafter

lemma hasLongRun_of_whole {cs : List Char}
    (h : maxDigits < ((wholeSpelling cs).filter Char.isDigit).length) : HasLongRun cs := by
  unfold wholeSpelling at h
  split at h
  · exact absurd h (by decide)
  · refine ⟨[], cs.takeWhile Char.isDigit, cs.dropWhile Char.isDigit, ?_, ?_, ?_⟩
    · rw [List.nil_append, List.takeWhile_append_dropWhile]
    · exact Nat.lt_of_lt_of_le h (List.length_filter_le _ _)
    · exact List.all_takeWhile

/-- The digits of a long number are a run of the text. -/
lemma hasLongRun_of_number {cs whole more : List Char}
    (h : numberSpelling cs = some (whole, more))
    (hlong : maxDigits < (whole.filter Char.isDigit).length) : HasLongRun cs := by
  have hunsigned {cs whole more : List Char} (h : unsignedSpelling cs = some (whole, more)) :
      whole = wholeSpelling cs := by
    rw [unsignedSpelling] at h
    split at h
    · cases h
    · exact (Prod.mk.inj (Option.some.inj h)).1.symm
  unfold numberSpelling at h
  split at h
  · obtain ⟨⟨whole', more'⟩, hwhole, hboth⟩ := Option.map_eq_some_iff.mp h
    obtain ⟨rfl, rfl⟩ := Prod.mk.inj hboth
    rw [List.filter_cons_of_neg (by decide), hunsigned hwhole] at hlong
    exact (hasLongRun_of_whole hlong).of_suffix (List.suffix_cons _ _)
  · rw [hunsigned h] at hlong
    exact hasLongRun_of_whole hlong

lemma stays_numberAt (h : c.rest <:+ text) : Stays text (numberAt c) := by
  rw [numberAt]
  split
  · exact stays_fail _ _
  · rename_i whole hspelling
    split
    · exact (hasLongRun_of_number hspelling ‹_›).of_suffix h
    · exact skip_suffix h _
  · exact skip_suffix h _

lemma stays_valueAt (fuel : Nat) :
    (∀ c : Cursor, c.rest <:+ text → Stays text (valueAt fuel c)) ∧
      (∀ c : Cursor, c.rest <:+ text → Stays text (itemsAt fuel c)) ∧
      ∀ done, ∀ c : Cursor, c.rest <:+ text → Stays text (fieldsAt fuel done c) := by
  induction fuel with
  | zero => exact ⟨fun _ _ => trivial, fun _ _ => trivial, fun _ _ _ => trivial⟩
  | succ fuel ih =>
    obtain ⟨hvalue, hitems, hfields⟩ := ih
    refine ⟨fun c h => ?_, fun c h => ?_, fun done c h => ?_⟩
    · rw [valueAt]
      have hinner : (c.skip 1).skipBlanks.rest <:+ text := skipBlanks_suffix (skip_suffix h 1)
      split
      · exact (stays_stringFrom _ _ (skip_suffix h 1)).bind fun t after hafter => hafter
      · simp only
        split
        · exact skip_suffix hinner 1
        · exact (hitems _ hinner).bind fun vs after hafter => hafter
      · simp only
        split
        · exact skip_suffix hinner 1
        · exact (hfields _ _ hinner).bind fun fields after hafter => hafter
      · split
        · rename_i result hword
          obtain ⟨⟨w, v⟩, -, rfl⟩ := Option.map_eq_some_iff.mp hword
          exact skip_suffix h _
        · exact stays_numberAt h
    · rw [itemsAt]
      apply (hvalue c h).bind
      intro v after hafter
      have hblanks := skipBlanks_suffix hafter
      simp only
      split
      · exact skip_suffix hblanks 1
      · apply (hitems _ (skipBlanks_suffix (skip_suffix hblanks 1))).bind
        exact fun vs after hafter => hafter
      · exact stays_fail _ _
    · rw [fieldsAt]
      split
      · trivial
      · apply (stays_stringFrom _ _ (skip_suffix h 1)).bind
        intro key after hafter
        have hblanks := skipBlanks_suffix hafter
        simp only
        split
        · trivial
        · apply (hvalue _ (skipBlanks_suffix (skip_suffix hblanks 1))).bind
          intro v after hafter
          have hblanks := skipBlanks_suffix hafter
          simp only
          split
          · exact skip_suffix hblanks 1
          · exact hfields _ _ (skipBlanks_suffix (skip_suffix hblanks 1))
          · exact stays_fail _ _

end

/-- A reading that ends at a number has come to a long run of digits. -/
theorem hasLongRun_of_read {text : List Char} (h : read text = .error .longNumber) :
    HasLongRun text := by
  rw [read] at h
  split at h
  · cases h
  · have hstart : (Cursor.skipBlanks ⟨0, text⟩).rest <:+ text :=
      skipBlanks_suffix (List.suffix_refl text)
    have hvalue := (stays_valueAt (2 * text.length + 1)).1 _ hstart
    cases hread : valueAt (2 * text.length + 1) (Cursor.skipBlanks ⟨0, text⟩) with
    | error fault =>
      rw [hread] at h hvalue
      cases h
      exact hvalue
    | ok result =>
      rw [hread] at h
      obtain ⟨v, after⟩ := result
      simp only [bind, Except.bind] at h
      split at h <;> cases h

/-! ### Texts with a number that is too long -/

mutual

/-- The characters begin like a value, up to and with a whole number that is too long. What comes
before it is spelled as values are written. -/
inductive Overlong : List Char → Prop
  | number (n : Int) (h : 10 ^ maxDigits ≤ n.natAbs) : Overlong (toString n).toList
  | array {b cs : List Char} (hb : Blank b) (h : OverlongItems cs) : Overlong ('[' :: (b ++ cs))
  | object {b cs : List Char} (hb : Blank b) (h : OverlongFields cs) :
      Overlong ('\x7b' :: (b ++ cs))

/-- The characters begin like the items of an array, up to such a number. -/
inductive OverlongItems : List Char → Prop
  | here {cs : List Char} (h : Overlong cs) : OverlongItems cs
  | later {v : Json} {cs b b' ds : List Char} (hv : Spells v cs) (hb : Blank b) (hb' : Blank b')
      (h : OverlongItems ds) : OverlongItems (cs ++ (b ++ ',' :: (b' ++ ds)))

/-- The characters begin like the fields of an object, up to such a number. -/
inductive OverlongFields : List Char → Prop
  | here (key : List Char) {b₁ b₂ cs : List Char} (h₁ : Blank b₁) (h₂ : Blank b₂)
      (h : Overlong cs) :
      OverlongFields ((writeString (Text.ofChars key)).toList ++ (b₁ ++ ':' :: (b₂ ++ cs)))
  | later (key : List Char) {v : Json} {b₁ b₂ cs b₃ b₄ ds : List Char} (h₁ : Blank b₁)
      (h₂ : Blank b₂) (hv : Spells v cs) (h₃ : Blank b₃) (h₄ : Blank b₄) (h : OverlongFields ds) :
      OverlongFields ((writeString (Text.ofChars key)).toList ++
        (b₁ ++ ':' :: (b₂ ++ (cs ++ (b₃ ++ ',' :: (b₄ ++ ds))))))

end

lemma Overlong.opens {cs : List Char} (h : Overlong cs) : ∃ c ds, cs = c :: ds ∧ Opens c := by
  cases h with
  | number n _ =>
    obtain ⟨c, cs, hs, hc | ⟨rfl, _⟩⟩ := toString_integer_head n
    · exact ⟨c, cs, hs, opens_digit hc⟩
    · exact ⟨_, cs, hs, by decide, by decide, by decide⟩
  | array _ _ => exact ⟨_, _, rfl, by decide, by decide, by decide⟩
  | object _ _ => exact ⟨_, _, rfl, by decide, by decide, by decide⟩

lemma OverlongItems.opens {cs : List Char} (h : OverlongItems cs) :
    ∃ c ds, cs = c :: ds ∧ Opens c := by
  cases h with
  | here h => exact h.opens
  | later hv _ _ _ =>
    obtain ⟨c, ds, rfl, hc⟩ := hv.opens
    exact ⟨c, _, rfl, hc⟩

lemma OverlongFields.opens {cs : List Char} (h : OverlongFields cs) : ∃ ds, cs = '"' :: ds := by
  cases h with
  | here _ _ _ _ => exact ⟨_, by rw [writeString, String.toList_ofList]; rfl⟩
  | later _ _ _ _ _ _ _ => exact ⟨_, by rw [writeString, String.toList_ofList]; rfl⟩

lemma length_toDigits_gt {n : Nat} (h : 10 ^ maxDigits ≤ n) :
    maxDigits < (Nat.toDigits 10 n).length := by
  rw [← Nat.not_le]
  intro hno
  have hlt := (Nat.length_toDigits_le_iff (b := 10) (by decide) (by decide : 0 < maxDigits)).mp
    hno
  omega

/-- A number that is too long is not read. -/
lemma numberAt_overlong (n : Int) (h : 10 ^ maxDigits ≤ n.natAbs) (position : Nat)
    {rest : List Char} (hr : EndsNumber rest) :
    numberAt ⟨position, (toString n).toList ++ rest⟩ = .error .longNumber := by
  obtain ⟨hspelling, hdigits, -⟩ := spelling_integer n hr
  simp only [numberAt, hspelling, hdigits, if_pos (length_toDigits_gt h)]

mutual

theorem valueAt_overlong {cs : List Char} (h : Overlong cs) (fuel : Nat) (hf : 2 * cs.length ≤ fuel)
    (position : Nat) {rest : List Char} (hr : EndsNumber rest) :
    valueAt fuel ⟨position, cs ++ rest⟩ = .error .longNumber := by
  obtain ⟨fuel, rfl⟩ : ∃ n, fuel = n + 1 := by
    obtain ⟨c, ds, hcs, -⟩ := h.opens
    rw [hcs, List.length_cons] at hf
    exact ⟨fuel - 1, by omega⟩
  cases h with
  | number n hn =>
    rw [valueAt_integer]
    exact numberAt_overlong n hn position hr
  | array hb h =>
    rename_i b cs
    simp only [List.length_append, List.length_cons] at hf
    obtain ⟨c, ds, rfl, hc⟩ := h.opens
    have hitems := itemsAt_overlong h fuel (by omega) (position + 1 + b.length) hr
    have hclose : ¬ some c = some ']' := fun h => hc.2.1 (Option.some.inj h)
    rw [List.cons_append] at hitems
    simp only [List.cons_append, List.append_assoc, valueAt, Cursor.skip, List.drop_succ_cons,
      List.drop_zero, skipBlanks_cons _ hb hc.1, List.head?_cons, if_neg hclose, hitems]
    rfl
  | object hb h =>
    rename_i b cs
    simp only [List.length_append, List.length_cons] at hf
    obtain ⟨ds, rfl⟩ := h.opens
    have hfields := fieldsAt_overlong h fuel (by omega) [] (position + 1 + b.length) hr
    have hclose : ¬ some '"' = some '\x7d' := by decide
    rw [List.cons_append] at hfields
    simp only [List.cons_append, List.append_assoc, valueAt, Cursor.skip, List.drop_succ_cons,
      List.drop_zero, skipBlanks_cons _ hb (by decide : isJsonBlank '"' = false), List.head?_cons,
      if_neg hclose, hfields]
    rfl

theorem itemsAt_overlong {cs : List Char} (h : OverlongItems cs) (fuel : Nat)
    (hf : 2 * cs.length < fuel) (position : Nat) {rest : List Char} (hr : EndsNumber rest) :
    itemsAt fuel ⟨position, cs ++ rest⟩ = .error .longNumber := by
  obtain ⟨fuel, rfl⟩ : ∃ n, fuel = n + 1 := by
    obtain ⟨c, ds, hcs, -⟩ := h.opens
    rw [hcs, List.length_cons] at hf
    exact ⟨fuel - 1, by omega⟩
  cases h with
  | here h =>
    have hvalue := valueAt_overlong h fuel (by omega) position hr
    rw [itemsAt, hvalue]
    rfl
  | later hv hb hb' h =>
    rename_i v cs b b' ds
    simp only [List.length_append, List.length_cons] at hf
    obtain ⟨q, hq⟩ := valueAt_spells hv fuel (by omega) position
      (endsNumber_mark hb (by decide : ',' ∈ _) (b' ++ (ds ++ rest)))
    obtain ⟨d, ds, rfl, hd⟩ := h.opens
    have hitems := itemsAt_overlong h fuel (by omega) (q + b.length + 1 + b'.length) hr
    rw [List.cons_append] at hq hitems
    simp only [List.append_assoc, List.cons_append, itemsAt, hq, bind, Except.bind,
      skipBlanks_cons q hb (by decide : isJsonBlank ',' = false), Cursor.skip, List.drop_succ_cons,
      List.drop_zero, skipBlanks_cons _ hb' hd.1, hitems]

theorem fieldsAt_overlong {cs : List Char} (h : OverlongFields cs) (fuel : Nat)
    (hf : 2 * cs.length < fuel) (done : List (Text × Json)) (position : Nat) {rest : List Char}
    (hr : EndsNumber rest) : fieldsAt fuel done ⟨position, cs ++ rest⟩ = .error .longNumber := by
  obtain ⟨fuel, rfl⟩ : ∃ n, fuel = n + 1 := by
    obtain ⟨ds, hcs⟩ := h.opens
    rw [hcs, List.length_cons] at hf
    exact ⟨fuel - 1, by omega⟩
  cases h with
  | here key h₁ h₂ h =>
    rename_i b₁ b₂ cs
    simp only [List.length_append, List.length_cons] at hf
    have hquote : ¬ (some '"' ≠ some '"') := by decide
    have hcolon : ¬ (some ':' ≠ some ':') := by decide
    obtain ⟨q, hq⟩ := stringFrom_writeString position position key
      (b₁ ++ ':' :: (b₂ ++ (cs ++ rest)))
    have hvalue := valueAt_overlong h fuel (by omega) (q + b₁.length + 1 + b₂.length) hr
    obtain ⟨c, ds, rfl, hc⟩ := h.opens
    have hs : (writeString (Text.ofChars key)).toList =
        '"' :: ((Text.ofChars key).flatMap writeCodePoint ++ ['"']) := String.toList_ofList
    rw [hs] at hq ⊢
    simp only [List.cons_append, List.append_assoc, List.nil_append, Cursor.skip,
      List.drop_succ_cons, List.drop_zero] at hq hvalue ⊢
    simp only [fieldsAt, List.head?_cons, if_neg hquote, if_neg hcolon, hq, bind, Except.bind,
      skipBlanks_cons q h₁ (by decide : isJsonBlank ':' = false), Cursor.skip,
      List.drop_succ_cons, List.drop_zero, skipBlanks_cons _ h₂ hc.1, hvalue]
  | later key h₁ h₂ hv h₃ h₄ h =>
    rename_i v b₁ b₂ cs b₃ b₄ ds
    simp only [List.length_append, List.length_cons] at hf
    obtain ⟨q, -, hq⟩ := fieldsAt_field key done position h₁ h₂ h₃
      (by decide : isJsonBlank ',' = false) hv.opens fun position =>
        valueAt_spells hv fuel (by omega) position
          (endsNumber_mark h₃ (by decide : ',' ∈ _) (b₄ ++ (ds ++ rest)))
    simp only [List.append_assoc, List.cons_append]
    rw [hq rfl]
    have hfields := fieldsAt_overlong h fuel (by omega) (setField (Text.ofChars key) v done)
      (q + 1 + b₄.length) hr
    obtain ⟨ds, rfl⟩ := h.opens
    rw [List.cons_append] at hfields ⊢
    simp only [skipBlanks_cons (q + 1) h₄ (by decide : isJsonBlank '"' = false), hfields]

end

/-- A text that begins with a number that is too long, or like a value up to such a number, is not
read. -/
theorem read_overlong {b cs rest : List Char} (hb : Blank b) (h : Overlong cs)
    (hr : EndsNumber rest) : read (b ++ (cs ++ rest)) = .error .longNumber := by
  obtain ⟨c, ds, rfl, hc⟩ := h.opens
  have hstart : Cursor.skipBlanks ⟨0, b ++ (c :: ds ++ rest)⟩ = ⟨0 + b.length, c :: ds ++ rest⟩ :=
    skipBlanks_cons 0 hb hc.1 (ds ++ rest)
  have hvalue := valueAt_overlong h (2 * (b ++ (c :: ds ++ rest)).length + 1)
    (by simp only [List.length_append]; omega) (0 + b.length) hr
  have hmark : (b ++ (c :: ds ++ rest)).head? ≠ some '\uFEFF' := head?_ne_mark hb hc _
  simp only [read, if_neg hmark, hstart, hvalue, bind, Except.bind]

end ProbeCatalog.Json
