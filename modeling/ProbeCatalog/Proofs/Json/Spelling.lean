import ProbeCatalog.Proofs.Json.Strings

/-!
# Spellings of JSON values

`Spells v cs` says that the characters `cs` are one way to write the value `v`: blanks may
stand around brackets, commas and colons. The reader takes every spelling for the value that
it spells. Spelled are the values that records are made of: no real numbers, no whole numbers
too long to be read, no lone halves of surrogate pairs, and no key twice in one object.
-/
namespace ProbeCatalog.Json

/-- Characters that are blanks of the format. -/
def Blank (b : List Char) : Prop := b.all isJsonBlank = true

mutual

/-- The characters spell the value. -/
inductive Spells : Json → List Char → Prop
  | null : Spells .null "null".toList
  | true : Spells (.bool true) "true".toList
  | false : Spells (.bool false) "false".toList
  | integer (n : Int) (h : n.natAbs < 10 ^ maxDigits) : Spells (.integer n) (toString n).toList
  | string (cs : List Char) :
      Spells (.string (Text.ofChars cs)) (writeString (Text.ofChars cs)).toList
  | noItems {b : List Char} (hb : Blank b) : Spells (.array []) ('[' :: (b ++ [']']))
  | items {b cs : List Char} {vs : List Json} (hb : Blank b) (hvs : SpellsItems vs cs) :
      Spells (.array vs) ('[' :: (b ++ cs))
  | noFields {b : List Char} (hb : Blank b) : Spells (.object []) ('\x7b' :: (b ++ ['\x7d']))
  | fields {b cs : List Char} {fields : List (Text × Json)} (hb : Blank b)
      (hkeys : (fields.map (·.1)).Nodup) (hvs : SpellsFields fields cs) :
      Spells (.object fields) ('\x7b' :: (b ++ cs))

/-- The characters spell the items, one at least, and the closing bracket. -/
inductive SpellsItems : List Json → List Char → Prop
  | last {v : Json} {cs b : List Char} (hv : Spells v cs) (hb : Blank b) :
      SpellsItems [v] (cs ++ (b ++ [']']))
  | more {v : Json} {vs : List Json} {cs b b' ds : List Char} (hv : Spells v cs) (hb : Blank b)
      (hb' : Blank b') (hvs : SpellsItems vs ds) :
      SpellsItems (v :: vs) (cs ++ (b ++ ',' :: (b' ++ ds)))

/-- The characters spell the fields, one at least, and the closing brace. -/
inductive SpellsFields : List (Text × Json) → List Char → Prop
  | last (key : List Char) {v : Json} {b₁ b₂ cs b₃ : List Char} (h₁ : Blank b₁) (h₂ : Blank b₂)
      (hv : Spells v cs) (h₃ : Blank b₃) :
      SpellsFields [(Text.ofChars key, v)]
        ((writeString (Text.ofChars key)).toList ++ (b₁ ++ ':' :: (b₂ ++ (cs ++ (b₃ ++ ['\x7d'])))))
  | more (key : List Char) {v : Json} {fields : List (Text × Json)}
      {b₁ b₂ cs b₃ b₄ ds : List Char} (h₁ : Blank b₁) (h₂ : Blank b₂) (hv : Spells v cs)
      (h₃ : Blank b₃) (h₄ : Blank b₄) (hvs : SpellsFields fields ds) :
      SpellsFields ((Text.ofChars key, v) :: fields)
        ((writeString (Text.ofChars key)).toList ++
          (b₁ ++ ':' :: (b₂ ++ (cs ++ (b₃ ++ ',' :: (b₄ ++ ds))))))

end

/-! ### Numbers -/

/-- No character that would carry on a number stands in front. -/
def EndsNumber (rest : List Char) : Prop :=
  ∀ c ∈ rest.head?, c.isDigit = false ∧ c ≠ '.' ∧ c ≠ 'e' ∧ c ≠ 'E'

lemma takeWhile_digits {ds rest : List Char} (hd : ds.all Char.isDigit = true)
    (hr : EndsNumber rest) : (ds ++ rest).takeWhile Char.isDigit = ds := by
  rw [List.takeWhile_append_of_pos (by simpa using hd)]
  cases rest with
  | nil => simp
  | cons c cs =>
    have hc : c.isDigit = false := (hr c rfl).1
    rw [List.takeWhile_cons_of_neg (by simp [hc]), List.append_nil]

lemma all_isDigit_toDigits (n : Nat) : (Nat.toDigits 10 n).all Char.isDigit = true :=
  List.all_eq_true.mpr fun _ hc => Nat.isDigit_of_mem_toDigits (by decide) (by decide) hc

lemma digitsValue_toDigits (n : Nat) : digitsValue (Nat.toDigits 10 n) = n := by
  rw [digitsValue, ← Nat.ofDigitChars_eq_foldl]
  exact Nat.ofDigitChars_toDigits (by decide) (by decide)

/-- A number begins with a zero only if the zero is all of it. -/
lemma toDigits_zero_cons {n : Nat} {ds : List Char} (h : Nat.toDigits 10 n = '0' :: ds) :
    ds = [] := by
  induction n using Nat.base_induction 10 (by decide) generalizing ds with
  | single m hm =>
    rw [Nat.toDigits_of_lt_base hm] at h
    exact (List.cons.inj h).2.symm
  | digit m k hk hm ih =>
    rw [← Nat.toDigits_append_toDigits (by decide) hm hk] at h
    cases hd : Nat.toDigits 10 m with
    | nil => exact absurd hd Nat.toDigits_ne_nil
    | cons c cs =>
      rw [hd] at h
      have hc : c = '0' := (List.cons.inj h).1
      rw [hc] at hd
      have hcs : cs = [] := ih hd
      have hm' := digitsValue_toDigits m
      rw [hd, hcs] at hm'
      have : m = 0 := by rw [← hm']; rfl
      omega

lemma wholeSpelling_toDigits (n : Nat) {rest : List Char} (hr : EndsNumber rest) :
    wholeSpelling (Nat.toDigits 10 n ++ rest) = Nat.toDigits 10 n := by
  cases hd : Nat.toDigits 10 n with
  | nil => exact absurd hd Nat.toDigits_ne_nil
  | cons d ds =>
    by_cases h0 : d = '0'
    · rw [h0] at hd ⊢
      rw [toDigits_zero_cons hd]
      rfl
    · rw [List.cons_append, wholeSpelling]
      · rw [← List.cons_append, ← hd]
        exact takeWhile_digits (all_isDigit_toDigits n) hr
      · intro cs h
        exact h0 (List.cons.inj h).1

lemma unsignedSpelling_toDigits (n : Nat) {rest : List Char} (hr : EndsNumber rest) :
    unsignedSpelling (Nat.toDigits 10 n ++ rest) = some (Nat.toDigits 10 n, []) := by
  have hfraction : fractionSpelling rest = [] := by
    unfold fractionSpelling
    split
    · exact absurd rfl (hr '.' rfl).2.1
    · rfl
  have hexponent : exponentSpelling rest = [] := by
    cases rest with
    | nil => rfl
    | cons c cs =>
      have hc := hr c rfl
      rw [exponentSpelling, if_neg (by simp [hc])]
  have hne : (Nat.toDigits 10 n).isEmpty = false := by simp [Nat.toDigits_ne_nil]
  simp only [unsignedSpelling, wholeSpelling_toDigits n hr, List.drop_left, hfraction,
    List.length_nil, List.drop_zero, hexponent, hne, List.append_nil]
  rfl

lemma filter_isDigit_toDigits (n : Nat) :
    (Nat.toDigits 10 n).filter Char.isDigit = Nat.toDigits 10 n :=
  List.filter_eq_self.mpr (List.all_eq_true.mp (all_isDigit_toDigits n))

/-- The digits of a number begin with no minus sign. -/
lemma toDigits_ne_minus (n : Nat) (ds rest : List Char) :
    Nat.toDigits 10 n ++ rest ≠ '-' :: ds := by
  intro h
  cases hd : Nat.toDigits 10 n with
  | nil => exact Nat.toDigits_ne_nil hd
  | cons d ds' =>
    rw [hd] at h
    have hmem : '-' ∈ Nat.toDigits 10 n := by rw [hd, ← (List.cons.inj h).1]; simp
    exact absurd (Nat.isDigit_of_mem_toDigits (by decide) (by decide) hmem) (by decide)

lemma length_toDigits_le {n : Nat} (h : n < 10 ^ maxDigits) :
    ¬ maxDigits < (Nat.toDigits 10 n).length := by
  have := (Nat.length_toDigits_le_iff (b := 10) (by decide) (by decide : 0 < maxDigits)).mpr h
  omega

/-- What a whole number is spelled with: its characters, their digits and their value. -/
lemma spelling_integer (n : Int) {rest : List Char} (hr : EndsNumber rest) :
    numberSpelling ((toString n).toList ++ rest) = some ((toString n).toList, []) ∧
      (toString n).toList.filter Char.isDigit = Nat.toDigits 10 n.natAbs ∧
      integerOf (toString n).toList = n := by
  cases n with
  | ofNat n =>
    have hs : (toString (Int.ofNat n)).toList = Nat.toDigits 10 n := by
      simp [Int.toString_eq_repr, Int.repr, Nat.repr_eq_ofList_toDigits]
    rw [hs]
    refine ⟨?_, filter_isDigit_toDigits n, ?_⟩
    · rw [numberSpelling]
      · exact unsignedSpelling_toDigits n hr
      · exact fun cs => toDigits_ne_minus n cs rest
    · rw [integerOf]
      · rw [digitsValue_toDigits]; rfl
      · intro cs hcs
        exact toDigits_ne_minus n cs [] (by simpa using hcs)
  | negSucc n =>
    have hs : (toString (Int.negSucc n)).toList = '-' :: Nat.toDigits 10 (n + 1) := by
      simp [Int.toString_eq_repr, Int.repr, Nat.repr_eq_ofList_toDigits]
    rw [hs]
    refine ⟨?_, ?_, ?_⟩
    · rw [List.cons_append, numberSpelling, unsignedSpelling_toDigits (n + 1) hr]
      rfl
    · rw [List.filter_cons_of_neg (by decide)]
      exact filter_isDigit_toDigits (n + 1)
    · rw [integerOf, digitsValue_toDigits]; rfl

/-- A whole number is read as itself. -/
lemma numberAt_integer (n : Int) (h : n.natAbs < 10 ^ maxDigits) (position : Nat)
    {rest : List Char} (hr : EndsNumber rest) :
    ∃ q, numberAt ⟨position, (toString n).toList ++ rest⟩ = .ok (.integer n, ⟨q, rest⟩) := by
  obtain ⟨hspelling, hdigits, hvalue⟩ := spelling_integer n hr
  have hlen : ¬ maxDigits < (Nat.toDigits 10 n.natAbs).length := length_toDigits_le h
  refine ⟨position + (toString n).toList.length, ?_⟩
  simp only [numberAt, hspelling, hdigits, if_neg hlen, hvalue, Cursor.skip, List.drop_left]
  rfl

/-! ### Reading a spelling -/

lemma skipBlanks_append (position : Nat) {b cs : List Char} (hb : Blank b)
    (hcs : ∀ c ∈ cs.head?, isJsonBlank c = false) :
    Cursor.skipBlanks ⟨position, b ++ cs⟩ = ⟨position + b.length, cs⟩ := by
  have htake : (b ++ cs).takeWhile isJsonBlank = b := by
    rw [List.takeWhile_append_of_pos (List.all_eq_true.mp hb)]
    cases cs with
    | nil => simp
    | cons c cs =>
      have hc : isJsonBlank c = false := hcs c rfl
      rw [List.takeWhile_cons_of_neg (by simp [hc]), List.append_nil]
  simp only [Cursor.skipBlanks, htake, Cursor.skip, List.drop_left]

/-- A value may begin with this character. -/
def Opens (c : Char) : Prop := isJsonBlank c = false ∧ c ≠ ']' ∧ c ≠ '\uFEFF'

lemma ne_of_isDigit {c d : Char} (hc : c.isDigit = true) (hd : d.isDigit = false) : c ≠ d := by
  rintro rfl
  rw [hc] at hd
  cases hd

lemma opens_digit {c : Char} (h : c.isDigit = true) : Opens c := by
  refine ⟨?_, ne_of_isDigit h (by decide), ne_of_isDigit h (by decide)⟩
  simp only [isJsonBlank, Bool.or_eq_false_iff, decide_eq_false_iff_not]
  exact ⟨⟨⟨ne_of_isDigit h (by decide), ne_of_isDigit h (by decide)⟩,
    ne_of_isDigit h (by decide)⟩, ne_of_isDigit h (by decide)⟩

lemma toString_integer_head (n : Int) :
    ∃ c cs, (toString n).toList = c :: cs ∧ (c.isDigit = true ∨
      c = '-' ∧ ∃ d ds, cs = d :: ds ∧ d.isDigit = true) := by
  have hnat (n : Nat) : ∃ c cs, Nat.toDigits 10 n = c :: cs ∧ c.isDigit = true := by
    cases hd : Nat.toDigits 10 n with
    | nil => exact absurd hd Nat.toDigits_ne_nil
    | cons c cs =>
      have hmem : c ∈ Nat.toDigits 10 n := by rw [hd]; simp
      exact ⟨c, cs, rfl, Nat.isDigit_of_mem_toDigits (by decide) (by decide) hmem⟩
  cases n with
  | ofNat n =>
    obtain ⟨c, cs, hd, hc⟩ := hnat n
    refine ⟨c, cs, ?_, Or.inl hc⟩
    simpa [Int.toString_eq_repr, Int.repr, Nat.repr_eq_ofList_toDigits] using hd
  | negSucc n =>
    obtain ⟨c, cs, hd, hc⟩ := hnat (n + 1)
    refine ⟨'-', c :: cs, ?_, Or.inr ⟨rfl, c, cs, rfl, hc⟩⟩
    simpa [Int.toString_eq_repr, Int.repr, Nat.repr_eq_ofList_toDigits] using hd

lemma Spells.opens {v : Json} {cs : List Char} (h : Spells v cs) :
    ∃ c ds, cs = c :: ds ∧ Opens c := by
  cases h with
  | null => exact ⟨_, _, rfl, by decide, by decide, by decide⟩
  | true => exact ⟨_, _, rfl, by decide, by decide, by decide⟩
  | false => exact ⟨_, _, rfl, by decide, by decide, by decide⟩
  | integer n _ =>
    obtain ⟨c, cs, hs, hc | ⟨rfl, _⟩⟩ := toString_integer_head n
    · exact ⟨c, cs, hs, opens_digit hc⟩
    · exact ⟨_, cs, hs, by decide, by decide, by decide⟩
  | string _ => exact ⟨_, _, String.toList_ofList, by decide, by decide, by decide⟩
  | noItems _ => exact ⟨_, _, rfl, by decide, by decide, by decide⟩
  | items _ _ => exact ⟨_, _, rfl, by decide, by decide, by decide⟩
  | noFields _ => exact ⟨_, _, rfl, by decide, by decide, by decide⟩
  | fields _ _ _ => exact ⟨_, _, rfl, by decide, by decide, by decide⟩

lemma SpellsItems.opens {vs : List Json} {cs : List Char} (h : SpellsItems vs cs) :
    ∃ c ds, cs = c :: ds ∧ Opens c := by
  cases h with
  | last hv _ =>
    obtain ⟨c, ds, rfl, hc⟩ := hv.opens
    exact ⟨c, _, rfl, hc⟩
  | more hv _ _ _ =>
    obtain ⟨c, ds, rfl, hc⟩ := hv.opens
    exact ⟨c, _, rfl, hc⟩

lemma SpellsFields.opens {fields : List (Text × Json)} {cs : List Char}
    (h : SpellsFields fields cs) : ∃ ds, cs = '"' :: ds := by
  cases h with
  | last _ _ _ _ _ => exact ⟨_, by rw [writeString, String.toList_ofList]; rfl⟩
  | more _ _ _ _ _ _ _ => exact ⟨_, by rw [writeString, String.toList_ofList]; rfl⟩

lemma skipBlanks_cons (position : Nat) {b : List Char} (hb : Blank b) {c : Char}
    (hc : isJsonBlank c = false) (rest : List Char) :
    Cursor.skipBlanks ⟨position, b ++ c :: rest⟩ = ⟨position + b.length, c :: rest⟩ := by
  apply skipBlanks_append position hb
  rintro d ⟨⟩
  exact hc

/-- After a value come blanks and one of the format's marks; no number is carried on there. -/
lemma endsNumber_mark {b : List Char} (hb : Blank b) {c : Char} (hc : c ∈ [',', ']', '\x7d'])
    (rest : List Char) : EndsNumber (b ++ c :: rest) := by
  have hmark : ∀ c ∈ [',', ']', '\x7d'], c.isDigit = false ∧ c ≠ '.' ∧ c ≠ 'e' ∧ c ≠ 'E' := by
    intro c hc
    rcases List.mem_cons.mp hc with rfl | hc
    · decide
    rcases List.mem_cons.mp hc with rfl | hc
    · decide
    rcases List.mem_singleton.mp hc with rfl
    decide
  have hblank : ∀ c, isJsonBlank c = true → c.isDigit = false ∧ c ≠ '.' ∧ c ≠ 'e' ∧ c ≠ 'E' := by
    intro c hc
    simp only [isJsonBlank, Bool.or_eq_true, decide_eq_true_eq] at hc
    rcases hc with ((rfl | rfl) | rfl) | rfl <;> decide
  cases b with
  | nil => rintro d ⟨⟩; exact hmark c hc
  | cons e b => rintro d ⟨⟩; exact hblank e (List.all_eq_true.mp hb e (by simp))

lemma length_le_written (cs : List Char) :
    cs.length ≤ ((Text.ofChars cs).flatMap writeCodePoint).length := by
  induction cs with
  | nil => exact Nat.zero_le _
  | cons c cs ih =>
    have hc : Text.ofChars (c :: cs) = .char c :: Text.ofChars cs := rfl
    have hpos : 0 < (writeCodePoint (.char c)).length := (written c).length_pos
    rw [hc, List.flatMap_cons, List.length_append, List.length_cons]
    omega

/-- The string that stands here, with the fuel that readers of strings are given. -/
lemma stringFrom_writeString (start position : Nat) (cs rest : List Char) :
    ∃ q, stringFrom start
        (((writeString (Text.ofChars cs)).toList ++ rest).length + 1)
        (Cursor.skip ⟨position, (writeString (Text.ofChars cs)).toList ++ rest⟩ 1) =
      .ok (Text.ofChars cs, ⟨q, rest⟩) := by
  have hlen := length_le_written cs
  have hs : (writeString (Text.ofChars cs)).toList ++ rest =
      '"' :: ((Text.ofChars cs).flatMap writeCodePoint ++ '"' :: rest) := by
    rw [writeString, String.toList_ofList, List.cons_append, List.append_assoc]
    rfl
  rw [hs]
  refine ⟨_, stringFrom_write start _ _ cs rest ?_⟩
  simp only [List.length_cons, List.length_append]
  omega

lemma setField_new {key : Text} {value : Json} {fields : List (Text × Json)}
    (h : key ∉ fields.map (·.1)) : setField key value fields = fields ++ [(key, value)] := by
  induction fields with
  | nil => rfl
  | cons f fields ih =>
    rw [List.map_cons, List.mem_cons, not_or] at h
    rw [setField, if_neg (Ne.symm h.1), ih h.2, List.cons_append]

lemma wordAt?_integer (n : Int) (position : Nat) (rest : List Char) :
    wordAt? ⟨position, (toString n).toList ++ rest⟩ = none := by
  have hd {c d : Char} (hc : c.isDigit = true) (hd : d.isDigit = false) : ¬ d = c :=
    (ne_of_isDigit hc hd).symm
  obtain ⟨c, cs, hs, hc | ⟨rfl, d, ds, rfl, hc⟩⟩ := toString_integer_head n
  · rw [hs]
    simp [wordAt?, words, hd hc]
  · rw [hs]
    simp [wordAt?, words, hd hc]

/-- A whole number is read by `numberAt`. -/
lemma valueAt_integer (n : Int) (fuel position : Nat) (rest : List Char) :
    valueAt (fuel + 1) ⟨position, (toString n).toList ++ rest⟩ =
      numberAt ⟨position, (toString n).toList ++ rest⟩ := by
  have hword := wordAt?_integer n position rest
  have hne {d : Char} (hd : d.isDigit = false) (hm : d ≠ '-') (ds : List Char) :
      (toString n).toList ++ rest ≠ d :: ds := by
    obtain ⟨c, cs, hs, hc⟩ := toString_integer_head n
    rw [hs]
    rintro ⟨⟩
    rcases hc with hc | ⟨hc, _⟩
    · exact ne_of_isDigit hc hd rfl
    · exact hm hc
  unfold valueAt
  split
  · exact absurd ‹_› (hne (by decide) (by decide) _)
  · exact absurd ‹_› (hne (by decide) (by decide) _)
  · exact absurd ‹_› (hne (by decide) (by decide) _)
  · rw [hword]

/-- A field and the mark after it, which tells whether fields follow. -/
lemma fieldsAt_field (key : List Char) {v : Json} {b₁ b₂ cs b₃ rest : List Char} {mark : Char}
    {fuel : Nat} (done : List (Text × Json)) (position : Nat) (h₁ : Blank b₁) (h₂ : Blank b₂)
    (h₃ : Blank b₃) (hmark : isJsonBlank mark = false) (hcs : ∃ c ds, cs = c :: ds ∧ Opens c)
    (hv : ∀ position, ∃ q, valueAt fuel ⟨position, cs ++ (b₃ ++ mark :: rest)⟩ =
      .ok (v, ⟨q, b₃ ++ mark :: rest⟩)) :
    ∃ q, (mark = '\x7d' →
        fieldsAt (fuel + 1) done ⟨position, (writeString (Text.ofChars key)).toList ++
          (b₁ ++ ':' :: (b₂ ++ (cs ++ (b₃ ++ mark :: rest))))⟩ =
        .ok (setField (Text.ofChars key) v done, ⟨q + 1, rest⟩)) ∧
      (mark = ',' →
        fieldsAt (fuel + 1) done ⟨position, (writeString (Text.ofChars key)).toList ++
          (b₁ ++ ':' :: (b₂ ++ (cs ++ (b₃ ++ mark :: rest))))⟩ =
        fieldsAt fuel (setField (Text.ofChars key) v done) (Cursor.skipBlanks ⟨q + 1, rest⟩)) := by
  have hquote : ¬ (some '"' ≠ some '"') := by decide
  have hcolon : ¬ (some ':' ≠ some ':') := by decide
  obtain ⟨q, hq⟩ := stringFrom_writeString position position key
    (b₁ ++ ':' :: (b₂ ++ (cs ++ (b₃ ++ mark :: rest))))
  obtain ⟨c, ds, rfl, hc⟩ := hcs
  obtain ⟨q', hq'⟩ := hv (q + b₁.length + 1 + b₂.length)
  have hs : (writeString (Text.ofChars key)).toList =
      '"' :: ((Text.ofChars key).flatMap writeCodePoint ++ ['"']) := String.toList_ofList
  rw [hs] at hq ⊢
  simp only [List.cons_append, List.append_assoc, List.nil_append, Cursor.skip,
    List.drop_succ_cons, List.drop_zero] at hq hq' ⊢
  refine ⟨q' + b₃.length, ?_, ?_⟩
  all_goals
    rintro rfl
    simp only [fieldsAt, List.head?_cons, if_neg hquote, if_neg hcolon, hq, bind, Except.bind,
      pure, Except.pure, skipBlanks_cons q h₁ (by decide : isJsonBlank ':' = false), Cursor.skip,
      List.drop_succ_cons, List.drop_zero, skipBlanks_cons _ h₂ hc.1, hq',
      skipBlanks_cons q' h₃ hmark]

/-- The key after some fields is none of theirs, if all keys differ. -/
lemma key_notMem {done fields : List (Text × Json)} {key : Text} {v : Json}
    (h : ((done ++ (key, v) :: fields).map (·.1)).Nodup) : key ∉ done.map (·.1) := by
  rw [List.map_append, List.nodup_append] at h
  intro hmem
  exact h.2.2 _ hmem _ (by simp) rfl

mutual

theorem valueAt_spells {v : Json} {cs : List Char} (h : Spells v cs) (fuel : Nat)
    (hf : cs.length ≤ fuel) (position : Nat) {rest : List Char} (hr : EndsNumber rest) :
    ∃ q, valueAt fuel ⟨position, cs ++ rest⟩ = .ok (v, ⟨q, rest⟩) := by
  obtain ⟨fuel, rfl⟩ : ∃ n, fuel = n + 1 := by
    obtain ⟨c, ds, hcs, -⟩ := h.opens
    rw [hcs, List.length_cons] at hf
    exact ⟨fuel - 1, by omega⟩
  cases h with
  | null => exact ⟨_, rfl⟩
  | true => exact ⟨_, rfl⟩
  | false => exact ⟨_, rfl⟩
  | integer n hn =>
    rw [valueAt_integer]
    exact numberAt_integer n hn position hr
  | string cs =>
    obtain ⟨q, hq⟩ := stringFrom_writeString position position cs rest
    have hs : (writeString (Text.ofChars cs)).toList =
        '"' :: ((Text.ofChars cs).flatMap writeCodePoint ++ ['"']) := String.toList_ofList
    refine ⟨q, ?_⟩
    rw [hs] at hq ⊢
    simp only [List.cons_append, valueAt] at hq ⊢
    rw [hq]
    rfl
  | noItems hb =>
    have hbracket : isJsonBlank ']' = false := by decide
    simp only [List.cons_append, List.append_assoc, List.nil_append, valueAt, Cursor.skip,
      List.drop_succ_cons, List.drop_zero, skipBlanks_cons _ hb hbracket]
    exact ⟨_, rfl⟩
  | items hb hvs =>
    rename_i b cs vs
    simp only [List.length_append, List.length_cons] at hf
    obtain ⟨c, ds, rfl, hc⟩ := hvs.opens
    obtain ⟨q, hq⟩ := itemsAt_spells hvs fuel (by omega) (position + 1 + b.length) rest
    refine ⟨q, ?_⟩
    rw [List.cons_append] at hq
    have hclose : ¬ some c = some ']' := fun h => hc.2.1 (Option.some.inj h)
    simp only [List.cons_append, List.append_assoc, valueAt, Cursor.skip, List.drop_succ_cons,
      List.drop_zero, skipBlanks_cons _ hb hc.1, List.head?_cons, if_neg hclose, hq]
    rfl
  | noFields hb =>
    simp only [List.cons_append, List.append_assoc, List.nil_append, valueAt, Cursor.skip,
      List.drop_succ_cons, List.drop_zero,
      skipBlanks_cons _ hb (by decide : isJsonBlank '\x7d' = false)]
    exact ⟨_, rfl⟩
  | fields hb hkeys hvs =>
    rename_i b cs fields
    simp only [List.length_append, List.length_cons] at hf
    obtain ⟨ds, rfl⟩ := hvs.opens
    obtain ⟨q, hq⟩ := fieldsAt_spells hvs fuel (by omega) [] hkeys
      (position + 1 + b.length) rest
    refine ⟨q, ?_⟩
    rw [List.cons_append] at hq
    have hclose : ¬ some '"' = some '\x7d' := by decide
    simp only [List.cons_append, List.append_assoc, valueAt, Cursor.skip, List.drop_succ_cons,
      List.drop_zero, skipBlanks_cons _ hb (by decide : isJsonBlank '"' = false), List.head?_cons,
      if_neg hclose, hq]
    rfl

theorem itemsAt_spells {vs : List Json} {cs : List Char} (h : SpellsItems vs cs) (fuel : Nat)
    (hf : cs.length ≤ fuel) (position : Nat) (rest : List Char) :
    ∃ q, itemsAt fuel ⟨position, cs ++ rest⟩ = .ok (vs, ⟨q, rest⟩) := by
  obtain ⟨fuel, rfl⟩ : ∃ n, fuel = n + 1 := by
    obtain ⟨c, ds, hcs, -⟩ := h.opens
    rw [hcs, List.length_cons] at hf
    exact ⟨fuel - 1, by omega⟩
  cases h with
  | last hv hb =>
    rename_i v cs b
    simp only [List.length_append, List.length_cons] at hf
    obtain ⟨q, hq⟩ := valueAt_spells hv fuel (by omega) position
      (endsNumber_mark hb (by decide : ']' ∈ _) rest)
    simp only [List.append_assoc, List.cons_append, List.nil_append, itemsAt, hq, bind,
      Except.bind, skipBlanks_cons q hb (by decide : isJsonBlank ']' = false)]
    exact ⟨_, rfl⟩
  | more hv hb hb' hvs =>
    rename_i v vs cs b b' ds
    simp only [List.length_append, List.length_cons] at hf
    obtain ⟨q, hq⟩ := valueAt_spells hv fuel (by omega) position
      (endsNumber_mark hb (by decide : ',' ∈ _) (b' ++ (ds ++ rest)))
    obtain ⟨d, ds, rfl, hd⟩ := hvs.opens
    obtain ⟨q', hq'⟩ := itemsAt_spells hvs fuel (by omega)
      (q + b.length + 1 + b'.length) rest
    rw [List.cons_append] at hq hq'
    simp only [List.append_assoc, List.cons_append, itemsAt, hq, bind, Except.bind,
      skipBlanks_cons q hb (by decide : isJsonBlank ',' = false), Cursor.skip, List.drop_succ_cons,
      List.drop_zero, skipBlanks_cons _ hb' hd.1, hq']
    exact ⟨_, rfl⟩

theorem fieldsAt_spells {fields : List (Text × Json)} {cs : List Char}
    (h : SpellsFields fields cs) (fuel : Nat) (hf : cs.length ≤ fuel)
    (done : List (Text × Json)) (hkeys : ((done ++ fields).map (·.1)).Nodup)
    (position : Nat) (rest : List Char) :
    ∃ q, fieldsAt fuel done ⟨position, cs ++ rest⟩ = .ok (done ++ fields, ⟨q, rest⟩) := by
  obtain ⟨fuel, rfl⟩ : ∃ n, fuel = n + 1 := by
    obtain ⟨ds, hcs⟩ := h.opens
    rw [hcs, List.length_cons] at hf
    exact ⟨fuel - 1, by omega⟩
  cases h with
  | last key h₁ h₂ hv h₃ =>
    rename_i v b₁ b₂ cs b₃
    simp only [List.length_append, List.length_cons] at hf
    obtain ⟨q, hq, -⟩ := fieldsAt_field key done position h₁ h₂ h₃
      (by decide : isJsonBlank '\x7d' = false) hv.opens fun position =>
        valueAt_spells hv fuel (by omega) position
          (endsNumber_mark h₃ (by decide : '\x7d' ∈ _) rest)
    simp only [List.append_assoc, List.cons_append, List.nil_append]
    rw [hq rfl, setField_new (key_notMem hkeys)]
    exact ⟨_, rfl⟩
  | more key h₁ h₂ hv h₃ h₄ hvs =>
    rename_i v fields b₁ b₂ cs b₃ b₄ ds
    simp only [List.length_append, List.length_cons] at hf
    obtain ⟨q, -, hq⟩ := fieldsAt_field key done position h₁ h₂ h₃
      (by decide : isJsonBlank ',' = false) hv.opens fun position =>
        valueAt_spells hv fuel (by omega) position
          (endsNumber_mark h₃ (by decide : ',' ∈ _) (b₄ ++ (ds ++ rest)))
    simp only [List.append_assoc, List.cons_append]
    rw [hq rfl, setField_new (key_notMem hkeys)]
    obtain ⟨q', hq'⟩ := fieldsAt_spells hvs fuel (by omega)
      (done ++ [(Text.ofChars key, v)]) (by simpa using hkeys) (q + 1 + b₄.length) rest
    obtain ⟨ds, rfl⟩ := hvs.opens
    rw [List.cons_append] at hq' ⊢
    refine ⟨q', ?_⟩
    simp only [skipBlanks_cons (q + 1) h₄ (by decide : isJsonBlank '"' = false), hq',
      List.append_assoc, List.cons_append, List.nil_append]

end

lemma head?_ne_mark {b : List Char} (hb : Blank b) {c : Char} (hc : Opens c) (rest : List Char) :
    (b ++ c :: rest).head? ≠ some '\uFEFF' := by
  cases b with
  | nil => exact fun h => hc.2.2 (Option.some.inj h)
  | cons e b =>
    intro he
    have hblank : isJsonBlank e = true := List.all_eq_true.mp hb e (by simp)
    rw [Option.some.inj he] at hblank
    exact absurd hblank (by decide)

/-- A spelled value is read, with blanks around it. -/
theorem read_spells {v : Json} {cs b b' : List Char} (h : Spells v cs) (hb : Blank b)
    (hb' : Blank b') : read (b ++ (cs ++ b')) = .ok v := by
  obtain ⟨c, ds, rfl, hc⟩ := h.opens
  have hmark : (b ++ (c :: ds ++ b')).head? ≠ some '\uFEFF' := head?_ne_mark hb hc _
  have hends : EndsNumber b' := by
    have := endsNumber_mark hb' (by decide : ',' ∈ _) []
    cases b' with
    | nil => rintro d ⟨⟩
    | cons e b' => exact this
  obtain ⟨q, hq⟩ := valueAt_spells h (2 * (b ++ (c :: ds ++ b')).length + 1)
    (by simp only [List.length_append]; omega) (0 + b.length) hends
  have hrest : Cursor.skipBlanks ⟨q, b'⟩ = ⟨q + b'.length, []⟩ := by
    have : Cursor.skipBlanks ⟨q, b' ++ []⟩ = ⟨q + b'.length, []⟩ :=
      skipBlanks_append q hb' (by rintro d ⟨⟩)
    rwa [List.append_nil] at this
  have hstart : Cursor.skipBlanks ⟨0, b ++ (c :: ds ++ b')⟩ = ⟨0 + b.length, c :: ds ++ b'⟩ :=
    skipBlanks_cons 0 hb hc.1 (ds ++ b')
  simp only [read, if_neg hmark, hstart, hq, bind, Except.bind, pure, Except.pure, hrest]
  rfl

end ProbeCatalog.Json
