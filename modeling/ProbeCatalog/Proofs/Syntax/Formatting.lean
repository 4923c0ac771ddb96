import ProbeCatalog.Proofs.Text.Quotations
import ProbeCatalog.Syntax.Printer.Expression

/-!
# Formatted strings are literals

The parts of a formatted string are written between common quotes. Each part may stand between
them; that two parts side by side make no closing quotes is so because fields begin and end with
braces and no two literal parts stand side by side.
-/
namespace ProbeCatalog.Syntax.Printer

open Strings Quotation
open Lexer (isQuote)

/-- The text of a field. -/
def IsField (t : Text) : Prop := ∃ inner, t = .char '\x7b' :: inner ++ [.char '\x7d']

/-- Literal parts and fields, of which no two literal ones stand side by side. -/
inductive Alternating : List (Text × Bool) → Prop
  | nil : Alternating []
  | literal {t : Text} {parts : List (Text × Bool)} (h : Alternating parts)
      (hnext : (parts.map (·.2)).head? ≠ some true) : Alternating ((t, true) :: parts)
  | field {t : Text} {parts : List (Text × Bool)} (ht : IsField t) (h : Alternating parts) :
      Alternating ((t, false) :: parts)

variable {given : List (List Char)}

/-- Quotes that are fit for all parts were given for the first. -/
lemma mem_given_of_commonQuotes {parts : List (Text × Bool)} {fit : List (List Char)}
    {inner : List Char} (h : commonQuotes given parts = some (fit, inner)) :
    ∀ quotes ∈ fit, quotes ∈ given := by
  induction parts generalizing given inner with
  | nil =>
    cases h
    exact fun quotes hquotes => hquotes
  | cons part parts ih =>
    obtain ⟨t, isLiteral⟩ := part
    simp only [commonQuotes, Option.ite_none_right_eq_some, Option.map_eq_some_iff] at h
    obtain ⟨hany, ⟨fit', rest⟩, hrest, heq⟩ := h
    cases heq
    exact fun quotes hquotes => mem_given_of hany quotes (ih hrest quotes hquotes)

/-- Braces that are kept one by one are kept around a field. -/
lemma flatMap_field {f : CodePoint → List Char} (hopen : f (.char '\x7b') = ['\x7b'])
    (hclose : f (.char '\x7d') = ['\x7d']) (inner : Text) :
    (.char '\x7b' :: inner ++ [.char '\x7d'] : Text).flatMap f =
      '\x7b' :: inner.flatMap f ++ ['\x7d'] := by
  rw [List.flatMap_append, List.flatMap_cons, hopen, List.flatMap_singleton, hclose]
  rfl

lemma shownBetween_brace {q : Char} (hq : isQuote q = true) :
    shownBetween q (.char '\x7b') = ['\x7b'] ∧ shownBetween q (.char '\x7d') = ['\x7d'] := by
  rcases isQuote_iff.mp hq with rfl | rfl <;> decide

/-- The braces of a field are kept between any quotes. -/
lemma of_field (hgiven : ∀ quotes ∈ given, IsQuotes quotes) {t : Text} (ht : IsField t) :
    ∃ cs, (of given false t).1 = '\x7b' :: cs ++ ['\x7d'] := by
  obtain ⟨inner, rfl⟩ := ht
  have hinner := flatMap_field (f := escapeOne false) (by decide) (by decide) inner
  have hlast : ((.char '\x7b' :: inner ++ [.char '\x7d'] : Text).flatMap
      (escapeOne false)).getLast? = some '\x7d' := by
    rw [hinner, List.getLast?_concat]
  rcases inner_of hgiven hlast rfl with h | h
  · obtain ⟨hq, -⟩ := guarded_quotedParts (.char '\x7b' :: inner ++ [.char '\x7d'])
    obtain ⟨hopen, hclose⟩ := shownBetween_brace hq
    exact ⟨_, h.trans (flatMap_field hopen hclose inner)⟩
  · exact ⟨_, h.trans hinner⟩

lemma step_brace {m : Mode} {q : Char} {k : Nat} (hne : '\x7d' ≠ q)
    (h : m.step '\x7d' = .long q k) : k = 0 := by
  cases m with
  | long p n =>
    rw [Mode.step] at h
    split at h
    · split at h
      · cases h
      · cases h
        exact absurd ‹_› hne
    · split at h
      · cases h
      · cases h
        rfl
  | longEscape p =>
    cases h
    rfl
  | code => cases h
  | closed p => cases h
  | shortEscape p => cases h
  | opened p =>
    rw [Mode.step] at h
    split at h
    · cases h
    · split at h <;> cases h
  | short p =>
    rw [Mode.step] at h
    split at h
    · cases h
    · split at h <;> cases h

/-- After a closing brace no quotes are left to be counted. -/
lemma stays_brace {quotes cs : List Char} (hquotes : IsQuotes quotes) {k : Nat}
    (h : Stays (between quotes 0) (cs ++ ['\x7d']) (between quotes k)) :
    Ends quotes (cs ++ ['\x7d']) := by
  cases hquotes with
  | short hq => exact h
  | @long q hq =>
    obtain ⟨m, hcs, hbrace⟩ := h.split
    have hne : '\x7d' ≠ q := by
      rintro rfl
      cases hq
    cases hbrace with
    | cons _ hr =>
      generalize hm : Mode.step m '\x7d' = m' at hr
      cases hr
      rw [step_brace hne hm] at h
      exact h

/-- One part between quotes that are fit for it and for the parts after it. -/
lemma stays_of (t : Text) (isLiteral : Bool) {parts : List (Text × Bool)}
    (hgiven : ∀ quotes ∈ given, IsQuotes quotes) (hfield : isLiteral = false → IsField t)
    (hnext : isLiteral = true → (parts.map (·.2)).head? ≠ some true) {fit : List (List Char)}
    {rest : List Char} (hrest : commonQuotes (of given isLiteral t).2 parts = some (fit, rest))
    {quotes : List Char} (hquotes : quotes ∈ fit.head?) :
    ∃ k, Stays (between quotes 0) (of given isLiteral t).1 (between quotes k) ∧
      (k = 0 ∨ (parts.map (·.2)).head? = some false) := by
  have hfit := fit_of hgiven isLiteral t
  have hmem := mem_given_of_commonQuotes hrest quotes (List.mem_of_mem_head? hquotes)
  cases parts with
  | nil =>
    -- The last part comes before the closing quotes, which are the first that are fit for it.
    cases hrest
    exact ⟨0, hfit.ends quotes hquotes, Or.inl rfl⟩
  | cons part parts =>
    obtain ⟨k, -, hk⟩ := hfit.stands quotes hmem
    cases isLiteral with
    | true =>
      refine ⟨k, hk, Or.inr ?_⟩
      cases hpart : part.2 with
      | true => exact absurd (congrArg some hpart) (hnext rfl)
      | false => exact congrArg some hpart
    | false =>
      obtain ⟨cs, hcs⟩ := of_field hgiven (hfield rfl)
      rw [hcs] at hk ⊢
      exact ⟨0, stays_brace (hfit.quotes quotes hmem) hk, Or.inl rfl⟩

/-- The parts between quotes that are fit for all of them, after some quotes that only a field may
follow. -/
lemma stays_commonQuotes {parts : List (Text × Bool)} (halternating : Alternating parts)
    (hgiven : ∀ quotes ∈ given, IsQuotes quotes) {fit : List (List Char)} {inner : List Char}
    (h : commonQuotes given parts = some (fit, inner)) {quotes : List Char}
    (hquotes : quotes ∈ fit.head?) {k : Nat}
    (hk : k = 0 ∨ (parts.map (·.2)).head? = some false) :
    Stays (between quotes k) inner (between quotes 0) := by
  induction halternating generalizing given inner k with
  | nil =>
    cases h
    rcases hk with rfl | hk
    · exact .nil
    · cases hk
  | @literal t parts halternating hnext ih =>
    simp only [commonQuotes, Option.ite_none_right_eq_some, Option.map_eq_some_iff] at h
    obtain ⟨-, ⟨fit', rest⟩, hrest, heq⟩ := h
    cases heq
    obtain ⟨k', hfirst, hk'⟩ := stays_of t true hgiven nofun (fun _ => hnext) hrest hquotes
    obtain rfl : k = 0 := hk.resolve_right nofun
    exact Reads.append hfirst (ih (fit_of hgiven true t).quotes hrest hk')
  | @field t parts ht halternating ih =>
    simp only [commonQuotes, Option.ite_none_right_eq_some, Option.map_eq_some_iff] at h
    obtain ⟨-, ⟨fit', rest⟩, hrest, heq⟩ := h
    cases heq
    obtain ⟨k', hfirst, hk'⟩ := stays_of t false hgiven (fun _ => ht) nofun hrest hquotes
    have hmem := mem_given_of_commonQuotes hrest quotes (List.mem_of_mem_head? hquotes)
    have hkind := (fit_of hgiven false t).quotes quotes hmem
    obtain ⟨cs, hcs⟩ := of_field hgiven ht
    rw [hcs] at hfirst ⊢
    exact Reads.append (hfirst.forget hkind rfl (by decide) k)
      (ih (fit_of hgiven false t).quotes hrest hk')

/-- Common quotes are not missing. -/
lemma exists_head_of_commonQuotes {parts : List (Text × Bool)}
    (hgiven : ∀ quotes ∈ given, IsQuotes quotes) (hne : given ≠ []) {fit : List (List Char)}
    {inner : List Char} (h : commonQuotes given parts = some (fit, inner)) :
    ∃ quotes, quotes ∈ fit.head? := by
  induction parts generalizing given inner with
  | nil =>
    cases h
    exact ⟨_, List.head?_eq_some_head hne⟩
  | cons part parts ih =>
    obtain ⟨t, isLiteral⟩ := part
    simp only [commonQuotes, Option.ite_none_right_eq_some, Option.map_eq_some_iff] at h
    obtain ⟨-, ⟨fit', rest⟩, hrest, heq⟩ := h
    cases heq
    have hfit := fit_of hgiven isLiteral t
    exact ih hfit.quotes hfit.ne_nil hrest

lemma guarded_insideSingle (t : Text) : Guarded '\'' (insideSingle t) :=
  Guarded.flatMap (guarded_shownBetween rfl) t

/-- A formatted string is a literal after a letter. -/
theorem whole_formatted {sep : Char → Bool} (hsep : ∀ c, isQuote c = true → sep c = false)
    (hf : sep 'f' = false) {parts : List (Text × Bool)} (h : Alternating parts) :
    Whole sep (formatted parts).toList := by
  have hfirst : Plain sep ['f'] := fun c hc => by
    rw [List.mem_singleton.mp hc]
    exact ⟨rfl, hf⟩
  rw [formatted]
  cases hcommon : commonQuotes allQuotes parts with
  | some result =>
    obtain ⟨fit, inner⟩ := result
    obtain ⟨quotes, hquotes⟩ :=
      exists_head_of_commonQuotes isQuotes_allQuotes (List.cons_ne_nil _ _) hcommon
    have hkind := isQuotes_allQuotes quotes
      (mem_given_of_commonQuotes hcommon quotes (List.mem_of_mem_head? hquotes))
    have hends : Ends quotes inner :=
      stays_commonQuotes h isQuotes_allQuotes hcommon hquotes (Or.inl rfl)
    have hhead : fit.headD [] = quotes := by rw [List.headD_eq_head?_getD, hquotes]; rfl
    simp only [hhead, String.toList_ofList, List.cons_append, List.append_assoc]
    exact hfirst.sealed.append (hkind.whole hsep hends)
  | none =>
    have hends : Ends ['\'', '\'', '\''] (parts.flatMap fun part => insideSingle part.1) :=
      (ends_of_guarded rfl (Guarded.flatMap (fun part => guarded_insideSingle part.1) parts)).2
    simp only [String.toList_ofList, List.cons_append, List.append_assoc]
    exact hfirst.sealed.append (IsQuotes.whole hsep (.long rfl) hends)

lemma whole_plainFormatted {sep : Char → Bool} (hsep : ∀ c, isQuote c = true → sep c = false)
    (hf : sep 'f' = false) (t : Text) : Whole sep (plainFormatted t).toList := by
  have hfirst : Plain sep ['f'] := fun c hc => by
    rw [List.mem_singleton.mp hc]
    exact ⟨rfl, hf⟩
  rw [plainFormatted, String.toList_ofList]
  exact hfirst.sealed.append (whole_write isQuotes_allQuotes hsep t)

end ProbeCatalog.Syntax.Printer
