import Mathlib.Data.List.Forall2
import ProbeCatalog.Proofs.Syntax.Agreement

/-!
# Steps of the lexer

What the lexer does next depends on the characters and the state only: places are written down, and
fuel is no more than a bound. So the values of the tokens are a function of characters and state,
which goes on as the lexer does, case by case.
-/
namespace ProbeCatalog.Syntax.Lexer

/-! ### One step -/

section

variable {fuel : Nat} {blocks : List Margin} {brackets : List String} {pos start : Position}
  {m : Margin} {cs rest note : List Char}

lemma lexFrom_unmeasured (h : margin .zero 0 pos cs = none) :
    lexFrom (fuel + 1) ⟨true, blocks, brackets⟩ pos cs = none := by
  simp only [lexFrom, if_true, h, Option.bind_eq_bind, Option.bind_none]

lemma lexFrom_comment {c : Char} (h : margin .zero 0 pos cs = some (m, start, '#' :: note))
    (hrest : ('#' :: note).dropWhile (· ≠ '\n') = c :: rest) :
    lexFrom (fuel + 1) ⟨true, blocks, brackets⟩ pos cs = lexFrom fuel ⟨true, blocks, brackets⟩
      ⟨(start.advance (('#' :: note).takeWhile (· ≠ '\n'))).line + 1, 0⟩ rest := by
  simp only [lexFrom, if_true, h, hrest, Option.bind_eq_bind, Option.bind_some]

lemma lexFrom_lastComment (h : margin .zero 0 pos cs = some (m, start, '#' :: note))
    (hrest : ('#' :: note).dropWhile (· ≠ '\n') = []) :
    lexFrom (fuel + 1) ⟨true, blocks, brackets⟩ pos cs = lexFrom fuel ⟨false, blocks, brackets⟩
      (start.advance (('#' :: note).takeWhile (· ≠ '\n'))) [] := by
  simp only [lexFrom, if_true, h, hrest, Option.bind_eq_bind, Option.bind_some]

lemma lexFrom_blank (h : margin .zero 0 pos cs = some (m, start, '\n' :: rest)) :
    lexFrom (fuel + 1) ⟨true, blocks, brackets⟩ pos cs =
      lexFrom fuel ⟨true, blocks, brackets⟩ ⟨start.line + 1, 0⟩ rest := by
  simp only [lexFrom, if_true, h, Option.bind_eq_bind, Option.bind_some]

/-- The line holds more than blanks and a comment. -/
def Filled (cs : List Char) : Prop := ∀ c ∈ cs.head?, c ≠ '#' ∧ c ≠ '\n'

lemma lexFrom_filled (h : margin .zero 0 pos cs = some (m, start, rest)) (hrest : Filled rest) :
    lexFrom (fuel + 1) ⟨true, blocks, brackets⟩ pos cs = (do
      let (tokens, blocks) ← indentation m blocks
      let lexemes ← lexFrom fuel ⟨false, blocks, brackets⟩ start rest
      pure (tokens.map (⟨start, ·⟩) ++ lexemes)) := by
  simp only [lexFrom, if_true, h, Option.bind_eq_bind, Option.bind_some]
  split
  · exact absurd rfl (hrest '#' rfl).1
  · exact absurd rfl (hrest '\n' rfl).2
  · rfl

lemma lexFrom_end : lexFrom (fuel + 1) ⟨false, blocks, brackets⟩ pos [] =
    if brackets.isEmpty then some [⟨pos, .finish⟩] else none := rfl

lemma lexFrom_note : lexFrom (fuel + 1) ⟨false, blocks, brackets⟩ pos ('#' :: note) =
    lexFrom fuel ⟨false, blocks, brackets⟩ (pos.advance (('#' :: note).takeWhile (· ≠ '\n')))
      (('#' :: note).dropWhile (· ≠ '\n')) := rfl

lemma lexFrom_newline : lexFrom (fuel + 1) ⟨false, blocks, brackets⟩ pos ('\n' :: rest) =
    if brackets.isEmpty then (do
      let lexemes ← lexFrom fuel ⟨true, blocks, brackets⟩ ⟨pos.line + 1, 0⟩ rest
      pure (⟨pos, .newline⟩ :: lexemes))
    else lexFrom fuel ⟨false, blocks, brackets⟩ ⟨pos.line + 1, 0⟩ rest := rfl

lemma lexFrom_continued : lexFrom (fuel + 1) ⟨false, blocks, brackets⟩ pos ('\\' :: '\n' :: rest) =
    if rest.isEmpty then none
    else lexFrom fuel ⟨false, blocks, brackets⟩ ⟨pos.line + 1, 0⟩ rest := rfl

/-- Characters inside a line that begin neither a comment nor another line. -/
structure Solid (cs : List Char) : Prop where
  filled : Filled cs
  whole : ∀ rest, cs ≠ '\\' :: '\n' :: rest

lemma lexFrom_solid {c : Char} (h : Solid (c :: rest)) :
    lexFrom (fuel + 1) ⟨false, blocks, brackets⟩ pos (c :: rest) =
      if isInnerBlank c then
        lexFrom fuel ⟨false, blocks, brackets⟩ ⟨pos.line, pos.column + 1⟩ rest
      else (do
        let (t, own, rest) ← token (c :: rest)
        let brackets ← track brackets t
        let lexemes ← lexFrom fuel ⟨false, blocks, brackets⟩ (pos.advance own) rest
        pure (⟨pos, t⟩ :: lexemes)) := by
  rw [lexFrom.eq_def]
  dsimp only
  rw [if_neg Bool.false_ne_true]
  split
  · rename_i heq
    cases heq
  · rename_i heq
    cases heq
    exact absurd rfl (h.filled '#' rfl).1
  · rename_i heq
    cases heq
    exact absurd rfl (h.filled '\n' rfl).2
  · rename_i heq
    exact absurd heq (h.whole _)
  · rename_i heq
    cases heq
    rfl

end

/-! ### Places and fuel -/

/-- The fuel that the lexer needs. -/
def need (st : LexState) (cs : List Char) : Nat := 2 * cs.length + if st.atLineStart then 2 else 1

lemma need_start (blocks : List Margin) (brackets : List String) (cs : List Char) :
    need ⟨true, blocks, brackets⟩ cs = 2 * cs.length + 2 := rfl

lemma need_inner (blocks : List Margin) (brackets : List String) (cs : List Char) :
    need ⟨false, blocks, brackets⟩ cs = 2 * cs.length + 1 := rfl

lemma margin_same (m : Margin) (continued : Nat) (pos pos' : Position) (cs : List Char) :
    Option.Rel (fun x y => x.1 = y.1 ∧ x.2.2 = y.2.2) (margin m continued pos cs)
      (margin m continued pos' cs) := by
  induction m, continued, pos, cs using margin.induct generalizing pos' with
  | case1 m continued pos cs ih => exact ih _
  | case2 m continued pos cs ih => exact ih _
  | case3 m continued pos cs ih => exact ih _
  | case4 m continued pos cs hempty =>
    simp only [margin, hempty, if_true]
    exact .none
  | case5 m continued pos cs hempty ih =>
    simp only [margin, hempty]
    exact ih _
  | case6 m continued pos cs hblank htab hfeed hslash hhead =>
    simp only [margin, hhead, if_true]
    exact .none
  | case7 m continued pos cs hblank htab hfeed hslash hhead =>
    simp only [margin, hhead, if_false]
    exact .some ⟨rfl, rfl⟩

/-- What comes after the margin of a line: a comment, a line end or something else. -/
lemma line_cases (cs : List Char) :
    (∃ note, cs = '#' :: note) ∨ (∃ rest, cs = '\n' :: rest) ∨ Filled cs := by
  cases cs with
  | nil => exact Or.inr (Or.inr nofun)
  | cons c rest =>
    by_cases hnote : c = '#'
    · exact Or.inl ⟨rest, by rw [hnote]⟩
    · by_cases hend : c = '\n'
      · exact Or.inr (Or.inl ⟨rest, by rw [hend]⟩)
      · refine Or.inr (Or.inr fun d hd => ?_)
        cases hd
        exact ⟨hnote, hend⟩

/-- What comes next inside a line. -/
lemma inner_cases (cs : List Char) :
    cs = [] ∨ (∃ note, cs = '#' :: note) ∨ (∃ rest, cs = '\n' :: rest) ∨
      (∃ rest, cs = '\\' :: '\n' :: rest) ∨ ∃ c rest, cs = c :: rest ∧ Solid cs := by
  by_cases hwhole : ∃ rest, cs = '\\' :: '\n' :: rest
  · exact Or.inr (Or.inr (Or.inr (Or.inl hwhole)))
  · rcases line_cases cs with h | h | h
    · exact Or.inr (Or.inl h)
    · exact Or.inr (Or.inr (Or.inl h))
    · cases cs with
      | nil => exact Or.inl rfl
      | cons c rest =>
        have hsolid : Solid (c :: rest) := ⟨h, fun more heq => hwhole ⟨more, heq⟩⟩
        exact Or.inr (Or.inr (Or.inr (Or.inr ⟨c, rest, rfl, hsolid⟩)))

lemma one_le_cost_stringFrom {literal : StringLiteral} {cs own rest : List Char} {t : Token}
    (h : stringFrom literal cs = some (t, own, rest)) : 1 ≤ t.cost := by
  cases cs with
  | nil => cases h
  | cons q cs =>
    simp only [stringFrom, Option.map_eq_some_iff] at h
    obtain ⟨_, -, heq⟩ := h
    cases heq
    exact Nat.le_add_left 1 _

lemma one_le_cost_word {cs own rest : List Char} {t : Token} (h : word cs = some (t, own, rest)) :
    1 ≤ t.cost := by
  simp only [word] at h
  split at h
  · obtain ⟨⟨t', own', rest'⟩, hstring, heq⟩ := Option.map_eq_some_iff.mp h
    cases heq
    exact one_le_cost_stringFrom hstring
  · split at h
    · split at h <;> cases h <;> exact le_rfl
    · split at h <;> cases h
      exact le_rfl

lemma one_le_cost_token {cs own rest : List Char} {t : Token}
    (h : token cs = some (t, own, rest)) : 1 ≤ t.cost := by
  cases cs with
  | nil => cases h
  | cons c cs =>
    simp only [token] at h
    split at h
    · exact one_le_cost_word h
    · split at h
      · exact one_le_cost_stringFrom h
      · split at h
        · obtain ⟨_, -, heq⟩ := Option.map_eq_some_iff.mp h
          cases heq
          exact le_rfl
        · obtain ⟨_, -, heq⟩ := exists_of_firstM h
          obtain ⟨_, -, heq⟩ := Option.map_eq_some_iff.mp heq
          cases heq
          exact le_rfl

/-- A token takes a character at least. -/
lemma length_token {cs own rest : List Char} {t : Token} (h : token cs = some (t, own, rest)) :
    rest.length < cs.length := by
  have hcost := one_le_cost_token h
  have hlength := cost_token h
  omega

lemma length_note (note : List Char) :
    (('#' :: note).dropWhile (· ≠ '\n')).length < ('#' :: note).length :=
  length_dropWhile_lt (decide_eq_true (by decide))

lemma sameTokens_append {ts : List Token} {start start' : Position} {us us' : List Lexeme}
    (h : SameTokens us us') :
    SameTokens (ts.map (⟨start, ·⟩) ++ us) (ts.map (⟨start', ·⟩) ++ us') := by
  induction ts with
  | nil => exact h
  | cons t ts ih => exact .cons rfl ih

/-- With enough fuel the tokens depend on the characters and the state only. -/
lemma lexFrom_same {fuel fuel' : Nat} {st : LexState} {pos pos' : Position} {cs : List Char}
    (h : need st cs ≤ min fuel fuel') :
    Option.Rel SameTokens (lexFrom fuel st pos cs) (lexFrom fuel' st pos' cs) := by
  obtain ⟨atLineStart, blocks, brackets⟩ := st
  induction fuel generalizing fuel' atLineStart blocks brackets pos pos' cs with
  | zero => cases atLineStart <;> simp [need] at h
  | succ fuel ih =>
    cases fuel' with
    | zero => cases atLineStart <;> simp [need] at h
    | succ fuel' =>
      cases atLineStart with
      | true =>
        rw [need_start] at h
        rcases rel_cases (margin_same .zero 0 pos pos' cs) with
          ⟨hx, hy⟩ | ⟨⟨m, start, rest⟩, ⟨m', start', rest'⟩, hx, hy, hm, hrest⟩
        · rw [lexFrom_unmeasured hx, lexFrom_unmeasured hy]
          exact .none
        · obtain rfl : m = m' := hm
          obtain rfl : rest = rest' := hrest
          have hle := length_margin hx
          rcases line_cases rest with ⟨note, rfl⟩ | ⟨rest, rfl⟩ | hfilled
          · have hnote := length_note note
            cases hrest : ('#' :: note).dropWhile (· ≠ '\n') with
            | cons c rest =>
              rw [lexFrom_comment hx hrest, lexFrom_comment hy hrest]
              rw [hrest, List.length_cons] at hnote
              exact ih _ _ _ (by rw [need_start]; omega)
            | nil =>
              rw [lexFrom_lastComment hx hrest, lexFrom_lastComment hy hrest]
              exact ih _ _ _ (by rw [need_inner, List.length_nil]; omega)
          · rw [lexFrom_blank hx, lexFrom_blank hy]
            rw [List.length_cons] at hle
            exact ih _ _ _ (by rw [need_start]; omega)
          · rw [lexFrom_filled hx hfilled, lexFrom_filled hy hfilled]
            refine rel_bind_self fun opened _ => ?_
            refine rel_bind (ih _ _ _ ?_) fun us us' hus => .some (sameTokens_append hus)
            rw [need_inner]
            omega
      | false =>
        rw [need_inner] at h
        rcases inner_cases cs with
          rfl | ⟨note, rfl⟩ | ⟨rest, rfl⟩ | ⟨rest, rfl⟩ | ⟨c, rest, rfl, hsolid⟩
        · rw [lexFrom_end, lexFrom_end]
          split
          · exact .some (.cons rfl .nil)
          · exact .none
        · rw [lexFrom_note, lexFrom_note]
          have hnote := length_note note
          exact ih _ _ _ (by rw [need_inner]; omega)
        · rw [lexFrom_newline, lexFrom_newline]
          rw [List.length_cons] at h
          split
          · refine rel_bind (ih _ _ _ ?_) fun us us' hus => .some (.cons rfl hus)
            rw [need_start]
            omega
          · exact ih _ _ _ (by rw [need_inner]; omega)
        · rw [lexFrom_continued, lexFrom_continued]
          simp only [List.length_cons] at h
          split
          · exact .none
          · exact ih _ _ _ (by rw [need_inner]; omega)
        · rw [lexFrom_solid hsolid, lexFrom_solid hsolid]
          split
          · rw [List.length_cons] at h
            exact ih _ _ _ (by rw [need_inner]; omega)
          · refine rel_bind_self fun ⟨t, own, more⟩ htoken => ?_
            have hless := length_token htoken
            refine rel_bind_self fun brackets _ => ?_
            refine rel_bind (R := SameTokens) (ih _ _ _ ?_) fun us us' hus => ?_
            · rw [need_inner]
              omega
            · exact .some (.cons rfl hus)

/-- The values of the tokens from a state on. -/
def values (st : LexState) (cs : List Char) : Option (List Token) :=
  (lexFrom (need st cs) st ⟨1, 0⟩ cs).map fun tokens => tokens.map (·.value)

lemma map_lexFrom {fuel : Nat} {st : LexState} {cs : List Char} (h : need st cs ≤ fuel)
    (pos : Position) :
    (lexFrom fuel st pos cs).map (fun tokens => tokens.map (·.value)) = values st cs := by
  have hsame : Option.Rel SameTokens (lexFrom fuel st pos cs)
      (lexFrom (need st cs) st ⟨1, 0⟩ cs) := lexFrom_same (Nat.le_min.mpr ⟨h, le_rfl⟩)
  rw [values]
  rcases rel_cases hsame with ⟨hx, hy⟩ | ⟨ts, us, hx, hy, htus⟩
  · rw [hx, hy]
  · rw [hx, hy, Option.map_some, Option.map_some, sameTokens_iff.mp htus]

/-! ### Steps that values take -/

/-- Values of tokens in front of others. -/
lemma map_append_lexemes (ts : List Token) (start : Position) {found : Option (List Lexeme)} :
    ((do
      let lexemes ← found
      pure (ts.map (⟨start, ·⟩) ++ lexemes)) : Option (List Lexeme)).map
        (fun tokens => tokens.map (·.value)) =
      (found.map fun tokens => tokens.map (·.value)).map (ts ++ ·) := by
  cases found with
  | none => rfl
  | some lexemes => simp [Function.comp_def]

section

variable {blocks : List Margin} {brackets : List String} {pos start : Position} {m : Margin}
  {cs rest note : List Char}

/-- One step, with fuel to spare. -/
lemma values_eq_succ (st : LexState) (cs : List Char) (pos : Position) : values st cs =
    (lexFrom (need st cs + 1) st pos cs).map fun tokens => tokens.map (·.value) :=
  (map_lexFrom (Nat.le_succ _) pos).symm

lemma values_unmeasured (h : margin .zero 0 pos cs = none) :
    values ⟨true, blocks, brackets⟩ cs = none := by
  rw [values_eq_succ _ _ pos, lexFrom_unmeasured h, Option.map_none]

lemma values_comment {c : Char} (h : margin .zero 0 pos cs = some (m, start, '#' :: note))
    (hrest : ('#' :: note).dropWhile (· ≠ '\n') = c :: rest) :
    values ⟨true, blocks, brackets⟩ cs = values ⟨true, blocks, brackets⟩ rest := by
  have hle := length_margin h
  have hnote := length_note note
  rw [hrest, List.length_cons] at hnote
  rw [values_eq_succ _ _ pos, lexFrom_comment h hrest, map_lexFrom]
  rw [need_start, need_start]
  omega

lemma values_blank (h : margin .zero 0 pos cs = some (m, start, '\n' :: rest)) :
    values ⟨true, blocks, brackets⟩ cs = values ⟨true, blocks, brackets⟩ rest := by
  have hle := length_margin h
  rw [List.length_cons] at hle
  rw [values_eq_succ _ _ pos, lexFrom_blank h, map_lexFrom]
  rw [need_start, need_start]
  omega

lemma values_filled (h : margin .zero 0 pos cs = some (m, start, rest)) (hrest : Filled rest) :
    values ⟨true, blocks, brackets⟩ cs = (indentation m blocks).bind fun opened =>
      (values ⟨false, opened.2, brackets⟩ rest).map (opened.1 ++ ·) := by
  have hle := length_margin h
  rw [values_eq_succ _ _ pos, lexFrom_filled h hrest]
  cases indentation m blocks with
  | none => rfl
  | some opened =>
    have hneed : need ⟨false, opened.2, brackets⟩ rest ≤ need ⟨true, blocks, brackets⟩ cs := by
      rw [need_inner, need_start]
      omega
    rw [Option.bind_some, ← map_lexFrom hneed start, ← map_append_lexemes opened.1 start]
    rfl

lemma values_end : values ⟨false, blocks, brackets⟩ [] =
    if brackets.isEmpty then some [.finish] else none := by
  rw [values_eq_succ _ _ ⟨1, 0⟩, lexFrom_end]
  split <;> rfl

lemma values_note : values ⟨false, blocks, brackets⟩ ('#' :: note) =
    values ⟨false, blocks, brackets⟩ (('#' :: note).dropWhile (· ≠ '\n')) := by
  have hnote := length_note note
  rw [values_eq_succ _ _ ⟨1, 0⟩, lexFrom_note, map_lexFrom]
  rw [need_inner, need_inner]
  omega

lemma values_newline : values ⟨false, blocks, brackets⟩ ('\n' :: rest) =
    if brackets.isEmpty then (values ⟨true, blocks, brackets⟩ rest).map (.newline :: ·)
    else values ⟨false, blocks, brackets⟩ rest := by
  rw [values_eq_succ _ _ ⟨1, 0⟩, lexFrom_newline]
  split
  · have hneed : need ⟨true, blocks, brackets⟩ rest ≤
        need ⟨false, blocks, brackets⟩ ('\n' :: rest) := by
      rw [need_inner, need_start, List.length_cons]
      omega
    rw [← map_lexFrom hneed ⟨2, 0⟩]
    exact map_append_lexemes [.newline] ⟨1, 0⟩
  · rw [map_lexFrom]
    rw [need_inner, need_inner, List.length_cons]
    omega

lemma values_continued : values ⟨false, blocks, brackets⟩ ('\\' :: '\n' :: rest) =
    if rest.isEmpty then none else values ⟨false, blocks, brackets⟩ rest := by
  rw [values_eq_succ _ _ ⟨1, 0⟩, lexFrom_continued]
  split
  · rfl
  · rw [map_lexFrom]
    rw [need_inner, need_inner]
    simp only [List.length_cons]
    omega

lemma values_solid {c : Char} (h : Solid (c :: rest)) :
    values ⟨false, blocks, brackets⟩ (c :: rest) =
      if isInnerBlank c then values ⟨false, blocks, brackets⟩ rest
      else (token (c :: rest)).bind fun found => (track brackets found.1).bind fun brackets =>
        (values ⟨false, blocks, brackets⟩ found.2.2).map (found.1 :: ·) := by
  rw [values_eq_succ _ _ ⟨1, 0⟩, lexFrom_solid h]
  split
  · rw [map_lexFrom]
    rw [need_inner, need_inner, List.length_cons]
    omega
  · cases htoken : token (c :: rest) with
    | none => rfl
    | some found =>
      obtain ⟨t, own, more⟩ := found
      have hless := length_token htoken
      simp only [Option.bind_eq_bind, Option.bind_some]
      cases track brackets t with
      | none => rfl
      | some inside =>
        have hneed : need ⟨false, blocks, inside⟩ more ≤
            need ⟨false, blocks, brackets⟩ (c :: rest) := by
          rw [need_inner, need_inner]
          omega
        rw [Option.bind_some, Option.bind_some, ← map_lexFrom hneed (Position.advance ⟨1, 0⟩ own)]
        exact map_append_lexemes [t] ⟨1, 0⟩

end

end ProbeCatalog.Syntax.Lexer
