import ProbeCatalog.Proofs.Syntax.Ends
import ProbeCatalog.Proofs.Syntax.Steps

/-!
# Blanks and comments between tokens

Where a logical line is complete, blanks, a comment or a line that holds nothing else give rise to
no token, and the lexer goes on from the same state. So the values of the tokens do not tell
whether they are there.
-/
namespace ProbeCatalog.Syntax.Lexer

/-! ### Idle text -/

/-- Blanks, and a comment or none. -/
inductive Idle : List Char → Prop
  | blanks {bs : List Char} (hbs : ∀ c ∈ bs, isInnerBlank c = true) : Idle bs
  | comment {bs note : List Char} (hbs : ∀ c ∈ bs, isInnerBlank c = true)
      (hnote : ∀ c ∈ note, c ≠ '\n' ∧ c ≠ '\x00') : Idle (bs ++ '#' :: note)

lemma idle_nil : Idle [] := .blanks nofun

lemma mem_stops_of_isInnerBlank {c : Char} (h : isInnerBlank c = true) : c ∈ stops := by
  simp only [isInnerBlank, Bool.or_eq_true, decide_eq_true_eq] at h
  rcases h with (rfl | rfl) | rfl <;> decide

namespace Idle

variable {tail : List Char}

/-- A comment after blanks, by a check of its characters. -/
lemma of_all {bs note : List Char} (hbs : bs.all isInnerBlank = true)
    (hnote : note.all (fun c => c ≠ '\n' ∧ c ≠ '\x00') = true) : Idle (bs ++ '#' :: note) := by
  refine .comment (List.all_eq_true.mp hbs) fun c hc => ?_
  exact of_decide_eq_true (List.all_eq_true.mp hnote c hc)

lemma clean (h : Idle tail) : ∀ c ∈ tail, c ≠ '\n' ∧ c ≠ '\x00' := by
  have hblank {c : Char} (hc : isInnerBlank c = true) : c ≠ '\n' ∧ c ≠ '\x00' :=
    ⟨fun h => absurd hc (by rw [h]; decide), fun h => absurd hc (by rw [h]; decide)⟩
  cases h with
  | blanks hbs => exact fun c hc => hblank (hbs c hc)
  | comment hbs hnote =>
    rw [List.forall_mem_append, List.forall_mem_cons]
    exact ⟨fun c hc => hblank (hbs c hc), by decide, hnote⟩

/-- No token goes on into idle text. -/
lemma stopped (h : Idle tail) (r : List Char) : Stopped (tail ++ '\n' :: r) := by
  have hblank {b : Char} {bs : List Char} (hbs : ∀ c ∈ b :: bs, isInnerBlank c = true) :
      b ∈ stops := mem_stops_of_isInnerBlank (hbs b List.mem_cons_self)
  cases h with
  | blanks hbs =>
    cases tail with
    | nil => exact stopped_newline r
    | cons b bs => exact .intro (hblank hbs)
  | @comment bs note hbs hnote =>
    cases bs with
    | nil => exact .intro (by decide)
    | cons b bs => exact .intro (hblank hbs)

end Idle

/-- The line end after text that holds none. -/
lemma dropWhile_newline {cs : List Char} (h : ∀ c ∈ cs, c ≠ '\n') (r : List Char) :
    (cs ++ '\n' :: r).dropWhile (· ≠ '\n') = '\n' :: r := by
  rw [List.dropWhile_append_of_pos fun c hc => decide_eq_true (h c hc)]
  rfl

/-! ### Margins -/

section

variable {m : Margin} {continued : Nat} {pos : Position}

/-- A character that ends the margin of a line. -/
def EndsMargin (c : Char) : Prop := isInnerBlank c = false ∧ c ≠ '\\'

lemma margin_of_ends {c : Char} (h : EndsMargin c) (cs : List Char) :
    margin m continued pos (c :: cs) =
      some (if continued = 0 then m else ⟨continued, continued⟩, pos, c :: cs) := by
  obtain ⟨hblank, hslash⟩ := h
  rw [margin.eq_def]
  split
  · rename_i heq
    cases heq
    cases hblank
  · rename_i heq
    cases heq
    cases hblank
  · rename_i heq
    cases heq
    cases hblank
  · rename_i heq
    cases heq
    exact absurd rfl hslash
  · rw [List.head?_cons, if_neg fun h => hslash (Option.some.inj h)]

lemma margin_of_isInnerBlank (m : Margin) (continued : Nat) (pos : Position) {c : Char}
    (h : isInnerBlank c = true) :
    ∃ m' pos', ∀ cs, margin m continued pos (c :: cs) = margin m' continued pos' cs := by
  simp only [isInnerBlank, Bool.or_eq_true, decide_eq_true_eq] at h
  rcases h with (rfl | rfl) | rfl <;> exact ⟨_, _, fun _ => rfl⟩

lemma margin_blanks {bs : List Char} (hbs : ∀ c ∈ bs, isInnerBlank c = true) (m : Margin)
    (continued : Nat) (pos : Position) : ∃ m' pos', ∀ cs,
      margin m continued pos (bs ++ cs) = margin m' continued pos' cs := by
  induction bs generalizing m pos with
  | nil => exact ⟨m, pos, fun _ => rfl⟩
  | cons b bs ih =>
    obtain ⟨hb, hbs⟩ := List.forall_mem_cons.mp hbs
    obtain ⟨m₁, pos₁, hfirst⟩ := margin_of_isInnerBlank m continued pos hb
    obtain ⟨m₂, pos₂, hmore⟩ := ih hbs m₁ pos₁
    exact ⟨m₂, pos₂, fun cs => (hfirst _).trans (hmore cs)⟩

lemma margin_idle {tail : List Char} (h : Idle tail) (m : Margin) (continued : Nat)
    (pos : Position) (r : List Char) : ∃ m' pos' rest,
      margin m continued pos (tail ++ '\n' :: r) = some (m', pos', rest) ∧
        (rest = '\n' :: r ∨
          ∃ note, (∀ c ∈ note, c ≠ '\n') ∧ rest = '#' :: (note ++ '\n' :: r)) := by
  cases h with
  | blanks hbs =>
    obtain ⟨m', pos', hmargin⟩ := margin_blanks hbs m continued pos
    exact ⟨_, _, _, (hmargin _).trans (margin_of_ends ⟨rfl, by decide⟩ _), .inl rfl⟩
  | @comment bs note hbs hnote =>
    obtain ⟨m', pos', hmargin⟩ := margin_blanks hbs m continued pos
    rw [List.append_assoc, hmargin]
    exact ⟨_, _, _, margin_of_ends ⟨rfl, by decide⟩ _,
      .inr ⟨note, fun c hc => (hnote c hc).1, rfl⟩⟩

/-- The margin of a line fails, ends within the text, or goes on after it. -/
lemma margin_append (m : Margin) (continued : Nat) (pos : Position) (cs : List Char) :
    margin m continued pos (cs ++ ['\n']) = none ∨
    (∃ m' pos' c rest, ∀ x, Stopped x →
      margin m continued pos (cs ++ x) = some (m', pos', c :: (rest ++ x))) ∨
    ∃ m' continued' pos', ∀ x, Stopped x →
      margin m continued pos (cs ++ x) = margin m' continued' pos' x := by
  induction m, continued, pos, cs using margin.induct with
  | case1 m continued pos cs ih => exact ih
  | case2 m continued pos cs ih => exact ih
  | case3 m continued pos cs ih => exact ih
  | case4 m continued pos cs hempty =>
    obtain rfl := List.isEmpty_iff.mp hempty
    refine .inr (.inr ⟨m, if continued = 0 then m.column else continued, ⟨pos.line + 1, 0⟩, ?_⟩)
    rintro _ ⟨_⟩
    rfl
  | case5 m continued pos cs hempty ih =>
    cases cs with
    | nil => exact absurd rfl hempty
    | cons c cs => exact ih
  | case6 m continued pos cs hblank htab hfeed hslash hhead =>
    cases cs with
    | nil => cases hhead
    | cons c cs =>
      cases hhead
      left
      cases cs with
      | nil => rfl
      | cons d cs =>
        have hd : d ≠ '\n' := by
          rintro rfl
          exact hslash cs rfl
        simp [margin, hd]
  | case7 m continued pos cs hblank htab hfeed hslash hhead =>
    cases cs with
    | nil => exact .inr (.inr ⟨m, continued, pos, fun _ _ => rfl⟩)
    | cons c cs =>
      refine .inr (.inl ⟨_, pos, c, cs, fun x _ => margin_of_ends ⟨?_, ?_⟩ _⟩)
      · rw [Bool.eq_false_iff]
        intro hc
        simp only [isInnerBlank, Bool.or_eq_true, decide_eq_true_eq] at hc
        rcases hc with (rfl | rfl) | rfl
        · exact hblank cs rfl
        · exact htab cs rfl
        · exact hfeed cs rfl
      · rintro rfl
        exact hhead rfl

end

/-! ### Values -/

section

variable {st st' : LexState} {blocks : List Margin} {brackets : List String}
  {cs ds tail : List Char}

/-- What a line of idle text leaves, whatever its margin is. -/
lemma values_idle_of_margin (h : Idle tail) {m : Margin} {continued : Nat} {pos : Position}
    {r : List Char}
    (hmargin : margin .zero 0 ⟨1, 0⟩ cs = margin m continued pos (tail ++ '\n' :: r)) :
    values ⟨true, blocks, brackets⟩ cs = values ⟨true, blocks, brackets⟩ r := by
  obtain ⟨m', pos', rest, hrest, rfl | ⟨note, hnote, rfl⟩⟩ := margin_idle h m continued pos r
  · exact values_blank (hmargin.trans hrest)
  · refine values_comment (c := '\n') (hmargin.trans hrest) ?_
    have hline : ∀ c ∈ '#' :: note, c ≠ '\n' := List.forall_mem_cons.mpr ⟨by decide, hnote⟩
    exact dropWhile_newline hline r

/-- A line of idle text is skipped. -/
lemma values_idle_line (h : Idle tail) (r : List Char) :
    values ⟨true, blocks, brackets⟩ (tail ++ '\n' :: r) = values ⟨true, blocks, brackets⟩ r :=
  values_idle_of_margin h rfl

lemma solid_blank {b : Char} (hb : isInnerBlank b = true) (rest : List Char) :
    Solid (b :: rest) := by
  simp only [isInnerBlank, Bool.or_eq_true, decide_eq_true_eq] at hb
  refine ⟨fun c hc => ?_, fun more heq => ?_⟩
  · cases hc
    rcases hb with (rfl | rfl) | rfl <;> decide
  · cases heq
    exact absurd hb (by decide)

lemma values_blanks {bs : List Char} (hbs : ∀ c ∈ bs, isInnerBlank c = true) (rest : List Char) :
    values ⟨false, blocks, brackets⟩ (bs ++ rest) = values ⟨false, blocks, brackets⟩ rest := by
  induction bs with
  | nil => rfl
  | cons b bs ih =>
    obtain ⟨hb, hbs⟩ := List.forall_mem_cons.mp hbs
    rw [List.cons_append, values_solid (solid_blank hb _), if_pos hb, ih hbs]

/-- Idle text at the end of a line is skipped. -/
lemma values_idle_end (h : Idle tail) (r : List Char) :
    values ⟨false, blocks, brackets⟩ (tail ++ '\n' :: r) =
      values ⟨false, blocks, brackets⟩ ('\n' :: r) := by
  cases h with
  | blanks hbs => exact values_blanks hbs _
  | @comment bs note hbs hnote =>
    have hline : ∀ c ∈ '#' :: note, c ≠ '\n' :=
      List.forall_mem_cons.mpr ⟨by decide, fun c hc => (hnote c hc).1⟩
    rw [List.append_assoc, values_blanks hbs, List.cons_append, values_note, ← List.cons_append,
      dropWhile_newline hline]

/-! ### Seams -/

/-- If the text is read with a line end after it, a logical line is complete there: the lexer goes
on from the start of a line, and so it does with idle text in front of the line end. -/
def Seam (st : LexState) (cs : List Char) : Prop :=
  (values st (cs ++ ['\n'])).isSome → ∃ ts blocks, ∀ tail r, Idle tail →
    values st (cs ++ (tail ++ '\n' :: r)) = (values ⟨true, blocks, []⟩ r).map (ts ++ ·)

namespace Seam

lemma refused (h : values st (cs ++ ['\n']) = none) : Seam st cs := by
  intro hsome
  rw [h] at hsome
  cases hsome

/-- The lexer goes on after some tokens. -/
lemma goesOn (us : List Token) (h : Seam st' ds)
    (hvalues : ∀ x, Stopped x → values st (cs ++ x) = (values st' (ds ++ x)).map (us ++ ·)) :
    Seam st cs := by
  intro hsome
  rw [hvalues _ (stopped_newline []), Option.isSome_map] at hsome
  obtain ⟨ts, blocks, hrest⟩ := h hsome
  refine ⟨us ++ ts, blocks, fun tail r htail => ?_⟩
  rw [hvalues _ (htail.stopped r), hrest tail r htail, Option.map_map]
  simp only [Function.comp_def, List.append_assoc]

/-- The lexer goes on without a token. -/
lemma skips (h : Seam st' ds)
    (hvalues : ∀ x, Stopped x → values st (cs ++ x) = values st' (ds ++ x)) : Seam st cs := by
  refine goesOn [] h fun x hx => ?_
  rw [hvalues x hx]
  exact Option.map_id'.symm

/-- At the start of a line. -/
lemma start (hvalues : ∀ tail r, Idle tail →
    values ⟨true, blocks, []⟩ (cs ++ (tail ++ '\n' :: r)) = values ⟨true, blocks, []⟩ r) :
    Seam ⟨true, blocks, []⟩ cs := by
  intro _
  refine ⟨[], blocks, fun tail r htail => ?_⟩
  rw [hvalues tail r htail]
  exact Option.map_id'.symm

/-- At the end of a line that holds a token. -/
lemma lineEnd (hvalues : ∀ tail r, Idle tail →
    values ⟨false, blocks, brackets⟩ (cs ++ (tail ++ '\n' :: r)) =
      values ⟨false, blocks, brackets⟩ ('\n' :: r)) :
    Seam ⟨false, blocks, brackets⟩ cs := by
  intro hsome
  have hend := hvalues [] [] idle_nil
  rw [List.nil_append] at hend
  cases brackets with
  | nil =>
    refine ⟨[.newline], blocks, fun tail r htail => ?_⟩
    rw [hvalues tail r htail, values_newline]
    rfl
  | cons close brackets =>
    rw [hend, values_newline, values_end] at hsome
    cases hsome

/-- In a comment that the text ends with. -/
lemma comment {note : List Char} (hnote : ∀ c ∈ '#' :: note, c ≠ '\n') :
    Seam ⟨false, blocks, brackets⟩ ('#' :: note) := by
  refine lineEnd fun tail r htail => ?_
  rw [List.cons_append, values_note, ← List.cons_append, ← List.append_assoc, dropWhile_newline]
  rw [List.forall_mem_append]
  exact ⟨hnote, fun c hc => (htail.clean c hc).1⟩

end Seam

/-- The first line end of a text, if it has one. -/
lemma line_split (cs : List Char) : (∀ c ∈ cs, c ≠ '\n') ∨
    ∃ more, more.length < cs.length ∧ ∀ x,
      (cs ++ x).dropWhile (· ≠ '\n') = '\n' :: (more ++ x) := by
  induction cs with
  | nil => exact .inl nofun
  | cons c cs ih =>
    by_cases hc : c = '\n'
    · subst hc
      exact .inr ⟨cs, Nat.lt_succ_self _, fun _ => rfl⟩
    · rcases ih with hnone | ⟨more, hlength, hmore⟩
      · exact .inl (List.forall_mem_cons.mpr ⟨hc, hnone⟩)
      · refine .inr ⟨more, Nat.lt_succ_of_lt hlength, fun x => ?_⟩
        rw [List.cons_append, List.dropWhile_cons_of_pos (p := (· ≠ '\n')) (decide_eq_true hc),
          hmore]

/-- There are seams in the texts for which so much fuel is enough. -/
def Seams (n : Nat) : Prop :=
  ∀ st cs, need st cs ≤ n → (st.atLineStart = true → st.brackets = []) → Seam st cs

/-- At the start of a line, if there is a seam in every shorter text. -/
lemma seam_start {n : Nat} (ih : Seams n)
    (hn : need ⟨true, blocks, []⟩ cs ≤ n + 1) : Seam ⟨true, blocks, []⟩ cs := by
  rw [need_start] at hn
  rcases margin_append .zero 0 ⟨1, 0⟩ cs with
    hnone | ⟨m, start, c, rest, hmargin⟩ | ⟨m, continued, start, hmargin⟩
  · exact .refused (values_unmeasured hnone)
  · have hlength := length_margin (hmargin _ (stopped_newline []))
    simp only [List.length_cons, List.length_append, List.length_nil] at hlength
    rcases line_cases (c :: rest) with ⟨note, hnote⟩ | ⟨more, hmore⟩ | hfilled
    · cases hnote
      rcases line_split ('#' :: rest) with hclean | ⟨more, hmore, hsplit⟩
      · refine .start fun tail r htail => ?_
        refine values_comment (c := '\n') (hmargin _ (htail.stopped r)) ?_
        rw [← List.cons_append, ← List.append_assoc, dropWhile_newline]
        rw [List.forall_mem_append]
        exact ⟨hclean, fun c hc => (htail.clean c hc).1⟩
      · rw [List.length_cons] at hmore
        refine .skips (ih ⟨true, blocks, []⟩ more ?_ fun _ => rfl) fun x hx => ?_
        · rw [need_start]
          omega
        · exact values_comment (hmargin x hx) (hsplit x)
    · cases hmore
      refine .skips (ih ⟨true, blocks, []⟩ rest ?_ fun _ => rfl) fun x hx => ?_
      · rw [need_start]
        omega
      · exact values_blank (hmargin x hx)
    · have hvalues {x : List Char} (hx : Stopped x) : values ⟨true, blocks, []⟩ (cs ++ x) = _ :=
        values_filled (hmargin x hx) hfilled
      cases hopened : indentation m blocks with
      | none =>
        refine .refused ?_
        rw [hvalues (stopped_newline []), hopened, Option.bind_none]
      | some opened =>
        refine .goesOn opened.1 (ih ⟨false, opened.2, []⟩ (c :: rest) ?_ nofun) fun x hx => ?_
        · rw [need_inner, List.length_cons]
          omega
        · rw [hvalues hx, hopened, Option.bind_some]
          rfl
  · exact .start fun tail r htail =>
      values_idle_of_margin htail (hmargin _ (htail.stopped r))

lemma length_brief {rest : List Char} {t : Token} (h : brief token cs = some (t, rest)) :
    rest.length < cs.length := by
  obtain ⟨⟨t', own, rest'⟩, htoken, heq⟩ := Option.map_eq_some_iff.mp h
  cases heq
  exact length_token htoken

lemma values_token {c : Char} {rest : List Char} (h : Solid (c :: rest))
    (hblank : isInnerBlank c = false) : values ⟨false, blocks, brackets⟩ (c :: rest) =
      (brief token (c :: rest)).bind fun found => (track brackets found.1).bind fun brackets =>
        (values ⟨false, blocks, brackets⟩ found.2).map (found.1 :: ·) := by
  rw [values_solid h, hblank, brief, Option.bind_map]
  rfl

lemma solid_append {c : Char} {rest x : List Char} (h : Solid (c :: rest))
    (hslash : c :: rest ≠ ['\\']) : Solid (c :: rest ++ x) := by
  refine ⟨h.filled, fun more heq => ?_⟩
  cases rest with
  | nil =>
    cases heq
    exact hslash rfl
  | cons d rest =>
    cases heq
    exact h.whole _ rfl

/-- At a token, if there is a seam in every shorter text. -/
lemma seam_token {n : Nat} {c : Char} {rest : List Char} (ih : Seams n)
    (hn : 2 * (rest.length + 1) + 1 ≤ n + 1) (hsolid : ∀ x, Solid (c :: (rest ++ x)))
    (hblank : isInnerBlank c = false) : Seam ⟨false, blocks, brackets⟩ (c :: rest) := by
  have hvalues (x : List Char) : values ⟨false, blocks, brackets⟩ (c :: (rest ++ x)) = _ :=
    values_token (hsolid x) hblank
  cases htoken : brief token (c :: rest ++ ['\n']) with
  | none => exact .refused ((hvalues _).trans (by rw [← List.cons_append, htoken]; rfl))
  | some found =>
    obtain ⟨t, left⟩ := found
    obtain ⟨more, rfl, hmore⟩ := settled_token c rest htoken
    have hlength := length_brief htoken
    simp only [List.length_append, List.length_cons, List.length_nil] at hlength
    have hnext {x : List Char} (hx : Stopped x) :
        values ⟨false, blocks, brackets⟩ (c :: rest ++ x) = (track brackets t).bind fun brackets =>
          (values ⟨false, blocks, brackets⟩ (more ++ x)).map (t :: ·) :=
      (hvalues x).trans (by rw [← List.cons_append, hmore x hx]; rfl)
    cases htrack : track brackets t with
    | none => exact .refused (by rw [hnext (stopped_newline []), htrack]; rfl)
    | some inside =>
      refine .goesOn [t] (ih ⟨false, blocks, inside⟩ more ?_ nofun) fun x hx => ?_
      · rw [need_inner]
        omega
      · rw [hnext hx, htrack]
        rfl

/-- Inside a line, if there is a seam in every shorter text. -/
lemma seam_inner {n : Nat} (ih : Seams n)
    (hn : need ⟨false, blocks, brackets⟩ cs ≤ n + 1) : Seam ⟨false, blocks, brackets⟩ cs := by
  rw [need_inner] at hn
  rcases inner_cases cs with
    rfl | ⟨note, rfl⟩ | ⟨rest, rfl⟩ | ⟨rest, rfl⟩ | ⟨c, rest, rfl, hsolid⟩
  · exact .lineEnd fun tail r htail => values_idle_end htail r
  · rcases line_split note with hclean | ⟨more, hmore, hsplit⟩
    · exact .comment (List.forall_mem_cons.mpr ⟨by decide, hclean⟩)
    · rw [List.length_cons] at hn
      refine .skips (ih ⟨false, blocks, brackets⟩ ('\n' :: more) ?_ nofun) fun x _ => ?_
      · rw [need_inner, List.length_cons]
        omega
      · exact values_note.trans (congrArg _ (hsplit x))
  · rw [List.length_cons] at hn
    cases brackets with
    | nil =>
      refine .goesOn [.newline] (ih ⟨true, blocks, []⟩ rest ?_ fun _ => rfl) fun x _ => ?_
      · rw [need_start]
        omega
      · exact values_newline
    | cons close brackets =>
      refine .skips (ih ⟨false, blocks, close :: brackets⟩ rest ?_ nofun) fun x _ => ?_
      · rw [need_inner]
        omega
      · exact values_newline
  · simp only [List.length_cons] at hn
    refine .skips (ih ⟨false, blocks, brackets⟩ rest ?_ nofun) fun x hx => ?_
    · rw [need_inner]
      omega
    · cases hx with
      | @intro d x _ =>
        rw [List.cons_append, List.cons_append, values_continued, if_neg]
        rw [List.isEmpty_iff]
        exact List.append_ne_nil_of_right_ne_nil rest (List.cons_ne_nil d x)
  · by_cases hslash : c :: rest = ['\\']
    · rw [hslash]
      exact .refused values_continued
    · have hsolid (x : List Char) : Solid (c :: (rest ++ x)) := solid_append hsolid hslash
      rw [List.length_cons] at hn
      cases hblank : isInnerBlank c with
      | true =>
        refine .skips (ih ⟨false, blocks, brackets⟩ rest ?_ nofun) fun x _ => ?_
        · rw [need_inner]
          omega
        · rw [List.cons_append, values_solid (hsolid x), if_pos hblank]
      | false => exact seam_token ih hn hsolid hblank

/-- Idle text in front of the end of a complete logical line gives rise to no token, wherever the
lexer starts from. -/
theorem seam (st : LexState) (cs : List Char) (h : st.atLineStart = true → st.brackets = []) :
    Seam st cs := by
  obtain ⟨n, hn⟩ : ∃ n, need st cs ≤ n := ⟨_, le_rfl⟩
  induction n generalizing st cs with
  | zero =>
    rw [need] at hn
    split at hn <;> omega
  | succ n ih =>
    obtain ⟨atLineStart, blocks, brackets⟩ := st
    cases atLineStart with
    | true =>
      obtain rfl : brackets = [] := h rfl
      exact seam_start (fun st cs hneed hstart => ih st cs hstart hneed) hn
    | false => exact seam_inner (fun st cs hneed hstart => ih st cs hstart hneed) hn

end

end ProbeCatalog.Syntax.Lexer
