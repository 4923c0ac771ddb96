import Mathlib.Data.List.Induction
import ProbeCatalog.Proofs.Outcome
import ProbeCatalog.Syntax.Lexer

/-!
# Where tokens end

A token that ends before the end of a line ends there as well if the line goes on with a blank or a
comment: what the lexer recognises does not look beyond such characters.
-/
namespace ProbeCatalog.Syntax.Lexer

/-- The characters by which no token goes on. -/
def stops : List Char := ['\n', ' ', '\t', '\x0c', '#']

lemma forall_stops {q : Char → Prop} :
    (∀ c ∈ stops, q c) ↔ q '\n' ∧ q ' ' ∧ q '\t' ∧ q '\x0c' ∧ q '#' := by
  simp [stops]

/-- The text begins with such a character. -/
inductive Stopped : List Char → Prop
  | intro {c : Char} {cs : List Char} (h : c ∈ stops) : Stopped (c :: cs)

lemma stopped_newline (cs : List Char) : Stopped ('\n' :: cs) := .intro (by decide)

/-- If the recogniser stops within a text before a line end, it stops there before each of these
characters. -/
def SettledAt {α : Type} (f : List Char → Option (α × List Char)) (cs : List Char) : Prop :=
  ∀ ⦃a rest⦄, f (cs ++ ['\n']) = some (a, rest) →
    ∃ more, rest = more ++ ['\n'] ∧ ∀ x, Stopped x → f (cs ++ x) = some (a, more ++ x)

/-- The recogniser does so in every text. -/
abbrev Settled {α : Type} (f : List Char → Option (α × List Char)) : Prop := ∀ cs, SettledAt f cs

/-- None of the characters is one by which tokens end. -/
def Clear (p : List Char) : Prop := ∀ c ∈ p, c ∉ stops

lemma clear_iff {p : List Char} : Clear p ↔ p.all (fun c => c ∉ stops) = true := by
  simp only [Clear, List.all_eq_true, decide_eq_true_eq]

section

variable {p x : List Char}

lemma isPrefixOf?_append (hp : Clear p) (hx : Stopped x) (cs : List Char) :
    p.isPrefixOf? (cs ++ x) = (p.isPrefixOf? cs).map (· ++ x) := by
  induction p generalizing cs with
  | nil => simp only [List.isPrefixOf?, Option.map_some]
  | cons c p ih =>
    obtain ⟨hc, hp⟩ := List.forall_mem_cons.mp hp
    cases cs with
    | nil =>
      cases hx with
      | @intro d _ hd =>
        have hne : (c == d) = false := by
          rw [beq_eq_false_iff_ne]
          rintro rfl
          exact hc hd
        simp only [List.nil_append, List.isPrefixOf?, hne, Bool.false_eq_true, if_false,
          Option.map_none]
    | cons d cs =>
      simp only [List.cons_append, List.isPrefixOf?]
      split
      · exact ih hp cs
      · rfl

lemma isPrefixOf_append (hp : Clear p) (hx : Stopped x) (cs : List Char) :
    p.isPrefixOf (cs ++ x) = p.isPrefixOf cs := by
  rw [Bool.eq_iff_iff, List.isPrefixOf_iff_prefix, List.isPrefixOf_iff_prefix]
  constructor
  · rintro ⟨rest, hrest⟩
    have hfound := List.isPrefixOf?_eq_some_iff_append_eq.mpr hrest
    rw [isPrefixOf?_append hp hx] at hfound
    obtain ⟨more, hmore, -⟩ := Option.map_eq_some_iff.mp hfound
    exact ⟨more, List.isPrefixOf?_eq_some_iff_append_eq.mp hmore⟩
  · exact fun h => h.trans (List.prefix_append cs x)

lemma dropWhile_of_stopped {q : Char → Bool} (hq : ∀ c ∈ stops, q c = false) (hx : Stopped x) :
    x.dropWhile q = x := by
  cases hx with
  | intro h => rw [List.dropWhile_cons_of_neg (by rw [hq _ h]; exact Bool.false_ne_true)]

lemma dropWhile_append {q : Char → Bool} (hq : ∀ c ∈ stops, q c = false) (hx : Stopped x)
    (cs : List Char) : (cs ++ x).dropWhile q = cs.dropWhile q ++ x := by
  induction cs with
  | nil => exact dropWhile_of_stopped hq hx
  | cons c cs ih =>
    rw [List.cons_append, List.dropWhile_cons, List.dropWhile_cons]
    split
    · exact ih
    · rfl

lemma takeWhile_append {q : Char → Bool} (hq : ∀ c ∈ stops, q c = false) (hx : Stopped x)
    (cs : List Char) : (cs ++ x).takeWhile q = cs.takeWhile q := by
  have hsplit := List.takeWhile_append_dropWhile (p := q) (l := cs ++ x)
  rw [dropWhile_append hq hx, ← List.append_assoc, List.append_cancel_right_eq] at hsplit
  rw [← List.append_cancel_right_eq _ (cs.dropWhile q), hsplit, List.takeWhile_append_dropWhile]

end

/-! ### Composition -/

namespace SettledAt

variable {α β : Type} {f : List Char → Option (α × List Char)}
  {g : List Char → Option (β × List Char)} {cs ds : List Char}

/-- The recogniser stops at a known place. -/
lemma stays (a : α) (more : List Char)
    (h : ∀ x, Stopped x → f (cs ++ x) = some (a, more ++ x)) : SettledAt f cs := by
  intro b rest hb
  rw [h _ (stopped_newline [])] at hb
  cases hb
  exact ⟨more, rfl, h⟩

lemma refuses (h : f (cs ++ ['\n']) = none) : SettledAt f cs := by
  intro a rest ha
  rw [h] at ha
  cases ha

lemma congr {g : List Char → Option (α × List Char)} (hg : SettledAt g ds)
    (h : ∀ x, Stopped x → f (cs ++ x) = g (ds ++ x)) : SettledAt f cs := by
  intro a rest ha
  rw [h _ (stopped_newline [])] at ha
  obtain ⟨more, rfl, hmore⟩ := hg ha
  exact ⟨more, rfl, fun x hx => (h x hx).trans (hmore x hx)⟩

/-- The recogniser goes on as another. -/
lemma goesOn (result : β → α) (hg : SettledAt g ds)
    (h : ∀ x, Stopped x → f (cs ++ x) =
      (g (ds ++ x)).map fun found => (result found.1, found.2)) : SettledAt f cs := by
  intro a rest ha
  rw [h _ (stopped_newline [])] at ha
  obtain ⟨⟨b, left⟩, hb, heq⟩ := Option.map_eq_some_iff.mp ha
  cases heq
  obtain ⟨more, rfl, hmore⟩ := hg hb
  refine ⟨more, rfl, fun x hx => ?_⟩
  rw [h x hx, hmore x hx, Option.map_some]

lemma bind (k : α → List Char → Option (β × List Char)) (hf : SettledAt f cs)
    (hk : ∀ a, Settled (k a)) :
    SettledAt (fun cs => (f cs).bind fun found => k found.1 found.2) cs := by
  intro b rest h
  obtain ⟨⟨a, between⟩, ha, hb⟩ := Option.bind_eq_some_iff.mp h
  obtain ⟨more, rfl, hmore⟩ := hf ha
  obtain ⟨left, rfl, hleft⟩ := hk a more hb
  refine ⟨left, rfl, fun x hx => ?_⟩
  dsimp only
  rw [hmore x hx, Option.bind_some]
  exact hleft x hx

end SettledAt

/-! ### Numbers -/

section

variable {isDigit : Char → Bool}

lemma digitRun_of_ne {c : Char} (hc : c ≠ '_') (cs : List Char) : digitRun isDigit (c :: cs) =
    if isDigit c then (digitRun isDigit cs).map fun found => (c :: found.1, found.2)
    else some ([], c :: cs) := by
  rw [digitRun.eq_def]
  split
  · rename_i heq
    cases heq
  · rename_i heq
    cases heq
    exact absurd rfl hc
  · rename_i heq
    cases heq
    rw [if_neg hc]

variable (h : ∀ c ∈ stops, isDigit c = false)
include h

lemma digitRun_of_stopped {x : List Char} (hx : Stopped x) :
    digitRun isDigit x = some ([], x) := by
  cases hx with
  | @intro c cs hc =>
    have hne : c ≠ '_' := by
      rintro rfl
      exact absurd hc (by decide)
    rw [digitRun_of_ne hne, h c hc]
    rfl

lemma settled_digitRun : Settled (digitRun isDigit) := by
  intro cs
  induction cs using digitRun.induct isDigit with
  | case1 => exact .stays [] [] fun x hx => digitRun_of_stopped h hx
  | case2 c cs hc ih =>
    refine .goesOn (fun run => '_' :: c :: run) ih fun x _ => ?_
    rw [List.cons_append, List.cons_append, digitRun, if_pos hc]
  | case3 c cs hc =>
    exact .refuses (by rw [List.cons_append, List.cons_append, digitRun, if_neg hc])
  | case4 cs hother =>
    cases cs with
    | nil => exact .refuses (by simp [digitRun, h '\n' (by decide)])
    | cons c cs => exact absurd rfl (hother c cs rfl)
  | case5 c cs hother hunderscore hc ih =>
    refine .goesOn (fun run => c :: run) ih fun x _ => ?_
    rw [List.cons_append, digitRun_of_ne hunderscore, if_pos hc]
  | case6 c cs hother hunderscore hc =>
    refine .stays [] (c :: cs) fun x _ => ?_
    rw [List.cons_append, digitRun_of_ne hunderscore, if_neg hc]

omit h in
lemma basedNumber_eq (cs : List Char) : basedNumber isDigit cs =
    (digitRun isDigit cs).bind fun found =>
      if found.1.isEmpty then none else some (found.1, found.2) := by
  rw [basedNumber]
  rcases digitRun isDigit cs with _ | ⟨_ | ⟨c, run⟩, rest⟩ <;> rfl

lemma settled_basedNumber : Settled (basedNumber isDigit) := by
  intro cs
  rw [funext basedNumber_eq]
  refine .bind (fun run rest => if run.isEmpty then none else some (run, rest))
    (settled_digitRun h cs) fun run rest => ?_
  cases run with
  | nil => exact .refuses rfl
  | cons c run => exact .stays (c :: run) rest fun _ _ => rfl

end

lemma not_isDigit_of_stops : ∀ c ∈ stops, c.isDigit = false := forall_stops.mpr (by decide)

lemma settled_digits : Settled (digitRun Char.isDigit) := settled_digitRun not_isDigit_of_stops

/-- Texts that do not begin with a certain character, and texts that begin with a stop. -/
lemma head_ne_of_stopped {x : List Char} (hx : Stopped x) {c : Char} (hc : c ∉ stops)
    (cs : List Char) : x ≠ c :: cs := by
  rintro rfl
  cases hx with
  | intro h => exact hc h

lemma fraction_of_ne {cs : List Char} (h : ∀ rest, cs ≠ '.' :: rest) :
    fraction cs = some ([], cs) := by
  rw [fraction.eq_def]
  split
  · exact absurd rfl (h _)
  · exact absurd rfl (h _)
  · rfl

lemma settled_fraction : Settled fraction := by
  intro cs
  by_cases hpoint : ∃ rest, cs = '.' :: rest
  · obtain ⟨rest, rfl⟩ := hpoint
    cases rest with
    | nil =>
      refine .stays ['.'] [] fun x hx => ?_
      cases hx with
      | @intro c x hc =>
        rw [List.cons_append, List.nil_append, fraction, not_isDigit_of_stops c hc]
        rfl
    | cons c rest =>
      by_cases hc : c.isDigit = true
      · refine .goesOn (fun run => '.' :: run) (settled_digits (c :: rest)) fun x _ => ?_
        rw [List.cons_append, List.cons_append, fraction, if_pos hc]
      · refine .stays ['.'] (c :: rest) fun x _ => ?_
        rw [List.cons_append, List.cons_append, fraction, if_neg hc]
  · refine .stays [] cs fun x hx => fraction_of_ne fun rest heq => ?_
    cases cs with
    | nil => exact head_ne_of_stopped hx (by decide) _ heq
    | cons c cs =>
      cases heq
      exact hpoint ⟨cs, rfl⟩

/-- The letter begins an exponent. -/
def isExponentMark (c : Char) : Bool := c = 'e' || c = 'E'

/-- The character is a sign of an exponent. -/
def isExponentSign (c : Char) : Bool := c = '+' || c = '-'

lemma isExponentMark_of_stops : ∀ c ∈ stops, isExponentMark c = false :=
  forall_stops.mpr (by decide)

lemma isExponentSign_of_stops : ∀ c ∈ stops, isExponentSign c = false :=
  forall_stops.mpr (by decide)

lemma exponent_cons (e s : Char) {rest : List Char} (hrest : rest ≠ []) :
    exponent (e :: s :: rest) =
      if isExponentMark e then
        if s.isDigit then
          (digitRun Char.isDigit (s :: rest)).map fun found => (e :: found.1, found.2)
        else if isExponentSign s && rest.head?.any Char.isDigit then
          (digitRun Char.isDigit rest).map fun found => (e :: s :: found.1, found.2)
        else some ([], e :: s :: rest)
      else some ([], e :: s :: rest) := by
  cases rest with
  | nil => exact absurd rfl hrest
  | cons c rest => rfl

lemma exponent_of_not {c : Char} (hc : isExponentMark c = false) (cs : List Char) :
    exponent (c :: cs) = some ([], c :: cs) := by
  cases cs with
  | nil => rfl
  | cons s rest =>
    by_cases hrest : rest = []
    · subst hrest
      rw [isExponentMark] at hc
      simp only [exponent, hc, Bool.false_and, Bool.false_eq_true, if_false]
    · rw [exponent_cons c s hrest, hc]
      rfl

lemma exponent_of_stop (e : Char) {c : Char} (hc : c ∈ stops) (cs : List Char) :
    exponent (e :: c :: cs) = some ([], e :: c :: cs) := by
  have hdigit := not_isDigit_of_stops c hc
  have hsign := isExponentSign_of_stops c hc
  by_cases hcs : cs = []
  · subst hcs
    simp only [exponent, hdigit, Bool.and_false, Bool.false_eq_true, if_false]
  · rw [exponent_cons e c hcs, hdigit, hsign]
    split <;> rfl

lemma head?_any_append {q : Char → Bool} (hq : ∀ c ∈ stops, q c = false) {x : List Char}
    (hx : Stopped x) (cs : List Char) : (cs ++ x).head?.any q = cs.head?.any q := by
  cases cs with
  | nil =>
    cases hx with
    | intro h => exact hq _ h
  | cons c cs => rfl

lemma settled_exponent : Settled exponent := by
  intro cs
  match cs with
  | [] =>
    refine .stays [] [] fun x hx => ?_
    cases hx with
    | @intro c x hc =>
      exact exponent_of_not (isExponentMark_of_stops c hc) x
  | [e] =>
    refine .stays [] [e] fun x hx => ?_
    cases hx with
    | intro hc => exact exponent_of_stop e hc _
  | e :: s :: rest =>
    have hnil (x : List Char) (hx : Stopped x) : rest ++ x ≠ [] := by
      cases hx with
      | intro h => exact List.append_ne_nil_of_right_ne_nil _ (List.cons_ne_nil _ _)
    have hdigit (x : List Char) (hx : Stopped x) :=
      head?_any_append not_isDigit_of_stops hx rest
    cases hmark : isExponentMark e with
    | false => exact .stays [] (e :: s :: rest) fun x hx => exponent_of_not hmark _
    | true =>
      cases hs : s.isDigit with
      | true =>
        refine .goesOn (fun run => e :: run) (settled_digits (s :: rest)) fun x hx => ?_
        rw [List.cons_append, List.cons_append, exponent_cons e s (hnil x hx), hmark, hs]
        rfl
      | false =>
        cases hsign : isExponentSign s && rest.head?.any Char.isDigit with
        | true =>
          refine .goesOn (fun run => e :: s :: run) (settled_digits rest) fun x hx => ?_
          rw [List.cons_append, List.cons_append, exponent_cons e s (hnil x hx), hmark, hs,
            hdigit x hx, hsign]
          rfl
        | false =>
          refine .stays [] (e :: s :: rest) fun x hx => ?_
          rw [List.cons_append, List.cons_append, exponent_cons e s (hnil x hx), hmark, hs,
            hdigit x hx, hsign]
          rfl

lemma imaginaryMark_of_ne {c : Char} (h : c ≠ 'j') (h' : c ≠ 'J') (cs : List Char) :
    imaginaryMark (c :: cs) = ([], c :: cs) := by
  rw [imaginaryMark.eq_def]
  split
  · rename_i heq
    cases heq
    exact absurd rfl h
  · rename_i heq
    cases heq
    exact absurd rfl h'
  · rfl

lemma settled_imaginaryMark : Settled fun cs => some (imaginaryMark cs) := by
  intro cs
  cases cs with
  | nil =>
    refine .stays [] [] fun x hx => ?_
    cases hx with
    | @intro c x hc =>
      exact congrArg some (imaginaryMark_of_ne (ne_of_mem_of_not_mem hc (by decide))
        (ne_of_mem_of_not_mem hc (by decide)) x)
  | cons c cs =>
    by_cases hsmall : c = 'j'
    · subst hsmall
      exact .stays ['j'] cs fun _ _ => rfl
    · by_cases hlarge : c = 'J'
      · subst hlarge
        exact .stays ['J'] cs fun _ _ => rfl
      · exact .stays [] (c :: cs) fun x _ => congrArg some (imaginaryMark_of_ne hsmall hlarge _)

/-- The number that its parts make up, unless it is a whole one that may not begin with a zero. -/
def composed (whole part power mark cs : List Char) : Option (List Char × List Char) :=
  if part.isEmpty && power.isEmpty && mark.isEmpty && whole.head? = some '0' &&
      whole.any (fun c => c ≠ '0' && c ≠ '_') then none
  else some (whole ++ part ++ power ++ mark, cs)

lemma settled_composed (whole part power mark : List Char) :
    Settled (composed whole part power mark) := by
  intro cs
  by_cases h : (part.isEmpty && power.isEmpty && mark.isEmpty && whole.head? = some '0' &&
      whole.any (fun c => c ≠ '0' && c ≠ '_')) = true
  · exact .refuses (if_pos h)
  · exact .stays (whole ++ part ++ power ++ mark) cs fun _ _ => if_neg h

/-- The digits in front of the point. -/
def wholePart (cs : List Char) : Option (List Char × List Char) :=
  if cs.head? = some '.' then some ([], cs) else digitRun Char.isDigit cs

lemma settled_wholePart : Settled wholePart := by
  intro cs
  cases cs with
  | nil =>
    refine .stays [] [] fun x hx => ?_
    rw [wholePart]
    split
    · rfl
    · exact digitRun_of_stopped not_isDigit_of_stops hx
  | cons c cs =>
    by_cases hpoint : c = '.'
    · subst hpoint
      exact .stays [] ('.' :: cs) fun _ _ => rfl
    · have hhead (x : List Char) : (c :: cs ++ x).head? ≠ some '.' :=
        fun h => hpoint (Option.some.inj h)
      intro a rest h
      rw [wholePart, if_neg (hhead _)] at h
      obtain ⟨more, rfl, hmore⟩ := settled_digits (c :: cs) h
      refine ⟨more, rfl, fun x hx => ?_⟩
      rw [wholePart, if_neg (hhead _)]
      exact hmore x hx

lemma decimalNumber_eq (cs : List Char) : decimalNumber cs =
    (wholePart cs).bind fun whole => (fraction whole.2).bind fun part =>
      (exponent part.2).bind fun power => (some (imaginaryMark power.2)).bind fun mark =>
        composed whole.1 part.1 power.1 mark.1 mark.2 := by
  rw [decimalNumber, wholePart]
  split <;> rfl

lemma settled_decimalNumber : Settled decimalNumber := by
  intro cs
  rw [funext decimalNumber_eq]
  exact .bind _ (settled_wholePart cs) fun whole between =>
    .bind _ (settled_fraction between) fun part between =>
      .bind _ (settled_exponent between) fun power between =>
        .bind _ (settled_imaginaryMark between) fun mark => settled_composed whole part power mark

/-- The spelling of a number, which a word may not run into. -/
def spelling (cs : List Char) : Option (List Char × List Char) :=
  match cs with
  | '0' :: b :: rest =>
    let based (isDigit : Char → Bool) :=
      (basedNumber isDigit rest).map fun (run, rest) => ('0' :: b :: run, rest)
    if b = 'x' || b = 'X' then based Table.isHexDigit
    else if b = 'o' || b = 'O' then based isOctalDigit
    else if b = 'b' || b = 'B' then based isBinaryDigit
    else decimalNumber cs
  | _ => decimalNumber cs

lemma number_eq (cs : List Char) : number cs =
    (spelling cs).bind fun found =>
      if endsNumber found.2 then some (found.1, found.2) else none := by
  by_cases hbased : ∃ b rest, cs = '0' :: b :: rest
  · obtain ⟨b, rest, rfl⟩ := hbased
    simp only [number, spelling]
    split_ifs <;> rfl
  · rw [number, spelling]
    · rfl
    all_goals exact fun b rest h => hbased ⟨b, rest, h⟩

lemma spelling_of_ne {cs : List Char} (h : ∀ b rest, cs ≠ '0' :: b :: rest) :
    spelling cs = decimalNumber cs := by
  rw [spelling.eq_def]
  split
  · exact absurd rfl (h _ _)
  · rfl

lemma settled_based (isDigit : Char → Bool) (h : ∀ c ∈ stops, isDigit c = false) {b : Char}
    {rest : List Char} (hb : ∀ x, spelling ('0' :: b :: x) =
      (basedNumber isDigit x).map fun found => ('0' :: b :: found.1, found.2)) :
    SettledAt spelling ('0' :: b :: rest) :=
  .goesOn (fun run => '0' :: b :: run) (settled_basedNumber h rest) fun x _ => hb (rest ++ x)

lemma bases_of_stops : ∀ b ∈ stops, (b = 'x' || b = 'X') = false ∧
    (b = 'o' || b = 'O') = false ∧ (b = 'b' || b = 'B') = false :=
  forall_stops.mpr (by decide)

lemma settled_spelling : Settled spelling := by
  intro cs
  match cs with
  | [] =>
    refine .congr (settled_decimalNumber []) fun x hx => spelling_of_ne fun b rest => ?_
    exact head_ne_of_stopped hx (by decide) _
  | [c] =>
    refine .congr (settled_decimalNumber [c]) fun x hx => ?_
    by_cases hzero : c = '0'
    · subst hzero
      cases hx with
      | @intro d x hd =>
        simp only [List.cons_append, List.nil_append, spelling, bases_of_stops d hd,
          Bool.false_eq_true, if_false]
    · refine spelling_of_ne fun b rest heq => ?_
      cases heq
      exact hzero rfl
  | c :: b :: rest =>
    by_cases hzero : c = '0'
    · subst hzero
      cases hx : (b = 'x' || b = 'X' : Bool) with
      | true =>
        exact settled_based Table.isHexDigit (forall_stops.mpr (by decide)) fun x => by
          simp only [spelling, hx, if_true]
      | false =>
        cases ho : (b = 'o' || b = 'O' : Bool) with
        | true =>
          exact settled_based isOctalDigit (forall_stops.mpr (by decide)) fun x => by
            simp only [spelling, hx, ho, Bool.false_eq_true, if_true, if_false]
        | false =>
          cases hb : (b = 'b' || b = 'B' : Bool) with
          | true =>
            exact settled_based isBinaryDigit (forall_stops.mpr (by decide)) fun x => by
              simp only [spelling, hx, ho, hb, Bool.false_eq_true, if_true, if_false]
          | false =>
            refine .congr (settled_decimalNumber ('0' :: b :: rest)) fun x _ => ?_
            simp only [List.cons_append, spelling, hx, ho, hb, Bool.false_eq_true, if_false]
    · refine .congr (settled_decimalNumber (c :: b :: rest)) fun x _ => spelling_of_ne ?_
      rintro b rest heq
      cases heq
      exact hzero rfl

lemma clear_followers : ∀ word ∈ numberFollowers, Clear word.toList := by
  simp only [clear_iff]
  decide

lemma isWordChar_of_stops : ∀ c ∈ stops, isWordChar c = false := forall_stops.mpr (by decide)

lemma endsNumber_append {cs x : List Char} (hx : Stopped x) :
    endsNumber (cs ++ x) = endsNumber cs := by
  cases cs with
  | nil =>
    cases hx with
    | @intro c x hc =>
      simp only [List.nil_append, endsNumber, isWordChar_of_stops c hc, Bool.not_false,
        Bool.true_or]
  | cons c cs =>
    have hsame : (numberFollowers.any fun word => word.toList.isPrefixOf (c :: cs ++ x)) =
        numberFollowers.any fun word => word.toList.isPrefixOf (c :: cs) := by
      rw [Bool.eq_iff_iff, List.any_eq_true, List.any_eq_true]
      refine exists_congr fun word => and_congr_right fun hword => ?_
      rw [isPrefixOf_append (clear_followers word hword) hx]
    exact congrArg (!isWordChar c || ·) hsame

lemma settled_number : Settled number := by
  intro cs
  rw [funext number_eq]
  refine .bind (fun run rest => if endsNumber rest then some (run, rest) else none)
    (settled_spelling cs) fun run rest => ?_
  cases hends : endsNumber rest with
  | true =>
    refine .stays run rest fun x hx => ?_
    rw [endsNumber_append hx, hends]
    rfl
  | false =>
    refine .refuses ?_
    rw [endsNumber_append (stopped_newline []), hends]
    rfl

/-! ### Strings -/

lemma stringBody_of_ne {quote : Char} {isLong : Bool} {c : Char} (hc : c ≠ '\\')
    (cs : List Char) : stringBody quote isLong (c :: cs) =
      match (closing quote isLong).isPrefixOf? (c :: cs) with
      | some rest => some ([], rest)
      | none =>
        if c = '\n' && !isLong then none
        else (stringBody quote isLong cs).map fun found => (c :: found.1, found.2) := by
  rw [stringBody.eq_def]
  split
  · rename_i heq
    cases heq
  · rename_i heq
    cases heq
    exact absurd rfl hc
  · rename_i heq
    cases heq
    rfl

section

variable {quote : Char} (hquote : quote ∉ stops) (isLong : Bool)
include hquote

lemma clear_closing : Clear (closing quote isLong) := by
  cases isLong with
  | true =>
    intro c hc
    simp only [closing, if_true, List.mem_cons, List.not_mem_nil, or_false, or_self] at hc
    rwa [hc]
  | false =>
    intro c hc
    rwa [List.mem_singleton.mp hc]

variable {isLong}

lemma settledAt_stringBody_nil : SettledAt (stringBody quote isLong) [] := by
  refine .refuses ?_
  have hnone : (closing quote isLong).isPrefixOf? ['\n'] = none := by
    have h := isPrefixOf?_append (clear_closing hquote isLong) (stopped_newline []) []
    cases isLong <;> exact h
  rw [List.nil_append, stringBody_of_ne (by decide), hnone]
  cases isLong <;> rfl

lemma settledAt_stringBody_cons {c : Char} {cs : List Char} (hc : c ≠ '\\')
    (h : SettledAt (stringBody quote isLong) cs) :
    SettledAt (stringBody quote isLong) (c :: cs) := by
  have hprefix {x : List Char} (hx : Stopped x) :=
    isPrefixOf?_append (clear_closing hquote isLong) hx (c :: cs)
  cases hclosing : (closing quote isLong).isPrefixOf? (c :: cs) with
  | some rest =>
    refine .stays [] rest fun x hx => ?_
    rw [List.cons_append, stringBody_of_ne hc, ← List.cons_append, hprefix hx, hclosing]
    rfl
  | none =>
    cases hend : (c = '\n' && !isLong : Bool) with
    | true =>
      refine .refuses ?_
      rw [List.cons_append, stringBody_of_ne hc, ← List.cons_append,
        hprefix (stopped_newline []), hclosing, hend]
      rfl
    | false =>
      refine .goesOn (fun body => c :: body) h fun x hx => ?_
      rw [List.cons_append, stringBody_of_ne hc, ← List.cons_append, hprefix hx, hclosing, hend]
      rfl

variable (isLong) in
lemma settled_stringBody : Settled (stringBody quote isLong) := by
  intro cs
  induction cs using List.twoStepInduction with
  | nil => exact settledAt_stringBody_nil hquote
  | singleton c =>
    by_cases hc : c = '\\'
    · subst hc
      exact .refuses rfl
    · exact settledAt_stringBody_cons hquote hc (settledAt_stringBody_nil hquote)
  | cons_cons c d cs ih ih' =>
    by_cases hc : c = '\\'
    · subst hc
      exact .goesOn (fun body => '\\' :: d :: body) ih fun x _ => rfl
    · exact settledAt_stringBody_cons hquote hc (ih' d)

end

/-! ### Tokens -/

/-- The recogniser without the characters that it has read. -/
def brief (f : List Char → Option (Token × List Char × List Char)) (cs : List Char) :
    Option (Token × List Char) :=
  (f cs).map fun found => (found.1, found.2.2)

lemma isQuote_of_stops : ∀ c ∈ stops, isQuote c = false := forall_stops.mpr (by decide)

lemma settled_stringFrom (literal : StringLiteral) {q : Char} (hq : isQuote q = true)
    (cs : List Char) : SettledAt (brief (stringFrom literal)) (q :: cs) := by
  have hquote : q ∉ stops := fun h => Bool.false_ne_true ((isQuote_of_stops q h).symm.trans hq)
  have hclear : Clear [q, q] := fun c hc => clear_closing hquote true c (List.mem_cons_of_mem q hc)
  have hlong {x : List Char} (hx : Stopped x) := isPrefixOf_append hclear hx cs
  cases hopening : [q, q].isPrefixOf cs with
  | false =>
    refine .goesOn (fun body => .string { literal with body })
      (settled_stringBody hquote false cs) fun x hx => ?_
    simp only [brief, List.cons_append, stringFrom, hlong hx, hopening, Option.map_map]
    rfl
  | true =>
    obtain ⟨rest, hrest⟩ := List.isPrefixOf_iff_prefix.mp hopening
    refine .goesOn (fun body => .string { literal with body })
      (settled_stringBody hquote true rest) fun x hx => ?_
    simp only [brief, List.cons_append, stringFrom, hlong hx, hopening, Option.map_map]
    rw [← hrest]
    rfl

/-- The token of a word. -/
def plainWord (letters : List Char) : Option Token :=
  if letters.all (·.toNat < 128) then
    match reservedWords.find? (·.toList = letters) with
    | some reserved => some (.reserved reserved)
    | none => some (.name letters)
  else if Identifier.isIdentifier letters then some (.name letters)
  else none

/-- A word whose letters have been read, or the string that they begin. -/
def afterLetters (letters rest : List Char) : Option (Token × List Char) :=
  match if rest.head?.any isQuote then literalOf? letters else none with
  | some literal => brief (stringFrom literal) rest
  | none => (plainWord letters).map fun t => (t, rest)

lemma brief_word (cs : List Char) :
    brief word cs = afterLetters (cs.takeWhile isWordChar) (cs.dropWhile isWordChar) := by
  rw [brief, word, afterLetters]
  dsimp only
  cases (if ((cs.dropWhile isWordChar).head?.any isQuote : Bool) then
      literalOf? (cs.takeWhile isWordChar) else none) with
  | some literal =>
    simp only [brief, Option.map_map]
    rfl
  | none =>
    dsimp only
    rw [plainWord]
    split
    · cases reservedWords.find? (·.toList = cs.takeWhile isWordChar) <;> rfl
    · split <;> rfl

lemma settled_afterLetters (letters : List Char) : Settled (afterLetters letters) := by
  intro rest
  have hhead {x : List Char} (hx : Stopped x) :=
    head?_any_append isQuote_of_stops hx rest
  cases hliteral : (if rest.head?.any isQuote then literalOf? letters else none) with
  | none =>
    have hplain {x : List Char} (hx : Stopped x) : afterLetters letters (rest ++ x) =
        (plainWord letters).map fun t => (t, rest ++ x) := by
      rw [afterLetters, hhead hx, hliteral]
    cases hword : plainWord letters with
    | none => exact .refuses (by rw [hplain (stopped_newline []), hword, Option.map_none])
    | some t => exact .stays t rest fun x hx => by rw [hplain hx, hword, Option.map_some]
  | some literal =>
    cases rest with
    | nil => cases hliteral
    | cons q more =>
      cases hquote : isQuote q with
      | false =>
        rw [List.head?_cons, Option.any_some, hquote] at hliteral
        cases hliteral
      | true =>
        refine .congr (settled_stringFrom literal hquote more) fun x hx => ?_
        rw [afterLetters, hhead hx, hliteral]

lemma settled_word : Settled (brief word) := by
  intro cs
  refine .congr (settled_afterLetters (cs.takeWhile isWordChar) (cs.dropWhile isWordChar))
    fun x hx => ?_
  rw [brief_word, takeWhile_append isWordChar_of_stops hx, dropWhile_append isWordChar_of_stops hx]

lemma clear_symbols : ∀ s ∈ symbols, Clear s.toList := by
  simp only [clear_iff]
  decide

lemma settled_symbol : Settled (brief symbol) := by
  intro cs
  unfold brief symbol
  have hclear := clear_symbols
  generalize symbols = spellings at hclear ⊢
  induction spellings with
  | nil => exact .refuses rfl
  | cons s spellings ih =>
    obtain ⟨hs, hmore⟩ := List.forall_mem_cons.mp hclear
    have hprefix {x : List Char} (hx : Stopped x) := isPrefixOf?_append hs hx cs
    cases hfound : s.toList.isPrefixOf? cs with
    | some rest =>
      refine .stays (.symbol s) rest fun x hx => ?_
      rw [List.firstM, hprefix hx, hfound]
      rfl
    | none =>
      refine .congr (ih hmore) fun x hx => ?_
      rw [List.firstM, hprefix hx, hfound]
      rfl

lemma settled_token (c : Char) (cs : List Char) : SettledAt (brief token) (c :: cs) := by
  cases hword : isWordStart c with
  | true =>
    refine .congr (settled_word (c :: cs)) fun x _ => ?_
    rw [brief, List.cons_append, token, hword]
    rfl
  | false =>
    cases hquote : isQuote c with
    | true =>
      refine .congr (settled_stringFrom ⟨false, false, false, false, []⟩ hquote cs) fun x _ => ?_
      rw [brief, List.cons_append, token, hword, hquote]
      rfl
    | false =>
      have hdigit {x : List Char} (hx : Stopped x) :=
        head?_any_append not_isDigit_of_stops hx cs
      cases hnumber : (c.isDigit || (c = '.' && cs.head?.any Char.isDigit) : Bool) with
      | true =>
        refine .goesOn .number (settled_number (c :: cs)) fun x hx => ?_
        rw [brief, List.cons_append, token, hword, hquote, hdigit hx, hnumber]
        simp only [Bool.false_eq_true, if_false, if_true, Option.map_map]
        rfl
      | false =>
        refine .congr (settled_symbol (c :: cs)) fun x hx => ?_
        rw [brief, List.cons_append, token, hword, hquote, hdigit hx, hnumber]
        rfl

end ProbeCatalog.Syntax.Lexer
