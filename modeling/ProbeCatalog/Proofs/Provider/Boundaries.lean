import Mathlib.Data.List.SplitBy
import ProbeCatalog.Proofs.Provider.Naming

/-!
# Boundaries of words

The name of a class is cut into words in two passes that replace what they find from left to right.
They find the boundaries that can be told at each place on its own, from the character there and
the next two: none is missed because a pass has gone past it, and none is added.
-/
namespace ProbeCatalog.Name

/-- A word ends with the character at a place: it is a small letter or a digit before a capital
letter, or a capital letter before one that begins a word. -/
def endsWord (cs : List Char) (i : Nat) : Bool :=
  cs[i]?.any isKept && cs[i + 1]?.any Char.isUpper ||
    cs[i]?.any Char.isUpper && cs[i + 1]?.any Char.isUpper && cs[i + 2]?.any Char.isLower

/-- The characters with an underscore after each word that ends. -/
def separated (cs : List Char) : List Char :=
  (cs.mapIdx fun i c => if endsWord cs i then [c, '_'] else [c]).flatten

/-- The characters that names keep, with one underscore for each run of others. -/
def condensed (cs : List Char) : List Char :=
  (cs.splitBy fun c d => isKept c == isKept d).flatMap fun run =>
    if run.all isKept then run else ['_']

/-- The name in lower case with underscores between its words, which are told place by place. -/
def underscored (identifier : List Char) : List Char :=
  let words := condensed (lower (separated identifier))
  let kept := (words.dropWhile (· = '_')).rdropWhile (· = '_')
  if kept = [] then "provider".toList else kept

/-! ### Characters -/

lemma isUpper_iff {c : Char} : c.isUpper = true ↔ 65 ≤ c.toNat ∧ c.toNat ≤ 90 :=
  decide_eq_true_iff

lemma isLower_iff {c : Char} : c.isLower = true ↔ 97 ≤ c.toNat ∧ c.toNat ≤ 122 :=
  Bool.and_eq_true_iff.trans (and_congr decide_eq_true_iff decide_eq_true_iff)

lemma isKept_iff {c : Char} :
    isKept c = true ↔ 97 ≤ c.toNat ∧ c.toNat ≤ 122 ∨ 48 ≤ c.toNat ∧ c.toNat ≤ 57 := by
  have hdigit : c.isDigit = true ↔ 48 ≤ c.toNat ∧ c.toNat ≤ 57 :=
    Bool.and_eq_true_iff.trans (and_congr decide_eq_true_iff decide_eq_true_iff)
  rw [isKept, Bool.or_eq_true, isLower_iff, hdigit]

lemma not_isUpper_of_isKept {c : Char} (h : isKept c = true) : c.isUpper = false := by
  have hkept := isKept_iff.mp h
  rw [Bool.eq_false_iff, ne_eq, isUpper_iff]
  omega

lemma not_isLower_of_isUpper {c : Char} (h : c.isUpper = true) : c.isLower = false := by
  have hupper := isUpper_iff.mp h
  rw [Bool.eq_false_iff, ne_eq, isLower_iff]
  omega

lemma lowerChar_of_isKept {c : Char} (h : isKept c = true) : lowerChar c = [c] := by
  have hascii : c.toNat < 128 := by
    have hkept := isKept_iff.mp h
    omega
  have hsmall : c.toLower = c := dif_neg fun hupper => by
    have hcapital : c.isUpper = true := isUpper_iff.mpr hupper
    rw [not_isUpper_of_isKept h] at hcapital
    cases hcapital
  rw [lowerChar, if_pos hascii, hsmall]

lemma lowerChar_underscore : lowerChar '_' = ['_'] := by decide

/-! ### Marks at places -/

/-- The characters with an underscore after each at which a test of the rest holds. -/
def marked (test : List Char → Bool) : List Char → List Char
  | [] => []
  | c :: cs => if test (c :: cs) then c :: '_' :: marked test cs else c :: marked test cs

/-- A small letter or a digit stands before a capital letter. -/
def beforeCapital (cs : List Char) : Bool := cs[0]?.any isKept && cs[1]?.any Char.isUpper

/-- A capital letter stands before one that begins a word. -/
def beforeWord (cs : List Char) : Bool :=
  cs[0]?.any Char.isUpper && cs[1]?.any Char.isUpper && cs[2]?.any Char.isLower

section

variable {test : List Char → Bool} {c : Char} {cs : List Char}

lemma marked_cons_of_pos (h : test (c :: cs) = true) :
    marked test (c :: cs) = c :: '_' :: marked test cs := by
  rw [marked, if_pos h]

lemma marked_cons_of_neg (h : test (c :: cs) = false) :
    marked test (c :: cs) = c :: marked test cs := by
  rw [marked, if_neg (by simp [h])]

lemma head?_marked (test : List Char → Bool) (cs : List Char) :
    (marked test cs).head? = cs.head? := by
  cases cs with
  | nil => rfl
  | cons c cs =>
    rw [marked]
    split
    · rfl
    · rfl

end

lemma separated_eq_marked (cs : List Char) :
    separated cs = marked (fun rest => beforeCapital rest || beforeWord rest) cs := by
  induction cs with
  | nil => rfl
  | cons c cs ih =>
    have hlater (i : Nat) : endsWord (c :: cs) (i + 1) = endsWord cs i := by
      simp only [endsWord, List.getElem?_cons_succ]
    have hcons : separated (c :: cs) =
        (if endsWord (c :: cs) 0 then [c, '_'] else [c]) ++ separated cs := by
      simp only [separated, List.mapIdx_cons, List.flatten_cons, hlater]
    have hfirst : endsWord (c :: cs) 0 = (beforeCapital (c :: cs) || beforeWord (c :: cs)) := rfl
    rw [hcons, hfirst, ih, marked]
    split
    · rfl
    · rfl

/-! ### The two passes -/

/-- What was replaced is passed over. -/
lemma substitute_skip (find : List Char → Option (List Char × Nat)) (skip : Nat) (cs : List Char) :
    substitute find skip cs = substitute find 0 (cs.drop skip) := by
  induction cs generalizing skip with
  | nil => cases skip <;> rfl
  | cons c cs ih =>
    cases skip with
    | zero => rfl
    | succ skip => rw [substitute, ih, List.drop_succ_cons]

lemma substitute_of_none {find : List Char → Option (List Char × Nat)} {c : Char} {cs : List Char}
    (h : find (c :: cs) = none) : substitute find 0 (c :: cs) = c :: substitute find 0 cs := by
  rw [substitute, h]

lemma substitute_of_some {find : List Char → Option (List Char × Nat)} {c : Char} {cs : List Char}
    {replacement : List Char} {extra : Nat} (h : find (c :: cs) = some (replacement, extra)) :
    substitute find 0 (c :: cs) = replacement ++ substitute find 0 (cs.drop extra) := by
  rw [substitute, h]
  exact congrArg _ (substitute_skip find extra cs)

lemma wordEnd_cons_cons (c d : Char) (cs : List Char) :
    wordEnd (c :: d :: cs) =
      if beforeCapital (c :: d :: cs) then some ([c, '_', d], 1) else none := rfl

/-- The capital letter behind a boundary begins no further one, so it may be passed over. -/
lemma substitute_wordEnd (cs : List Char) : substitute wordEnd 0 cs = marked beforeCapital cs := by
  induction hlength : cs.length using Nat.strong_induction_on generalizing cs with
  | _ n ih =>
    match cs with
    | [] => rfl
    | [c] =>
      have hnot : beforeCapital [c] = false := by simp [beforeCapital]
      rw [substitute_of_none rfl, marked_cons_of_neg hnot]
      rfl
    | c :: d :: cs =>
      rw [List.length_cons, List.length_cons] at hlength
      cases hfound : beforeCapital (c :: d :: cs) with
      | true =>
        have hd : d.isUpper = true := by
          rw [beforeCapital, Bool.and_eq_true] at hfound
          simpa using hfound.2
        have hnext : beforeCapital (d :: cs) = false := by
          have hkept : isKept d = false := by
            by_contra h
            have hsmall := not_isUpper_of_isKept (Bool.not_eq_false _ ▸ h)
            rw [hd] at hsmall
            cases hsmall
          simp [beforeCapital, hkept]
        have hsome : wordEnd (c :: d :: cs) = some ([c, '_', d], 1) := by
          rw [wordEnd_cons_cons, hfound, if_pos rfl]
        rw [substitute_of_some hsome, marked_cons_of_pos hfound, marked_cons_of_neg hnext]
        exact congrArg (fun rest => c :: '_' :: d :: rest) (ih cs.length (by omega) cs rfl)
      | false =>
        have hnone : wordEnd (c :: d :: cs) = none := by
          rw [wordEnd_cons_cons, hfound, if_neg (by simp)]
        rw [substitute_of_none hnone, marked_cons_of_neg hfound]
        exact congrArg (c :: ·) (ih (d :: cs).length (by rw [List.length_cons]; omega) _ rfl)

/-- Capital letters of which the last begins a word. -/
lemma acronymEnd_eq_some {cs replacement : List Char} {extra : Nat}
    (h : acronymEnd cs = some (replacement, extra)) :
    ∃ before last small rest, cs = before ++ last :: small :: rest ∧ before ≠ [] ∧
      (∀ c ∈ before, c.isUpper = true) ∧ last.isUpper = true ∧ small.isLower = true ∧
      replacement = before ++ ['_', last, small] ∧ extra = before.length + 1 := by
  simp only [acronymEnd] at h
  split at h
  · rename_i last b before small rest hcapitals hrest
    obtain ⟨hsmall, heq⟩ := Option.ite_none_right_eq_some.mp h
    cases heq
    have hrun : cs.takeWhile Char.isUpper = (b :: before).reverse ++ [last] := by
      rw [← List.reverse_cons, ← hcapitals, List.reverse_reverse]
    have hupper : ∀ c ∈ (b :: before).reverse ++ [last], c.isUpper = true := by
      intro c hc
      rw [← hrun] at hc
      exact List.mem_takeWhile_imp hc
    rw [List.forall_mem_append, List.forall_mem_singleton] at hupper
    refine ⟨(b :: before).reverse, last, small, rest, ?_, by simp, hupper.1, hupper.2, hsmall,
      rfl, ?_⟩
    · rw [← List.takeWhile_append_dropWhile (p := Char.isUpper) (l := cs), hrun, hrest,
        List.append_assoc]
      rfl
    · rw [hrun, List.length_append, List.length_singleton]
  · cases h

lemma acronymEnd_of_beforeWord {cs : List Char} (h : beforeWord cs = true) :
    acronymEnd cs ≠ none := by
  match cs with
  | [] => cases h
  | [c] => simp [beforeWord] at h
  | [c, d] => simp [beforeWord] at h
  | c :: d :: small :: rest =>
    simp only [beforeWord, List.getElem?_cons_zero, List.getElem?_cons_succ, Option.any_some,
      Bool.and_eq_true] at h
    obtain ⟨⟨hc, hd⟩, hsmall⟩ := h
    have hnot : small.isUpper = false := not_isUpper_of_isKept (by rw [isKept, hsmall]; rfl)
    simp [acronymEnd, hc, hd, hsmall, hnot]

/-- Among capital letters only the last but one may be followed by a word. -/
lemma marked_capitals {before : List Char} {last small : Char} {rest : List Char}
    (hne : before ≠ []) (hbefore : ∀ c ∈ before, c.isUpper = true) (hlast : last.isUpper = true)
    (hsmall : small.isLower = true) :
    marked beforeWord (before ++ last :: small :: rest) =
      before ++ '_' :: last :: small :: marked beforeWord rest := by
  have hnot : small.isUpper = false := not_isUpper_of_isKept (by rw [isKept, hsmall]; rfl)
  induction before with
  | nil => exact absurd rfl hne
  | cons b before ih =>
    obtain ⟨hb, hbefore⟩ := List.forall_mem_cons.mp hbefore
    cases before with
    | nil =>
      have hfound : beforeWord (b :: last :: small :: rest) = true := by
        simp [beforeWord, hb, hlast, hsmall]
      have hnext : beforeWord (last :: small :: rest) = false := by simp [beforeWord, hnot]
      have hafter : beforeWord (small :: rest) = false := by simp [beforeWord, hnot]
      rw [List.singleton_append, marked_cons_of_pos hfound, marked_cons_of_neg hnext,
        marked_cons_of_neg hafter]
      rfl
    | cons d before =>
      have hthird : ((before ++ last :: small :: rest)[0]?).any Char.isLower = false := by
        cases before with
        | nil => simp [not_isLower_of_isUpper hlast]
        | cons e before =>
          have he := hbefore e (by simp)
          simp [not_isLower_of_isUpper he]
      have hnone : beforeWord (b :: d :: (before ++ last :: small :: rest)) = false := by
        rw [beforeWord, List.getElem?_cons_succ, List.getElem?_cons_succ, List.getElem?_cons_succ,
          hthird, Bool.and_false]
      rw [List.cons_append, List.cons_append, marked_cons_of_neg hnone, ← List.cons_append,
        ih (List.cons_ne_nil d before) hbefore]
      rfl

/-- What the first pass replaces holds no boundary but the one that it marks. -/
lemma substitute_acronymEnd (cs : List Char) :
    substitute acronymEnd 0 cs = marked beforeWord cs := by
  induction hlength : cs.length using Nat.strong_induction_on generalizing cs with
  | _ n ih =>
    cases cs with
    | nil => rfl
    | cons c cs =>
      cases hfound : acronymEnd (c :: cs) with
      | none =>
        have hnot : beforeWord (c :: cs) = false := by
          by_contra h
          exact acronymEnd_of_beforeWord (Bool.not_eq_false _ ▸ h) hfound
        rw [substitute_of_none hfound, marked_cons_of_neg hnot,
          ih cs.length (by rw [List.length_cons] at hlength; omega) cs rfl]
      | some found =>
        obtain ⟨replacement, extra⟩ := found
        obtain ⟨before, last, small, rest, hcs, hne, hbefore, hlast, hsmall, rfl, rfl⟩ :=
          acronymEnd_eq_some hfound
        have hdrop : cs.drop (before.length + 1) = rest := by
          have hall : (c :: cs).drop (before ++ [last, small]).length = rest := by
            have hsplit : before ++ last :: small :: rest = before ++ [last, small] ++ rest := by
              simp
            rw [hcs, hsplit]
            exact List.drop_left
          rwa [List.length_append] at hall
        have hshorter : rest.length < n := by
          rw [hcs, List.length_append, List.length_cons, List.length_cons] at hlength
          omega
        rw [substitute_of_some hfound, hdrop, ih rest.length hshorter rest rfl, hcs,
          marked_capitals hne hbefore hlast hsmall, List.append_assoc]
        rfl

/-- The second pass sees the boundaries that it would see without the marks of the first. -/
lemma marked_marked (cs : List Char) :
    marked beforeCapital (marked beforeWord cs) =
      marked (fun rest => beforeCapital rest || beforeWord rest) cs := by
  induction cs with
  | nil => rfl
  | cons c cs ih =>
    cases hword : beforeWord (c :: cs) with
    | true =>
      have hc : beforeCapital (c :: '_' :: marked beforeWord cs) = false := by
        simp [beforeCapital]
      have hmark : beforeCapital ('_' :: marked beforeWord cs) = false := by
        simp [beforeCapital, isKept_underscore]
      have hboth : (beforeCapital (c :: cs) || beforeWord (c :: cs)) = true := by
        rw [hword, Bool.or_true]
      rw [marked_cons_of_pos hword, marked_cons_of_neg hc, marked_cons_of_neg hmark, ih,
        marked_cons_of_pos hboth]
    | false =>
      have hsame : beforeCapital (c :: marked beforeWord cs) = beforeCapital (c :: cs) := by
        simp only [beforeCapital, List.getElem?_cons_succ, ← List.head?_eq_getElem?, head?_marked,
          List.head?_cons]
      have hboth : (beforeCapital (c :: cs) || beforeWord (c :: cs)) = beforeCapital (c :: cs) := by
        rw [hword, Bool.or_false]
      rw [marked_cons_of_neg hword, marked, marked, hsame, hboth, ih]

lemma substitute_substitute (cs : List Char) :
    substitute wordEnd 0 (substitute acronymEnd 0 cs) = separated cs := by
  rw [substitute_acronymEnd, substitute_wordEnd, marked_marked, separated_eq_marked]

/-! ### Runs -/

/-- A run is of one kind, and what follows it begins with the other. -/
lemma condensed_run {run rest : List Char} {kind : Bool} (hne : run ≠ [])
    (hrun : ∀ c ∈ run, isKept c = kind) (hrest : ∀ c ∈ rest.head?, isKept c = !kind) :
    condensed (run ++ rest) = (if kind then run else ['_']) ++ condensed rest := by
  have hone : run.splitBy (fun c d => isKept c == isKept d) = [run] := by
    apply List.splitBy_of_isChain hne
    apply List.Pairwise.isChain
    apply List.pairwise_of_forall_mem_list
    intro c hc d hd
    rw [hrun c hc, hrun d hd, beq_self_eq_true]
  have hsplit : (run ++ rest).splitBy (fun c d => isKept c == isKept d) =
      run :: rest.splitBy fun c d => isKept c == isKept d := by
    rw [List.splitBy_append, hone]
    · rfl
    · intro c hc d hd
      rw [hrun c (List.mem_of_getLast? hc), hrest d hd]
      cases kind <;> rfl
  have hall : run.all isKept = kind := by
    cases run with
    | nil => exact absurd rfl hne
    | cons c run =>
      cases kind with
      | true => exact List.all_eq_true.mpr hrun
      | false => rw [List.all_cons, hrun c List.mem_cons_self, Bool.false_and]
  rw [condensed, hsplit, List.flatMap_cons, hall]
  rfl

lemma collapse_kept {run : List Char} (hrun : ∀ c ∈ run, isKept c = true) (hne : run ≠ [])
    (inRun : Bool) (rest : List Char) :
    collapse inRun (run ++ rest) = run ++ collapse false rest := by
  induction run generalizing inRun with
  | nil => exact absurd rfl hne
  | cons c run ih =>
    obtain ⟨hc, hrun⟩ := List.forall_mem_cons.mp hrun
    rw [List.cons_append, collapse, if_pos hc]
    cases run with
    | nil => rfl
    | cons d run => rw [ih hrun (List.cons_ne_nil d run)]; rfl

lemma collapse_others {run : List Char} (hrun : ∀ c ∈ run, isKept c = false) (rest : List Char) :
    collapse true (run ++ rest) = collapse true rest := by
  induction run with
  | nil => rfl
  | cons c run ih =>
    obtain ⟨hc, hrun⟩ := List.forall_mem_cons.mp hrun
    rw [List.cons_append, collapse, if_neg (by simp [hc]), if_pos rfl, ih hrun]

/-- Before a character that is kept it does not matter whether a run has been going on. -/
lemma collapse_of_head {cs : List Char} (h : ∀ c ∈ cs.head?, isKept c = true) (inRun : Bool) :
    collapse inRun cs = collapse false cs := by
  cases cs with
  | nil => rfl
  | cons c cs =>
    have hc := h c rfl
    rw [collapse, collapse, if_pos hc, if_pos hc]

lemma collapse_eq_condensed (cs : List Char) : collapse false cs = condensed cs := by
  induction hlength : cs.length using Nat.strong_induction_on generalizing cs with
  | _ n ih =>
    cases cs with
    | nil => rfl
    | cons c cs =>
      let like : Char → Bool := fun d => isKept d == isKept c
      have hcut : c :: cs.takeWhile like ++ cs.dropWhile like = c :: cs := by
        rw [List.cons_append, List.takeWhile_append_dropWhile]
      have hrun : ∀ d ∈ c :: cs.takeWhile like, isKept d = isKept c := by
        refine List.forall_mem_cons.mpr ⟨rfl, fun d hd => ?_⟩
        have hlike : like d = true := List.mem_takeWhile_imp hd
        exact eq_of_beq hlike
      have hrest : ∀ d ∈ (cs.dropWhile like).head?, isKept d = !isKept c := by
        intro d hd
        have hnot := List.head?_dropWhile_not like cs
        rw [hd] at hnot
        exact Bool.eq_not.mpr (ne_of_beq_false hnot)
      have hshorter : (cs.dropWhile like).length < n := by
        have hle := List.length_dropWhile_le like cs
        rw [List.length_cons] at hlength
        omega
      have hrecursive := ih _ hshorter _ rfl
      rw [← hcut, condensed_run (List.cons_ne_nil _ _) hrun hrest, ← hrecursive]
      cases hc : isKept c with
      | true =>
        rw [hc] at hrun
        rw [collapse_kept hrun (List.cons_ne_nil _ _), if_pos rfl]
      | false =>
        rw [hc] at hrun hrest
        obtain ⟨-, hothers⟩ := List.forall_mem_cons.mp hrun
        rw [List.cons_append, collapse, if_neg (by simp [hc]), if_neg (by simp),
          collapse_others hothers, collapse_of_head hrest, if_neg (by simp)]
        rfl

lemma snakeCase_eq_underscored (identifier : List Char) :
    snakeCase identifier = underscored identifier := by
  rw [snakeCase, substitute_substitute, collapse_eq_condensed, underscored, stripUnderscores_eq]
  simp only [List.isEmpty_iff]
  rfl

/-! ### Names of names -/

lemma Words.ne_nil {cs : List Char} (h : Words cs) : cs ≠ [] := by
  cases h with
  | one hne _ => exact hne
  | more hne _ _ => exact List.append_ne_nil_of_left_ne_nil hne _

lemma Words.joined {cs : List Char} (h : Words cs) :
    Joined cs ∧ cs.head? ≠ some '_' ∧ cs.getLast? ≠ some '_' := by
  have hends {w : List Char} (hw : ∀ c ∈ w, isKept c = true) :
      w.head? ≠ some '_' ∧ w.getLast? ≠ some '_' := by
    constructor
    · intro hhead
      cases isKept_underscore.symm.trans (hw _ (List.mem_of_head? hhead))
    · intro hlast
      cases isKept_underscore.symm.trans (hw _ (List.mem_of_getLast? hlast))
  have hchain {w : List Char} (hw : ∀ c ∈ w, isKept c = true) :
      w.IsChain fun c d => ¬ (c = '_' ∧ d = '_') := by
    apply List.Pairwise.isChain
    apply List.pairwise_of_forall_mem_list
    rintro c hc d - ⟨rfl, -⟩
    cases isKept_underscore.symm.trans (hw _ hc)
  induction h with
  | one hne hw => exact ⟨⟨fun c hc => Or.inl (hw c hc), hchain hw⟩, hends hw⟩
  | @more w rest hne hw hrest ih =>
    obtain ⟨⟨hchars, hsingle⟩, hhead, hlast⟩ := ih
    obtain ⟨hwhead, hwlast⟩ := hends hw
    refine ⟨⟨?_, ?_⟩, ?_, ?_⟩
    · intro c hc
      rcases List.mem_append.mp hc with hc | hc
      · exact Or.inl (hw c hc)
      · rcases List.mem_cons.mp hc with rfl | hc
        · exact Or.inr rfl
        · exact hchars c hc
    · refine List.isChain_append.mpr ⟨hchain hw, List.isChain_cons.mpr ⟨?_, hsingle⟩, ?_⟩
      · rintro d hd ⟨-, rfl⟩
        exact hhead hd
      · rintro c hc d - ⟨rfl, -⟩
        exact hwlast hc
    · rwa [List.head?_append_of_ne_nil _ hne]
    · obtain ⟨d, rest, rfl⟩ := List.exists_cons_of_ne_nil hrest.ne_nil
      rwa [List.getLast?_append_of_ne_nil _ (List.cons_ne_nil _ _), List.getLast?_cons_cons]

lemma collapse_of_joined {cs : List Char} (h : Joined cs) {inRun : Bool}
    (hhead : inRun = true → cs.head? ≠ some '_') : collapse inRun cs = cs := by
  induction cs generalizing inRun with
  | nil => rfl
  | cons c cs ih =>
    have hjoined : Joined cs := h.of_infix (List.suffix_cons c cs).isInfix
    have hrest : collapse false cs = cs := by
      apply ih hjoined
      intro h
      cases h
    rw [collapse]
    split
    · rw [hrest]
    · rename_i hother
      obtain rfl : c = '_' := (h.chars c List.mem_cons_self).resolve_left hother
      rw [if_neg fun hin => hhead hin rfl, ih hjoined]
      intro _ hnext
      exact (List.isChain_cons.mp h.single).1 '_' hnext ⟨rfl, rfl⟩

lemma stripUnderscores_of_ends {cs : List Char} (hhead : cs.head? ≠ some '_')
    (hlast : cs.getLast? ≠ some '_') : stripUnderscores cs = cs := by
  have hfront : cs.dropWhile (· = '_') = cs := by
    cases cs with
    | nil => rfl
    | cons c cs => exact List.dropWhile_cons_of_neg (by simpa using hhead)
  rw [stripUnderscores_eq, hfront, List.rdropWhile_eq_self_iff]
  intro hne heq
  rw [List.getLast?_eq_some_getLast hne] at hlast
  exact hlast (congrArg some (of_decide_eq_true heq))

lemma marked_of_small {cs : List Char} (h : ∀ c ∈ cs, c.isUpper = false) :
    marked (fun rest => beforeCapital rest || beforeWord rest) cs = cs := by
  induction cs with
  | nil => rfl
  | cons c cs ih =>
    obtain ⟨hc, hcs⟩ := List.forall_mem_cons.mp h
    have hnext : cs[0]?.any Char.isUpper = false := by
      cases cs with
      | nil => rfl
      | cons d cs => exact hcs d List.mem_cons_self
    have hnot : (beforeCapital (c :: cs) || beforeWord (c :: cs)) = false := by
      simp [beforeCapital, beforeWord, hc, hnext]
    rw [marked_cons_of_neg hnot, ih hcs]

lemma lower_of_joined {cs : List Char} (h : ∀ c ∈ cs, isKept c = true ∨ c = '_') :
    lower cs = cs := by
  induction cs with
  | nil => rfl
  | cons c cs ih =>
    obtain ⟨hc, hcs⟩ := List.forall_mem_cons.mp h
    have hself : lowerChar c = [c] := by
      rcases hc with hc | rfl
      · exact lowerChar_of_isKept hc
      · exact lowerChar_underscore
    rw [lower, List.flatMap_cons, hself, ← lower, ih hcs]
    rfl

/-- What is words already is its own name. -/
lemma snakeCase_of_words {cs : List Char} (h : Words cs) : snakeCase cs = cs := by
  obtain ⟨hjoined, hhead, hlast⟩ := h.joined
  have hsmall : ∀ c ∈ cs, c.isUpper = false := by
    intro c hc
    rcases hjoined.chars c hc with hkept | rfl
    · exact not_isUpper_of_isKept hkept
    · rfl
  have hself : collapse false cs = cs := by
    apply collapse_of_joined hjoined
    intro h
    cases h
  rw [snakeCase, substitute_substitute, separated_eq_marked, marked_of_small hsmall,
    lower_of_joined hjoined.chars, hself, stripUnderscores_of_ends hhead hlast]
  exact if_neg (by simpa using h.ne_nil)

/-! ### Characters that are kept -/

lemma filter_collapse (inRun : Bool) (cs : List Char) :
    (collapse inRun cs).filter isKept = cs.filter isKept := by
  induction cs generalizing inRun with
  | nil => rfl
  | cons c cs ih =>
    rw [collapse]
    split
    · rename_i hc
      rw [List.filter_cons_of_pos hc, List.filter_cons_of_pos hc, ih]
    · rename_i hc
      rw [List.filter_cons_of_neg hc]
      split
      · exact ih true
      · rw [List.filter_cons_of_neg (by simp [isKept_underscore]), ih]

lemma filter_dropWhile (cs : List Char) :
    (cs.dropWhile (· = '_')).filter isKept = cs.filter isKept := by
  induction cs with
  | nil => rfl
  | cons c cs ih =>
    by_cases hc : c = '_'
    · rw [List.dropWhile_cons_of_pos (by simp [hc]), ih, hc,
        List.filter_cons_of_neg (by simp [isKept_underscore])]
    · rw [List.dropWhile_cons_of_neg (by simp [hc])]

lemma filter_stripUnderscores (cs : List Char) :
    (stripUnderscores cs).filter isKept = cs.filter isKept := by
  rw [stripUnderscores, List.filter_reverse, filter_dropWhile, List.filter_reverse,
    List.reverse_reverse, filter_dropWhile]

lemma filter_lower_marked (test : List Char → Bool) (cs : List Char) :
    (lower (marked test cs)).filter isKept = (lower cs).filter isKept := by
  induction cs with
  | nil => rfl
  | cons c cs ih =>
    have hcons (c : Char) (cs : List Char) : (lower (c :: cs)).filter isKept =
        (lowerChar c).filter isKept ++ (lower cs).filter isKept := by
      rw [lower, List.flatMap_cons, List.filter_append, ← lower]
    rw [marked]
    split
    · rw [hcons, hcons, hcons, lowerChar_underscore, ih]
      rfl
    · rw [hcons, hcons, ih]

/-- No character that can be kept is lost, and none is added. -/
lemma filter_snakeCase {identifier : List Char}
    (h : (lower identifier).filter isKept ≠ []) :
    (snakeCase identifier).filter isKept = (lower identifier).filter isKept := by
  have hkept : (stripUnderscores (collapse false (lower (separated identifier)))).filter isKept =
      (lower identifier).filter isKept := by
    rw [filter_stripUnderscores, filter_collapse, separated_eq_marked, filter_lower_marked]
  rw [snakeCase, substitute_substitute]
  split
  · rename_i hempty
    rw [List.isEmpty_iff.mp hempty] at hkept
    exact absurd hkept.symm h
  · exact hkept

/-- The name of a class is spelled place by place, and is words of small letters and digits with
single underscores between them. A name is its own name. Without the underscores it is what of the
class's name in lower case can be kept, if that is anything. -/
theorem snakeCase_place_by_place (identifier : List Char) :
    snakeCase identifier = underscored identifier ∧
    Words (snakeCase identifier) ∧
    snakeCase (snakeCase identifier) = snakeCase identifier ∧
    ((lower identifier).filter isKept ≠ [] →
      (snakeCase identifier).filter (· ≠ '_') = (lower identifier).filter isKept) := by
  refine ⟨snakeCase_eq_underscored identifier, words_snakeCase identifier,
    snakeCase_of_words (words_snakeCase identifier), ?_⟩
  intro hkept
  rw [← filter_snakeCase hkept]
  apply List.filter_congr
  intro c hc
  rcases (words_snakeCase identifier).joined.1.chars c hc with hc | rfl
  · rw [hc, decide_eq_true_eq]
    rintro rfl
    cases isKept_underscore.symm.trans hc
  · rfl

/-- An acronym before a word, a digit before a capital, and underscores of the class's own. -/
theorem snakeCase_place_by_place_server :
    (lower "_HTTPServer2Go__ABC9".toList).filter isKept ≠ [] ∧
      snakeCase "_HTTPServer2Go__ABC9".toList = "http_server2_go_abc9".toList ∧
      (snakeCase "_HTTPServer2Go__ABC9".toList).filter (· ≠ '_') =
        "httpserver2goabc9".toList := by
  have hkept : (lower "_HTTPServer2Go__ABC9".toList).filter isKept =
      "httpserver2goabc9".toList := by
    decide +kernel
  have hne : (lower "_HTTPServer2Go__ABC9".toList).filter isKept ≠ [] := by
    rw [hkept]
    decide +kernel
  obtain ⟨-, -, -, hletters⟩ := snakeCase_place_by_place "_HTTPServer2Go__ABC9".toList
  refine ⟨hne, by decide +kernel, ?_⟩
  rw [hletters hne, hkept]

end ProbeCatalog.Name
