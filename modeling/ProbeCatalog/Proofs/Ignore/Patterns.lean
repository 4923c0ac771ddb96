import ProbeCatalog.Proofs.Ignore.Globs
import ProbeCatalog.Proofs.Outcome
import ProbeCatalog.Proofs.Project.Written

/-!
# Patterns and their segments

A pattern is cut at its slashes, and its segments are read one after the other. Names in front of
the segments only put literal pieces in front of the glob; a segment that needs a character makes
a piece that does.
-/
namespace ProbeCatalog

namespace IgnoreRule

open Glob Table

/-- A character that patterns take as it is, wherever it stands. -/
def IsLiteral (c : Char) : Prop := c ∉ ['*', '?', '[', '\\', '/']

instance : DecidablePred IsLiteral := fun c =>
  inferInstanceAs (Decidable (c ∉ ['*', '?', '[', '\\', '/']))

lemma isLiteral_iff {c : Char} :
    IsLiteral c ↔ c ≠ '*' ∧ c ≠ '?' ∧ c ≠ '[' ∧ c ≠ '\\' ∧ c ≠ '/' := by
  simp [IsLiteral]

/-- The pattern begins with a character that it takes as it is, bare or behind a backslash. -/
inductive BeginsWith (c : Char) : List Char → Prop
  | bare (h : IsLiteral c) (rest : List Char) : BeginsWith c (c :: rest)
  | escaped (rest : List Char) : BeginsWith c ('\\' :: c :: rest)

/-- The name of a directory that patterns take as it is. -/
def IsLiteralName (name : String) : Prop := name ≠ "" ∧ ∀ c ∈ name.toList, IsLiteral c

lemma IsLiteralName.ne_deep {name : String} (h : IsLiteralName name) : name.toList ≠ deep := by
  intro hdeep
  have hstar : '*' ∈ name.toList := by
    rw [hdeep]
    decide
  exact h.2 '*' hstar (by decide)

lemma IsLiteralName.slash_notMem {name : String} (h : IsLiteralName name) :
    '/' ∉ name.toList := fun hslash => h.2 '/' hslash (by decide)

/-- A segment that needs a character: a star that stands alone, or anything but stars. -/
def IsFull (segment : List Char) : Prop := segment = ['*'] ∨ ∃ c ∈ segment, c ≠ '*'

/-- The glob of pieces and an ending. -/
def globOfParts (parts : List Piece × Ending) : Glob := ⟨parts.1, parts.2⟩

/-- What comes of a glob, or of the fault of a segment: no pattern at all, a pattern that makes no
rule, or a rule. -/
def ruleOf (leavesOut : Bool) : Except SegmentFault Glob → Option (Option IgnoreRule)
  | .error .openBracket => some none
  | .error .lastBackslash => none
  | .ok g => if (sets g).all CharSet.isOrdered then some (some ⟨leavesOut, g⟩) else none

/-- A change of globs that leaves their sets as they are carries over to the rules. -/
lemma ruleOf_map {f : Glob → Glob} (hf : ∀ g, sets (f g) = sets g) (leavesOut : Bool)
    (x : Except SegmentFault Glob) :
    ruleOf leavesOut (x.map f) =
      (ruleOf leavesOut x).map (Option.map fun r => { r with glob := f r.glob }) := by
  cases x with
  | error fault => cases fault <;> rfl
  | ok g =>
    rw [Except.map, ruleOf, ruleOf, hf]
    split <;> rfl

lemma ruleOf_eq_some {leavesOut : Bool} {x : Except SegmentFault Glob} {r : IgnoreRule}
    (h : ruleOf leavesOut x = some (some r)) : x = .ok r.glob ∧ r.leavesOut = leavesOut := by
  cases x with
  | error fault => cases fault <;> cases h
  | ok g =>
    rw [ruleOf] at h
    split at h
    · cases h; exact ⟨rfl, rfl⟩
    · cases h

/-- Whether a glob makes a rule is known from its sets. -/
lemma isSome_ruleOf_map {α : Type} {f g : α → Glob} (h : ∀ a, sets (f a) = sets (g a))
    (leavesOut : Bool) (x : Except SegmentFault α) :
    (ruleOf leavesOut (x.map f)).isSome = (ruleOf leavesOut (x.map g)).isSome := by
  cases x with
  | error fault => cases fault <;> rfl
  | ok a =>
    simp only [Except.map, ruleOf, h]
    split <;> rfl

/-! ### Segments in a row -/

/-- The segments of a pattern as they are read. -/
def normalized (segments : List (List Char)) : List (List Char) := collapsed (opened segments)

/-- The pattern is one of directories only. -/
def isOfDirectory (segments : List (List Char)) : Bool := decide (segments.getLast? = some [])

lemma opened_append (before : List (List Char)) {segments : List (List Char)}
    (h : segments ≠ []) : opened (before ++ segments) = before ++ opened segments := by
  induction before with
  | nil => rfl
  | cons segment before ih =>
    rw [List.cons_append, opened, ih, List.cons_append]
    intro _ hnil
    simp [h] at hnil

lemma collapsed_append {before : List (List Char)} (h : deep ∉ before)
    (segments : List (List Char)) :
    collapsed (before ++ segments) = before ++ collapsed segments := by
  induction before with
  | nil => rfl
  | cons segment before ih =>
    simp only [List.mem_cons, not_or] at h
    rw [List.cons_append, collapsed, if_neg fun hdeep => h.1 hdeep.1.symm, ih h.2,
      List.cons_append]

lemma normalized_append {before segments : List (List Char)} (h : deep ∉ before)
    (hne : segments ≠ []) : normalized (before ++ segments) = before ++ normalized segments := by
  rw [normalized, opened_append before hne, collapsed_append h, normalized]

lemma collapsed_ne_nil {segments : List (List Char)} (h : segments ≠ []) :
    collapsed segments ≠ [] := by
  induction segments with
  | nil => exact absurd rfl h
  | cons segment rest ih =>
    rw [collapsed]
    split
    · rename_i hdeep
      apply ih
      rintro rfl
      cases hdeep.2
    · exact List.cons_ne_nil _ _

lemma opened_ne_nil {segments : List (List Char)} (h : segments ≠ []) : opened segments ≠ [] := by
  unfold opened
  split
  · exact absurd rfl h
  · exact List.cons_ne_nil _ _
  · exact List.cons_ne_nil _ _

lemma normalized_ne_nil {segments : List (List Char)} (h : segments ≠ []) :
    normalized segments ≠ [] :=
  collapsed_ne_nil (opened_ne_nil h)

lemma normalized_cons {first : List Char} (h : first ≠ []) (hdeep : first ≠ deep)
    (rest : List (List Char)) : normalized (first :: rest) = first :: normalized rest := by
  have hopened : opened (first :: rest) = first :: opened rest := by
    rw [opened]
    exact fun hnil _ => h hnil
  rw [normalized, hopened, collapsed, if_neg fun hboth => hdeep hboth.1, ← normalized]

/-- A deep segment in front is kept if the segment after it is another one. -/
lemma normalized_deep {first : List Char} (h : first ≠ []) (hdeep : first ≠ deep)
    (rest : List (List Char)) :
    normalized (deep :: first :: rest) = deep :: normalized (first :: rest) := by
  have hopened : opened (first :: rest) = first :: opened rest := by
    rw [opened]
    exact fun hnil _ => h hnil
  have hhead : ¬ (deep = deep ∧ (first :: opened rest).head? = some deep) := by
    simpa using hdeep
  rw [normalized, opened, hopened, collapsed, if_neg hhead, ← hopened, ← normalized]
  exact fun hnil => absurd hnil (by decide)

lemma not_isFull_deep : ¬ IsFull deep := by
  rintro (h | ⟨c, hc, hne⟩)
  · cases h
  · simp only [deep, List.mem_cons, List.not_mem_nil, or_false, or_self] at hc
    exact hne hc

/-! ### Pieces -/

lemma segmentPieces_literal {c : Char} (hc : IsLiteral c) (fuel : Nat) (cs : List Char) :
    segmentPieces (fuel + 1) (c :: cs) = (segmentPieces fuel cs).map (.literal c :: ·) := by
  obtain ⟨hstar, hany, hopen, hback, -⟩ := isLiteral_iff.mp hc
  rw [segmentPieces]
  · exact fun heq _ => hback heq
  · exact fun _ _ heq _ => hback heq
  · exact hstar
  · exact hany
  · exact hopen

lemma pieces_literal {segment : List Char} (h : ∀ c ∈ segment, IsLiteral c) :
    pieces segment = .ok (literals segment) := by
  have hrun : ∀ (fuel : Nat) (cs : List Char), cs.length ≤ fuel → (∀ c ∈ cs, IsLiteral c) →
      segmentPieces fuel cs = .ok (literals cs) := by
    intro fuel
    induction fuel with
    | zero =>
      intro cs hlen _
      rw [List.length_eq_zero_iff.mp (Nat.le_zero.mp hlen)]
      rfl
    | succ fuel ih =>
      intro cs hlen hcs
      cases cs with
      | nil => rfl
      | cons c cs =>
        obtain ⟨hc, hcs⟩ := List.forall_mem_cons.mp hcs
        rw [segmentPieces_literal hc, ih cs (Nat.le_of_succ_le_succ hlen) hcs]
        rfl
  rw [pieces, if_neg, hrun _ _ le_rfl h]
  rintro rfl
  exact h '*' (by simp) (by simp)

namespace BeginsWith

variable {c : Char} {cs : List Char}

lemma exists_pieces (h : BeginsWith c cs) {own : List Piece} (hown : pieces cs = .ok own) :
    ∃ ps, own = .literal c :: ps := by
  cases h with
  | bare hc rest =>
    have hstar : ¬ c :: rest = ['*'] := fun heq =>
      (isLiteral_iff.mp hc).1 (List.cons.inj heq).1
    rw [pieces, if_neg hstar, List.length_cons, segmentPieces_literal hc] at hown
    obtain ⟨ps, -, rfl⟩ := map_eq_ok.mp hown
    exact ⟨ps, rfl⟩
  | escaped rest =>
    rw [pieces, if_neg (by simp), List.length_cons, segmentPieces] at hown
    obtain ⟨ps, -, rfl⟩ := map_eq_ok.mp hown
    exact ⟨ps, rfl⟩

lemma head?_ne (h : BeginsWith c cs) {d : Char} (hd : d = '*' ∨ d = '/') :
    cs.head? ≠ some d := by
  cases h with
  | bare hc rest =>
    obtain ⟨hstar, -, -, -, hslash⟩ := isLiteral_iff.mp hc
    rcases hd with rfl | rfl
    · simpa using hstar
    · simpa using hslash
  | escaped rest => rcases hd with rfl | rfl <;> simp

lemma ne_nil (h : BeginsWith c cs) : cs ≠ [] := by
  cases h <;> exact List.cons_ne_nil _ _

lemma ne_deep (h : BeginsWith c cs) : cs ≠ deep := by
  rintro rfl
  exact h.head?_ne (Or.inl rfl) rfl

/-- The first segment begins as the pattern does. -/
lemma of_append {seg : List Char} (h : BeginsWith c (seg ++ ['/'])) (hc : c ≠ '/') :
    BeginsWith c seg := by
  cases seg with
  | nil => exact absurd rfl (h.head?_ne (Or.inr rfl))
  | cons first seg =>
    rw [List.cons_append] at h
    generalize htext : first :: (seg ++ ['/']) = text at h
    cases h with
    | bare hlit rest =>
      obtain ⟨rfl, -⟩ := List.cons.inj htext
      exact .bare hlit seg
    | escaped rest =>
      obtain ⟨rfl, hrest⟩ := List.cons.inj htext
      cases seg with
      | nil => exact absurd (List.cons.inj hrest).1.symm hc
      | cons second seg =>
        obtain ⟨rfl, -⟩ := List.cons.inj hrest
        exact .escaped seg

end BeginsWith

/-- A segment that needs a character makes a piece that does. -/
lemma exists_isFull {segment : List Char} (h : IsFull segment) {ps : List Piece}
    (hps : pieces segment = .ok ps) : ∃ p ∈ ps, p.IsFull := by
  have hrun : ∀ (fuel : Nat) (cs : List Char) (ps : List Piece), cs.length ≤ fuel →
      (∃ c ∈ cs, c ≠ '*') → segmentPieces fuel cs = .ok ps → ∃ p ∈ ps, p.IsFull := by
    intro fuel cs
    fun_induction segmentPieces fuel cs with
    | case1 cs =>
      rintro ps hlen ⟨c, hc, -⟩ -
      rw [List.length_eq_zero_iff.mp (Nat.le_zero.mp hlen)] at hc
      cases hc
    | case2 fuel => rintro ps - ⟨c, hc, -⟩ -; cases hc
    | case3 fuel => rintro ps - - h; cases h
    | case4 fuel c rest ih =>
      intro ps _ _ h
      obtain ⟨ps, -, rfl⟩ := map_eq_ok.mp h
      exact ⟨_, List.mem_cons_self, rfl⟩
    | case5 fuel rest ih =>
      rintro ps hlen ⟨c, hc, hne⟩ h
      obtain ⟨ps, hps, rfl⟩ := map_eq_ok.mp h
      have hmem : c ∈ rest := (List.mem_cons.mp hc).resolve_left hne
      obtain ⟨p, hp, hfull⟩ := ih ps (Nat.le_of_succ_le_succ hlen) ⟨c, hmem, hne⟩ hps
      exact ⟨p, List.mem_cons_of_mem _ hp, hfull⟩
    | case6 fuel rest ih =>
      intro ps _ _ h
      obtain ⟨ps, -, rfl⟩ := map_eq_ok.mp h
      exact ⟨_, List.mem_cons_self, rfl⟩
    | case7 fuel rest hbrackets => intro ps _ _ h; cases h
    | case8 fuel rest s rest' hbrackets ih =>
      intro ps _ _ h
      obtain ⟨ps, -, rfl⟩ := map_eq_ok.mp h
      exact ⟨_, List.mem_cons_self, rfl⟩
    | case9 fuel c rest _ _ _ _ ih =>
      intro ps _ _ h
      obtain ⟨ps, -, rfl⟩ := map_eq_ok.mp h
      exact ⟨_, List.mem_cons_self, rfl⟩
  rw [pieces] at hps
  split at hps
  · cases hps
    exact ⟨_, List.mem_cons_self, rfl⟩
  · rename_i hstar
    exact hrun _ _ ps le_rfl (h.resolve_left hstar) hps

/-! ### Globs of segments -/

variable {ofDirectory : Bool}

lemma assemble_deep {rest : List (List Char)} (h : rest ≠ []) (slash : Bool) :
    assemble ofDirectory slash (deep :: rest) = (assemble ofDirectory false rest).map fun parts =>
      (.literal '/' :: .ancestors :: parts.1, parts.2) := by
  rw [assemble, if_pos rfl]
  · cases assemble ofDirectory false rest <;> rfl
  · exact h

lemma assemble_cons {segment : List Char} (hs : segment ≠ deep) {rest : List (List Char)}
    (h : rest ≠ []) (slash : Bool) :
    assemble ofDirectory slash (segment :: rest) = pieces segment >>= fun own =>
      (assemble ofDirectory true rest).map fun parts => (owed slash ++ own ++ parts.1, parts.2) := by
  rw [assemble, if_neg hs]
  · cases assemble ofDirectory true rest <;> rfl
  · exact h

lemma assemble_singleton {segment : List Char} (hs : segment ≠ deep) (slash : Bool) :
    assemble ofDirectory slash [segment] =
      (pieces segment).map fun own => (owed slash ++ own, .edge) := by
  rw [assemble, if_neg hs]
  cases pieces segment <;> rfl

lemma exists_own {first : List Char} (hs : first ≠ deep) {rest : List (List Char)}
    {parts : List Piece × Ending} (h : assemble ofDirectory false (first :: rest) = .ok parts) :
    ∃ own later, pieces first = .ok own ∧ parts.1 = own ++ later := by
  by_cases hrest : rest = []
  · rw [hrest, assemble_singleton hs] at h
    obtain ⟨own, hown, rfl⟩ := map_eq_ok.mp h
    exact ⟨own, [], hown, (List.append_nil own).symm⟩
  · rw [assemble_cons hs hrest] at h
    obtain ⟨own, hown, hlater⟩ := bind_eq_ok.mp h
    obtain ⟨later, -, rfl⟩ := map_eq_ok.mp hlater
    exact ⟨own, later.1, hown, rfl⟩

/-- A slash that is owed to a segment only stands in front of its pieces. -/
lemma assemble_owed {first : List Char} (hs : first ≠ deep) (rest : List (List Char)) :
    assemble ofDirectory true (first :: rest) = (assemble ofDirectory false (first :: rest)).map
      fun parts => (.literal '/' :: parts.1, parts.2) := by
  cases rest with
  | nil =>
    rw [assemble_singleton hs, assemble_singleton hs]
    cases pieces first <;> rfl
  | cons segment rest =>
    rw [assemble_cons hs (List.cons_ne_nil _ _), assemble_cons hs (List.cons_ne_nil _ _)]
    cases pieces first with
    | error fault => rfl
    | ok own => cases assemble ofDirectory true (segment :: rest) <;> rfl

lemma globOf_cons {first : List Char} (hs : first ≠ deep) (rest : List (List Char)) :
    globOf ofDirectory (first :: rest) =
      (assemble ofDirectory false (first :: rest)).map globOfParts := by
  have hne : ¬ first :: rest = [deep] := fun h => hs (List.cons.inj h).1
  have hne' : ¬ first :: rest = [deep, ['*']] := fun h => hs (List.cons.inj h).1
  rw [globOf, if_neg hne, if_neg hne']
  simp only [if_neg hs]
  cases assemble ofDirectory false (first :: rest) <;> rfl

lemma globOf_deep {rest : List (List Char)} (h : rest ≠ []) (h' : rest ≠ [['*']]) :
    globOf ofDirectory (deep :: rest) = (assemble ofDirectory false rest).map fun parts =>
      globOfParts (.ancestors :: parts.1, parts.2) := by
  rw [globOf, if_neg (by simpa using h), if_neg (by simpa using h')]
  simp only [if_true]
  cases assemble ofDirectory false rest <;> rfl

/-- Behind something, segments begin with a slash or stand for all that is inside. -/
lemma assemble_cases {segments : List (List Char)} (h : segments ≠ [])
    {parts : List Piece × Ending} (hparts : assemble ofDirectory true segments = .ok parts) :
    (∃ ps, parts.1 = .literal '/' :: ps) ∨ parts = ([], .inside) := by
  cases segments with
  | nil => exact absurd rfl h
  | cons first rest =>
    by_cases hdeep : first = deep
    · subst hdeep
      by_cases hrest : rest = []
      · subst hrest
        have hone : assemble ofDirectory true [deep] =
            .ok (if ofDirectory then ([], .inside) else ([.literal '/'], .free)) := rfl
        rw [← Except.ok.inj (hone.symm.trans hparts)]
        cases ofDirectory with
        | false => exact Or.inl ⟨[], rfl⟩
        | true => exact Or.inr rfl
      · rw [assemble_deep hrest] at hparts
        obtain ⟨later, -, rfl⟩ := map_eq_ok.mp hparts
        exact Or.inl ⟨_, rfl⟩
    · rw [assemble_owed hdeep] at hparts
      obtain ⟨own, -, rfl⟩ := map_eq_ok.mp hparts
      exact Or.inl ⟨own.1, rfl⟩

/-- Names in front of segments put the text of their path in front of the pieces. -/
lemma assemble_names {d : Path} (hd : d ≠ []) (hnames : ∀ name ∈ d, IsLiteralName name)
    {segments : List (List Char)} (h : segments ≠ []) :
    assemble ofDirectory false (d.map String.toList ++ segments) =
      (assemble ofDirectory true segments).map fun parts =>
        (literals (Path.text d).toList ++ parts.1, parts.2) := by
  induction d with
  | nil => exact absurd rfl hd
  | cons name d ih =>
    obtain ⟨hname, hnames⟩ := List.forall_mem_cons.mp hnames
    have hrest : d.map String.toList ++ segments ≠ [] := by simp [h]
    rw [List.map_cons, List.cons_append, assemble_cons hname.ne_deep hrest,
      pieces_literal hname.2, ok_bind]
    cases d with
    | nil =>
      rw [Path.toList_text_singleton]
      rfl
    | cons n d =>
      have hjoin : literals (Path.text (name :: n :: d)).toList =
          literals name.toList ++ .literal '/' :: literals (Path.text (n :: d)).toList := by
        rw [Path.toList_text_cons, literals, List.map_append]
        rfl
      have hn := (hnames n List.mem_cons_self).ne_deep
      have ih := ih (List.cons_ne_nil n d) hnames
      rw [List.map_cons, List.cons_append] at ih ⊢
      rw [assemble_owed hn, ih, hjoin]
      cases assemble ofDirectory true segments with
      | error fault => rfl
      | ok parts =>
        simp only [Except.map, owed, Bool.false_eq_true, if_false, List.nil_append,
          List.append_assoc, List.cons_append]

/-- The glob of a pattern behind the path of a directory. -/
lemma globOf_names {d : Path} (hd : d ≠ []) (hnames : ∀ name ∈ d, IsLiteralName name)
    {segments : List (List Char)} (h : segments ≠ []) :
    globOf ofDirectory (d.map String.toList ++ segments) =
      (assemble ofDirectory true segments).map fun parts =>
        globOfParts (literals (Path.text d).toList ++ parts.1, parts.2) := by
  cases d with
  | nil => exact absurd rfl hd
  | cons name d =>
    have hname := (hnames name List.mem_cons_self).ne_deep
    have hassemble := @assemble_names ofDirectory _ hd hnames _ h
    rw [List.map_cons, List.cons_append] at hassemble ⊢
    rw [globOf_cons hname, hassemble]
    cases assemble ofDirectory true segments <;> rfl

/-- A deep segment in front does not change whether there is a rule. -/
lemma isSome_ruleOf_deep {first : List Char} (hs : first ≠ deep) (rest : List (List Char))
    (leavesOut : Bool) :
    (ruleOf leavesOut (globOf ofDirectory (deep :: first :: rest))).isSome =
      (ruleOf leavesOut (globOf ofDirectory (first :: rest))).isSome := by
  by_cases hstar : first :: rest = [['*']]
  · obtain ⟨rfl, rfl⟩ := List.cons.inj hstar
    cases ofDirectory <;> rfl
  · have hsets (parts : List Piece × Ending) :
        sets (globOfParts (.ancestors :: parts.1, parts.2)) = sets (globOfParts parts) := rfl
    rw [globOf_deep (List.cons_ne_nil _ _) hstar, globOf_cons hs]
    exact isSome_ruleOf_map hsets leavesOut _

/-- The pieces of segments of which one needs a character. -/
lemma exists_isFull_of_assemble {segments : List (List Char)} (h : ∃ s ∈ segments, IsFull s)
    {slash : Bool} {parts : List Piece × Ending}
    (hparts : assemble ofDirectory slash segments = .ok parts) : ∃ p ∈ parts.1, p.IsFull := by
  induction segments generalizing slash parts with
  | nil => obtain ⟨s, hs, -⟩ := h; cases hs
  | cons first rest ih =>
    obtain ⟨s, hs, hfull⟩ := h
    by_cases hrest : rest = []
    · subst hrest
      obtain rfl : s = first := List.mem_singleton.mp hs
      have hdeep : s ≠ deep := by
        rintro rfl
        exact not_isFull_deep hfull
      rw [assemble_singleton hdeep] at hparts
      obtain ⟨own, hown, rfl⟩ := map_eq_ok.mp hparts
      obtain ⟨p, hp, hp'⟩ := exists_isFull hfull hown
      exact ⟨p, List.mem_append_right _ hp, hp'⟩
    · by_cases hdeep : first = deep
      · subst hdeep
        rw [assemble_deep hrest] at hparts
        obtain ⟨parts, -, rfl⟩ := map_eq_ok.mp hparts
        exact ⟨_, List.mem_cons_self, rfl⟩
      · rw [assemble_cons hdeep hrest] at hparts
        obtain ⟨own, hown, hparts⟩ := bind_eq_ok.mp hparts
        obtain ⟨later, hlater, rfl⟩ := map_eq_ok.mp hparts
        rcases List.mem_cons.mp hs with rfl | hs
        · obtain ⟨p, hp, hp'⟩ := exists_isFull hfull hown
          exact ⟨p, List.mem_append_left _ (List.mem_append_right _ hp), hp'⟩
        · obtain ⟨p, hp, hp'⟩ := ih ⟨s, hs, hfull⟩ hlater
          exact ⟨p, List.mem_append_right _ hp, hp'⟩

/-- The segments name something: one of them needs a character, and they are not all there is
below any directories. -/
def NameSomething (segments : List (List Char)) : Prop :=
  (∃ s ∈ segments, IsFull s) ∧ segments ≠ [deep, ['*']]

/-- The glob of segments that name something, and the same behind a slash. -/
lemma globOf_eq {segments : List (List Char)} (h : NameSomething segments) :
    (assemble ofDirectory true segments = (globOf ofDirectory segments).map fun g =>
        (.literal '/' :: g.pieces, g.ending)) ∧
      ∀ g, globOf ofDirectory segments = .ok g → ∃ p ∈ g.pieces, p.IsFull := by
  obtain ⟨hfull, hne⟩ := h
  cases segments with
  | nil => obtain ⟨s, hs, -⟩ := hfull; cases hs
  | cons first rest =>
    by_cases hdeep : first = deep
    · subst hdeep
      have hrest : ∃ s ∈ rest, IsFull s := by
        obtain ⟨s, hs, hfull⟩ := hfull
        rcases List.mem_cons.mp hs with rfl | hs
        · exact absurd hfull not_isFull_deep
        · exact ⟨s, hs, hfull⟩
      have hrest' : rest ≠ [] := by
        rintro rfl
        obtain ⟨s, hs, -⟩ := hrest
        cases hs
      have hstar : rest ≠ [['*']] := fun h => hne (by rw [h])
      rw [assemble_deep hrest', globOf_deep hrest' hstar]
      constructor
      · cases assemble ofDirectory false rest <;> rfl
      · intro g hg
        obtain ⟨parts, hparts, rfl⟩ := map_eq_ok.mp hg
        obtain ⟨p, hp, hp'⟩ := exists_isFull_of_assemble hrest hparts
        exact ⟨p, List.mem_cons_of_mem _ hp, hp'⟩
    · rw [assemble_owed hdeep, globOf_cons hdeep]
      constructor
      · cases assemble ofDirectory false (first :: rest) <;> rfl
      · intro g hg
        obtain ⟨parts, hparts, rfl⟩ := map_eq_ok.mp hg
        exact exists_isFull_of_assemble hfull hparts

end IgnoreRule

end ProbeCatalog
