import Mathlib.Data.List.TakeWhile
import ProbeCatalog.Proofs.Ignore.Patterns
import ProbeCatalog.Proofs.Ignore.Verdicts

/-!
# Lines under a scope

A line of an ignore file is a negation, an anchor and a pattern. The scope of the file's directory
is put between the anchor and the pattern, so every line that takes a scope is anchored: its glob
is that of the pattern behind the path of the directory, whether the line was anchored before or
not. Lines that take no scope keep their meaning for the whole project.
-/
namespace ProbeCatalog

namespace Ignore

open IgnoreRule Glob Table

/-! ### Marks and blanks -/

/-- The negation in front of a line. -/
def negationMark (line : List Char) : List Char := (splitMark '!' line).1

/-- The slash in front of a pattern. -/
def anchorMark (line : List Char) : List Char := (splitMark '/' (splitMark '!' line).2).1

/-- What stands behind the marks of a line. -/
def pattern (line : List Char) : List Char := (splitMark '/' (splitMark '!' line).2).2

lemma splitMark_cases (mark : Char) (cs : List Char) :
    splitMark mark cs = ([], cs) ∧ cs.head? ≠ some mark ∨
      ∃ rest, splitMark mark cs = ([mark], rest) ∧ cs = mark :: rest := by
  cases cs with
  | nil => exact Or.inl ⟨rfl, by simp⟩
  | cons c cs =>
    rw [splitMark]
    by_cases h : c = mark
    · exact Or.inr ⟨cs, by rw [if_pos h], by rw [h]⟩
    · exact Or.inl ⟨by rw [if_neg h], by simpa using h⟩

lemma line_eq (line : List Char) :
    line = negationMark line ++ (anchorMark line ++ pattern line) := by
  have hjoin (mark : Char) (cs : List Char) :
      cs = (splitMark mark cs).1 ++ (splitMark mark cs).2 := by
    obtain ⟨h, -⟩ | ⟨rest, h, rfl⟩ := splitMark_cases mark cs <;> rw [h] <;> rfl
  rw [negationMark, anchorMark, pattern, ← hjoin, ← hjoin]

lemma negationMark_cases (line : List Char) :
    negationMark line = [] ∧ line.head? ≠ some '!' ∨ negationMark line = ['!'] := by
  rw [negationMark]
  obtain ⟨h, hne⟩ | ⟨rest, h, -⟩ := splitMark_cases '!' line
  · exact Or.inl ⟨by rw [h], hne⟩
  · exact Or.inr (by rw [h])

lemma anchorMark_cases (line : List Char) :
    anchorMark line = [] ∧ (pattern line).head? ≠ some '/' ∨ anchorMark line = ['/'] := by
  rw [anchorMark, pattern]
  obtain ⟨h, hne⟩ | ⟨rest, h, -⟩ := splitMark_cases '/' (splitMark '!' line).2
  · exact Or.inl ⟨by rw [h], by rw [h]; exact hne⟩
  · exact Or.inr (by rw [h])

/-! ### Blanks at the end -/

lemma trimEnd_append (before : List Char) {cs : List Char} (h : trimEnd cs ≠ []) :
    trimEnd (before ++ cs) = before ++ trimEnd cs := by
  have hdrop : (cs.reverse.dropWhile isBlank).isEmpty = false := by
    rw [trimEnd, ne_eq, List.reverse_eq_nil_iff] at h
    simpa using h
  rw [trimEnd, List.reverse_append, List.dropWhile_append, hdrop, trimEnd]
  simp

lemma exists_blanks_trimEnd (cs : List Char) :
    ∃ blanks, cs = trimEnd cs ++ blanks ∧ ∀ c ∈ blanks, isBlank c = true := by
  refine ⟨(cs.reverse.takeWhile isBlank).reverse, ?_, ?_⟩
  · rw [trimEnd, ← List.reverse_append, List.takeWhile_append_dropWhile, List.reverse_reverse]
  · intro c hc
    exact List.mem_takeWhile_imp (List.mem_reverse.mp hc)

lemma stripped_eq (line : List Char) :
    stripped line =
      if [' ', '\\'].isPrefixOf line.reverse then line else trimEnd line := by
  rw [stripped]
  split
  · rename_i rest heq
    simp [heq]
  · rename_i hno
    rw [if_neg]
    intro hprefix
    obtain ⟨rest, hrest⟩ := List.isPrefixOf_iff_prefix.mp hprefix
    exact hno rest hrest.symm

/-- Only blanks are stripped. -/
lemma exists_blanks (line : List Char) :
    ∃ blanks, line = stripped line ++ blanks ∧ ∀ c ∈ blanks, isBlank c = true := by
  rw [stripped_eq]
  split
  · exact ⟨[], (List.append_nil line).symm, nofun⟩
  · exact exists_blanks_trimEnd line

/-- What stands in front of a text that is not blank stays when the end is stripped. -/
lemma stripped_append (before : List Char) {cs : List Char} (h : stripped cs ≠ []) :
    stripped (before ++ cs) = before ++ stripped cs := by
  have hends :
      [' ', '\\'].isPrefixOf (before ++ cs).reverse = [' ', '\\'].isPrefixOf cs.reverse := by
    rw [List.reverse_append]
    match hcs : cs.reverse with
    | [] =>
      rw [List.reverse_eq_nil_iff.mp hcs] at h
      exact absurd rfl h
    | [c] =>
      have hc : c ≠ ' ' := by
        rintro rfl
        rw [List.reverse_eq_iff.mp hcs] at h
        exact absurd (by decide) h
      simp [List.isPrefixOf, Ne.symm hc]
    | c :: e :: rest => simp [List.isPrefixOf]
  rw [stripped_eq] at h
  rw [stripped_eq, stripped_eq, hends]
  split
  · rfl
  · rename_i hno
    rw [if_neg hno] at h
    exact trimEnd_append before h

lemma head?_stripped {line : List Char} (h : stripped line ≠ []) :
    (stripped line).head? = line.head? := by
  obtain ⟨blanks, hline, -⟩ := exists_blanks line
  obtain ⟨c, cs, hcs⟩ := List.exists_cons_of_ne_nil h
  rw [hcs] at hline ⊢
  rw [hline]
  rfl

/-! ### Lines and their patterns -/

/-- The line of a pattern behind a negation or none. -/
lemma ofLine_marked {line negation body : List Char} (hline : stripped line = negation ++ body)
    (hbody : body ≠ []) (hslash : body ≠ ['/'])
    (hneg : negation = [] ∧ body.head? ≠ some '!' ∧ body.head? ≠ some '#' ∨ negation = ['!']) :
    ofLine line = ofPattern line negation.isEmpty body := by
  rw [ofLine, hline]
  rcases hneg with ⟨rfl, hmark, hhash⟩ | rfl
  · rw [List.nil_append]
    split
    · exact absurd rfl hbody
    · exact absurd rfl hhash
    · exact absurd rfl hslash
    · exact absurd rfl hmark
    · rfl
  · rfl

/-- The rule of a pattern is that of the glob of its segments. -/
lemma toOption_ofPattern (line : List Char) (leavesOut : Bool) {pattern : List Char}
    (h : anchored (cut '/' pattern) ≠ []) :
    (ofPattern line leavesOut pattern).toOption =
      ruleOf leavesOut (globOf (isOfDirectory (cut '/' pattern))
        (normalized (anchored (cut '/' pattern)))) := by
  obtain ⟨first, rest, hcons⟩ := List.exists_cons_of_ne_nil (normalized_ne_nil h)
  rw [hcons]
  rw [normalized] at hcons
  simp only [ofPattern, isOfDirectory, hcons]
  cases globOf (decide ((cut '/' pattern).getLast? = some [])) (first :: rest) with
  | error fault => cases fault <;> rfl
  | ok g =>
    simp only [ruleOf]
    split <;> rfl

/-- The segments of the pattern of a line. -/
def segments (line : List Char) : List (List Char) := cut '/' (stripped (pattern line))

/-- The line takes a scope and is more than its marks and blanks. -/
structure TakesScope (line : List Char) : Prop where
  takes : isUnscoped line = false
  full : stripped (pattern line) ≠ []

lemma isOfDirectory_append (before : List (List Char)) {segments : List (List Char)}
    (h : segments ≠ []) : isOfDirectory (before ++ segments) = isOfDirectory segments := by
  rw [isOfDirectory, isOfDirectory, List.getLast?_append_of_ne_nil _ h]

/-- Several segments are anchored as they stand if the first one is not empty. -/
lemma anchored_names {names segments : List (List Char)} (hnames : ∀ cs ∈ names, cs ≠ [])
    (hne : names ≠ []) (h : segments ≠ []) (h' : segments ≠ [[]]) :
    anchored (names ++ segments) = names ++ segments := by
  cases names with
  | nil => exact absurd rfl hne
  | cons first names =>
    have hfirst := hnames first List.mem_cons_self
    have hrest : names ++ segments ≠ [] := by simp [h]
    have hrest' : names ++ segments ≠ [[]] := by
      intro heq
      cases names with
      | nil => exact h' heq
      | cons second names => simp [h] at heq
    rw [List.cons_append]
    unfold anchored
    split
    · rename_i heq
      exact absurd (List.cons.inj heq).1 hfirst
    · rename_i heq
      exact absurd (List.cons.inj heq).2 hrest
    · rename_i heq
      exact absurd (List.cons.inj heq).2 hrest'
    · rfl

/-- A single segment is for any depth, others are anchored as they stand. -/
lemma anchored_cases {first : List Char} (h : first ≠ []) (rest : List (List Char)) :
    anchored (first :: rest) = first :: rest ∨
      first ≠ deep ∧ (rest = [] ∨ rest = [[]]) ∧
        anchored (first :: rest) = deep :: first :: rest := by
  by_cases hrest : rest = [] ∨ rest = [[]]
  · have hanchored : anchored (first :: rest) =
        if first = deep then first :: rest else deep :: first :: rest := by
      rcases hrest with rfl | rfl <;> rw [anchored] <;> exact h
    by_cases hdeep : first = deep
    · exact Or.inl (by rw [hanchored, if_pos hdeep])
    · exact Or.inr ⟨hdeep, hrest, by rw [hanchored, if_neg hdeep]⟩
  · obtain ⟨hnil, hempty⟩ := not_or.mp hrest
    exact Or.inl (anchored_names (by simpa using h) (List.cons_ne_nil first []) hnil hempty)

/-- A comment takes no scope. -/
lemma head?_ne_hash {line : List Char} (h : isUnscoped line = false) :
    line.head? ≠ some '#' := by
  intro hhead
  obtain ⟨rest, rfl⟩ := List.head?_eq_some_iff.mp hhead
  have htrim : ∃ rest', trim ('#' :: rest) = '#' :: rest' := by
    have hblank : isBlank '#' = false := by decide
    obtain ⟨blanks, hline, hblanks⟩ := exists_blanks_trimEnd ('#' :: rest)
    rw [trim, List.dropWhile_cons_of_neg (by simp [hblank])]
    cases hcs : trimEnd ('#' :: rest) with
    | nil =>
      rw [hcs, List.nil_append] at hline
      have hhash := hblanks '#' (by rw [← hline]; exact List.mem_cons_self)
      rw [hblank] at hhash
      cases hhash
    | cons c cs =>
      rw [hcs, List.cons_append] at hline
      exact ⟨cs, by rw [(List.cons.inj hline).1]⟩
  obtain ⟨rest', hrest⟩ := htrim
  rw [isUnscoped, hrest] at h
  cases h

lemma inScope_of_isUnscoped (scope : List Char) {line : List Char} (h : isUnscoped line = true) :
    inScope scope line = line := by
  rw [inScope, h, Bool.or_true, if_pos rfl]

lemma inScope_eq {scope line : List Char} (hscope : scope ≠ []) (h : TakesScope line) :
    inScope scope line =
      negationMark line ++ anchorMark line ++ scope ++ '/' :: pattern line := by
  have hpattern : pattern line ≠ [] := by
    intro hnil
    have hfull := h.full
    rw [hnil] at hfull
    exact hfull rfl
  have hno : (scope.isEmpty || isUnscoped line) = false := by
    simp [hscope, h.takes]
  have hrest : (if (pattern line).isEmpty then [] else '/' :: pattern line) =
      '/' :: pattern line := if_neg (by simpa using hpattern)
  rw [inScope, hno, ← hrest]
  rfl

namespace TakesScope

variable {line : List Char}

lemma stripped_marked (h : TakesScope line) (before : List Char) :
    stripped (before ++ pattern line) = before ++ stripped (pattern line) :=
  stripped_append before h.full

lemma stripped_slash (h : TakesScope line) (before : List Char) :
    stripped (before ++ '/' :: pattern line) = before ++ '/' :: stripped (pattern line) := by
  have hline := h.stripped_marked (before ++ ['/'])
  simpa using hline

/-- The rule of a line as it stands. -/
lemma ofLine_eq (h : TakesScope line) :
    ofLine line = ofPattern line (negationMark line).isEmpty
      (anchorMark line ++ stripped (pattern line)) := by
  have hline := h.stripped_marked (negationMark line ++ anchorMark line)
  rw [List.append_assoc, ← line_eq, List.append_assoc] at hline
  apply ofLine_marked hline
  · simp [h.full]
  · rcases anchorMark_cases line with ⟨hanchor, hhead⟩ | hanchor
    · intro hslash
      rw [hanchor, List.nil_append] at hslash
      rw [← head?_stripped h.full, hslash] at hhead
      exact hhead rfl
    · rw [hanchor]
      simp [h.full]
  · rcases negationMark_cases line with ⟨hneg, hhead⟩ | hneg
    · refine Or.inl ⟨hneg, ?_⟩
      have hne : stripped line ≠ [] := by
        rw [hline]
        simp [h.full]
      rw [hneg, List.nil_append] at hline
      rw [← hline, head?_stripped hne]
      exact ⟨hhead, head?_ne_hash h.takes⟩
    · exact Or.inr hneg

lemma segments_ne (h : TakesScope line) : segments line ≠ [[]] :=
  fun hnil => h.full (eq_nil_of_cut hnil)

/-- Without a slash in front, the first segment is not empty. -/
lemma exists_segments (h : TakesScope line) (hanchor : anchorMark line = []) :
    ∃ first rest, segments line = first :: rest ∧ first ≠ [] := by
  obtain ⟨first, rest, hcons⟩ :=
    List.exists_cons_of_ne_nil (cut_ne_nil '/' (stripped (pattern line)))
  refine ⟨first, rest, hcons, ?_⟩
  rintro rfl
  obtain ⟨-, ⟨-, hnil⟩ | ⟨cs, hslash, -⟩⟩ := eq_of_cut hcons
  · exact h.full hnil
  · rcases anchorMark_cases line with ⟨-, hhead⟩ | hanchor'
    · rw [← head?_stripped h.full, hslash] at hhead
      exact hhead rfl
    · rw [hanchor] at hanchor'
      cases hanchor'

/-- Behind the path of a directory, a pattern is anchored with and without a slash in front. -/
lemma anchored_below (h : TakesScope line) {d : Path} (hd : d ≠ [])
    (hnames : ∀ name ∈ d, IsLiteralName name) :
    anchored (cut '/' (anchorMark line ++ Path.below d (stripped (pattern line)))) =
        d.map String.toList ++ segments line ∧
      isOfDirectory (cut '/' (anchorMark line ++ Path.below d (stripped (pattern line)))) =
        isOfDirectory (segments line) := by
  have hsegments : segments line ≠ [] := cut_ne_nil _ _
  have hcut : cut '/' (Path.below d (stripped (pattern line))) =
      d.map String.toList ++ segments line :=
    Path.cut_below (fun name hname => (hnames name hname).slash_notMem) _
  have hne : d.map String.toList ++ segments line ≠ [] := by simp [hsegments]
  rcases anchorMark_cases line with ⟨hanchor, -⟩ | hanchor
  · rw [hanchor, List.nil_append, hcut]
    constructor
    · apply anchored_names _ (by simpa using hd) hsegments h.segments_ne
      intro cs hcs
      obtain ⟨name, hname, rfl⟩ := List.mem_map.mp hcs
      exact fun hnil => (hnames name hname).1 (String.toList_eq_nil_iff.mp hnil)
    · exact isOfDirectory_append _ hsegments
  · have hslash : cut '/' (anchorMark line ++ Path.below d (stripped (pattern line))) =
        [] :: (d.map String.toList ++ segments line) := by
      rw [hanchor, List.singleton_append, cut, if_pos rfl, hcut]
    rw [hslash]
    exact ⟨rfl, (isOfDirectory_append [[]] hne).trans (isOfDirectory_append _ hsegments)⟩

lemma stripped_inScope (h : TakesScope line) {d : Path} (hd : d ≠ [])
    (hnames : ∀ name ∈ d, name ≠ "") :
    stripped (inScope (Path.text d).toList line) =
      negationMark line ++ (anchorMark line ++ Path.below d (stripped (pattern line))) := by
  have hmarks := h.stripped_slash (negationMark line ++ anchorMark line ++ (Path.text d).toList)
  rw [inScope_eq (Path.text_ne_nil hd hnames) h, hmarks, List.append_assoc _ (Path.text d).toList,
    Path.text_below hd, List.append_assoc]

/-- The rule of a line in the scope of a directory is that of the pattern behind the path of the
directory, if the path does not begin with a mark. -/
lemma toOption_inScope (h : TakesScope line) {d : Path} (hd : d ≠ [])
    (hnames : ∀ name ∈ d, IsLiteralName name)
    (hhead : negationMark line ++ anchorMark line = [] →
      (Path.text d).toList.head? ≠ some '!' ∧ (Path.text d).toList.head? ≠ some '#') :
    (ofLine (inScope (Path.text d).toList line)).toOption =
      ruleOf (negationMark line).isEmpty
        ((assemble (isOfDirectory (segments line)) true (normalized (segments line))).map
          fun parts => globOfParts (literals (Path.text d).toList ++ parts.1, parts.2)) := by
  have hsegments : segments line ≠ [] := cut_ne_nil _ _
  have hline := h.stripped_inScope hd fun n hn => (hnames n hn).1
  obtain ⟨hanchored, hof⟩ := h.anchored_below hd hnames
  have hdeep : deep ∉ d.map String.toList := by
    intro hmem
    obtain ⟨name, hname, hname'⟩ := List.mem_map.mp hmem
    exact (hnames name hname).ne_deep hname'
  have hbody : Path.below d (stripped (pattern line)) =
      (Path.text d).toList ++ '/' :: stripped (pattern line) := (Path.text_below hd _).symm
  rw [ofLine_marked hline, toOption_ofPattern, hanchored, hof,
    normalized_append hdeep hsegments, globOf_names hd hnames (normalized_ne_nil hsegments)]
  · rw [hanchored]
    simp [hsegments]
  · simp [hbody]
  · intro hslash
    have hsize := congrArg List.length hslash
    have hfull := List.length_pos_iff.mpr h.full
    simp only [hbody, List.length_append, List.length_cons, List.length_nil] at hsize
    omega
  · rcases negationMark_cases line with ⟨hneg, -⟩ | hneg
    · refine Or.inl ⟨hneg, ?_⟩
      rcases anchorMark_cases line with ⟨hanchor, -⟩ | hanchor
      · have htext := Path.text_ne_nil hd fun n hn => (hnames n hn).1
        rw [hanchor, List.nil_append, hbody, List.head?_append_of_ne_nil _ htext]
        exact hhead (by rw [hneg, hanchor]; rfl)
      · rw [hanchor]
        simp
    · exact Or.inr hneg

end TakesScope

/-! ### Lines that take no scope -/

/-- A character that a line without a scope may begin with. -/
def IsMark (c : Char) : Prop := c = '!' ∨ c = '#' ∨ isBlank c = true

instance : DecidablePred IsMark := fun c =>
  inferInstanceAs (Decidable (c = '!' ∨ c = '#' ∨ isBlank c = true))

lemma isLiteral_of_isBlank {c : Char} (h : isBlank c = true) : IsLiteral c := by
  intro hc
  simp only [List.mem_cons, List.not_mem_nil, or_false] at hc
  rcases hc with rfl | rfl | rfl | rfl | rfl <;> exact absurd h (by decide)

/-- A line without a scope is blank or a comment, or its pattern begins with a mark. -/
lemma unscoped_cases {line : List Char} (h : isUnscoped line = true) :
    stripped line = [] ∨ (stripped line).head? = some '#' ∨
      ∃ c, IsMark c ∧ BeginsWith c (stripped line) ∧
        (stripped line).head? ≠ some '!' ∧ (stripped line).head? ≠ some '#' := by
  obtain ⟨blanks, hline, hblanks⟩ := exists_blanks line
  obtain ⟨blanks', hline', hblanks'⟩ := exists_blanks_trimEnd line
  cases hstripped : stripped line with
  | nil => exact Or.inl rfl
  | cons first tail =>
    right
    rw [hstripped, List.cons_append] at hline
    by_cases hblank : isBlank first = true
    · refine Or.inr ⟨first, Or.inr (Or.inr hblank), .bare (isLiteral_of_isBlank hblank) tail, ?_⟩
      constructor
      · rintro hbang
        rw [Option.some.inj hbang] at hblank
        exact absurd hblank (by decide)
      · rintro hhash
        rw [Option.some.inj hhash] at hblank
        exact absurd hblank (by decide)
    · have hmark (c : Char) (hc : isBlank c = false) (h : ['\\', c].isPrefixOf line = true) :
          ∃ rest, first :: tail = '\\' :: c :: rest := by
        obtain ⟨more, hmore⟩ := List.isPrefixOf_iff_prefix.mp h
        rw [hline] at hmore
        obtain ⟨rfl, htail⟩ := List.cons.inj hmore
        cases tail with
        | nil =>
          have hmem := hblanks c (by rw [List.nil_append] at htail; rw [← htail]; simp)
          rw [hc] at hmem
          cases hmem
        | cons c' tail =>
          obtain ⟨rfl, -⟩ := List.cons.inj htail
          exact ⟨tail, rfl⟩
      have htrim : trim line = trimEnd line := by
        rw [trim, hline, List.dropWhile_cons_of_neg hblank]
      rw [isUnscoped, htrim] at h
      split at h
      · rename_i hnil
        rw [hnil, List.nil_append, hline] at hline'
        exact absurd (hblanks' first (by rw [← hline']; exact List.mem_cons_self)) hblank
      · rename_i rest hhash
        rw [hhash, hline, List.cons_append] at hline'
        exact Or.inl (by rw [(List.cons.inj hline').1]; rfl)
      · right
        rw [Bool.or_eq_true] at h
        rcases h with h | h
        · obtain ⟨rest, hrest⟩ := hmark '!' (by decide) h
          rw [hrest]
          exact ⟨'!', Or.inl rfl, .escaped rest, by simp, by simp⟩
        · obtain ⟨rest, hrest⟩ := hmark '#' (by decide) h
          rw [hrest]
          exact ⟨'#', Or.inr (Or.inl rfl), .escaped rest, by simp, by simp⟩

end Ignore

end ProbeCatalog
