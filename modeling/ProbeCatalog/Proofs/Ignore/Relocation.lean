import ProbeCatalog.Proofs.Ignore.Scopes
import ProbeCatalog.Proofs.Project.Order

/-!
# An ignore file in a directory

An ignore file in a directory leaves out below it what the same file leaves out at the root of the
project, if the file's lines are anchored there. A line whose pattern has no slash before its end
is not: at the root it is for any depth, and in a directory it is for what stands directly in it.
-/
namespace ProbeCatalog

namespace Ignore

open IgnoreRule Glob Table

/-! ### Lines without a scope -/

/-- A text with no slash before its end is one segment, with an empty one after it or none. -/
lemma cut_of_loose {body : List Char} (hslash : '/' ∉ body.dropLast) (hbody : body ≠ []) :
    cut '/' body = [body] ∨ ∃ seg, body = seg ++ ['/'] ∧ cut '/' body = [seg, []] := by
  have hlast := List.dropLast_append_getLast hbody
  by_cases hend : body.getLast hbody = '/'
  · rw [hend] at hlast
    right
    refine ⟨body.dropLast, hlast.symm, ?_⟩
    have hcut := cut_append hslash []
    rw [hlast] at hcut
    exact hcut
  · left
    apply cut_of_notMem
    rw [← hlast]
    simpa [hslash] using Ne.symm hend

/-- The glob of a loose line begins at any depth with a mark. -/
lemma loose_pieces {line : List Char} (h : isUnscoped line = true)
    (hslash : '/' ∉ (stripped line).dropLast) {r : IgnoreRule} (hr : rule? line = some r) :
    ∃ c ps, r.glob.pieces = .ancestors :: .literal c :: ps ∧ IsMark c := by
  rcases unscoped_cases h with hnil | hhash | ⟨c, hc, hbegins, hbang, hhash⟩
  · rw [rule?, ofLine, hnil] at hr
    cases hr
  · rw [rule?_eq_none (ofLine_comment hhash)] at hr
    cases hr
  · have hne : c ≠ '/' := by
      rintro rfl
      rcases hc with hc | hc | hc <;> exact absurd hc (by decide)
    obtain ⟨seg, rest, hseg, hrest, hcut⟩ : ∃ seg rest, BeginsWith c seg ∧
        (rest = [] ∨ rest = [[]]) ∧ cut '/' (stripped line) = seg :: rest := by
      rcases cut_of_loose hslash hbegins.ne_nil with hcut | ⟨seg, hseg, hcut⟩
      · exact ⟨stripped line, [], hbegins, Or.inl rfl, hcut⟩
      · rw [hseg] at hbegins
        exact ⟨seg, [[]], hbegins.of_append hne, Or.inr rfl, hcut⟩
    have hanchored : anchored (cut '/' (stripped line)) = deep :: seg :: rest := by
      rw [hcut]
      rcases hrest with rfl | rfl
      · rw [anchored, if_neg hseg.ne_deep]
        exact hseg.ne_nil
      · rw [anchored, if_neg hseg.ne_deep]
        exact hseg.ne_nil
    have hbody : stripped line ≠ ['/'] := by
      intro heq
      exact hbegins.head?_ne (Or.inr rfl) (by rw [heq]; rfl)
    have hline : ofLine line = ofPattern line true (stripped line) :=
      @ofLine_marked line [] _ rfl hbegins.ne_nil hbody (Or.inl ⟨rfl, hbang, hhash⟩)
    have hrule : ruleOf true (globOf (isOfDirectory (cut '/' (stripped line)))
        (deep :: seg :: normalized rest)) = some (some r) := by
      have hne : anchored (cut '/' (stripped line)) ≠ [] := by
        rw [hanchored]
        exact List.cons_ne_nil _ _
      have hof := toOption_ofPattern line true hne
      rw [hanchored, normalized_deep hseg.ne_nil hseg.ne_deep,
        normalized_cons hseg.ne_nil hseg.ne_deep] at hof
      rw [rule?, hline, hof] at hr
      exact Option.join_eq_some_iff.mp hr
    have hstar : seg :: normalized rest ≠ [['*']] := by
      intro heq
      exact hseg.head?_ne (Or.inl rfl) (by rw [(List.cons.inj heq).1]; rfl)
    obtain ⟨hglob, -⟩ := ruleOf_eq_some hrule
    rw [globOf_deep (List.cons_ne_nil _ _) hstar] at hglob
    obtain ⟨parts, hparts, hr'⟩ := map_eq_ok.mp hglob
    obtain ⟨own, later, hown, hlater⟩ := exists_own hseg.ne_deep hparts
    obtain ⟨ps, rfl⟩ := hseg.exists_pieces hown
    exact ⟨c, ps ++ later, by rw [← hr', globOfParts, hlater]; rfl, hc⟩

/-! ### Anchored lines -/

/-- A line with its pattern anchored to the directory of its file, unless it takes no scope. -/
def anchoredLine (line : List Char) : List Char :=
  if isUnscoped line then line else negationMark line ++ '/' :: pattern line

lemma anchoredLine_of_isUnscoped {line : List Char} (h : isUnscoped line = true) :
    anchoredLine line = line := if_pos h

/-- The pattern has a slash before its end, so that it is anchored as it stands. -/
def HasSlash (line : List Char) : Prop :=
  anchorMark line ≠ [] ∨ '/' ∈ (stripped (pattern line)).dropLast

/-- The line takes a scope, and its pattern names something. -/
structure Names (line : List Char) : Prop where
  takes : isUnscoped line = false
  names : NameSomething (normalized (segments line))

namespace Names

variable {line : List Char}

lemma takesScope (h : Names line) : TakesScope line where
  takes := h.takes
  full := by
    intro hnil
    have hnames := h.names
    rw [segments, hnil] at hnames
    obtain ⟨⟨s, hs, hfull⟩, -⟩ := hnames
    obtain rfl : s = deep := List.mem_singleton.mp hs
    exact not_isFull_deep hfull

lemma anchoredLine_eq (h : Names line) :
    anchoredLine line = negationMark line ++ '/' :: pattern line := by
  rw [anchoredLine, h.takes]
  rfl

/-- The rule of an anchored line is that of its segments as they stand. -/
lemma toOption_anchoredLine (h : Names line) :
    (ofLine (anchoredLine line)).toOption = ruleOf (negationMark line).isEmpty
      (globOf (isOfDirectory (segments line)) (normalized (segments line))) := by
  have hsegments : segments line ≠ [] := cut_ne_nil _ _
  have hline : stripped (anchoredLine line) =
      negationMark line ++ '/' :: stripped (pattern line) := by
    rw [h.anchoredLine_eq, h.takesScope.stripped_slash]
  have hcut : cut '/' ('/' :: stripped (pattern line)) = [] :: segments line := by
    rw [cut, if_pos rfl, segments]
  have hof : isOfDirectory ([] :: segments line) = isOfDirectory (segments line) :=
    isOfDirectory_append [[]] hsegments
  rw [ofLine_marked hline, toOption_ofPattern, hcut, anchored, hof]
  · rw [hcut]
    exact hsegments
  · exact List.cons_ne_nil _ _
  · simpa using h.takesScope.full
  · rcases negationMark_cases line with ⟨hneg, -⟩ | hneg
    · exact Or.inl ⟨hneg, by simp, by simp⟩
    · exact Or.inr hneg

lemma anchoredLine_of_anchorMark (h : Names line) (hanchor : anchorMark line = ['/']) :
    anchoredLine line = line := by
  have hline := line_eq line
  rw [hanchor, List.singleton_append] at hline
  rw [h.anchoredLine_eq, ← hline]

/-- The rule of a line without a slash in front. -/
lemma toOption_of_anchorMark (h : Names line) (hanchor : anchorMark line = []) :
    (ofLine line).toOption = ruleOf (negationMark line).isEmpty
      (globOf (isOfDirectory (segments line)) (normalized (anchored (segments line)))) := by
  obtain ⟨first, rest, hcons, hfirst⟩ := h.takesScope.exists_segments hanchor
  rw [h.takesScope.ofLine_eq, hanchor, List.nil_append, toOption_ofPattern, segments]
  rw [← segments, hcons]
  rcases anchored_cases hfirst rest with heq | ⟨-, -, heq⟩
  · rw [heq]
    exact List.cons_ne_nil _ _
  · rw [heq]
    exact List.cons_ne_nil _ _

lemma toOption_of_hasSlash (h : Names line) (hslash : HasSlash line) :
    (ofLine (anchoredLine line)).toOption = (ofLine line).toOption := by
  rcases anchorMark_cases line with ⟨hanchor, -⟩ | hanchor
  · obtain ⟨first, rest, hcons, hfirst⟩ := h.takesScope.exists_segments hanchor
    have hslash := hslash.resolve_left fun hne => hne hanchor
    have hself : anchored (segments line) = segments line := by
      rw [hcons]
      rcases anchored_cases hfirst rest with heq | ⟨-, hrest, -⟩
      · exact heq
      · obtain ⟨hno, ⟨-, hpattern⟩ | ⟨cs, hpattern, hcut⟩⟩ := eq_of_cut hcons
        · rw [hpattern] at hslash
          exact absurd ((List.dropLast_sublist _).subset hslash) hno
        · have hcs : cs = [] := by
            rcases hrest with rfl | rfl
            · exact absurd hcut.symm (cut_ne_nil _ _)
            · exact eq_nil_of_cut hcut.symm
          rw [hpattern, hcs, List.dropLast_concat] at hslash
          exact absurd hslash hno
    rw [h.toOption_anchoredLine, h.toOption_of_anchorMark hanchor, hself]
  · rw [h.anchoredLine_of_anchorMark hanchor]

/-- What is a pattern for any depth is one for a directory. -/
lemma succeeds_anchoredLine (h : Names line) (hline : Succeeds (ofLine line)) :
    Succeeds (ofLine (anchoredLine line)) := by
  rcases anchorMark_cases line with ⟨hanchor, -⟩ | hanchor
  · obtain ⟨first, rest, hcons, hfirst⟩ := h.takesScope.exists_segments hanchor
    have hsome := isSome_of_succeeds hline
    rw [h.toOption_of_anchorMark hanchor, hcons] at hsome
    apply succeeds_of_isSome
    rw [h.toOption_anchoredLine, hcons]
    rcases anchored_cases hfirst rest with heq | ⟨hdeep, -, heq⟩
    · rw [heq] at hsome
      exact hsome
    · rw [heq, normalized_deep hfirst hdeep, normalized_cons hfirst hdeep,
        isSome_ruleOf_deep hdeep] at hsome
      rw [normalized_cons hfirst hdeep]
      exact hsome
  · rw [h.anchoredLine_of_anchorMark hanchor]
    exact hline

end Names

/-! ### Below a directory -/

/-- A name that patterns take as it is, without any mark. Letters, digits, hyphens and underscores
make such names. -/
structure IsPlainName (name : String) : Prop where
  nonempty : name ≠ ""
  notDot : name ≠ "."
  plain : ∀ c ∈ name.toList, IsLiteral c ∧ ¬ IsMark c

namespace IsPlainName

variable {name : String}

lemma isLiteralName (h : IsPlainName name) : IsLiteralName name :=
  ⟨h.nonempty, fun c hc => (h.plain c hc).1⟩

lemma proper (h : IsPlainName name) : name ≠ "" ∧ name ≠ "." ∧ '/' ∉ name.toList :=
  ⟨h.nonempty, h.notDot, h.isLiteralName.slash_notMem⟩

lemma isName (h : IsPlainName name) : IsName name.toList := by
  refine ⟨fun hnil => h.nonempty (String.toList_eq_nil_iff.mp hnil), h.proper.2.2, ?_⟩
  intro hbreak
  exact (h.plain '\n' hbreak).2 (Or.inr (Or.inr (by decide)))

lemma head?_ne (h : IsPlainName name) {c : Char} (hc : IsMark c) : name.toList.head? ≠ some c := by
  intro hhead
  exact (h.plain c (List.mem_of_mem_head? hhead)).2 hc

end IsPlainName

/-- A glob behind the path of a directory. -/
def movedTo (d : Path) (g : Glob) : Glob :=
  ⟨literals (Path.text d).toList ++ .literal '/' :: g.pieces, g.ending⟩

section

variable {d : Path}

lemma sets_movedTo (g : Glob) : sets (movedTo d g) = sets g := by
  have hliterals (cs : List Char) (ps : List Piece) (ending : Ending) :
      sets ⟨literals cs ++ ps, ending⟩ = sets ⟨ps, ending⟩ := by
    induction cs with
    | nil => rfl
    | cons c cs ih => exact ih
  exact hliterals _ _ _

lemma match?_movedTo (hd : d ≠ []) (g : Glob) (rest : List Char) :
    (movedTo d g).match? (Path.below d rest) = g.match? rest := by
  rw [Glob.match?, movedTo, ← Path.text_below hd, reach?_literals, reach?_literal, if_pos rfl]
  rfl

/-- What stands behind the path of a directory is nowhere on the way to it. -/
lemma match?_movedTo_way {g : Glob} (hfull : ∃ p ∈ g.pieces, p.IsFull) {a b : Path}
    (hd : d ≠ []) (hab : d = a ++ b) : (movedTo d g).match? (Path.below a []) = none := by
  rw [← Option.not_isSome_iff_eq_none, Option.isSome_iff_exists]
  rintro ⟨reach, hreach⟩
  obtain ⟨rest, hrest, hslash⟩ := exists_of_reach?_literals hreach
  obtain ⟨rest', rfl, hpieces⟩ := exists_of_reach?_literal hslash
  have hnil : rest' = [] := by
    rw [Path.text_below hd, hab, Path.below_append] at hrest
    exact Path.eq_nil_of_below (Path.below_cancel hrest).symm
  rw [hnil, reach?_nil hfull] at hpieces
  cases hpieces

/-- A glob that begins at any depth with a mark finds the same below a directory and at the root. -/
lemma reach?_ancestors_below (hnames : ∀ name ∈ d, IsPlainName name) {c : Char} (hc : IsMark c)
    {rest : List Char} (hrest : rest.head? ≠ some '/') (ending : Ending) (ps : List Piece) :
    reach? ending (.ancestors :: .literal c :: ps) (Path.below d rest) =
      reach? ending (.ancestors :: .literal c :: ps) rest := by
  induction d with
  | nil => rfl
  | cons name d ih =>
    obtain ⟨hname, hnames⟩ := List.forall_mem_cons.mp hnames
    have hhead : (Path.below d rest).head? ≠ some '/' :=
      Path.head?_below (fun n hn => ⟨(hnames n hn).nonempty, (hnames n hn).proper.2.2⟩) hrest
    rw [Path.below_cons, reach?_ancestors hname.isName (hname.head?_ne hc) hhead, ih hnames]

/-- A line in a directory says below it what another line says at the root, and says nothing of the
directories on the way. -/
structure Moves (d : Path) (line moved : List Char) : Prop where
  below : ∀ rest, rest.head? ≠ some '/' →
    remarkOf? (Path.below d rest) moved = remarkOf? rest line
  onTheWay : ∀ a b, d = a ++ b → remarkOf? (Path.below a []) moved = none

lemma Names.toOption_moved {line : List Char} (h : Names line) (hd : d ≠ [])
    (hnames : ∀ name ∈ d, IsPlainName name) :
    (ofLine (inScope (Path.text d).toList line)).toOption =
      (ofLine (anchoredLine line)).toOption.map
        (Option.map fun r => { r with glob := movedTo d r.glob }) := by
  have hhead {c : Char} (hc : IsMark c) : (Path.text d).toList.head? ≠ some c := by
    cases d with
    | nil => exact absurd rfl hd
    | cons name d =>
      have hname := hnames name List.mem_cons_self
      rw [Path.head?_text hname.nonempty]
      exact hname.head?_ne hc
  have hassemble := (@globOf_eq (isOfDirectory (segments line)) _ h.names).1
  rw [h.takesScope.toOption_inScope hd (fun name hname => (hnames name hname).isLiteralName)
      fun _ => ⟨hhead (Or.inl rfl), hhead (Or.inr (Or.inl rfl))⟩,
    h.toOption_anchoredLine, hassemble, ← ruleOf_map sets_movedTo]
  cases globOf (isOfDirectory (segments line)) (normalized (segments line)) <;> rfl

/-- A line that names something moves to where it is anchored. -/
lemma Names.moves {line : List Char} (h : Names line) (hd : d ≠ [])
    (hnames : ∀ name ∈ d, IsPlainName name) :
    Moves d (anchoredLine line) (inScope (Path.text d).toList line) := by
  have hrule : rule? (inScope (Path.text d).toList line) =
      (rule? (anchoredLine line)).map fun r => { r with glob := movedTo d r.glob } := by
    rw [rule?, h.toOption_moved hd hnames, rule?]
    rcases (ofLine (anchoredLine line)).toOption with _ | _ | _ <;> rfl
  constructor
  · intro rest _
    rw [remarkOf?, hrule, remarkOf?]
    cases rule? (anchoredLine line) with
    | none => rfl
    | some r =>
      simp only [Option.map_some, Option.bind_some, remark?, match?_movedTo hd]
  · intro a b hab
    rw [remarkOf?, hrule]
    cases hr : rule? (anchoredLine line) with
    | none => rfl
    | some r =>
      have hfull : ∃ p ∈ r.glob.pieces, p.IsFull := by
        rw [rule?, h.toOption_anchoredLine, Option.join_eq_some_iff] at hr
        exact (globOf_eq h.names).2 r.glob (ruleOf_eq_some hr).1
      simp only [Option.map_some, Option.bind_some, remark?, match?_movedTo_way hfull hd hab,
        Option.map_none]

/-- A loose line says the same in a directory as at the root. -/
lemma moves_of_loose {line : List Char} (h : isUnscoped line = true)
    (hslash : '/' ∉ (stripped line).dropLast) (hnames : ∀ name ∈ d, IsPlainName name) :
    Moves d line line := by
  cases hr : rule? line with
  | none => constructor <;> intros <;> simp only [remarkOf?, hr, Option.bind_none]
  | some r =>
    obtain ⟨c, ps, hpieces, hc⟩ := loose_pieces h hslash hr
    constructor
    · intro rest hrest
      simp only [remarkOf?, hr, Option.bind_some, remark?, Glob.match?, hpieces,
        reach?_ancestors_below hnames hc hrest]
    · rintro a b rfl
      have hnames' : ∀ name ∈ a, IsPlainName name := fun name hname =>
        hnames name (List.mem_append_left b hname)
      have hempty : reach? r.glob.ending (.ancestors :: .literal c :: ps) [] = none :=
        reach?_nil ⟨.literal c, by simp, rfl⟩
      have hhead : ([] : List Char).head? ≠ some '/' := by simp
      simp only [remarkOf?, hr, Option.bind_some, remark?, Glob.match?, hpieces,
        reach?_ancestors_below hnames' hc hhead, hempty, Option.map_none]

/-- What moved lines leave out below the directory is what the lines leave out at the root. -/
lemma excludes_moves (hd : d.Proper) {all : List (List Char)} {line moved : List Char → List Char}
    (h : ∀ l ∈ all, Moves d (line l) (moved l)) {q : Path} (hne : q ≠ []) (hq : q.Proper) :
    excludes ((all.map moved).filterMap rule?) (Path.text (d ++ q)).toList =
      excludes ((all.map line).filterMap rule?) (Path.text q).toList := by
  have hremarks {f g : List Char → List Char} {s t : List Char}
      (heq : ∀ l ∈ all, remarkOf? s (f l) = remarkOf? t (g l)) :
      verdict ((all.map f).filterMap rule?) s = verdict ((all.map g).filterMap rule?) t := by
    rw [verdict_lines, verdict_lines, List.filterMap_map, List.filterMap_map]
    exact congrArg settle (List.filterMap_congr heq)
  have hbelow (s : List Char) (hs : s ∈ q.stations) :
      verdict ((all.map moved).filterMap rule?) (Path.below d s) =
        verdict ((all.map line).filterMap rule?) s :=
    hremarks fun l hl => (h l hl).below s (Path.head?_station hq hs)
  have hway (a b : Path) (hab : d = a ++ b) :
      verdict ((all.map moved).filterMap rule?) (Path.below a []) = none := by
    have hnone : (all.map moved).filterMap (remarkOf? (Path.below a [])) = [] := by
      rw [List.filterMap_map, List.filterMap_eq_nil_iff]
      exact fun l hl => (h l hl).onTheWay a b hab
    rw [verdict_lines, hnone]
    rfl
  have hproper : (d ++ q).Proper := fun name hname =>
    (List.mem_append.mp hname).elim (hd name) (hq name)
  rw [Bool.eq_iff_iff, excludes_iff (by simp [hne]) hproper, excludes_iff hne hq]
  constructor
  · rintro ⟨s, hs, hverdict⟩
    rcases (Path.mem_stations_append hne).mp hs with ⟨a, b, hab, -, rfl⟩ | ⟨s', hs', rfl⟩
    · rw [hway a b hab] at hverdict
      cases hverdict
    · exact ⟨s', hs', by rw [← hbelow s' hs', hverdict]⟩
  · rintro ⟨s, hs, hverdict⟩
    exact ⟨Path.below d s, (Path.mem_stations_append hne).mpr (Or.inr ⟨s, hs, rfl⟩),
      by rw [hbelow s hs, hverdict]⟩

end

/-! ### Projects with one ignore file -/

/-- A line that means something below a directory as it does at the root: it makes no rule, or it
takes no scope and has no slash before its end, or it names something. -/
inductive IsPlaced (line : List Char) : Prop
  | idle (h : isUnscoped line = true) (hline : ofLine line = .ok none)
  | loose (h : isUnscoped line = true) (hslash : '/' ∉ (stripped line).dropLast)
  | names (h : Names line)

lemma IsPlaced.moves {line : List Char} (h : IsPlaced line) {d : Path} (hd : d ≠ [])
    (hnames : ∀ name ∈ d, IsPlainName name) :
    Moves d (anchoredLine line) (inScope (Path.text d).toList line) := by
  cases h with
  | idle h hline =>
    rw [anchoredLine_of_isUnscoped h, inScope_of_isUnscoped _ h]
    constructor <;> intros <;> simp only [remarkOf?, rule?_eq_none hline, Option.bind_none]
  | loose h hslash =>
    rw [anchoredLine_of_isUnscoped h, inScope_of_isUnscoped _ h]
    exact moves_of_loose h hslash hnames
  | names h => exact h.moves hd hnames

/-- A line that is in order is so in a directory, too. -/
lemma IsPlaced.succeeds {line : List Char} (h : IsPlaced line) (hline : Succeeds (ofLine line))
    {d : Path} (hd : d ≠ []) (hnames : ∀ name ∈ d, IsPlainName name) :
    Succeeds (ofLine (anchoredLine line)) ∧
      Succeeds (ofLine (inScope (Path.text d).toList line)) := by
  have hunscoped (h : isUnscoped line = true) : Succeeds (ofLine (anchoredLine line)) ∧
      Succeeds (ofLine (inScope (Path.text d).toList line)) := by
    rw [anchoredLine_of_isUnscoped h, inScope_of_isUnscoped _ h]
    exact ⟨hline, hline⟩
  cases h with
  | idle h _ => exact hunscoped h
  | loose h _ => exact hunscoped h
  | names h =>
    have hanchored := h.succeeds_anchoredLine hline
    refine ⟨hanchored, succeeds_of_isSome ?_⟩
    rw [h.toOption_moved hd hnames, Option.isSome_map]
    exact isSome_of_succeeds hanchored

/-- The lines of the only ignore file of a project. -/
lemma allLines_eq_ok {root : Route} {project e : Entry} {d : Path}
    (h : project.find (· = fileName) = [(d ++ [fileName], e)]) {all : List (List Char)} :
    allLines root project = .ok all ↔
      ∃ text, e.read (root.join (d ++ [fileName])).text = .ok text ∧
        all = (lines text).map (inScope (Path.text d).toList) := by
  have hall : allLines root project = linesOf root (d ++ [fileName], e) := by
    rw [allLines, h, List.mapM_cons, List.mapM_nil]
    cases linesOf root (d ++ [fileName], e) with
    | error f => rfl
    | ok all => exact congrArg Except.ok (List.append_nil all)
  rw [hall, linesOf, List.dropLast_concat, bind_eq_ok]
  apply exists_congr
  intro text
  apply and_congr_right
  intro _
  exact ⟨fun h => (Except.ok.inj h).symm, fun h => by rw [h]; rfl⟩

lemma read_eq_ok {e : Entry} {path text} (h : e.read path = .ok text) (path' : String) :
    e.read path' = .ok text := by
  cases e with
  | file octets => exact h
  | table rows => exact h
  | directory entries => cases h

/-- An ignore file that is the only one leaves out below its directory what its lines leave out at
the root when they are anchored there; and that is what the file itself leaves out at the root, if
all its patterns have a slash before their ends. A pattern without one is for any depth at the
root, and in a directory for its own entries only. -/
theorem nested_eq_anchored {d : Path} (hd : d ≠ []) (hnames : ∀ name ∈ d, IsPlainName name)
    {root root' : Route} {nested atRoot e : Entry}
    (hnested : nested.find (· = fileName) = [(d ++ [fileName], e)])
    (hatRoot : atRoot.find (· = fileName) = [([fileName], e)])
    {all : List (List Char)} {rules : List IgnoreRule} (hall : allLines root' atRoot = .ok all)
    (hrules : rulesOf root' atRoot = .ok rules) (hplaced : ∀ line ∈ all, IsPlaced line) :
    ∃ nestedRules anchoredRules, rulesOf root nested = .ok nestedRules ∧
      ofLines (all.map anchoredLine) = .ok anchoredRules ∧
      (∀ q : Path, q ≠ [] → q.Proper → excludes nestedRules (Path.text (d ++ q)).toList =
        excludes anchoredRules (Path.text q).toList) ∧
      ((∀ line ∈ all, isUnscoped line = false → HasSlash line) → ∀ q : Path, q ≠ [] → q.Proper →
        excludes nestedRules (Path.text (d ++ q)).toList =
          excludes rules (Path.text q).toList) := by
  obtain ⟨all', hall', hlines, hrules⟩ := rulesOf_eq_ok.mp hrules
  obtain rfl : all' = all := Except.ok.inj (hall'.symm.trans hall)
  obtain ⟨text, htext, hall'⟩ := (allLines_eq_ok (d := []) hatRoot).mp hall
  have hscopeless : all' = lines text := by
    rw [hall']
    exact List.map_id'' (fun line => rfl) _
  have hnestedLines : allLines root nested = .ok (all'.map (inScope (Path.text d).toList)) :=
    (allLines_eq_ok hnested).mpr ⟨text, read_eq_ok htext _, by rw [hscopeless]⟩
  have hproper : d.Proper := fun name hname => (hnames name hname).proper
  have hmoves : ∀ line ∈ all', Moves d (anchoredLine line) (inScope (Path.text d).toList line) :=
    fun line hline => (hplaced line hline).moves hd hnames
  have hsucceeds : ∀ line ∈ all', Succeeds (ofLine (anchoredLine line)) ∧
      Succeeds (ofLine (inScope (Path.text d).toList line)) :=
    fun line hline => (hplaced line hline).succeeds (hlines line hline) hd hnames
  refine ⟨_, _, rulesOf_eq_ok.mpr ⟨_, hnestedLines, ?_, rfl⟩, ofLines_eq_ok.mpr ⟨?_, rfl⟩,
    fun q hne hq => excludes_moves hproper hmoves hne hq, fun hslash q hne hq => ?_⟩
  · rw [List.forall_mem_map]
    exact fun line hline => (hsucceeds line hline).2
  · rw [List.forall_mem_map]
    exact fun line hline => (hsucceeds line hline).1
  · have hsame : (all'.map anchoredLine).filterMap rule? = rules := by
      rw [hrules, List.filterMap_map]
      apply List.filterMap_congr
      intro line hline
      by_cases hscope : isUnscoped line = true
      · rw [Function.comp_apply, anchoredLine_of_isUnscoped hscope]
      · have hno : isUnscoped line = false := by simpa using hscope
        cases hplaced line hline with
        | idle h _ => exact absurd h hscope
        | loose h _ => exact absurd h hscope
        | names h =>
          rw [Function.comp_apply, rule?, h.toOption_of_hasSlash (hslash line hline hno), rule?]
    rw [excludes_moves hproper hmoves hne hq, hsame]

/-- An ignore file with a pattern for any depth, in a directory. -/
def nestedSample : Entry :=
  .directory [("d", .directory [(".gitignore", .file (Utf8.encode "a.py\n".toList))])]

/-- The same ignore file at the root. -/
def rootSample : Entry := .directory [(".gitignore", .file (Utf8.encode "a.py\n".toList))]

theorem nested_eq_anchored_sample : ∃ nestedRules rules,
    rulesOf ⟨.here, []⟩ nestedSample = .ok nestedRules ∧
    rulesOf ⟨.here, []⟩ rootSample = .ok rules ∧
    excludes nestedRules "d/a.py".toList = true ∧
    excludes nestedRules "d/sub/a.py".toList = false ∧
    excludes rules "sub/a.py".toList = true := by
  have hnested : nestedSample.find (· = fileName) =
      [(["d"] ++ [fileName], .file (Utf8.encode "a.py\n".toList))] := by
    rw [Entry.find_of_sorted]
    · rfl
    · decide +kernel
  have hatRoot : rootSample.find (· = fileName) =
      [([fileName], .file (Utf8.encode "a.py\n".toList))] := by
    rw [Entry.find_of_sorted]
    · rfl
    · decide +kernel
  have hall : allLines ⟨.here, []⟩ rootSample = .ok ["a.py".toList] := by
    rw [allLines, hatRoot]
    decide +kernel
  have hrules : rulesOf ⟨.here, []⟩ rootSample =
      .ok [⟨true, ⟨.ancestors :: literals "a.py".toList, .edge⟩⟩] := by
    rw [rulesOf, hall]
    decide +kernel
  have hnames : ∀ name ∈ ["d"], IsPlainName name := by
    intro name hname
    obtain rfl := List.mem_singleton.mp hname
    refine ⟨by decide, by decide, ?_⟩
    intro c hc
    obtain rfl : c = 'd' := List.mem_singleton.mp hc
    exact ⟨by decide, by decide⟩
  have hplaced : ∀ line ∈ ["a.py".toList], IsPlaced line := by
    intro line hline
    obtain rfl := List.mem_singleton.mp hline
    exact .names ⟨by decide, ⟨_, List.mem_singleton_self _, Or.inr ⟨'a', by decide, by decide⟩⟩,
      by decide⟩
  obtain ⟨nestedRules, anchoredRules, hnestedRules, hanchored, hbelow, -⟩ :=
    @nested_eq_anchored _ (List.cons_ne_nil _ _) hnames ⟨.here, []⟩ _ _ _ _ hnested hatRoot _ _
      hall hrules hplaced
  have hanchored' : anchoredRules = [⟨true, ⟨literals "a.py".toList, .edge⟩⟩] := by
    rw [← Except.ok.injEq (ε := PatternFault), ← hanchored]
    decide +kernel
  refine ⟨nestedRules, _, hnestedRules, hrules, ?_, ?_, by decide +kernel⟩
  · have hown := hbelow ["a.py"] (by decide) (by decide)
    rw [hanchored'] at hown
    exact hown.trans (by decide +kernel)
  · have hinner := hbelow ["sub", "a.py"] (by decide) (by decide)
    rw [hanchored'] at hinner
    exact hinner.trans (by decide +kernel)

end Ignore

end ProbeCatalog
