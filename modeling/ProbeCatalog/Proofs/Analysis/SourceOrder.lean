import ProbeCatalog.Proofs.Analysis.Candidates
import ProbeCatalog.Proofs.Analysis.Locality
import ProbeCatalog.Proofs.Analysis.Walk
import ProbeCatalog.Proofs.Provider.Origins
import ProbeCatalog.Proofs.Syntax.Outlines

/-!
# Providers in the order of their source

No class stands inside of a class that is a provider: nothing does but methods and fillers, and in
the methods fillers again. So of the candidates, which come with the inner ones first, those that
are providers stand apart, and they come in the order in which the source has them.
-/
namespace ProbeCatalog

open Syntax

/-! ### Places -/

namespace Syntax

lemma stmtAt?_append {block : Block} {p q : Place} {s : Located Stmt}
    (h : stmtAt? block p = some s) (hq : q ≠ []) :
    stmtAt? block (p ++ q) = stmtAt? (children s.value) q := by
  obtain ⟨j, q, rfl⟩ := List.exists_cons_of_ne_nil hq
  induction p generalizing block with
  | nil => rw [stmtAt?] at h; cases h
  | cons i p ih =>
    cases p with
    | nil =>
      rw [stmtAt?] at h
      rw [List.singleton_append, stmtAt?, h, Option.bind_some]
    | cons i' p =>
      rw [stmtAt?] at h
      obtain ⟨t, ht, h⟩ := Option.bind_eq_some_iff.mp h
      rw [List.cons_append, List.cons_append, stmtAt?, ht, Option.bind_some]
      exact ih h

/-- Of two statements of which the one is not inside of the other, the one comes first that the
source has first. -/
lemma Place.lt_of_before {p q : Place} (h : p.Before q) (hout : ¬ q <+: p) : p < q := by
  induction p generalizing q with
  | nil => exact h.elim
  | cons i p ih =>
    cases q with
    | nil => exact absurd (List.nil_prefix) hout
    | cons j q =>
      rw [List.cons_lt_cons_iff]
      rcases h with h | ⟨rfl, h⟩
      · exact Or.inl h
      · exact Or.inr ⟨rfl, ih h fun hprefix => hout (List.cons_prefix_cons.mpr ⟨rfl, hprefix⟩)⟩

end Syntax

namespace Scanner

lemma classAt?_append {block : Block} {p q : Place} {c : Located ClassDecl}
    (h : classAt? block p = some c) (hq : q ≠ []) :
    classAt? block (p ++ q) = classAt? c.value.body q := by
  obtain ⟨s, hs, hc⟩ := Option.bind_eq_some_iff.mp h
  rw [classAt?, stmtAt?_append hs hq, classAt?]
  obtain ⟨pos, s⟩ := s
  cases s with
  | classDef => cases hc; rfl
  | _ => cases hc

lemma mem_everyClass_of_classAt? {block : Block} {p : Place} {c : Located ClassDecl}
    (h : classAt? block p = some c) : c ∈ everyClass block := by
  obtain ⟨placed, hplaced⟩ := exists_places block
  rw [← map_classesOf hplaced]
  exact List.mem_map.mpr ⟨(p, c), (mem_classesOf hplaced).mpr h, rfl⟩

end Scanner

/-! ### Inside of a provider -/

lemma isSimple_of_isFiller {s : Stmt} (h : isFiller s = true) : Statement.IsSimple s := by
  unfold isFiller at h
  split at h
  · trivial
  · trivial
  · trivial
  · cases h

/-- The class is a provider to the default extractor. -/
def IsAccepted (c : Located ClassDecl) : Prop := ∃ p, Provider.ofClass extract c = .ok p

lemma IsAccepted.everyClass_body {c : Located ClassDecl} (h : IsAccepted c) :
    everyClass c.value.body = [] := by
  obtain ⟨p, hp⟩ := h
  obtain ⟨hmembers, hmethods⟩ := Provider.findProbes_eq_ok (Provider.ofClass_eq_ok hp).1
  apply everyClass_eq_nil
  intro s hs
  rcases Provider.not_isForeign (hmembers s hs) with hfiller | ⟨m, hm⟩
  · have hsimple := isSimple_of_isFiller hfiller
    rw [hsimple.children]
    exact ⟨hsimple.class?_eq_none, rfl⟩
  · have hmem : m ∈ Provider.methods c.value := List.mem_filterMap.mpr ⟨s, hs, hm⟩
    obtain ⟨probe, hprobe⟩ := succeeds_mapM.mp ⟨_, hmethods⟩ m hmem
    obtain ⟨hrules, -⟩ := extract_eq_ok.mp hprobe
    rw [Provider.method?_eq_some hm]
    refine ⟨rfl, everyClass_of_simple ?_⟩
    exact fun t ht => isSimple_of_isFiller (hrules.body t ht)

/-- So no class is defined at any place in it. -/
lemma IsAccepted.classAt?_body {c : Located ClassDecl} (h : IsAccepted c) (q : Place)
    (d : Located ClassDecl) : Scanner.classAt? c.value.body q ≠ some d := by
  intro hd
  have hmem := Scanner.mem_everyClass_of_classAt? hd
  rw [h.everyClass_body] at hmem
  cases hmem

/-! ### The providers of a block -/

lemma forall₂_filterMap {α β : Type} (f : α → Option β) (as : List α) :
    List.Forall₂ (fun a b => f a = some b) (as.filter fun a => (f a).isSome) (as.filterMap f) := by
  induction as with
  | nil => exact .nil
  | cons a as ih =>
    cases ha : f a with
    | none =>
      rw [List.filter_cons_of_neg (by simp [ha]), List.filterMap_cons_none ha]
      exact ih
    | some b =>
      rw [List.filter_cons_of_pos (by simp [ha]), List.filterMap_cons_some ha]
      exact .cons ha ih

namespace Scanner

/-- The candidates of a block with their places, and those of them that are providers. -/
structure Finds (rule : MarkerRule) (block : Block)
    (placed found : List (Place × Located ClassDecl)) : Prop where
  candidates : placed.map (·.2) = candidates rule block
  innerFirst : placed.Pairwise fun x y => x.1.Before y.1
  complete : ∀ q c, (q, c) ∈ placed ↔
    classAt? block q = some c ∧ Marker.isMarked (rule.predicateFor block) c = true
  part : found.Sublist placed
  accepted : ∀ x, x ∈ found ↔ x ∈ placed ∧ IsAccepted x.2

/-- Neither of two classes is inside of the other, and the source has the first one first. -/
def Apart (x y : Place × Located ClassDecl) : Prop :=
  ¬ x.1 <+: y.1 ∧ ¬ y.1 <+: x.1 ∧ x.1 < y.1

section

variable {rule : MarkerRule} {block : Block} {placed found : List (Place × Located ClassDecl)}

lemma Finds.classAt? (h : Finds rule block placed found) {x : Place × Located ClassDecl}
    (hx : x ∈ found) : classAt? block x.1 = some x.2 ∧ IsAccepted x.2 := by
  obtain ⟨hplaced, haccepted⟩ := (h.accepted x).mp hx
  exact ⟨((h.complete x.1 x.2).mp hplaced).1, haccepted⟩

lemma not_prefix_of_accepted {p q : Place} {c d : Located ClassDecl}
    (hc : Scanner.classAt? block p = some c) (haccepted : IsAccepted c)
    (hd : Scanner.classAt? block q = some d) (hne : p ≠ q) : ¬ p <+: q := by
  rintro ⟨r, rfl⟩
  have hr : r ≠ [] := by
    rintro rfl
    exact hne (List.append_nil p).symm
  rw [classAt?_append hc hr] at hd
  exact haccepted.classAt?_body r d hd

lemma Place.ne_of_before {p q : Place} (h : p.Before q) : p ≠ q := by
  rintro rfl
  induction p with
  | nil => exact h
  | cons i p ih =>
    rcases h with h | ⟨-, h⟩
    · exact absurd h (lt_irrefl i)
    · exact ih h

/-- Of candidates in order, those that are providers stand apart, in the order of the source. -/
lemma Finds.pairwise_apart (h : Finds rule block placed found) : found.Pairwise Apart := by
  refine (h.innerFirst.sublist h.part).imp_of_mem ?_
  intro x y hx hy hbefore
  obtain ⟨hxplace, hxaccepted⟩ := h.classAt? hx
  obtain ⟨hyplace, hyaccepted⟩ := h.classAt? hy
  have hne := Place.ne_of_before hbefore
  have hout := not_prefix_of_accepted hyplace hyaccepted hxplace hne.symm
  exact ⟨not_prefix_of_accepted hxplace hxaccepted hyplace hne, hout,
    Place.lt_of_before hbefore hout⟩

/-- Of the classes of a source, those that are providers are on lines of their own, in order. -/
lemma pairwise_line {source : List Char} (h : parseModule source = some block) :
    (everyClass block).Pairwise fun c d =>
      IsAccepted c → IsAccepted d → c.pos.line < d.pos.line := by
  have hlines := List.pairwise_filter.mp (pairwise_innermost h)
  refine hlines.imp fun {c d} hcd hc hd => hcd ?_ ?_
  · rw [hc.everyClass_body]
    rfl
  · rw [hd.everyClass_body]
    rfl

lemma Finds.pairwise_line (h : Finds rule block placed found) {source : List Char}
    (hsource : parseModule source = some block) :
    found.Pairwise fun x y => x.2.pos.line < y.2.pos.line := by
  have hcandidates : (placed.map (·.2)).Sublist (everyClass block) := by
    rw [h.candidates]
    exact List.filter_sublist
  have hlines := List.pairwise_map.mp ((Scanner.pairwise_line hsource).sublist hcandidates)
  refine (hlines.sublist h.part).imp_of_mem ?_
  intro x y hx hy hxy
  exact hxy (h.classAt? hx).2 (h.classAt? hy).2

/-- What a scan gives comes from the candidates that are providers. -/
lemma exists_finds {ps : List Provider} (h : scan extract rule block = .ok ps) :
    ∃ placed found, Finds rule block placed found ∧
      List.Forall₂ (fun x p => Provider.ofClass extract x.2 = .ok p) found ps := by
  obtain ⟨places, hplaces⟩ := exists_places block
  let marked (x : Place × Located ClassDecl) : Bool :=
    Marker.isMarked (rule.predicateFor block) x.2
  let placed := (classesOf places).filter marked
  have hcandidates : placed.map (·.2) = candidates rule block := by
    rw [candidates, ← map_classesOf hplaces, List.filter_map]
    rfl
  refine ⟨placed, placed.filter fun x => (Analysis.provider? extract x.2).isSome,
    ⟨hcandidates, (pairwise_classesOf hplaces).filter _, ?_, List.filter_sublist, ?_⟩, ?_⟩
  · intro q c
    rw [List.mem_filter, mem_classesOf hplaces]
  · intro x
    rw [List.mem_filter, Option.isSome_iff_exists]
    simp only [IsAccepted, Analysis.provider?_eq_some]
  · rw [scan, Analysis.accepted_eq_sift, Analysis.sift_eq_ok, ← hcandidates,
      List.filterMap_map] at h
    rw [← h.2]
    exact (forall₂_filterMap (fun x => Analysis.provider? extract x.2) placed).imp
      fun x p => Analysis.provider?_eq_some.mp

end

end Scanner

/-! ### The providers of a project -/

namespace Analysis

/-- The providers of one source are told on lines of their own, in order. -/
lemma pairwise_discover {a : Analyzer} (ha : a.extractor = extract) {file : String}
    {source : List Char} {block : Block} (hsource : parseModule source = some block)
    {part : List Discovered}
    (h : discover a.extractor file (candidatesOf a block) = .ok part) :
    part.Pairwise fun d e => d.line < e.line := by
  rw [discover_eq_sift, sift_eq_ok] at h
  obtain ⟨-, rfl⟩ := h
  rw [List.pairwise_filterMap]
  refine ((Scanner.pairwise_line hsource).sublist List.filter_sublist).imp ?_
  intro c d hcd x hx y hy
  obtain ⟨p, hp, rfl⟩ := Option.map_eq_some_iff.mp hx
  obtain ⟨q, hq, rfl⟩ := Option.map_eq_some_iff.mp hy
  rw [ha] at hp hq
  exact hcd ⟨p, provider?_eq_some.mp hp⟩ ⟨q, provider?_eq_some.mp hq⟩

/-- The sources that an analysis visits have different names. -/
lemma pairwise_parsed {project : Entry} (h : project.Proper) (matcher : Ignore.Matcher)
    (root : Route) :
    ((sourceFiles matcher project).filterMap (parsed? root)).Pairwise fun f g => f.1 ≠ g.1 := by
  rw [List.pairwise_filterMap]
  refine ((pairwise_find_ne h isSourceName).sublist List.filter_sublist).imp_of_mem ?_
  intro f g hf hg hne b hb c hc hsame
  have hfile {f : Path × Entry} {b : String × Block} (hb : parsed? root f = some b) :
      b.1 = f.1.text := by
    rw [parsed?] at hb
    split at hb
    · cases hb
      rfl
    · cases hb
  have hmem {f : Path × Entry} (hf : f ∈ sourceFiles matcher project) : f ∈ project.contents :=
    (Entry.mem_find.mp (List.mem_filter.mp hf).1).1
  rw [hfile hb, hfile hc] at hsame
  exact hne (Path.eq_of_text (Entry.ne_nil_of_mem_contents (hmem hf))
    (Entry.ne_nil_of_mem_contents (hmem hg)) (Entry.proper_of_mem_contents h (hmem hf))
    (Entry.proper_of_mem_contents h (hmem hg)) hsame)

/-- What is told of different files one after the other is in order for each of them. -/
lemma pairwise_flatten {files : List (String × Block)} {parts : List (List Discovered)}
    (h : List.Forall₂ (fun f part =>
      (∀ d ∈ part, d.file = f.1) ∧ part.Pairwise fun d e => d.line < e.line) files parts)
    (hdistinct : files.Pairwise fun f g => f.1 ≠ g.1) :
    parts.flatten.Pairwise fun d e => d.file = e.file → d.line < e.line := by
  induction h with
  | nil => exact .nil
  | @cons f part files parts hpart hparts ih =>
    obtain ⟨hother, hdistinct⟩ := List.pairwise_cons.mp hdistinct
    rw [List.flatten_cons, List.pairwise_append]
    refine ⟨hpart.2.imp ?_, ih hdistinct, ?_⟩
    · intro d e hlt _
      exact hlt
    · intro d hd e he hsame
      obtain ⟨part', hpart', he⟩ := List.mem_flatten.mp he
      obtain ⟨g, hg, hfile, -⟩ := exists_of_forall₂ hparts part' hpart'
      rw [hpart.1 d hd, hfile e he] at hsame
      exact absurd hsame (hother g hg)

/-- A file that is told with a block holds a source of this block. -/
lemma exists_source {root : Route} {f : Path × Entry} {b : String × Block}
    (h : parsed? root f = some b) : ∃ source, parseModule source = some b.2 := by
  rw [parsed?] at h
  split at h
  · rename_i block hblock
    cases h
    rw [blockOf] at hblock
    split at hblock
    · cases hblock
    · rename_i source _
      refine ⟨source, ?_⟩
      split at hblock
      · cases hblock
      · rename_i hparsed
        rw [hparsed, Except.ok.inj hblock]
  · cases h

lemma pairwise_analyze {a : Analyzer} (ha : a.extractor = extract) {root : Route}
    {project : Entry} (h : project.Proper) {found : List Discovered} {errors : List FileError}
    (hfound : analyze a root project = .ok (found, errors)) :
    found.Pairwise fun d e => d.file = e.file → d.line < e.line := by
  obtain ⟨matcher, unread, more, -, hvisit, -⟩ := visitAll_eq_ok hfound
  obtain ⟨⟨parts, hparts, rfl⟩, -⟩ := visit_eq_ok hvisit
  have hsources : ∀ f ∈ (sourceFiles matcher project).filterMap (parsed? root),
      ∃ source, parseModule source = some f.2 := by
    intro f hf
    obtain ⟨g, -, hg⟩ := List.mem_filterMap.mp hf
    exact exists_source hg
  refine pairwise_flatten ?_ (pairwise_parsed h matcher root)
  refine ((List.forall₂_and_left _ _).mpr ⟨hsources, hparts⟩).imp ?_
  rintro f part ⟨⟨source, hsource⟩, hpart⟩
  exact ⟨(scan_of_discover hpart).1, pairwise_discover ha hsource hpart⟩

end Analysis

/-- No class is defined in a class that is a provider. So the providers among the candidates of a
tree are not inside of each other, and they are told in the order of the source, though the
candidates come with the inner ones first. Those of a file have lines in this order. -/
theorem providers_in_source_order :
    (∀ c p, Provider.ofClass extract c = .ok p →
      ∀ q d, Scanner.classAt? c.value.body q ≠ some d) ∧
    (∀ rule block ps, Scanner.scan extract rule block = .ok ps →
      ∃ placed found, Scanner.Finds rule block placed found ∧
        List.Forall₂ (fun x p => Provider.ofClass extract x.2 = .ok p) found ps ∧
        found.Pairwise Scanner.Apart ∧
        ∀ source, parseModule source = some block →
          found.Pairwise fun x y => x.2.pos.line < y.2.pos.line) ∧
    ∀ markers matcher root project found errors, project.Proper →
      Analysis.analyze ⟨extract, markers, matcher⟩ root project = .ok (found, errors) →
        found.Pairwise fun d e => d.file = e.file → d.line < e.line := by
  refine ⟨fun c p h => IsAccepted.classAt?_body ⟨p, h⟩, ?_, ?_⟩
  · intro rule block ps h
    obtain ⟨placed, found, hfinds, hproviders⟩ := Scanner.exists_finds h
    exact ⟨placed, found, hfinds, hproviders, hfinds.pairwise_apart,
      fun source hsource => hfinds.pairwise_line hsource⟩
  · intro markers matcher root project found errors hproper h
    exact Analysis.pairwise_analyze rfl hproper h

namespace Analysis

/-- A source with a marked class inside of a marked class, and one after them. -/
def nest : List Char :=
  ("@tracer\nclass Outer:\n    @tracer\n    class Inner:\n        pass\n" ++
    "@tracer\nclass Last:\n    pass\n").toList

/-- A project with this source. -/
def nestProject : Entry := .directory [("a.py", .file (Utf8.encode nest))]

lemma proper_nestProject : nestProject.Proper := by
  refine .directory (by decide) (by decide) ?_
  intro f hf
  rw [List.mem_singleton.mp hf]
  exact .file _

lemma exists_scan_nest : ∃ block ps, parseModule nest = some block ∧
    Scanner.scan extract (.names Marker.defaults) block = .ok ps ∧
    ps.map (·.name) = ["inner", "last"] ∧
    (Scanner.candidates (.names Marker.defaults) block).map (·.value.name) =
      ["Inner", "Outer", "Last"] := by
  have hnames : ((parseModule nest).bind fun block =>
      (Scanner.scan extract (.names Marker.defaults) block).toOption.map fun ps =>
        (ps.map (·.name),
          (Scanner.candidates (.names Marker.defaults) block).map (·.value.name))) =
      some (["inner", "last"], ["Inner", "Outer", "Last"]) := by
    decide +kernel
  obtain ⟨block, hblock, hscan⟩ := Option.bind_eq_some_iff.mp hnames
  obtain ⟨ps, hps, heq⟩ := toOption_map_eq_some.mp hscan
  obtain ⟨hproviders, hcandidates⟩ := Prod.mk.inj heq
  exact ⟨block, ps, hblock, hps, hproviders, hcandidates⟩

lemma exists_analyze_nest : ∃ result, analyze usual here nestProject = .ok result ∧
    result.1.map (fun d => (d.file, d.line)) = [("a.py", 4), ("a.py", 7)] := by
  apply toOption_map_eq_some.mp
  rw [analyze, visitAll_of_sorted]
  · decide +kernel
  · decide +kernel
  · decide +kernel

end Analysis

/-- The inner class is a provider, and the outer one is none because of it. -/
theorem providers_in_source_order_nest :
    (∃ block ps placed found, parseModule Analysis.nest = some block ∧
      Scanner.scan extract (.names Marker.defaults) block = .ok ps ∧
      ps.map (·.name) = ["inner", "last"] ∧
      Scanner.Finds (.names Marker.defaults) block placed found ∧
      placed.map (·.2.value.name) = ["Inner", "Outer", "Last"] ∧
      found.Pairwise Scanner.Apart ∧
      (found.Pairwise fun x y => x.2.pos.line < y.2.pos.line) ∧
      ∀ x ∈ found, ∀ q d, Scanner.classAt? x.2.value.body q ≠ some d) ∧
    ∃ found errors, Analysis.nestProject.Proper ∧
      Analysis.analyze Analysis.usual Analysis.here Analysis.nestProject = .ok (found, errors) ∧
      found.map (fun d => (d.file, d.line)) = [("a.py", 4), ("a.py", 7)] ∧
      found.Pairwise fun d e => d.file = e.file → d.line < e.line := by
  obtain ⟨hempty, hscans, hprojects⟩ := providers_in_source_order
  constructor
  · obtain ⟨block, ps, hblock, hps, hproviders, hcandidates⟩ := Analysis.exists_scan_nest
    obtain ⟨placed, found, hfinds, hfound, hapart, hlines⟩ := hscans _ block ps hps
    refine ⟨block, ps, placed, found, hblock, hps, hproviders, hfinds, ?_, hapart,
      hlines _ hblock, ?_⟩
    · rw [← hcandidates, ← hfinds.candidates, List.map_map]
      rfl
    · intro x hx
      obtain ⟨-, p, hp⟩ := (hfinds.accepted x).mp hx
      exact hempty x.2 p hp
  · obtain ⟨⟨found, errors⟩, hfound, hplaces⟩ := Analysis.exists_analyze_nest
    exact ⟨found, errors, Analysis.proper_nestProject, hfound, hplaces,
      hprojects _ _ _ _ _ _ Analysis.proper_nestProject hfound⟩

end ProbeCatalog
