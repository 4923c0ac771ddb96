import ProbeCatalog.Proofs.Probe.Heads
import ProbeCatalog.Proofs.Provider.Origins

/-!
# What the canonical text says

The record of a provider can be read off its canonical text. The text falls into lines at the line
feeds that stand in no literal: those of the decorators, the line with the name of the class, and
those of its body, of which only the heads of methods count. Whatever stands in the decorators, the
bases and the keywords does not reach beyond its line.
-/
namespace ProbeCatalog

open Syntax Printer Strings
open Lexer (isWordChar)

/-! ### Lines of the body -/

/-- The line is the head of a method. -/
def isHead (line : List Char) : Bool := (line.drop 4).head? = some 'd'

/-- The lines of some members of a class, and the probes that these declare. -/
structure LinesSay (lines : List String) (probes : List Probe) : Prop where
  oneLine : ∀ line ∈ lines, OneLine line
  heads : List.Forall₂ HeadSays ((lines.map String.toList).filter isHead) probes

variable {lines : List String} {probes : List Probe}

lemma LinesSay.nil : LinesSay [] [] := ⟨List.forall_mem_nil _, .nil⟩

lemma LinesSay.append {lines' : List String} {probes' : List Probe} (h : LinesSay lines probes)
    (h' : LinesSay lines' probes') : LinesSay (lines ++ lines') (probes ++ probes') := by
  refine ⟨List.forall_mem_append.mpr ⟨h.oneLine, h'.oneLine⟩, ?_⟩
  rw [List.map_append, List.filter_append]
  exact List.rel_append h.heads h'.heads

/-- Lines that are no heads declare nothing. -/
lemma linesSay_of_not_isHead (honeLine : ∀ line ∈ lines, OneLine line)
    (h : ∀ line ∈ lines, isHead line.toList = false) : LinesSay lines [] := by
  refine ⟨honeLine, ?_⟩
  rw [List.filter_eq_nil_iff.mpr (List.forall_mem_map.mpr fun line hline => by simp [h line hline])]
  exact .nil

lemma isHead_of_headSays {line : List Char} {p : Probe} (h : HeadSays line p) :
    isHead line = true := by
  cases h
  rfl

lemma oneLine_indented {s : String} (depth : Nat) (h : OneLine s) :
    OneLine (indented depth s) := by
  have hblanks : Plain isLineFeed (List.replicate (4 * depth) ' ') := fun c hc => by
    rw [List.eq_of_mem_replicate hc]
    exact ⟨rfl, rfl⟩
  rw [indented, OneLine, String.toList_append, String.toList_ofList]
  exact hblanks.sealed.append h

/-- What a filler may be written as. -/
structure FillerText (s : String) : Prop where
  oneLine : OneLine s
  head : s.toList.head? ≠ some 'd'

lemma drop_indented (depth : Nat) (s : String) :
    (indented (depth + 1) s).toList.drop 4 = (indented depth s).toList := by
  simp only [indented, String.toList_append, String.toList_ofList, Nat.mul_succ,
    Nat.add_comm _ 4, List.replicate_add, List.append_assoc]
  exact List.drop_left' List.length_replicate

lemma not_isHead_filler {s : String} (h : FillerText s) (depth : Nat) :
    isHead (indented (depth + 1) s).toList = false := by
  rw [isHead, drop_indented]
  refine decide_eq_false ?_
  cases depth with
  | zero => simpa [indented] using h.head
  | succ depth => simp [indented, Nat.mul_succ, List.replicate_succ]

/-- A literal with the letter in front of it. -/
lemma fillerText_marked {written : List Char} (hwhole : Whole isLineFeed written)
    (hhead : ∃ c, Lexer.isQuote c = true ∧ written.head? = some c) (marked : Bool) :
    FillerText (String.ofList (if marked then 'u' :: written else written)) := by
  refine ⟨oneLine_marked hwhole marked, ?_⟩
  rw [String.toList_ofList]
  cases marked with
  | true => exact nofun
  | false =>
    obtain ⟨c, hc, hhead⟩ := hhead
    intro heq
    obtain rfl := Option.some.inj (hhead.symm.trans heq)
    cases hc

lemma fillerText_documentation (text : Text) (marked : Bool) :
    FillerText (documentation text marked) :=
  fillerText_marked (Quotation.whole_write Quotation.isQuotes_longQuotes
      (fun _ => not_isLineFeed_of_isQuote) text)
    (Quotation.head_write Quotation.isQuotes_longQuotes text) marked

/-- A filler is written on one line. -/
lemma fillerText_of_isFiller {s : Stmt} (h : isFiller s = true) {depth : Nat}
    (hlines : stmt depth s = .ok lines) : ∃ t, lines = [indented depth t] ∧ FillerText t := by
  unfold isFiller at h
  split at h
  · obtain rfl := Except.ok.inj hlines
    exact ⟨"pass", rfl, (IsMark.ended (by decide)).whole, by decide⟩
  · rename_i text marked
    obtain rfl := Except.ok.inj hlines
    refine ⟨_, rfl, fillerText_marked (whole_quoted (fun _ => not_isLineFeed_of_isQuote) text)
      ⟨_, (guarded_quotedParts text).1, rfl⟩ marked⟩
  · obtain rfl := Except.ok.inj hlines
    exact ⟨"...", rfl, (IsMark.ended (by decide)).whole, by decide⟩
  · cases h

lemma linesSay_filler {t : String} (h : FillerText t) (depth : Nat) :
    LinesSay [indented (depth + 1) t] [] :=
  linesSay_of_not_isHead (List.forall_mem_singleton.mpr (oneLine_indented _ h.oneLine))
    (List.forall_mem_singleton.mpr (not_isHead_filler h depth))

/-! ### Members -/

/-- The documentation of a class or function is a filler on a line of its own. -/
lemma documented_cases {depth : Nat} {b : Block} (h : documented depth b = .ok lines) :
    block depth b = .ok lines ∨ ∃ s rest t lines', b = s :: rest ∧ isFiller s.value = true ∧
      FillerText t ∧ block depth rest = .ok lines' ∧ lines = indented depth t :: lines' := by
  rw [documented.eq_def] at h
  split at h
  · exact Or.inl h
  · rename_i pos text marked rest
    obtain ⟨lines', hlines', h⟩ := bind_eq_ok.mp h
    obtain rfl := Except.ok.inj h
    exact Or.inr ⟨_, rest, _, lines', rfl, rfl, fillerText_documentation text marked, hlines', rfl⟩
  · rename_i pos s rest _
    left
    rw [block]
    exact h

/-- The body of a method that only declares has no heads. -/
lemma linesSay_of_fillers {depth : Nat} {b : Block} (hb : ∀ s ∈ b, isFiller s.value = true)
    (h : block (depth + 1) b = .ok lines) : LinesSay lines [] := by
  induction b generalizing lines with
  | nil =>
    rw [block] at h
    obtain rfl := Except.ok.inj h
    exact .nil
  | cons s b ih =>
    obtain ⟨hs, hb⟩ := List.forall_mem_cons.mp hb
    rw [block] at h
    simp only [bind_eq_ok] at h
    obtain ⟨ls, hls, rs, hrs, h⟩ := h
    obtain rfl := Except.ok.inj h
    obtain ⟨t, rfl, ht⟩ := fillerText_of_isFiller hs hls
    exact (linesSay_filler ht depth).append (ih hb hrs)

lemma linesSay_of_documented {depth : Nat} {b : Block}
    (hb : ∀ s ∈ b, isFiller s.value = true) (h : documented (depth + 1) b = .ok lines) :
    LinesSay lines [] := by
  rcases documented_cases h with hblock | ⟨s, rest, t, lines', rfl, -, ht, hrest, rfl⟩
  · exact linesSay_of_fillers hb hblock
  · exact (linesSay_filler ht depth).append
      (linesSay_of_fillers (List.forall_mem_cons.mp hb).2 hrest)

lemma decorators_eq_ok {depth : Nat} {ds : List (Located Expr)}
    (h : decorators depth ds = .ok lines) : ∀ line ∈ lines, ∃ d ∈ ds, ∃ t,
      expr false .test d.value = .ok t ∧ line = indented depth ("@" ++ t) := by
  induction ds generalizing lines with
  | nil =>
    rw [decorators] at h
    obtain rfl := Except.ok.inj h
    exact List.forall_mem_nil _
  | cons d ds ih =>
    rw [decorators] at h
    simp only [bind_eq_ok] at h
    obtain ⟨t, ht, rest, hrest, h⟩ := h
    obtain rfl := Except.ok.inj h
    rw [List.forall_mem_cons]
    refine ⟨⟨d, List.mem_cons_self, t, ht, rfl⟩, fun line hline => ?_⟩
    obtain ⟨d', hd', hline⟩ := ih hrest line hline
    exact ⟨d', List.mem_cons_of_mem d hd', hline⟩

lemma linesSay_of_decorators {ds : List (Located Expr)}
    (hds : ∀ d ∈ ds, dottedName d.value = some Extraction.allowedDecorator)
    (h : decorators 1 ds = .ok lines) : LinesSay lines [] := by
  have hline : ∀ line ∈ lines, line = indented 1 "@staticmethod" := by
    intro line hline
    obtain ⟨d, hd, t, ht, rfl⟩ := decorators_eq_ok h line hline
    obtain ⟨ss, hss, hname⟩ := Option.map_eq_some_iff.mp (hds d hd)
    rw [Hint.text_of_dotted hss, hname] at ht
    obtain rfl := Except.ok.inj ht
    rfl
  have hmark : IsMark (indented 1 "@staticmethod") := by decide
  refine linesSay_of_not_isHead (fun line h => ?_) fun line h => ?_
  · rw [hline line h]
    exact hmark.ended.whole
  · rw [hline line h]
    decide

/-- The head of a method ends where the line ends. -/
lemma oneLine_functionHead {f : FunctionDecl} (hrules : Extraction.Rules f)
    (hspelled : HeadSpelled (.functionDef f)) {head : String}
    (h : functionHead f.isAsync f.name f.params f.returns = .ok head) : OneLine head := by
  rw [functionHead] at h
  simp only [bind_eq_ok] at h
  obtain ⟨ps, hps, r, hr, h⟩ := h
  obtain rfl := Except.ok.inj h
  have hreturns : ∀ e ∈ f.returns.map (·.value), Spelled e := by
    intro e he
    obtain ⟨d, hd, rfl⟩ := Option.map_eq_some_iff.mp he
    have hnone := hrules.returns d hd
    unfold Hint.isNone at hnone
    split at hnone
    · rename_i heq
      rw [heq]
      exact .constant _
    · cases hnone
  have hr := (oneLine_maybe false (Or.inr (by decide)) _ hreturns hr).2 (by decide)
  rw [hrules.notAsync, Printer.bool, if_neg Bool.false_ne_true, String.empty_append]
  have hname : OneLine ("def " ++ f.name) :=
    oneLine_append (IsMark.ended (by decide)) (ended_of_isWord hspelled.1).whole
  have hopen : IsMark "(" := by decide
  have hclose : IsMark ")" := by decide
  have hparams := oneLine_applied hname hopen (oneLine_parameters false _ hspelled.2 hps) hclose
  exact oneLine_trailing hparams hr

lemma linesSay_of_extract {c : Located ClassDecl} {m : Located FunctionDecl} {p : Probe}
    (h : extract c m = .ok p) (hspelled : HeadSpelled (.functionDef m.value))
    (hlines : stmt 1 (.functionDef m.value) = .ok lines) : LinesSay lines [p] := by
  obtain ⟨hrules, -⟩ := extract_eq_ok.mp h
  rw [stmt] at hlines
  simp only [bind_eq_ok] at hlines
  obtain ⟨ds, hds, head, hhead, body, hbody, hlines⟩ := hlines
  obtain rfl := Except.ok.inj hlines
  have hempty : LinesSay [""] [] := linesSay_of_not_isHead
    (List.forall_mem_singleton.mpr ended_empty.whole) (List.forall_mem_singleton.mpr rfl)
  have hsays := headSays_of_extract h hspelled hhead
  have honeLine := oneLine_indented 1
    (oneLine_mark (oneLine_functionHead hrules hspelled hhead) (m := ":") (by decide)).whole
  have hhead : LinesSay [indented 1 (head ++ ":")] [p] := by
    refine ⟨List.forall_mem_singleton.mpr honeLine, ?_⟩
    rw [List.map_singleton, List.filter_singleton, isHead_of_headSays hsays]
    exact .cons hsays .nil
  have hall := ((hempty.append (linesSay_of_decorators hrules.decorators hds)).append hhead).append
    (linesSay_of_documented hrules.body hbody)
  rwa [List.append_assoc] at hall

lemma linesSay_of_members {c : Located ClassDecl} {b : Block}
    (hmembers : ∀ s ∈ b, Provider.isForeign s = false)
    (hspelled : ∀ s ∈ b, HeadSpelled s.value)
    (hprobes : List.Forall₂ (fun m p => extract c m = .ok p) (b.filterMap Provider.method?) probes)
    (h : block 1 b = .ok lines) : LinesSay lines probes := by
  induction b generalizing lines probes with
  | nil =>
    rw [block] at h
    obtain rfl := Except.ok.inj h
    cases hprobes
    exact .nil
  | cons s b ih =>
    obtain ⟨hs, hb⟩ := List.forall_mem_cons.mp hmembers
    obtain ⟨hhead, hheads⟩ := List.forall_mem_cons.mp hspelled
    rw [block] at h
    simp only [bind_eq_ok] at h
    obtain ⟨ls, hls, rs, hrs, h⟩ := h
    obtain rfl := Except.ok.inj h
    rcases Provider.not_isForeign hs with hfiller | ⟨m, hm⟩
    · obtain ⟨t, rfl, ht⟩ := fillerText_of_isFiller hfiller hls
      rw [List.filterMap_cons_none (Provider.method?_of_isFiller hfiller)] at hprobes
      exact (linesSay_filler ht 0).append (ih hb hheads hprobes hrs)
    · rw [List.filterMap_cons_some hm] at hprobes
      cases hprobes with
      | @cons _ p _ ps hp hps =>
        obtain rfl := Provider.method?_eq_some hm
        exact (linesSay_of_extract hp hhead hls).append (ih hb hheads hps hrs)

/-! ### Classes -/

/-- The body of a class in order has the heads of its methods, and no others. -/
lemma linesSay_of_findProbes {c : Located ClassDecl}
    (hprobes : Provider.findProbes extract c = .ok probes)
    (hspelled : ∀ s ∈ c.value.body, HeadSpelled s.value)
    (h : documented 1 c.value.body = .ok lines) : LinesSay lines probes := by
  obtain ⟨hmembers, hmethods⟩ := Provider.findProbes_eq_ok hprobes
  have hpairs := mapM_eq_ok.mp hmethods
  rw [Provider.methods] at hpairs
  rcases documented_cases h with hblock | ⟨s, rest, t, lines', heq, hs, ht, hrest, rfl⟩
  · exact linesSay_of_members hmembers hspelled hpairs hblock
  · rw [heq, List.filterMap_cons_none (Provider.method?_of_isFiller hs)] at hpairs
    rw [heq] at hmembers hspelled
    exact (linesSay_filler ht 0).append (linesSay_of_members
      (List.forall_mem_cons.mp hmembers).2 (List.forall_mem_cons.mp hspelled).2 hpairs hrest)

/-- The line is that of a decorator of the class. -/
def isDecorator (line : List Char) : Bool := line.head? = some '@'

/-- The text is that of a class with a name and probes. -/
inductive ClassSays : List Char → String → List Probe → Prop
  | intro {text : List Char} {decorators body : List (List Char)} {name : String} {mark : Char}
      {rest : List Char} {probes : List Probe}
      (hdecorators : ∀ d ∈ decorators, isDecorator d = true) (hname : IsWord name)
      (hmark : isWordChar mark = false)
      (hbody : List.Forall₂ HeadSays (body.filter isHead) probes)
      (htext : Pieces isLineFeed
        (decorators ++ ("class ".toList ++ (name.toList ++ mark :: rest)) :: body) text) :
      ClassSays text name probes

lemma ClassSays.unique {text : List Char} {name name' : String} {probes probes' : List Probe}
    (h : ClassSays text name probes) (h' : ClassSays text name' probes') :
    name = name' ∧ probes = probes' := by
  cases h with
  | intro hdecorators hname hmark hbody htext =>
    cases h' with
    | intro hdecorators' hname' hmark' hbody' htext' =>
      have hclass (line : List Char) : ¬ isDecorator ("class ".toList ++ line) = true :=
        Bool.false_ne_true
      -- After the decorators the lines are the same.
      have hlines := congrArg (List.dropWhile isDecorator) (htext.cut.symm.trans htext'.cut)
      rw [List.dropWhile_append_of_pos hdecorators, List.dropWhile_append_of_pos hdecorators',
        List.dropWhile_cons_of_neg (hclass _), List.dropWhile_cons_of_neg (hclass _),
        List.cons_eq_cons] at hlines
      obtain ⟨hhead, rfl⟩ := hlines
      have hunique : Relator.RightUnique HeadSays := fun _ _ _ => HeadSays.unique
      exact ⟨(word_append_inj hname hname' hmark hmark' (List.append_cancel_left hhead)).1,
        hunique.forall₂ hbody hbody'⟩

/-- The line with the name of a class. -/
lemma classHead_eq_ok {c : ClassDecl} (hspelled : HeadSpelled (.classDef c)) {head : String}
    (h : classHead c.name c.bases c.keywords = .ok head) :
    OneLine head ∧ ∃ mark rest, isWordChar mark = false ∧
      (indented 0 (head ++ ":")).toList = "class ".toList ++ (c.name.toList ++ mark :: rest) := by
  obtain ⟨hname, -, hbases, hkeywords⟩ := hspelled
  rw [classHead] at h
  simp only [bind_eq_ok] at h
  obtain ⟨bs, hbs, ss, hss, h⟩ := h
  obtain rfl := Except.ok.inj h
  have hargs : ∀ s ∈ bs ++ ss, OneLine s := List.forall_mem_append.mpr
    ⟨oneLine_exprs false .test _ hbases hbs, oneLine_keywords false _ hkeywords hss⟩
  generalize bs ++ ss = args at hargs
  have hclass : OneLine ("class " ++ c.name) :=
    oneLine_append (IsMark.ended (by decide)) (ended_of_isWord hname).whole
  cases args with
  | nil =>
    refine ⟨?_, ':', [], rfl, by simp [indented]⟩
    simpa using hclass
  | cons arg args =>
    refine ⟨?_, '(', (", ".intercalate (arg :: args) ++ "):").toList, rfl, by simp [indented]⟩
    have hopen : IsMark "(" := by decide
    have hclose : IsMark ")" := by decide
    have hargs := oneLine_intercalate (m := ", ") (by decide) hargs
    simpa [String.append_assoc] using oneLine_applied hclass hopen hargs hclose

/-- The canonical text of a class begins with its decorators. -/
lemma text_eq_ok {c : ClassDecl} {text : String} (h : Declaration.text c = .ok text) :
    ∃ ds head body, decorators 0 c.decorators = .ok ds ∧
      classHead c.name c.bases c.keywords = .ok head ∧ documented 1 c.body = .ok body ∧
      text = "\n".intercalate (ds ++ indented 0 (head ++ ":") :: body) := by
  rw [Declaration.text, statementText] at h
  obtain ⟨lines, hlines⟩ := succeeds_map.mp ⟨_, h⟩
  rw [hlines] at h
  rw [stmt] at hlines
  simp only [bind_eq_ok] at hlines
  obtain ⟨ds, hds, head, hhead, body, hbody, hlines⟩ := hlines
  obtain rfl := Except.ok.inj hlines
  exact ⟨ds, head, body, hds, hhead, hbody, (Except.ok.inj h).symm⟩

/-- No decorator reaches beyond its line, whatever stands in it. -/
lemma oneLine_decorators {ds : List (Located Expr)} (hspelled : ∀ d ∈ ds, Spelled d.value)
    (h : decorators 0 ds = .ok lines) :
    ∀ line ∈ lines, OneLine line ∧ isDecorator line.toList = true := by
  intro line hline
  obtain ⟨d, hd, t, ht, rfl⟩ := decorators_eq_ok h line hline
  have ht := oneLine_expr false .test d.value (hspelled d hd) ht
  refine ⟨oneLine_indented 0 (oneLine_append (IsMark.ended (by decide)) ht), ?_⟩
  simp [isDecorator, indented]

lemma classSays_of_ofClass {c : Located ClassDecl} {p : Provider}
    (h : Provider.ofClass extract c = .ok p)
    (hspelled : HeadSpelled (.classDef c.value) ∧ ∀ s ∈ c.value.body, HeadSpelled s.value) :
    ClassSays p.canonicalText.toList c.value.name p.probes := by
  obtain ⟨hhead, hmembers⟩ := hspelled
  obtain ⟨hprobes, htext, -⟩ := Provider.ofClass_eq_ok h
  obtain ⟨ds, head, body, hds, hclass, hbody, htext⟩ := text_eq_ok htext
  obtain ⟨honeLine, mark, rest, hmark, hline⟩ := classHead_eq_ok hhead hclass
  have hdecorators := oneLine_decorators hhead.2.1 hds
  have hsays := linesSay_of_findProbes hprobes hmembers hbody
  have hall : ∀ line ∈ ds ++ indented 0 (head ++ ":") :: body, OneLine line :=
    List.forall_mem_append.mpr ⟨fun d hd => (hdecorators d hd).1, List.forall_mem_cons.mpr
      ⟨oneLine_indented 0 (oneLine_mark honeLine (by decide)).whole, hsays.oneLine⟩⟩
  have hpieces : Pieces isLineFeed
      ((ds ++ indented 0 (head ++ ":") :: body).map String.toList) p.canonicalText.toList := by
    rw [htext, String.toList_intercalate]
    exact pieces_intercalate rfl (List.map_eq_nil_iff.not.mpr (by simp))
      (List.forall_mem_map.mpr hall)
  rw [List.map_append, List.map_cons, hline] at hpieces
  exact .intro (List.forall_mem_map.mpr fun d hd => (hdecorators d hd).2) hhead.1 hmark
    hsays.heads hpieces

/-! ### Sources -/

namespace Provider

/-- The class stands in a source, at any depth. -/
def InSource (c : Located ClassDecl) : Prop :=
  ∃ source block, parseModule source = some block ∧ c ∈ everyClass block

lemma class?_eq_some {s : Located Stmt} {c : Located ClassDecl} (h : class? s = some c) :
    s = ⟨c.pos, .classDef c.value⟩ := by
  unfold class? at h
  split at h
  · cases h
    rfl
  · cases h

/-- The class and its members are spelled as in sources. -/
lemma InSource.spelled {c : Located ClassDecl} (h : InSource c) :
    HeadSpelled (.classDef c.value) ∧ ∀ s ∈ c.value.body, HeadSpelled s.value := by
  obtain ⟨source, block, hparse, hmem⟩ := h
  obtain ⟨s, hs, hc⟩ := List.mem_filterMap.mp hmem
  have hspelled := blockSpelled_parseModule hparse
  have hinner := blockSpelled_children hspelled hs
  have hhead := hspelled s hs
  rw [class?_eq_some hc] at hhead hinner
  exact ⟨hhead, fun t ht => hinner t (mem_everyStatement ht)⟩

lemma InSource.of_parse {source : List Char} {c : Located ClassDecl}
    (h : Declaration.parse source = .ok c) : InSource c := by
  rw [Declaration.parse] at h
  split at h
  · cases h
  · rename_i pos c' hparse
    cases h
    have hmem : ⟨pos, .classDef c'⟩ ∈ everyStatement [⟨pos, .classDef c'⟩] :=
      mem_everyStatement List.mem_cons_self
    exact ⟨source, _, hparse, List.mem_filterMap.mpr ⟨_, hmem, rfl⟩⟩
  · cases h

lemma same_iff {p q : Provider} : p.same q = true ↔ p.name = q.name ∧ p.hash = q.hash ∧
    p.canonicalText = q.canonicalText ∧ p.probes = q.probes := by
  simp only [same, Bool.and_eq_true, decide_eq_true_iff, and_assoc]

/-- A unique name ends with the hash. -/
lemma hash_of_uniqueName {p q : Provider} (hp : p.Fits) (hq : q.Fits)
    (h : p.uniqueName = q.uniqueName) :
    Name.hashOf p.canonicalText = Name.hashOf q.canonicalText := by
  have hlength (t : String) : (Name.hashOf t).toList.length = 16 := (Name.isHash_hashOf t).1
  have htext := congrArg String.toList h
  simp only [uniqueName, Name.unique, hp.hash, hq.hash, String.toList_append] at htext
  exact String.toList_injective
    (List.append_inj_right' htext ((hlength _).trans (hlength _).symm))

/-- The canonical text of a class that stands in a source determines its record. So one unique name
stands for two lists of probes only if two texts have one hash. -/
theorem same_of_text_eq {c₁ c₂ : Located ClassDecl} (hc₁ : InSource c₁) (hc₂ : InSource c₂)
    {p₁ p₂ : Provider} (h₁ : ofClass extract c₁ = .ok p₁) (h₂ : ofClass extract c₂ = .ok p₂) :
    (Declaration.text c₁.value = Declaration.text c₂.value → p₁.same p₂ = true) ∧
    (p₁.uniqueName = p₂.uniqueName → p₁.probes = p₂.probes ∨
      p₁.canonicalText ≠ p₂.canonicalText ∧
        Name.hashOf p₁.canonicalText = Name.hashOf p₂.canonicalText) := by
  obtain ⟨-, htext₁, hdeclaration₁, hfits₁⟩ := ofClass_eq_ok h₁
  obtain ⟨-, htext₂, hdeclaration₂, hfits₂⟩ := ofClass_eq_ok h₂
  have hsays₁ := classSays_of_ofClass h₁ hc₁.spelled
  have hsays₂ := classSays_of_ofClass h₂ hc₂.spelled
  constructor
  · intro htext
    have htext : p₁.canonicalText = p₂.canonicalText :=
      Except.ok.inj (htext₁.symm.trans (htext.trans htext₂))
    rw [htext] at hsays₁
    obtain ⟨hname, hprobes⟩ := hsays₁.unique hsays₂
    refine same_iff.mpr ⟨?_, ?_, htext, hprobes⟩
    · rw [hfits₁.name, hfits₂.name, hdeclaration₁, hdeclaration₂, hname]
    · rw [hfits₁.hash, hfits₂.hash, htext]
  · intro hunique
    by_cases htext : p₁.canonicalText = p₂.canonicalText
    · rw [htext] at hsays₁
      exact Or.inl (hsays₁.unique hsays₂).2
    · exact Or.inr ⟨htext, hash_of_uniqueName hfits₁ hfits₂ hunique⟩

/-- The canonical text of a class with a decorator, a base and a keyword. -/
def bellText : String :=
  "@hung('its', 'a\\nb')\nclass Bell(Alarm, loud=True):\n\n" ++
    "    def ring(by: Optional[str]) -> None:\n        ..."

/-- The same class in another layout, with other quotes. -/
def wideBellSource : String :=
  "@(hung)('it''s', \"\"\"a\nb\"\"\")\nclass Bell(  Alarm, loud = True ):  # rings\n" ++
    "\tdef ring(\n\t\tby: Optional[str],\n\t) -> None:\n\t\t...\n"

lemma exists_ofClass {source : List Char} {text : String} {probes : List Probe}
    (h : ((Declaration.parse source).toOption.bind fun c => (ofClass extract c).toOption.map
      fun p => (p.canonicalText, p.probes)) = some (text, probes)) :
    ∃ c p, Declaration.parse source = .ok c ∧ ofClass extract c = .ok p ∧
      p.canonicalText = text ∧ p.probes = probes := by
  cases hc : Declaration.parse source with
  | error r => rw [hc] at h; cases h
  | ok c =>
    rw [hc] at h
    obtain ⟨p, hp, hpair⟩ := Option.map_eq_some_iff.mp h
    cases hofClass : ofClass extract c with
    | error r => rw [hofClass] at hp; cases hp
    | ok q =>
      rw [hofClass] at hp
      obtain rfl := Option.some.inj hp
      exact ⟨c, q, rfl, hofClass, (Prod.mk.inj hpair).1, (Prod.mk.inj hpair).2⟩

lemma exists_bell : ∀ source ∈ [bellText, wideBellSource],
    ∃ c p, Declaration.parse source.toList = .ok c ∧ ofClass extract c = .ok p ∧
      p.canonicalText = bellText ∧ p.probes = [⟨"ring", [⟨"by", ⟨"str", "char *", true⟩⟩]⟩] := by
  have hbell : ∀ source ∈ [bellText, wideBellSource],
      ((Declaration.parse source.toList).toOption.bind fun c => (ofClass extract c).toOption.map
        fun p => (p.canonicalText, p.probes)) =
          some (bellText, [⟨"ring", [⟨"by", ⟨"str", "char *", true⟩⟩]⟩]) := by decide +kernel
  exact fun source hsource => exists_ofClass (hbell source hsource)

theorem same_of_text_eq_bell :
    ∃ c₁ c₂ p₁ p₂, Declaration.parse bellText.toList = .ok c₁ ∧
      Declaration.parse wideBellSource.toList = .ok c₂ ∧ ofClass extract c₁ = .ok p₁ ∧
      ofClass extract c₂ = .ok p₂ ∧ p₁.probes = [⟨"ring", [⟨"by", ⟨"str", "char *", true⟩⟩]⟩] ∧
      p₁.same p₂ = true := by
  obtain ⟨c₁, p₁, hc₁, h₁, htext₁, hprobes₁⟩ := exists_bell bellText List.mem_cons_self
  obtain ⟨c₂, p₂, hc₂, h₂, htext₂, -⟩ :=
    exists_bell wideBellSource (List.mem_cons_of_mem _ List.mem_cons_self)
  refine ⟨c₁, c₂, p₁, p₂, hc₁, hc₂, h₁, h₂, hprobes₁, ?_⟩
  refine (same_of_text_eq (.of_parse hc₁) (.of_parse hc₂) h₁ h₂).1 ?_
  rw [(ofClass_eq_ok h₁).2.1, (ofClass_eq_ok h₂).2.1, htext₁, htext₂]

end Provider

end ProbeCatalog
