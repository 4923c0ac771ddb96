import Mathlib.Data.List.Basic
import Mathlib.Data.String.Basic
import Mathlib.Tactic.Lemma
import ProbeCatalog.Project.Tree
import ProbeCatalog.Text.Table

/-!
# Paths as text

A path is written with slashes between its names, and a directory with a slash behind each. No
name holds a slash, so the names are found again when the text is cut at its slashes.
-/
namespace ProbeCatalog

namespace Table

lemma cut_ne_nil (sep : Char) (cs : List Char) : cut sep cs ≠ [] := by
  cases cs with
  | nil => exact List.cons_ne_nil _ _
  | cons c cs =>
    rw [cut]
    split
    · exact List.cons_ne_nil _ _
    · split <;> exact List.cons_ne_nil _ _

lemma cut_of_notMem {sep : Char} {cs : List Char} (h : sep ∉ cs) : cut sep cs = [cs] := by
  induction cs with
  | nil => rfl
  | cons c cs ih =>
    simp only [List.mem_cons, not_or] at h
    rw [cut, if_neg (Ne.symm h.1), ih h.2]

lemma cut_append {sep : Char} {cs : List Char} (h : sep ∉ cs) (rest : List Char) :
    cut sep (cs ++ sep :: rest) = cs :: cut sep rest := by
  induction cs with
  | nil => rw [List.nil_append, cut, if_pos rfl]
  | cons c cs ih =>
    simp only [List.mem_cons, not_or] at h
    rw [List.cons_append, cut, if_neg (Ne.symm h.1), ih h.2]

/-- What was cut, told from the first piece: it is all there is, or a separator comes after it. -/
lemma eq_of_cut {sep : Char} {cs first : List Char} {rest : List (List Char)}
    (h : cut sep cs = first :: rest) :
    sep ∉ first ∧
      (rest = [] ∧ cs = first ∨ ∃ cs', cs = first ++ sep :: cs' ∧ rest = cut sep cs') := by
  induction cs generalizing first with
  | nil =>
    obtain ⟨rfl, rfl⟩ := List.cons.inj h
    exact ⟨List.not_mem_nil, Or.inl ⟨rfl, rfl⟩⟩
  | cons c cs ih =>
    by_cases hc : c = sep
    · rw [cut, if_pos hc] at h
      obtain ⟨rfl, rfl⟩ := List.cons.inj h
      exact ⟨List.not_mem_nil, Or.inr ⟨cs, by rw [hc]; rfl, rfl⟩⟩
    · rw [cut, if_neg hc] at h
      cases hcut : cut sep cs with
      | nil => exact absurd hcut (cut_ne_nil sep cs)
      | cons piece pieces =>
        rw [hcut] at h
        obtain ⟨rfl, rfl⟩ := List.cons.inj h
        obtain ⟨hpiece, hrest⟩ := ih hcut
        refine ⟨by simp [hpiece, Ne.symm hc], ?_⟩
        rcases hrest with ⟨rfl, rfl⟩ | ⟨cs', rfl, rfl⟩
        · exact Or.inl ⟨rfl, rfl⟩
        · exact Or.inr ⟨cs', rfl, rfl⟩

lemma eq_nil_of_cut {sep : Char} {cs : List Char} (h : cut sep cs = [[]]) : cs = [] := by
  obtain ⟨-, ⟨-, hnil⟩ | ⟨cs', -, hcut⟩⟩ := eq_of_cut h
  · exact hnil
  · exact absurd hcut.symm (cut_ne_nil sep cs')

end Table

namespace Path

open Table

lemma exists_toList {name : String} (h : name ≠ "") : ∃ c cs, name.toList = c :: cs :=
  List.exists_cons_of_ne_nil fun hnil => h (String.toList_eq_nil_iff.mp hnil)

/-- Every name is one that an entry of a directory may have. -/
def Proper (p : Path) : Prop := ∀ name ∈ p, name ≠ "" ∧ name ≠ "." ∧ '/' ∉ name.toList

instance (p : Path) : Decidable p.Proper :=
  inferInstanceAs (Decidable (∀ name ∈ p, name ≠ "" ∧ name ≠ "." ∧ '/' ∉ name.toList))

/-- A text that goes on from a directory: the names on the way to it, each with a slash, and what
follows. -/
def below (d : Path) (rest : List Char) : List Char :=
  d.foldr (fun name rest => name.toList ++ '/' :: rest) rest

@[simp] lemma below_nil (rest : List Char) : below [] rest = rest := rfl

@[simp] lemma below_cons (name : String) (d : Path) (rest : List Char) :
    below (name :: d) rest = name.toList ++ '/' :: below d rest := rfl

lemma below_append (d d' : Path) (rest : List Char) :
    below (d ++ d') rest = below d (below d' rest) := by
  induction d with
  | nil => rfl
  | cons name d ih => rw [List.cons_append, below_cons, below_cons, ih]

lemma below_eq_append (d : Path) (rest : List Char) : below d rest = below d [] ++ rest := by
  induction d with
  | nil => rfl
  | cons name d ih => rw [below_cons, below_cons, ih, List.append_assoc, List.cons_append]

lemma below_cancel {d : Path} {rest rest' : List Char} (h : below d rest = below d rest') :
    rest = rest' := by
  rw [below_eq_append d rest, below_eq_append d rest'] at h
  exact List.append_cancel_left h

lemma eq_nil_of_below {d : Path} {rest : List Char} (h : below d rest = []) : rest = [] := by
  rw [below_eq_append] at h
  exact (List.append_eq_nil_iff.mp h).2

/-- A slash does not stand at the head. -/
lemma head?_below {d : Path} (hd : ∀ name ∈ d, name ≠ "" ∧ '/' ∉ name.toList) {rest : List Char}
    (hrest : rest.head? ≠ some '/') : (below d rest).head? ≠ some '/' := by
  cases d with
  | nil => exact hrest
  | cons name d =>
    obtain ⟨hne, hslash⟩ := hd name List.mem_cons_self
    obtain ⟨c, cs, hcs⟩ := exists_toList hne
    rw [below_cons, hcs]
    rw [hcs, List.mem_cons, not_or] at hslash
    simpa using Ne.symm hslash.1

/-- The text of a path goes on from the directory that it lies in. -/
lemma toList_text_append (d : Path) {q : Path} (hq : q ≠ []) :
    (text (d ++ q)).toList = below d (text q).toList := by
  induction d with
  | nil => rfl
  | cons name d ih =>
    have hne : d ++ q ≠ [] := by simp [hq]
    have hjoin : text (name :: (d ++ q)) = name ++ "/" ++ text (d ++ q) := by
      cases h : d ++ q with
      | nil => exact absurd h hne
      | cons n p => rw [text, String.intercalate_cons_cons]; rfl
    rw [List.cons_append, hjoin, String.toList_append, String.toList_append, ih, below_cons,
      List.append_assoc]
    rfl

lemma toList_text_singleton (name : String) : (text [name]).toList = name.toList := by
  simp [text]

lemma toList_text_cons (name n : String) (p : Path) :
    (text (name :: n :: p)).toList = name.toList ++ '/' :: (text (n :: p)).toList :=
  toList_text_append [name] (List.cons_ne_nil n p)

/-- The text of a directory, a slash and what follows. -/
lemma text_below {d : Path} (hd : d ≠ []) (rest : List Char) :
    (text d).toList ++ '/' :: rest = below d rest := by
  induction d with
  | nil => exact absurd rfl hd
  | cons name d ih =>
    cases d with
    | nil => rw [toList_text_singleton]; rfl
    | cons n d =>
      rw [toList_text_cons, below_cons, List.append_assoc, List.cons_append,
        ih (List.cons_ne_nil n d)]

lemma head?_text {name : String} (hname : name ≠ "") (d : Path) :
    (text (name :: d)).toList.head? = name.toList.head? := by
  obtain ⟨c, cs, hcs⟩ := exists_toList hname
  cases d with
  | nil => rw [toList_text_singleton]
  | cons n d =>
    rw [toList_text_cons, hcs]
    rfl

lemma text_ne_nil {d : Path} (hd : d ≠ []) (hnames : ∀ name ∈ d, name ≠ "") :
    (text d).toList ≠ [] := by
  cases d with
  | nil => exact absurd rfl hd
  | cons name d =>
    have hname := hnames name List.mem_cons_self
    intro hnil
    have hhead := head?_text hname d
    rw [hnil] at hhead
    exact hname (String.toList_eq_nil_iff.mp (List.head?_eq_none_iff.mp hhead.symm))

lemma cut_below {d : Path} (hd : ∀ name ∈ d, '/' ∉ name.toList) (rest : List Char) :
    cut '/' (below d rest) = d.map String.toList ++ cut '/' rest := by
  induction d with
  | nil => rfl
  | cons name d ih =>
    obtain ⟨hname, hd⟩ := List.forall_mem_cons.mp hd
    rw [below_cons, cut_append hname, ih hd, List.map_cons, List.cons_append]

lemma cut_text {p : Path} (hne : p ≠ []) (hp : ∀ name ∈ p, '/' ∉ name.toList) :
    cut '/' (text p).toList = p.map String.toList := by
  obtain ⟨d, name, rfl⟩ := (List.eq_nil_or_concat' p).resolve_left hne
  rw [toList_text_append d (List.cons_ne_nil _ _), toList_text_singleton,
    cut_below fun n hn => hp n (List.mem_append_left _ hn),
    cut_of_notMem (hp name (by simp)), List.map_append, List.map_singleton]

/-- Proper paths of one text are one path. -/
lemma eq_of_text {p q : Path} (hpne : p ≠ []) (hqne : q ≠ []) (hp : p.Proper) (hq : q.Proper)
    (h : text p = text q) : p = q := by
  have hnames : p.map String.toList = q.map String.toList := by
    rw [← cut_text hpne fun name hname => (hp name hname).2.2, h,
      cut_text hqne fun name hname => (hq name hname).2.2]
  exact List.map_injective_iff.mpr (fun _ _ => String.toList_inj.mp) hnames

/-- The texts that tell of a path: those of the directories on the way, and its own. -/
def stations : Path → List (List Char)
  | [] => []
  | [name] => [name.toList]
  | name :: p => below [name] [] :: (stations p).map (below [name])

lemma mem_stations {p : Path} {s : List Char} :
    s ∈ stations p ↔
      (∃ a b, p = a ++ b ∧ a ≠ [] ∧ b ≠ [] ∧ s = below a []) ∨ p ≠ [] ∧ s = (text p).toList := by
  induction p generalizing s with
  | nil =>
    constructor
    · exact nofun
    · rintro (⟨a, b, hab, ha, -⟩ | ⟨hne, -⟩)
      · exact absurd (List.append_eq_nil_iff.mp hab.symm).1 ha
      · exact absurd rfl hne
  | cons name p ih =>
    cases p with
    | nil =>
      rw [stations, List.mem_singleton, toList_text_singleton]
      constructor
      · exact fun h => Or.inr ⟨List.cons_ne_nil _ _, h⟩
      · rintro (⟨a, b, hab, ha, hb, -⟩ | ⟨-, h⟩)
        · rcases List.append_eq_singleton_iff.mp hab.symm with ⟨rfl, -⟩ | ⟨-, rfl⟩
          · exact absurd rfl ha
          · exact absurd rfl hb
        · exact h
    | cons n p =>
      rw [stations, List.mem_cons, List.mem_map]
      · constructor
        · rintro (rfl | ⟨s, hs, rfl⟩)
          · exact Or.inl ⟨[name], n :: p, rfl, by simp, by simp, rfl⟩
          · rcases ih.mp hs with ⟨a, b, hab, -, hb, rfl⟩ | ⟨-, rfl⟩
            · exact Or.inl ⟨name :: a, b, by rw [hab]; rfl, by simp, hb, rfl⟩
            · exact Or.inr ⟨by simp, by rw [toList_text_cons]; rfl⟩
        · rintro (⟨a, b, hab, ha, hb, rfl⟩ | ⟨-, rfl⟩)
          · obtain ⟨a, rfl⟩ : ∃ a', a = name :: a' := by
              cases a with
              | nil => exact absurd rfl ha
              | cons m a => exact ⟨a, by rw [(List.cons.inj hab).1]⟩
            cases a with
            | nil => exact Or.inl rfl
            | cons k a =>
              have hrest : n :: p = (k :: a) ++ b := (List.cons.inj hab).2
              exact Or.inr ⟨below (k :: a) [], ih.mpr (Or.inl ⟨k :: a, b, hrest, by simp, hb, rfl⟩),
                rfl⟩
          · refine Or.inr ⟨(text (n :: p)).toList, ih.mpr (Or.inr ⟨by simp, rfl⟩), ?_⟩
            rw [toList_text_cons]
            rfl
      · exact nofun

/-- A path in a directory is told by the directories on the way to it and by what tells of the path
as it is seen from there. -/
lemma mem_stations_append {d q : Path} (hq : q ≠ []) {s : List Char} :
    s ∈ stations (d ++ q) ↔
      (∃ a b, d = a ++ b ∧ a ≠ [] ∧ s = below a []) ∨ ∃ s' ∈ stations q, s = below d s' := by
  rw [mem_stations]
  constructor
  · rintro (⟨a, b, hab, ha, hb, rfl⟩ | ⟨-, rfl⟩)
    · rcases List.append_eq_append_iff.mp hab with ⟨a', rfl, hq'⟩ | ⟨b', hd, -⟩
      · by_cases ha' : a' = []
        · rw [ha', List.append_nil] at ha ⊢
          exact Or.inl ⟨d, [], (List.append_nil d).symm, ha, rfl⟩
        · refine Or.inr ⟨below a' [], mem_stations.mpr (Or.inl ⟨a', b, hq', ha', hb, rfl⟩), ?_⟩
          rw [below_append]
      · exact Or.inl ⟨a, b', hd, ha, rfl⟩
    · exact Or.inr ⟨_, mem_stations.mpr (Or.inr ⟨hq, rfl⟩), toList_text_append d hq⟩
  · rintro (⟨a, b, rfl, ha, rfl⟩ | ⟨s', hs', rfl⟩)
    · exact Or.inl ⟨a, b ++ q, List.append_assoc a b q, ha, by simp [hq], rfl⟩
    · rcases mem_stations.mp hs' with ⟨a, b, rfl, ha, hb, rfl⟩ | ⟨-, rfl⟩
      · refine Or.inl ⟨d ++ a, b, (List.append_assoc d a b).symm, by simp [ha], hb, ?_⟩
        rw [below_append]
      · exact Or.inr ⟨by simp [hq], (toList_text_append d hq).symm⟩

lemma head?_station {p : Path} (hp : p.Proper) {s : List Char} (hs : s ∈ stations p) :
    s.head? ≠ some '/' := by
  rcases mem_stations.mp hs with ⟨a, b, rfl, -, -, rfl⟩ | ⟨hne, rfl⟩
  · apply head?_below _ (by simp)
    intro name hname
    obtain ⟨hname, -, hslash⟩ := hp name (List.mem_append_left b hname)
    exact ⟨hname, hslash⟩
  · cases p with
    | nil => exact absurd rfl hne
    | cons name p =>
      obtain ⟨hname, -, hslash⟩ := hp name List.mem_cons_self
      rw [head?_text hname]
      intro hhead
      exact hslash (List.mem_of_mem_head? hhead)

/-- What tells of a path goes on from a directory only if the path lies below the directory. -/
lemma exists_of_station {d p : Path} (hd : ∀ name ∈ d, '/' ∉ name.toList) (hp : p.Proper)
    {rest : List Char} (h : below d rest ∈ stations p) : ∃ q, q ≠ [] ∧ p = d ++ q := by
  have hslash : ∀ name ∈ p, '/' ∉ name.toList := fun name hname => (hp name hname).2.2
  have hcut := cut_below hd rest
  have hmap {q : Path} {pieces : List (List Char)}
      (heq : q.map String.toList = d.map String.toList ++ pieces) : ∃ q', q = d ++ q' ∧
        q'.map String.toList = pieces := by
    obtain ⟨d', q', rfl, hd', hq'⟩ := List.map_eq_append_iff.mp heq
    rw [List.map_injective_iff.mpr (fun _ _ => String.toList_inj.mp) hd']
    exact ⟨q', rfl, hq'⟩
  rcases mem_stations.mp h with ⟨a, b, rfl, -, hb, heq⟩ | ⟨hne, heq⟩
  · obtain ⟨pieces, last, hlast⟩ :=
      (List.eq_nil_or_concat' (cut '/' rest)).resolve_left (cut_ne_nil '/' rest)
    have hdir : a.map String.toList ++ [[]] = d.map String.toList ++ pieces ++ [last] := by
      rw [List.append_assoc, ← hlast, ← hcut, heq,
        cut_below fun name hname => hslash name (List.mem_append_left b hname)]
      rfl
    obtain ⟨a', rfl, -⟩ := hmap (List.append_inj' hdir rfl).1
    exact ⟨a' ++ b, by simp [hb], List.append_assoc d a' b⟩
  · rw [heq, cut_text hne hslash] at hcut
    obtain ⟨q, rfl, hq⟩ := hmap hcut
    refine ⟨q, ?_, rfl⟩
    rintro rfl
    exact cut_ne_nil '/' rest hq.symm

end Path

end ProbeCatalog
