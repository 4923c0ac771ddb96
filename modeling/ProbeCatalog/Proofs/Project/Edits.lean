import ProbeCatalog.Analysis
import ProbeCatalog.Proofs.Project.Order
import ProbeCatalog.Proofs.Project.Trees

/-!
# One file of a project

Two projects that differ in one file, which is in the one and not in the other or holds something
else there: whatever is found in both away from that file is the same and reads the same.
-/
namespace ProbeCatalog

/-- At most one file, at a path; directories on the way to it may be there without it. Their
names are neither those of source files nor of ignore files. -/
inductive OnlyFile : Path → List (String × Entry) → Prop
  | nothing (q : Path) : OnlyFile q []
  | file {name : String} {e : Entry} (h : e.isDirectory = false) : OnlyFile [name] [(name, e)]
  | inside {name : String} {q : Path} {entries : List (String × Entry)}
      (hs : Analysis.isSourceName name = false) (hi : name ≠ Ignore.fileName)
      (h : OnlyFile q entries) : OnlyFile (name :: q) [(name, .directory entries)]

/-- The contents of two directories differ at most in the file at a path. -/
inductive SameBut : Path → List (String × Entry) → List (String × Entry) → Prop
  | here {q : Path} {x y : List (String × Entry)} (before after : List (String × Entry))
      (hx : OnlyFile q x) (hy : OnlyFile q y) :
      SameBut q (before ++ (x ++ after)) (before ++ (y ++ after))
  | inside {name : String} {q : Path} {es es' : List (String × Entry)}
      (before after : List (String × Entry)) (h : SameBut q es es') :
      SameBut (name :: q) (before ++ (name, .directory es) :: after)
        (before ++ (name, .directory es') :: after)

namespace Entry

lemma contentsOf_append (es es' : List (String × Entry)) :
    contentsOf (es ++ es') = contentsOf es ++ contentsOf es' := by
  induction es with
  | nil => rfl
  | cons e es ih =>
    obtain ⟨name, e⟩ := e
    rw [List.cons_append, contentsOf, contentsOf, ih, List.append_assoc]

lemma contentsOf_directory (name : String) (es after : List (String × Entry)) :
    contentsOf ((name, .directory es) :: after) =
      [([name], .directory es)] ++ (contentsOf es).map (fun (p, e) => (name :: p, e)) ++
        contentsOf after := by
  rw [contentsOf, contents]
  rfl

/-- The entries away from a path whose names are wanted, as they read. -/
def others {ρ : Type} (read : Path → Entry → ρ) (wanted : String → Bool) (q : Path)
    (found : List (Path × Entry)) : List (Path × ρ) :=
  (found.filter fun f => f.1.getLast?.any wanted && decide (f.1 ≠ q)).map fun f =>
    (f.1, read f.1 f.2)

lemma others_append {ρ : Type} (read : Path → Entry → ρ) (wanted : String → Bool) (q : Path)
    (found found' : List (Path × Entry)) :
    others read wanted q (found ++ found') =
      others read wanted q found ++ others read wanted q found' := by
  rw [others, List.filter_append, List.map_append]
  rfl

/-- The names that count are not those of the directories that lead to a new file. -/
def Ordinary (wanted : String → Bool) : Prop :=
  ∀ name, Analysis.isSourceName name = false → name ≠ Ignore.fileName → wanted name = false

/-- Below a name, all is the same one level further down. -/
lemma others_below {ρ : Type} (read : Path → Entry → ρ) (wanted : String → Bool) (name : String)
    (q : Path) (es : List (String × Entry)) :
    others read wanted (name :: q) ((contentsOf es).map fun (p, e) => (name :: p, e)) =
      (others (fun p => read (name :: p)) wanted q (contentsOf es)).map
        fun f => (name :: f.1, f.2) := by
  have hne := contentsOf_ne_nil es
  generalize contentsOf es = found at hne
  induction found with
  | nil => rfl
  | cons f found ih =>
    obtain ⟨hf, hfound⟩ := List.forall_mem_cons.mp hne
    have hlast : (name :: f.1).getLast? = f.1.getLast? := List.getLast?_cons_of_ne_nil hf
    have ih := ih hfound
    simp only [others, List.map_cons, List.filter_cons, hlast, ne_eq, List.cons.injEq, true_and]
      at ih ⊢
    split
    · rw [List.map_cons, List.map_cons, List.map_cons, ih]
    · exact ih

/-- At most one file is no other file. -/
lemma others_onlyFile {ρ : Type} (read : Path → Entry → ρ) {wanted : String → Bool}
    (hw : Ordinary wanted) {q : Path} {es : List (String × Entry)} (h : OnlyFile q es) :
    others read wanted q (contentsOf es) = [] := by
  induction h generalizing read with
  | nothing q => rfl
  | @file name e h =>
    rw [contentsOf, contents_of_not_directory h, contentsOf]
    simp [others]
  | @inside name q entries hs hi h ih =>
    have hbelow := others_below read wanted name q entries
    rw [ih, List.map_nil] at hbelow
    have hname : others read wanted (name :: q) [([name], .directory entries)] = [] := by
      simp [others, hw name hs hi]
    rw [contentsOf_directory, others_append, others_append, hname, hbelow]
    rfl

/-- Away from the path nothing changes. -/
lemma others_sameBut {ρ : Type} (read : Path → Entry → ρ) {wanted : String → Bool}
    (hw : Ordinary wanted) (hread : ∀ p es es', read p (.directory es) = read p (.directory es'))
    {q : Path} {es es' : List (String × Entry)} (h : SameBut q es es') :
    others read wanted q (contentsOf es) = others read wanted q (contentsOf es') := by
  induction h generalizing read with
  | here before after hx hy =>
    simp only [contentsOf_append, others_append, others_onlyFile read hw hx,
      others_onlyFile read hw hy]
  | @inside name q es es' before after h ih =>
    have hhere (es : List (String × Entry)) :
        others read wanted (name :: q) [([name], .directory es)] =
          others read wanted (name :: q) [([name], .directory [])] := by
      simp only [others, List.filter_cons, List.filter_nil]
      split
      · rw [List.map_singleton, List.map_singleton, hread]
      · rfl
    have hbelow := ih (fun p => read (name :: p)) fun p => hread (name :: p)
    simp only [contentsOf_append, contentsOf_directory, others_append, others_below, hhere es,
      hhere es', hbelow]

/-- The wanted entries of a project away from a path, as they read, in the order of paths. -/
lemma find_away {ρ : Type} (read : Path → Entry → ρ) (wanted : String → Bool) (q : Path)
    (project : Entry) :
    ((project.find wanted).filter fun f => decide (f.1 ≠ q)).map (fun f => (f.1, read f.1 f.2)) =
      (others read wanted q (contents project)).mergeSort fun a b => a.1.le b.1 := by
  have htrans : ∀ a b c : Path × Entry, a.1.le b.1 = true → b.1.le c.1 = true →
    a.1.le c.1 = true := fun a b c => Path.le_trans
  have htotal : ∀ a b : Path × Entry, (a.1.le b.1 || b.1.le a.1) = true := fun a b => by
    rw [Bool.or_eq_true]
    exact Path.le_total a.1 b.1
  have hmap := List.map_mergeSort (r := fun a b : Path × Entry => a.1.le b.1)
    (s := fun a b : Path × ρ => a.1.le b.1) (f := fun f => (f.1, read f.1 f.2))
    (l := (contents project).filter fun f => f.1.getLast?.any wanted && decide (f.1 ≠ q))
    fun _ _ _ _ => rfl
  rw [find, filter_mergeSort htrans htotal, List.filter_filter, others, ← hmap]
  simp only [Bool.and_comm]

end Entry

namespace Analysis

/-- A file as it reads. -/
def glance (root : Route) (f : Path × Entry) : Path × Except Entry.ReadFault (List Char) :=
  (f.1, f.2.read (root.join f.1).text)

/-- What is found in both projects away from the one file is the same, as it reads. -/
lemma find_sameBut {q : Path} {es es' : List (String × Entry)} (h : SameBut q es es')
    (root : Route) {wanted : String → Bool} (hw : Entry.Ordinary wanted) :
    (((Entry.directory es).find wanted).filter fun f => decide (f.1 ≠ q)).map (glance root) =
      (((Entry.directory es').find wanted).filter fun f => decide (f.1 ≠ q)).map
        (glance root) := by
  have hothers := Entry.others_sameBut (fun p e => e.read (root.join p).text) hw
    (fun _ _ _ => rfl) h
  have hfind := Entry.find_away (fun p e => e.read (root.join p).text) wanted q
  have hcontents (es : List (String × Entry)) :
      Entry.contents (.directory es) = Entry.contentsOf es := by rw [Entry.contents]
  exact (hfind _).trans (by rw [hcontents, hothers, ← hcontents, ← hfind]; rfl)

lemma ordinary_source : Entry.Ordinary isSourceName := fun _ hs _ => hs

lemma ordinary_ignore : Entry.Ordinary (· = Ignore.fileName) := fun _ _ hi => by simp [hi]

/-- The lines of an ignore file, told from how it reads. -/
def scopedLines (f : Path × Except Entry.ReadFault (List Char)) :
    Except Entry.ReadFault (List (List Char)) :=
  f.2 >>= fun text => pure ((lines text).map (Ignore.inScope (Path.text f.1.dropLast).toList))

end Analysis

end ProbeCatalog
