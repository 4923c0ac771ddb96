import Mathlib.Data.List.Sort
import Mathlib.Data.String.Basic
import ProbeCatalog.Collision
import ProbeCatalog.Proofs.Provider.Naming

/-!
# Providers that collide

What is told of collisions depends on the unique names that are borne under each name, and on
nothing else: not on the order of the providers and not on how often one of them is met. A name is
told as soon as two providers bear it under different unique names.
-/
namespace ProbeCatalog

namespace Collision

/-- Some provider has the name and the unique name. -/
def Bears (ps : List Provider) (name unique : String) : Prop :=
  ∃ p ∈ ps, p.name = name ∧ p.uniqueName = unique

/-- The collision is that of the provider's name, and the provider is one of those that collide. -/
def Covers (c : Collision) (p : Provider) : Prop :=
  p.name = c.name ∧ p.uniqueName ∈ c.uniqueNames

/-! ### Strings in order, each once -/

lemma pairwise_eraseDups {names : List String} (h : names.Pairwise (· ≤ ·)) :
    names.eraseDups.Pairwise (· < ·) := by
  -- What is erased need not be next to the first name, so the induction is on the length.
  induction hlength : names.length using Nat.strong_induction_on generalizing names with
  | _ n ih =>
    cases names with
    | nil => exact List.Pairwise.nil
    | cons name names =>
      obtain ⟨hfirst, hrest⟩ := List.pairwise_cons.mp h
      have hshorter : (names.filter fun b => !b == name).length < n := by
        have hle := List.length_filter_le (fun b => !b == name) names
        rw [List.length_cons] at hlength
        omega
      rw [List.eraseDups_cons, List.pairwise_cons]
      constructor
      · intro b hb
        obtain ⟨hmem, hne⟩ := List.mem_filter.mp (List.mem_eraseDups.mp hb)
        have hdiffer : b ≠ name := by simpa using hne
        exact lt_of_le_of_ne (hfirst b hmem) hdiffer.symm
      · exact ih _ hshorter (hrest.filter _) rfl

lemma pairwise_distinct (names : List String) : (distinct names).Pairwise (· < ·) := by
  apply pairwise_eraseDups
  let le (a b : String) : Bool := decide (a ≤ b)
  have htrans (a b c : String) (hab : le a b = true) (hbc : le b c = true) : le a c = true :=
    decide_eq_true ((of_decide_eq_true hab).trans (of_decide_eq_true hbc))
  have htotal (a b : String) : (le a b || le b a) = true := by simpa [le] using le_total a b
  exact (List.pairwise_mergeSort htrans htotal names).imp fun h => of_decide_eq_true h

lemma mem_distinct {names : List String} {name : String} :
    name ∈ distinct names ↔ name ∈ names := by
  rw [distinct, List.mem_eraseDups, List.mem_mergeSort]

/-- The order leaves no choice. -/
lemma distinct_congr {names names' : List String} (h : ∀ name, name ∈ names ↔ name ∈ names') :
    distinct names = distinct names' := by
  apply (pairwise_distinct names).eq_of_mem_iff (pairwise_distinct names')
  intro name
  rw [mem_distinct, mem_distinct, h]

lemma one_lt_length_iff {names : List String} (h : names.Pairwise (· < ·)) :
    1 < names.length ↔ ∃ a ∈ names, ∃ b ∈ names, a ≠ b := by
  cases names with
  | nil => simp
  | cons a names =>
    cases names with
    | nil => simp
    | cons b names =>
      have hlt : a < b := (List.pairwise_cons.mp h).1 b List.mem_cons_self
      constructor
      · intro _
        exact ⟨a, by simp, b, by simp, ne_of_lt hlt⟩
      · intro _
        simp

/-! ### Names and unique names -/

variable {ps qs : List Provider}

lemma pairwise_uniqueNamesOf (name : String) (ps : List Provider) :
    (uniqueNamesOf name ps).Pairwise (· < ·) := pairwise_distinct _

lemma mem_uniqueNamesOf {name unique : String} :
    unique ∈ uniqueNamesOf name ps ↔ Bears ps name unique := by
  simp [uniqueNamesOf, mem_distinct, Bears, and_assoc]

/-- A name is told if there is more than one unique name under it. -/
lemma mem_find {c : Collision} :
    c ∈ find ps ↔ c.uniqueNames = uniqueNamesOf c.name ps ∧
      ∃ u v, Bears ps c.name u ∧ Bears ps c.name v ∧ u ≠ v := by
  have htwo (name : String) : 1 < (uniqueNamesOf name ps).length ↔
      ∃ u v, Bears ps name u ∧ Bears ps name v ∧ u ≠ v := by
    rw [one_lt_length_iff (pairwise_uniqueNamesOf name ps)]
    simp only [mem_uniqueNamesOf]
    constructor
    · rintro ⟨u, hu, v, hv, hne⟩
      exact ⟨u, v, hu, hv, hne⟩
    · rintro ⟨u, v, hu, hv, hne⟩
      exact ⟨u, hu, v, hv, hne⟩
  simp only [find, List.mem_filterMap, mem_distinct, of?, Option.ite_none_right_eq_some, htwo]
  constructor
  · rintro ⟨name, -, hname, hc⟩
    cases hc
    exact ⟨rfl, hname⟩
  · rintro ⟨hnames, hname⟩
    obtain ⟨u, v, ⟨p, hp, hpname, hu⟩, hv, hne⟩ := hname
    refine ⟨c.name, List.mem_map.mpr ⟨p, hp, hpname⟩, ?_, ?_⟩
    · exact ⟨u, v, ⟨p, hp, hpname, hu⟩, hv, hne⟩
    · rw [← hnames]

lemma pairwise_find (ps : List Provider) : (find ps).Pairwise fun c d => c.name < d.name := by
  rw [find, List.pairwise_filterMap]
  refine (pairwise_distinct _).imp ?_
  intro name name' hlt c hc d hd
  cases (Option.ite_none_right_eq_some.mp hc).2
  cases (Option.ite_none_right_eq_some.mp hd).2
  exact hlt

/-- Two lists under whose names the same unique names are borne have the same collisions. -/
lemma find_congr (h : ∀ name unique, Bears ps name unique ↔ Bears qs name unique) :
    find ps = find qs := by
  have hnames : distinct (ps.map (·.name)) = distinct (qs.map (·.name)) := by
    apply distinct_congr
    intro name
    have hborne (rs : List Provider) : name ∈ rs.map (·.name) ↔ ∃ unique, Bears rs name unique := by
      rw [List.mem_map]
      constructor
      · rintro ⟨r, hr, rfl⟩
        exact ⟨r.uniqueName, r, hr, rfl, rfl⟩
      · rintro ⟨-, r, hr, rfl, -⟩
        exact ⟨r, hr, rfl⟩
    rw [hborne, hborne]
    exact exists_congr fun unique => h name unique
  have hunique : of? ps = of? qs := by
    funext name
    have heq : uniqueNamesOf name ps = uniqueNamesOf name qs := by
      apply (pairwise_uniqueNamesOf name ps).eq_of_mem_iff (pairwise_uniqueNamesOf name qs)
      intro unique
      rw [mem_uniqueNamesOf, mem_uniqueNamesOf, h]
    rw [of?, of?, heq]
  rw [find, find, hnames, hunique]

lemma Bears.mono (h : ps ⊆ qs) {name unique : String} (hb : Bears ps name unique) :
    Bears qs name unique := by
  obtain ⟨p, hp, hname, hunique⟩ := hb
  exact ⟨p, h hp, hname, hunique⟩

/-- More providers take no collision away. -/
lemma exists_of_subset (h : ps ⊆ qs) {c : Collision} (hc : c ∈ find ps) :
    ∃ d ∈ find qs, d.name = c.name ∧ c.uniqueNames ⊆ d.uniqueNames := by
  obtain ⟨hnames, u, v, hu, hv, hne⟩ := mem_find.mp hc
  refine ⟨⟨c.name, uniqueNamesOf c.name qs⟩, ?_, rfl, ?_⟩
  · exact mem_find.mpr ⟨rfl, u, v, hu.mono h, hv.mono h, hne⟩
  · intro w hw
    rw [hnames, mem_uniqueNamesOf] at hw
    exact mem_uniqueNamesOf.mpr (hw.mono h)

/-! ### Hashes -/

/-- Under one name, the hashes make the difference. -/
lemma uniqueName_eq_iff {p q : Provider} (h : p.name = q.name) :
    p.uniqueName = q.uniqueName ↔ p.hash = q.hash := by
  constructor
  · intro heq
    rw [Provider.uniqueName, Provider.uniqueName, h] at heq
    exact Name.hash_eq_of_unique_eq heq
  · intro heq
    rw [Provider.uniqueName, Provider.uniqueName, h, heq]

lemma covers_iff {c : Collision} (hc : c ∈ find ps) {p : Provider} (hp : p ∈ ps) :
    c.Covers p ↔ p.name = c.name := by
  constructor
  · exact fun h => h.1
  · intro hname
    refine ⟨hname, ?_⟩
    rw [(mem_find.mp hc).1, mem_uniqueNamesOf]
    exact ⟨p, hp, hname, rfl⟩

/-- Two unique names differ under a name where two hashes do. -/
lemma exists_bears_iff {name : String} :
    (∃ u v, Bears ps name u ∧ Bears ps name v ∧ u ≠ v) ↔
      ∃ p ∈ ps, ∃ q ∈ ps, p.name = name ∧ q.name = name ∧ p.hash ≠ q.hash := by
  constructor
  · rintro ⟨-, -, ⟨p, hp, hpname, rfl⟩, ⟨q, hq, hqname, rfl⟩, hne⟩
    have hhash := (uniqueName_eq_iff (hpname.trans hqname.symm)).not.mp hne
    exact ⟨p, hp, q, hq, hpname, hqname, hhash⟩
  · rintro ⟨p, hp, q, hq, hpname, hqname, hhash⟩
    have hne := (uniqueName_eq_iff (hpname.trans hqname.symm)).not.mpr hhash
    exact ⟨_, _, ⟨p, hp, hpname, rfl⟩, ⟨q, hq, hqname, rfl⟩, hne⟩

/-- The collisions of a list of providers. There is one for a name if and only if two of the
providers have the name and different unique names; it lists the unique names under the name in
order, each once, and the collisions are in the order of their names. They depend only on which
providers there are, and more providers keep those that there were.

Two providers are in one collision if and only if they have one name and there are different hashes
under it. If all hashes have sixteen digits, no unique name of another provider is listed. -/
theorem find_tells_each_collision (ps : List Provider) :
    (∀ name, (∃ c ∈ find ps, c.name = name) ↔
      ∃ p ∈ ps, ∃ q ∈ ps, p.name = name ∧ q.name = name ∧ p.uniqueName ≠ q.uniqueName) ∧
    (∀ c ∈ find ps, c.uniqueNames.Pairwise (· < ·) ∧
      ∀ unique, unique ∈ c.uniqueNames ↔ ∃ p ∈ ps, p.name = c.name ∧ p.uniqueName = unique) ∧
    (find ps).Pairwise (fun c d => c.name < d.name) ∧
    (∀ qs, (∀ p, p ∈ qs ↔ p ∈ ps) → find qs = find ps) ∧
    (∀ qs, ps ⊆ qs → ∀ c ∈ find ps,
      ∃ d ∈ find qs, d.name = c.name ∧ c.uniqueNames ⊆ d.uniqueNames) ∧
    (∀ p ∈ ps, ∀ q ∈ ps, (∃ c ∈ find ps, c.Covers p ∧ c.Covers q) ↔
      p.name = q.name ∧
        ∃ r ∈ ps, ∃ s ∈ ps, r.name = p.name ∧ s.name = p.name ∧ r.hash ≠ s.hash) ∧
    ((∀ p ∈ ps, Name.IsHash p.hash.toList) → ∀ c ∈ find ps, ∀ p ∈ ps,
      p.uniqueName ∈ c.uniqueNames ↔ p.name = c.name) := by
  have hlisted {c : Collision} (hc : c ∈ find ps) {unique : String} :
      unique ∈ c.uniqueNames ↔ Bears ps c.name unique := by
    rw [(mem_find.mp hc).1, mem_uniqueNamesOf]
  refine ⟨?_, ?_, pairwise_find ps, ?_, ?_, ?_, ?_⟩
  · intro name
    constructor
    · rintro ⟨c, hc, rfl⟩
      obtain ⟨-, u, v, ⟨p, hp, hpname, rfl⟩, ⟨q, hq, hqname, rfl⟩, hne⟩ := mem_find.mp hc
      exact ⟨p, hp, q, hq, hpname, hqname, hne⟩
    · rintro ⟨p, hp, q, hq, hpname, hqname, hne⟩
      refine ⟨⟨name, uniqueNamesOf name ps⟩, mem_find.mpr ⟨rfl, ?_⟩, rfl⟩
      exact ⟨_, _, ⟨p, hp, hpname, rfl⟩, ⟨q, hq, hqname, rfl⟩, hne⟩
  · intro c hc
    constructor
    · rw [(mem_find.mp hc).1]
      exact pairwise_uniqueNamesOf _ _
    · exact fun unique => hlisted hc
  · intro qs hqs
    apply find_congr
    intro name unique
    simp only [Bears, hqs]
  · exact fun qs h c hc => exists_of_subset h hc
  · intro p hp q hq
    constructor
    · rintro ⟨c, hc, hcp, hcq⟩
      refine ⟨hcp.1.trans hcq.1.symm, ?_⟩
      rw [hcp.1]
      exact exists_bears_iff.mp (mem_find.mp hc).2
    · rintro ⟨hname, hhashes⟩
      have hc : (⟨p.name, uniqueNamesOf p.name ps⟩ : Collision) ∈ find ps :=
        mem_find.mpr ⟨rfl, exists_bears_iff.mpr hhashes⟩
      exact ⟨_, hc, (covers_iff hc hp).mpr rfl, (covers_iff hc hq).mpr hname.symm⟩
  · intro hhash c hc p hp
    constructor
    · intro hmem
      obtain ⟨q, hq, hqname, hunique⟩ := (hlisted hc).mp hmem
      have heq := Name.unique_inj (hhash q hq) (hhash p hp) hunique
      rw [← heq.1, hqname]
    · exact fun hname => ((covers_iff hc hp).mpr hname).2

/-- A provider without probes, under some hash. -/
def twin (name hash : String) : Provider := ⟨name, hash, "", ⟨"", [], [], [], []⟩, []⟩

/-- Two providers that collide, one of them met twice, and one that does not. -/
def twins : List Provider :=
  [twin "bell" "0123456789abcdef", twin "clock" "0123456789abcdef",
    twin "bell" "fedcba9876543210", twin "bell" "0123456789abcdef"]

theorem find_tells_each_collision_twins :
    (∀ p ∈ twins, Name.IsHash p.hash.toList) ∧
      find twins.reverse = find twins ∧
      (∃ c ∈ find twins, c.name = "bell" ∧ "bell_fedcba9876543210" ∈ c.uniqueNames) ∧
      (¬ ∃ c ∈ find twins, c.name = "clock") ∧
      ∃ d ∈ find (twin "clock" "fedcba9876543210" :: twins), d.name = "bell" := by
  have hup : Name.IsHash "0123456789abcdef".toList := ⟨rfl, by simp⟩
  have hdown : Name.IsHash "fedcba9876543210".toList := ⟨rfl, by simp⟩
  have hhash : ∀ p ∈ twins, Name.IsHash p.hash.toList := by
    intro p hp
    simp only [twins, List.mem_cons, List.not_mem_nil, or_false] at hp
    rcases hp with rfl | rfl | rfl | rfl
    · exact hup
    · exact hup
    · exact hdown
    · exact hup
  have hclock : ∀ p ∈ twins, p.name = "clock" → p.uniqueName = "clock_0123456789abcdef" := by
    decide
  have hbell : twin "bell" "fedcba9876543210" ∈ twins := by simp [twins]
  obtain ⟨hnames, -, -, hmembers, hmore, -, hlisted⟩ := find_tells_each_collision twins
  obtain ⟨c, hc, hname⟩ := (hnames "bell").mpr
    ⟨twin "bell" "0123456789abcdef", by simp [twins], _, hbell, rfl, rfl, by decide⟩
  refine ⟨hhash, hmembers _ fun p => List.mem_reverse, ⟨c, hc, hname, ?_⟩, ?_, ?_⟩
  · exact (hlisted hhash c hc _ hbell).mpr hname.symm
  · rw [hnames "clock"]
    rintro ⟨p, hp, q, hq, hpname, hqname, hne⟩
    exact hne ((hclock p hp hpname).trans (hclock q hq hqname).symm)
  · obtain ⟨d, hd, hdname, -⟩ :=
      hmore (twin "clock" "fedcba9876543210" :: twins) (List.subset_cons_self _ _) c hc
    exact ⟨d, hd, hdname.trans hname⟩

end Collision

end ProbeCatalog
