import Mathlib.Data.List.Basic
import ProbeCatalog.Project.Disk

/-!
# Putting an entry at a place

A file that is put where no directory stands is found there, and every directory stays a
directory. So the place for a file at a route stays the same when a file is put there, and what
was written at a route is found at this route.
-/
namespace ProbeCatalog

namespace Entry

lemma lookup_setIn (name : String) (e : Entry) (entries : List (String × Entry)) :
    (setIn name e entries).lookup name = some e := by
  induction entries with
  | nil => rw [setIn, List.lookup_cons, beq_self_eq_true]
  | cons entry entries ih =>
    obtain ⟨n, old⟩ := entry
    rw [setIn]
    split
    · rename_i hn
      rw [List.lookup_cons, hn, beq_self_eq_true]
    · rename_i hn
      rw [List.lookup_cons, beq_false_of_ne (Ne.symm hn)]
      exact ih

lemma lookup_setIn_of_ne {name other : String} (h : other ≠ name) (e : Entry)
    (entries : List (String × Entry)) :
    (setIn name e entries).lookup other = entries.lookup other := by
  induction entries with
  | nil => rw [setIn, List.lookup_cons, beq_false_of_ne h]
  | cons entry entries ih =>
    obtain ⟨n, old⟩ := entry
    rw [setIn]
    split
    · rename_i hn
      rw [List.lookup_cons, List.lookup_cons, hn, beq_false_of_ne h]
    · rw [List.lookup_cons, List.lookup_cons, ih]

lemma at?_put (new : Entry) (p : Path) (e : Entry) : (put new p e).at? p = some new := by
  induction p generalizing e with
  | nil => rfl
  | cons name rest ih =>
    rw [put, at?, entries, lookup_setIn]
    exact ih _

/-- What is put where no directory stands leaves all directories in their places. -/
lemma isDirectory_put (new : Entry) {e x : Entry} {p q : Path} (hp : (e.at? p).all (!·.isDirectory))
    (hq : e.at? q = some x) (hx : x.isDirectory = true) :
    ∃ y, (put new p e).at? q = some y ∧ y.isDirectory = true := by
  induction p generalizing e q with
  | nil =>
    have he : e.isDirectory = false := by simpa [at?] using hp
    cases q with
    | nil =>
      cases hq
      rw [hx] at he
      cases he
    | cons name rest =>
      cases e with
      | directory entries => cases he
      | file octets => cases hq
      | table rows => cases hq
  | cons name rest ih =>
    cases q with
    | nil => exact ⟨_, rfl, rfl⟩
    | cons n q =>
      rw [at?] at hq
      obtain ⟨e', he', hq'⟩ := Option.bind_eq_some_iff.mp hq
      rw [put, at?, entries]
      by_cases hn : n = name
      · subst hn
        rw [at?, he', Option.bind_some] at hp
        rw [lookup_setIn, he', Option.getD_some]
        exact ih hp hq'
      · rw [lookup_setIn_of_ne hn, he']
        exact ⟨x, hq', hx⟩

end Entry

namespace Disk

/-- A way to a directory stays open as long as directories stay directories. -/
lemma follow_of_directories {root root' : Entry} {target : Path} {e : Entry}
    (h : ∀ q x, root.at? q = some x → x.isDirectory = true →
      ∃ y, root'.at? q = some y ∧ y.isDirectory = true)
    (htarget : root.at? target = some e) (he : e.isDirectory = true) {names : List String}
    {place : Path} (hfollow : follow root place names = some target) :
    follow root' place names = some target := by
  induction names generalizing place with
  | nil => exact hfollow
  | cons name rest ih =>
    rw [follow] at hfollow ⊢
    by_cases hup : name = Route.up
    · rw [if_pos hup] at hfollow ⊢
      exact ih hfollow
    rw [if_neg hup] at hfollow ⊢
    cases hx : root.at? (place ++ [name]) with
    | none => simp only [hx] at hfollow; cases hfollow
    | some x =>
      simp only [hx] at hfollow
      split at hfollow
      · rename_i hstep
        -- The last entry on the way is the directory that is looked for.
        have hdirectory : x.isDirectory = true := by
          rw [Bool.or_eq_true] at hstep
          rcases hstep with hstep | hlast
          · exact hstep
          · rw [List.isEmpty_iff.mp hlast, follow] at hfollow
            cases hfollow
            rw [hx] at htarget
            cases htarget
            exact he
        obtain ⟨y, hy, hdirectory'⟩ := h _ x hx hdirectory
        simp only [hy, hdirectory', Bool.true_or, if_true]
        exact ih hfollow
      · cases hfollow

/-- The place for a file at a route is the same after something was put there. -/
lemma spot?_set {d : Disk} {r : Route} {place : Path} (hspot : d.spot? r = some place)
    (hplace : (d.root.at? place).all (!·.isDirectory)) (new : Entry) :
    (d.set place new).spot? r = some place := by
  simp only [spot?, Option.bind_eq_bind, Option.bind_eq_some_iff] at hspot ⊢
  obtain ⟨name, hname, directory, hlocate, e, he, hspot⟩ := hspot
  split at hspot
  · rename_i hstands
    cases hspot
    rw [Bool.and_eq_true] at hstands
    obtain ⟨y, hy, hdirectory⟩ := Entry.isDirectory_put new hplace he hstands.1
    have hdirectories := fun q x (hq : d.root.at? q = some x) (hx : x.isDirectory = true) =>
      Entry.isDirectory_put new hplace hq hx
    refine ⟨name, hname, directory, ?_, y, hy, ?_⟩
    · exact follow_of_directories hdirectories he hstands.1 hlocate
    · rw [hdirectory, hstands.2]
      rfl
  · cases hspot

lemma at?_set (d : Disk) (place : Path) (new : Entry) :
    (d.set place new).root.at? place = some new := Entry.at?_put new place d.root

/-- A way that leads to a directory can be followed further from there. -/
lemma follow_append {root : Entry} {target : Path} {e : Entry} (htarget : root.at? target = some e)
    (he : e.isDirectory = true) {names : List String} {place : Path}
    (hfollow : follow root place names = some target) (rest : List String) :
    follow root place (names ++ rest) = follow root target rest := by
  induction names generalizing place with
  | nil =>
    cases hfollow
    rfl
  | cons name names ih =>
    rw [follow] at hfollow
    rw [List.cons_append, follow]
    by_cases hup : name = Route.up
    · rw [if_pos hup] at hfollow ⊢
      exact ih hfollow
    rw [if_neg hup] at hfollow ⊢
    cases hx : root.at? (place ++ [name]) with
    | none => simp only [hx] at hfollow; cases hfollow
    | some x =>
      simp only [hx] at hfollow ⊢
      by_cases hdirectory : x.isDirectory = true
      · rw [hdirectory, Bool.true_or, if_pos rfl] at hfollow ⊢
        exact ih hfollow
      · -- Only the last name may lead to a file, but the way ends at a directory.
        rw [Bool.not_eq_true] at hdirectory
        rw [hdirectory, Bool.false_or] at hfollow
        split at hfollow
        · rename_i hlast
          rw [List.isEmpty_iff.mp hlast, follow] at hfollow
          cases hfollow
          rw [hx] at htarget
          cases htarget
          rw [he] at hdirectory
          cases hdirectory
        · cases hfollow

/-- What stands at the place for a file at a route is what stands at the route. -/
lemma entry?_of_spot? {d : Disk} {r : Route} {place : Path} {e : Entry}
    (hspot : d.spot? r = some place) (he : d.root.at? place = some e) : d.entry? r = some e := by
  simp only [spot?, Option.bind_eq_bind, Option.bind_eq_some_iff] at hspot
  obtain ⟨name, hname, directory, hlocate, x, hx, hspot⟩ := hspot
  split at hspot
  · rename_i hstands
    cases hspot
    rw [Bool.and_eq_true, decide_eq_true_iff] at hstands
    have hnames : r.names = r.parent.names ++ [name] :=
      (List.dropLast_append_getLast? name hname).symm
    have hway : d.locate r = some (directory ++ [name]) := by
      rw [locate, hnames]
      refine (follow_append hx hstands.1 hlocate [name]).trans ?_
      rw [follow, if_neg hstands.2, he]
      simp only [List.isEmpty_nil, Bool.or_true, if_true, follow]
    rw [ entry?, hway]
    exact he
  · cases hspot

/-- Octets that were written at a route are found there. -/
lemma entry?_write {d d' : Disk} {r : Route} {octets : List UInt8}
    (h : d.write r octets = (d', true)) : d'.entry? r = some (.file octets) := by
  rw [write] at h
  split at h
  · cases h
  · rename_i made _
    split at h
    · cases h
    · rename_i place hspot
      split at h
      · cases h
      · rename_i hfree
        cases h
        have hplace : (made.root.at? place).all (!·.isDirectory) := by
          cases hx : made.root.at? place with
          | none => rfl
          | some x => simpa [hx] using hfree
        exact entry?_of_spot? (spot?_set hspot hplace _) (at?_set made place _)

end Disk

end ProbeCatalog
