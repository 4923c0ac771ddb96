import Mathlib.Data.List.Basic
import Mathlib.Tactic.Lemma
import ProbeCatalog.Ignore.Rule

/-!
# Globs below a directory

Pieces that spell the path of a directory match that directory and nothing else, and what stands
behind them goes on from there. A glob that begins at any depth finds the same below a directory
as it finds at the root, as long as none of the names on the way begins with its first character.
-/
namespace ProbeCatalog

namespace Glob

/-- The pieces that match some characters as they are. -/
def literals (cs : List Char) : List Piece := cs.map .literal

lemma reach?_literal (ending : Ending) (c : Char) (ps : List Piece) (d : Char) (path : List Char) :
    reach? ending (.literal c :: ps) (d :: path) =
      if d = c then reach? ending ps path else none := by
  rw [reach?, Piece.rests, afterOne]
  by_cases h : d = c <;> simp [h]

/-- Literal pieces are taken off together with the characters that they match. -/
lemma reach?_literals (ending : Ending) (cs : List Char) (ps : List Piece) (path : List Char) :
    reach? ending (literals cs ++ ps) (cs ++ path) = reach? ending ps path := by
  induction cs with
  | nil => rfl
  | cons c cs ih =>
    rw [literals, List.map_cons, List.cons_append, List.cons_append, reach?_literal, if_pos rfl]
    exact ih

/-- Only paths that go on from the characters of literal pieces are matched. -/
lemma exists_of_reach?_literals {ending : Ending} {cs : List Char} {ps : List Piece}
    {path : List Char} {reach : Reach} (h : reach? ending (literals cs ++ ps) path = some reach) :
    ∃ rest, path = cs ++ rest ∧ reach? ending ps rest = some reach := by
  induction cs generalizing path with
  | nil => exact ⟨path, rfl, h⟩
  | cons c cs ih =>
    cases path with
    | nil => cases h
    | cons d path =>
      rw [literals, List.map_cons, List.cons_append, reach?_literal] at h
      split at h
      · rename_i hdc
        obtain ⟨rest, rfl, hrest⟩ := ih h
        exact ⟨rest, by rw [hdc, List.cons_append], hrest⟩
      · cases h

lemma exists_of_reach?_literal {ending : Ending} {c : Char} {ps : List Piece} {path : List Char}
    {reach : Reach} (h : reach? ending (.literal c :: ps) path = some reach) :
    ∃ rest, path = c :: rest ∧ reach? ending ps rest = some reach :=
  @exists_of_reach?_literals ending [c] ps path reach h

/-- The piece needs a character. -/
def Piece.IsFull (p : Piece) : Prop := p.rests [] = []

/-- An empty path is not matched if one of the pieces needs a character. -/
lemma reach?_nil {ending : Ending} {ps : List Piece} (h : ∃ p ∈ ps, p.IsFull) :
    reach? ending ps [] = none := by
  induction ps with
  | nil => obtain ⟨p, hp, _⟩ := h; cases hp
  | cons p ps ih =>
    have hrests : p.rests [] = [] ∨ p.rests [] = [[]] := by
      cases p <;> simp [Piece.rests, afterOne, after]
    rw [reach?]
    rcases hrests with hrests | hrests
    · rw [hrests]
      rfl
    · rw [hrests]
      have hps : ∃ p ∈ ps, p.IsFull := by
        obtain ⟨p', hp', hfull⟩ := h
        rcases List.mem_cons.mp hp' with rfl | hp'
        · rw [Piece.IsFull, hrests] at hfull; cases hfull
        · exact ⟨p', hp', hfull⟩
      simp [ih hps]

/-! ### Any depth -/

/-- The characters of a name: no slash and no line break, one at least. -/
def IsName (cs : List Char) : Prop := cs ≠ [] ∧ '/' ∉ cs ∧ '\n' ∉ cs

lemma afterSlashes_append {u : List Char} (hslash : '/' ∉ u) (hbreak : '\n' ∉ u)
    (v : List Char) : afterSlashes (u ++ v) = afterSlashes v := by
  induction u with
  | nil => rfl
  | cons c u ih =>
    simp only [List.mem_cons, not_or] at hslash hbreak
    rw [List.cons_append, afterSlashes, if_neg (Ne.symm hbreak.1), if_neg (Ne.symm hslash.1),
      ih hslash.2 hbreak.2, List.append_nil]

/-- What any directories leave of a path in a directory: what they leave of the path as it is seen
from there, and the whole path. -/
lemma rests_ancestors {u : List Char} (hu : IsName u) {v : List Char} (hv : v.head? ≠ some '/') :
    Piece.ancestors.rests (u ++ '/' :: v) = Piece.ancestors.rests v ++ [u ++ '/' :: v] := by
  obtain ⟨hne, hslash, hbreak⟩ := hu
  have hinner : (afterOne isNoBreak v).flatMap afterSlashes = afterSlashes v := by
    cases v with
    | nil => rfl
    | cons d v =>
      have hd : d ≠ '/' := fun h => hv (by rw [h]; rfl)
      by_cases hb : d = '\n'
      · simp [afterOne, isNoBreak, afterSlashes, hb]
      · simp [afterOne, isNoBreak, afterSlashes, hb, hd]
  cases u with
  | nil => exact absurd rfl hne
  | cons c u =>
    simp only [List.mem_cons, not_or] at hslash hbreak
    have hfirst : afterOne isNoBreak (c :: u ++ '/' :: v) = [u ++ '/' :: v] := by
      rw [List.cons_append, afterOne, if_pos (by simpa [isNoBreak] using Ne.symm hbreak.1)]
    have hslashes : afterSlashes ('/' :: v) = afterSlashes v ++ [v] := by
      rw [afterSlashes, if_neg (by decide), if_pos rfl]
    rw [Piece.rests, Piece.rests, hfirst, hinner, List.flatMap_singleton,
      afterSlashes_append hslash.2 hbreak.2, hslashes]

/-- What a glob of any depth reaches in a directory is what it reaches as seen from there, if the
directory's own name does not begin as the glob does. -/
lemma reach?_ancestors {u : List Char} (hu : IsName u) {c : Char} (hc : u.head? ≠ some c)
    {v : List Char} (hv : v.head? ≠ some '/') (ending : Ending) (ps : List Piece) :
    reach? ending (.ancestors :: .literal c :: ps) (u ++ '/' :: v) =
      reach? ending (.ancestors :: .literal c :: ps) v := by
  have hown : reach? ending (.literal c :: ps) (u ++ '/' :: v) = none := by
    cases u with
    | nil => exact absurd rfl hu.1
    | cons d u =>
      rw [List.cons_append, reach?_literal, if_neg]
      rintro rfl
      exact hc rfl
  rw [reach?, rests_ancestors hu hv, List.findSome?_append, List.findSome?_singleton, hown,
    Option.or_none, ← reach?]

end Glob

end ProbeCatalog
