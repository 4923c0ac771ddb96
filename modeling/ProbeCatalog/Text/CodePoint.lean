/-!
# Code points

Source files hold characters, but an escape such as `\ud800`, in a string
literal or in a JSON string, names one half of a surrogate pair standing alone,
and no character is that half. `Text` is what such escapes denote: a list of
code points, each a character or a lone half.
-/
namespace ProbeCatalog

/-- A Unicode code point: a character, or a lone half of a surrogate pair. -/
inductive CodePoint where
  /-- A character, that is a Unicode scalar value. -/
  | char (c : Char)
  /-- The code point `0xD800 + i`. -/
  | half (i : Fin 2048)
  deriving DecidableEq

/-- Text that may hold lone halves of surrogate pairs. -/
abbrev Text := List CodePoint

namespace CodePoint

/-- The number of a code point. -/
def toNat : CodePoint → Nat
  | .char c => c.toNat
  | .half i => 0xD800 + i.val

/-- The code point with a given number, if there is one. -/
def ofNat? (n : Nat) : Option CodePoint :=
  if h : n.isValidChar then
    some (.char (Char.ofNatAux n h))
  else if h : 0xD800 ≤ n ∧ n < 0xE000 then
    some (.half ⟨n - 0xD800, by omega⟩)
  else
    none

/-- The character a code point is, unless it is a lone half. -/
def toChar? : CodePoint → Option Char
  | .char c => some c
  | .half _ => none

end CodePoint

namespace Text

/-- The text of a list of characters. -/
def ofChars (cs : List Char) : Text := cs.map .char

/-- The text of a string. -/
def ofString (s : String) : Text := ofChars s.toList

instance : Coe String Text := ⟨ofString⟩

/-- The characters of a text without lone halves. -/
def toChars? (t : Text) : Option (List Char) := t.mapM CodePoint.toChar?

/-- The string a text without lone halves is. -/
def toString? (t : Text) : Option String := t.toChars?.map String.ofList

/-- Characters are their own reading as a text. -/
theorem toChars?_ofChars (cs : List Char) : toChars? (ofChars cs) = some cs := by
  induction cs with
  | nil => rfl
  | cons c cs ih =>
    simp only [toChars?, ofChars, List.map_cons, List.mapM_cons] at ih ⊢
    simp [ih, CodePoint.toChar?]

/-- A text without lone halves is that of its characters. -/
theorem eq_ofChars {t : Text} {cs : List Char} (h : t.toChars? = some cs) : t = ofChars cs := by
  induction t generalizing cs with
  | nil =>
    cases h
    rfl
  | cons p t ih =>
    rw [toChars?, List.mapM_cons] at h
    obtain ⟨c, hc, h⟩ := Option.bind_eq_some_iff.mp h
    obtain ⟨cs', hcs', h⟩ := Option.bind_eq_some_iff.mp h
    cases h
    cases p with
    | char d =>
      cases hc
      rw [ih hcs']
      rfl
    | half i => cases hc

/-- A string is its own reading as a text. -/
theorem toString?_ofString (s : String) : toString? (ofString s) = some s := by
  simp [toString?, ofString, toChars?_ofChars]

end Text

end ProbeCatalog
