import Mathlib.Data.List.Chain
import Mathlib.Data.List.DropRight
import ProbeCatalog.Provider.Name

/-!
# The form of names

Names of providers are words of small letters and digits with single underscores between them,
whatever the name of the class; a hash has sixteen hexadecimal digits.
-/
namespace ProbeCatalog.Name

/-- Words of small letters and digits, with one underscore between two of them. -/
inductive Words : List Char → Prop
  | one {w : List Char} (hne : w ≠ []) (h : ∀ c ∈ w, isKept c = true) : Words w
  | more {w rest : List Char} (hne : w ≠ []) (h : ∀ c ∈ w, isKept c = true)
      (hrest : Words rest) : Words (w ++ '_' :: rest)

/-- Sixteen digits of small hexadecimal. -/
def IsHash (digits : List Char) : Prop :=
  digits.length = 16 ∧ ∀ d ∈ digits, d.isDigit = true ∨ 'a' ≤ d ∧ d ≤ 'f'

/-- Words, an underscore and a hash. -/
def IsUnique (name : String) : Prop :=
  ∃ words digits, Words words ∧ IsHash digits ∧ name.toList = words ++ '_' :: digits

/-! ### Words -/

/-- Kept characters and underscores, of which no two stand side by side. -/
structure Joined (cs : List Char) : Prop where
  chars : ∀ c ∈ cs, isKept c = true ∨ c = '_'
  single : cs.IsChain fun c d => ¬ (c = '_' ∧ d = '_')

lemma isKept_underscore : isKept '_' = false := by decide

lemma collapse_chars (inRun : Bool) (cs : List Char) :
    ∀ c ∈ collapse inRun cs, isKept c = true ∨ c = '_' := by
  induction cs generalizing inRun with
  | nil => exact nofun
  | cons c cs ih =>
    rw [collapse]
    split
    · exact List.forall_mem_cons.mpr ⟨Or.inl ‹_›, ih false⟩
    · split
      · exact ih true
      · exact List.forall_mem_cons.mpr ⟨Or.inr rfl, ih true⟩

/-- In a run no further underscore is written. -/
lemma collapse_head (cs : List Char) : (collapse true cs).head? ≠ some '_' := by
  induction cs with
  | nil => exact nofun
  | cons c cs ih =>
    rw [collapse]
    split
    · rename_i hkept
      rintro h
      cases h
      cases isKept_underscore.symm.trans hkept
    · exact ih

lemma collapse_single (inRun : Bool) (cs : List Char) :
    (collapse inRun cs).IsChain fun c d => ¬ (c = '_' ∧ d = '_') := by
  induction cs generalizing inRun with
  | nil => exact .nil
  | cons c cs ih =>
    rw [collapse]
    split
    · rename_i hkept
      refine List.isChain_cons.mpr ⟨fun d _ h => ?_, ih false⟩
      rw [h.1] at hkept
      cases isKept_underscore.symm.trans hkept
    · split
      · exact ih true
      · refine List.isChain_cons.mpr ⟨fun d hd h => ?_, ih true⟩
        rw [h.2] at hd
        exact collapse_head cs hd

lemma Joined.of_infix {cs ds : List Char} (h : Joined ds) (hinside : cs <:+: ds) : Joined cs where
  chars c hc := h.chars c (hinside.subset hc)
  single := h.single.infix hinside

/-- The first word grows by one character. -/
lemma Words.cons {c : Char} {cs : List Char} (hc : isKept c = true) (h : Words cs) :
    Words (c :: cs) := by
  cases h with
  | one hne hchars =>
    exact .one (List.cons_ne_nil c _) (List.forall_mem_cons.mpr ⟨hc, hchars⟩)
  | @more w rest hne hchars hrest =>
    rw [← List.cons_append]
    exact .more (List.cons_ne_nil c w) (List.forall_mem_cons.mpr ⟨hc, hchars⟩) hrest

/-- Without underscores at the ends, what is joined is words. -/
lemma words_of_joined {cs : List Char} (h : Joined cs) (hne : cs ≠ [])
    (hlast : cs.getLast? ≠ some '_') :
    (cs.head? ≠ some '_' → Words cs) ∧ ∀ rest, cs = '_' :: rest → Words rest := by
  induction cs with
  | nil => exact absurd rfl hne
  | cons c cs ih =>
    have hjoined : Joined cs := h.of_infix (List.suffix_cons c cs).isInfix
    constructor
    · intro hhead
      have hc : isKept c = true :=
        (h.chars c List.mem_cons_self).resolve_right fun hc => hhead (by rw [hc]; rfl)
      have hword : ∀ d ∈ [c], isKept d = true := fun d hd => List.mem_singleton.mp hd ▸ hc
      cases cs with
      | nil => exact .one (List.cons_ne_nil c []) hword
      | cons d cs =>
        obtain ⟨hwords, hafter⟩ :=
          ih hjoined (List.cons_ne_nil d cs) (by rwa [List.getLast?_cons_cons] at hlast)
        by_cases hd : d = '_'
        · rw [hd]
          exact .more (List.cons_ne_nil c []) hword (hafter cs (by rw [hd]))
        · exact (hwords fun h => hd (Option.some.inj h)).cons hc
    · rintro rest heq
      cases heq
      cases cs with
      | nil => exact absurd rfl hlast
      | cons d cs =>
        refine (ih hjoined (List.cons_ne_nil d cs) (by rwa [List.getLast?_cons_cons] at hlast)).1 ?_
        intro hd
        exact (List.isChain_cons_cons.mp h.single).1 ⟨rfl, Option.some.inj hd⟩

lemma stripUnderscores_eq (cs : List Char) :
    stripUnderscores cs = (cs.dropWhile (· = '_')).rdropWhile (· = '_') := rfl

lemma words_stripUnderscores {cs : List Char} (h : Joined cs) (hne : stripUnderscores cs ≠ []) :
    Words (stripUnderscores cs) := by
  rw [stripUnderscores_eq] at hne ⊢
  have hfront := List.rdropWhile_prefix (fun c => decide (c = '_')) (cs.dropWhile (· = '_'))
  have hjoined : Joined ((cs.dropWhile (· = '_')).rdropWhile (· = '_')) :=
    h.of_infix (hfront.isInfix.trans (List.dropWhile_suffix _).isInfix)
  refine (words_of_joined hjoined hne ?_).1 ?_
  · intro hlast
    have := List.rdropWhile_last_not (fun c => decide (c = '_')) (cs.dropWhile (· = '_')) hne
    rw [List.getLast?_eq_some_getLast hne, Option.some.injEq] at hlast
    exact this (decide_eq_true hlast)
  · intro hhead
    obtain ⟨tail, htail⟩ := hfront
    have hfirst : (cs.dropWhile (· = '_')).head? = some '_' := by
      rw [← htail, List.head?_append_of_ne_nil _ hne, hhead]
    have := List.head?_dropWhile_not (fun c => decide (c = '_')) cs
    rw [hfirst] at this
    cases this

lemma words_snakeCase (identifier : List Char) : Words (snakeCase identifier) := by
  rw [snakeCase]
  split
  · have hkept : fallback.all isKept = true := by decide
    exact .one (by decide) (List.all_eq_true.mp hkept)
  · rename_i hne
    refine words_stripUnderscores ⟨collapse_chars _ _, collapse_single _ _⟩ fun h => hne ?_
    rw [h]
    rfl

/-! ### Hashes -/

lemma length_compress (h : List UInt64) (block : Array UInt64) (count : Nat) (last : Bool) :
    (Blake2b.compress h block count last).length = h.length := by
  simp only [Blake2b.compress, List.length_map, List.length_zipIdx]

lemma length_absorb (fuel : Nat) (h : List UInt64) (count : Nat) (octets : List UInt8) :
    (Blake2b.absorb fuel h count octets).length = h.length := by
  induction fuel generalizing h count octets with
  | zero => rfl
  | succ fuel ih =>
    simp only [Blake2b.absorb]
    split
    · exact length_compress _ _ _ _
    · rw [ih, length_compress]

lemma length_digest (message : List UInt8) : (Blake2b.digest message).length = 8 := by
  have hwords : (Blake2b.absorb (message.length / 128 + 1) Blake2b.initial 0 message).length = 8 :=
    length_absorb _ _ _ _
  have hoctets (w : UInt64) : (Blake2b.octetsOf w).length = 8 := by
    rw [Blake2b.octetsOf, List.length_map, List.length_range]
  rw [Blake2b.digest, List.length_take, List.length_flatMap]
  simp only [hoctets, List.map_const', List.sum_replicate_nat, hwords, Blake2b.digestSize]
  rfl

/-- A digit of small hexadecimal. -/
lemma digitChar_hex : ∀ d < 16,
    (Nat.digitChar d).isDigit = true ∨ 'a' ≤ Nat.digitChar d ∧ Nat.digitChar d ≤ 'f' := by decide

lemma isHash_hashOf (text : String) : IsHash (hashOf text).toList := by
  have hlength := length_digest (Utf8.encode text.toList)
  rw [hashOf]
  generalize Blake2b.digest (Utf8.encode text.toList) = octets at hlength
  have hjoin : (String.join (octets.map Utf8.hexOctet)).toList =
      octets.flatMap fun b => [Nat.digitChar (b.toNat / 16), Nat.digitChar (b.toNat % 16)] := by
    rw [String.toList_join, List.flatMap_map]
    exact List.flatMap_congr fun b _ => String.toList_ofList
  rw [hjoin]
  constructor
  · rw [List.length_flatMap]
    simp [hlength]
  · intro d hd
    obtain ⟨b, -, hd⟩ := List.mem_flatMap.mp hd
    have hb := b.toNat_lt
    rcases List.mem_cons.mp hd with rfl | hd
    · exact digitChar_hex _ (by omega)
    · rw [List.mem_singleton.mp hd]
      exact digitChar_hex _ (by omega)

lemma toList_unique (name hash : String) :
    (unique name hash).toList = name.toList ++ '_' :: hash.toList := by
  rw [unique, String.toList_append, String.toList_append, List.append_assoc]
  rfl

lemma isUnique_unique {name hash : String} (hname : Words name.toList)
    (hhash : IsHash hash.toList) : IsUnique (unique name hash) :=
  ⟨name.toList, hash.toList, hname, hhash, toList_unique name hash⟩

lemma hash_eq_of_unique_eq {name hash hash' : String} (h : unique name hash = unique name hash') :
    hash = hash' := by
  have hlists := congrArg String.toList h
  rw [toList_unique, toList_unique] at hlists
  exact String.toList_inj.mp (List.cons.inj (List.append_cancel_left hlists)).2

/-- All hashes are of one length, so a unique name can be told apart into a name and a hash. -/
lemma unique_inj {name name' hash hash' : String} (hhash : IsHash hash.toList)
    (hhash' : IsHash hash'.toList) (h : unique name hash = unique name' hash') :
    name = name' ∧ hash = hash' := by
  have hlists := congrArg String.toList h
  rw [toList_unique, toList_unique] at hlists
  have hlength : ('_' :: hash.toList).length = ('_' :: hash'.toList).length := by
    rw [List.length_cons, List.length_cons, hhash.1, hhash'.1]
  obtain ⟨hname, htail⟩ := List.append_inj' hlists hlength
  exact ⟨String.toList_inj.mp hname, String.toList_inj.mp (List.cons.inj htail).2⟩

end ProbeCatalog.Name
