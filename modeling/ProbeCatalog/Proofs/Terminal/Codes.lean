import Mathlib.Data.List.Basic
import ProbeCatalog.Proofs.Project.Written
import ProbeCatalog.Terminal.Emoji

/-!
# Codes of emoji in a text

Which parts of a text are codes, told by its colons and blanks alone, and what becomes of a text
whose codes are replaced. It stays as it is if and only if none of its codes names an emoji, and
what is put in the place of a code holds no control, no blank and no colon of its own.
-/
namespace ProbeCatalog.Emoji

/-- Whether a code is open at the end of a text that begins inside or outside a code: a colon
opens a code, or closes the one that is open, and a blank closes it as well. -/
def isOpen (opened : Bool) (cs : List Char) : Bool :=
  cs.foldl (fun opened c => if c = ':' then !opened else opened && !isBlank c) opened

/-- The characters can be those of a code. -/
def IsCode (code : List Char) : Prop := ∀ c ∈ code, c ≠ ':' ∧ isBlank c = false

/-- A code of the text, between the colon that opens it and the one that closes it. -/
def Encloses (text code : List Char) : Prop :=
  ∃ before after, text = before ++ ':' :: (code ++ ':' :: after) ∧
    isOpen false before = false ∧ IsCode code

/-- The code names an emoji, with or without a wish for its look. -/
def IsNamed (code : List Char) : Prop := (ofName (lower (looked code).1)).isSome = true

/-- No code of the text names an emoji. -/
def Unnamed (text : List Char) : Prop := ∀ code, Encloses text code → ¬ IsNamed code

/-! ### What is shown for a code -/

/-- A character that an emoji may consist of: no control, no blank and no colon. -/
def isShown (c : Char) : Bool := decide (32 < c.toNat) && c != ':'

/-- The entry of the table gives an emoji for a name. -/
def isEntry (entry : List Char) : Bool :=
  match Table.cut '=' entry with
  | [_, value] => (Table.cut ',' value).all fun n => isShown (Char.ofNat (Table.hex n))
  | _ => false

section

set_option maxRecDepth 100000

/-- The table is read once, from the characters of its texts. -/
lemma entries_namesWith (first : Char) :
    (Table.words (EmojiTable.namesWith first)).all isEntry = true := by
  unfold EmojiTable.namesWith
  -- The texts are literals, which only show their characters when their names are unfolded.
  split <;> rw [Table.words] <;> erw [String.toList_ofList] <;> decide +kernel

end

lemma shown_of_ofName {name emoji : List Char} (h : ofName name = some emoji) :
    emoji ≠ [] ∧ ∀ c ∈ emoji, isShown c = true := by
  cases name with
  | nil => cases h
  | cons first name =>
    obtain ⟨entry, hfind, hemoji⟩ := Option.map_eq_some_iff.mp h
    obtain ⟨word, hword, rfl⟩ := List.mem_map.mp (List.mem_of_find?_eq_some hfind)
    have hentry := List.all_eq_true.mp (entries_namesWith first) word hword
    rw [isEntry] at hentry
    split at hentry
    · rename_i value hcut
      rw [hcut] at hemoji
      dsimp only at hemoji
      rw [← hemoji]
      refine ⟨?_, List.forall_mem_map.mpr (List.all_eq_true.mp hentry)⟩
      simpa using Table.cut_ne_nil ',' value
    · cases hentry

lemma looked_selector (code : List Char) : ∀ c ∈ (looked code).2, isShown c = true := by
  rw [looked]
  split
  · exact List.forall_mem_singleton.mpr (by decide)
  · split
    · exact List.forall_mem_singleton.mpr (by decide)
    · exact nofun

lemma shownFor_unnamed {code : List Char} (h : ¬ IsNamed code) :
    shownFor code = ':' :: (code ++ [':']) := by
  rw [IsNamed, Option.not_isSome_iff_eq_none] at h
  simp only [shownFor, h]

lemma shownFor_named {code : List Char} (h : IsNamed code) :
    shownFor code ≠ [] ∧ ∀ c ∈ shownFor code, isShown c = true := by
  obtain ⟨emoji, hemoji⟩ := Option.isSome_iff_exists.mp h
  obtain ⟨hne, hshown⟩ := shown_of_ofName hemoji
  simp only [shownFor, hemoji]
  refine ⟨by simp [hne], List.forall_mem_append.mpr ⟨hshown, looked_selector code⟩⟩

/-! ### Where codes stand -/

lemma isOpen_append (opened : Bool) (cs ds : List Char) :
    isOpen opened (cs ++ ds) = isOpen (isOpen opened cs) ds := List.foldl_append

lemma isOpen_colon (opened : Bool) (cs : List Char) :
    isOpen opened (':' :: cs) = isOpen (!opened) cs := rfl

lemma isOpen_cons {c : Char} (hc : c ≠ ':') (opened : Bool) (cs : List Char) :
    isOpen opened (c :: cs) = isOpen (opened && !isBlank c) cs := by
  rw [isOpen, List.foldl_cons, if_neg hc, ← isOpen]

lemma isOpen_code {code : List Char} (h : IsCode code) (opened : Bool) :
    isOpen opened code = opened := by
  induction code with
  | nil => rfl
  | cons c code ih =>
    obtain ⟨⟨hc, hb⟩, hcode⟩ := List.forall_mem_cons.mp h
    rw [isOpen_cons hc, hb, Bool.not_false, Bool.and_true, ih hcode]

/-- A code ends at the first colon or blank after it. -/
lemma code_append_inj {code code' : List Char} (h : IsCode code) (h' : IsCode code') {c c' : Char}
    (hc : ¬ (c ≠ ':' ∧ isBlank c = false)) (hc' : ¬ (c' ≠ ':' ∧ isBlank c' = false))
    {rest rest' : List Char} (heq : code ++ c :: rest = code' ++ c' :: rest') :
    code = code' ∧ c = c' ∧ rest = rest' := by
  induction code generalizing code' with
  | nil =>
    cases code' with
    | nil => exact ⟨rfl, List.cons_eq_cons.mp heq⟩
    | cons d code' =>
      rw [(List.cons_eq_cons.mp heq).1] at hc
      exact absurd (h' d List.mem_cons_self) hc
  | cons d code ih =>
    cases code' with
    | nil =>
      rw [← (List.cons_eq_cons.mp heq).1] at hc'
      exact absurd (h d List.mem_cons_self) hc'
    | cons d' code' =>
      obtain ⟨rfl, htail⟩ := List.cons_eq_cons.mp heq
      obtain ⟨rfl, hrest⟩ := ih (List.forall_mem_cons.mp h).2 (List.forall_mem_cons.mp h').2 htail
      exact ⟨rfl, hrest⟩

/-- A colon after a code is the next character or one behind it. -/
lemma colon_behind {code : List Char} (h : IsCode code) {c : Char} {cs before rest : List Char}
    (heq : code ++ c :: cs = before ++ ':' :: rest) :
    (before = code ∧ c = ':' ∧ cs = rest) ∨
      ∃ between, before = code ++ c :: between ∧ cs = between ++ ':' :: rest := by
  rcases List.append_eq_append_iff.mp heq with ⟨between, hbefore, hrest⟩ | ⟨middle, rfl, hrest⟩
  · cases between with
    | nil =>
      obtain ⟨rfl, rfl⟩ := List.cons_eq_cons.mp hrest
      exact Or.inl ⟨by rw [hbefore, List.append_nil], rfl, rfl⟩
    | cons d between =>
      obtain ⟨rfl, rfl⟩ := List.cons_eq_cons.mp hrest
      exact Or.inr ⟨between, hbefore, rfl⟩
  · cases middle with
    | nil =>
      obtain ⟨rfl, rfl⟩ := List.cons_eq_cons.mp hrest
      exact Or.inl ⟨by rw [List.append_nil], rfl, rfl⟩
    | cons d middle =>
      obtain ⟨rfl, -⟩ := List.cons_eq_cons.mp hrest
      exact absurd rfl (h ':' (by simp)).1

lemma encloses_cons {c : Char} (hc : c ≠ ':') {cs code : List Char} :
    Encloses (c :: cs) code ↔ Encloses cs code := by
  constructor
  · rintro ⟨before, after, heq, hclosed, hcode⟩
    cases before with
    | nil => exact absurd (List.cons_eq_cons.mp heq).1 hc
    | cons d before =>
      obtain ⟨rfl, rfl⟩ := List.cons_eq_cons.mp heq
      rw [isOpen_cons hc, Bool.false_and] at hclosed
      exact ⟨before, after, rfl, hclosed, hcode⟩
  · rintro ⟨before, after, rfl, hclosed, hcode⟩
    exact ⟨c :: before, after, rfl, by rwa [isOpen_cons hc, Bool.false_and], hcode⟩

/-- After a code that is closed by its colon the text begins anew. -/
lemma encloses_closed {word : List Char} (hword : IsCode word) {cs code : List Char} :
    Encloses (':' :: (word ++ ':' :: cs)) code ↔ code = word ∨ Encloses cs code := by
  constructor
  · rintro ⟨before, after, heq, hclosed, hcode⟩
    cases before with
    | nil =>
      left
      exact (code_append_inj hcode hword (by simp) (by simp) (List.cons_eq_cons.mp heq).2.symm).1
    | cons d before =>
      obtain ⟨rfl, htail⟩ := List.cons_eq_cons.mp heq
      rcases colon_behind hword htail with ⟨rfl, -, -⟩ | ⟨between, rfl, rfl⟩
      · rw [isOpen_colon, isOpen_code hword] at hclosed
        cases hclosed
      · rw [isOpen_colon, isOpen_append, isOpen_code hword, isOpen_colon] at hclosed
        exact Or.inr ⟨between, after, rfl, hclosed, hcode⟩
  · rintro (rfl | ⟨before, after, rfl, hclosed, hcode⟩)
    · exact ⟨[], cs, rfl, rfl, hword⟩
    · refine ⟨':' :: (word ++ ':' :: before), after, by simp, ?_, hcode⟩
      rwa [isOpen_colon, isOpen_append, isOpen_code hword, isOpen_colon]

/-- What was read of a code is dropped at a blank. -/
lemma encloses_broken {word : List Char} (hword : IsCode word) {b : Char} (hb : isBlank b = true)
    {cs code : List Char} : Encloses (':' :: (word ++ b :: cs)) code ↔ Encloses cs code := by
  have hcolon : b ≠ ':' := by
    rintro rfl
    exact absurd hb (by decide)
  have hreset (between : List Char) :
      isOpen false (':' :: (word ++ b :: between)) = isOpen false between := by
    rw [isOpen_colon, isOpen_append, isOpen_code hword, isOpen_cons hcolon, hb]
    rfl
  constructor
  · rintro ⟨before, after, heq, hclosed, hcode⟩
    cases before with
    | nil =>
      have htail := (List.cons_eq_cons.mp heq).2
      exact absurd (code_append_inj hword hcode (by simp [hb]) (by simp) htail).2.1 hcolon
    | cons d before =>
      obtain ⟨rfl, htail⟩ := List.cons_eq_cons.mp heq
      rcases colon_behind hword htail with ⟨-, rfl, -⟩ | ⟨between, rfl, rfl⟩
      · exact absurd rfl hcolon
      · rw [hreset] at hclosed
        exact ⟨between, after, rfl, hclosed, hcode⟩
  · rintro ⟨before, after, rfl, hclosed, hcode⟩
    exact ⟨':' :: (word ++ b :: before), after, by simp, by rwa [hreset], hcode⟩

/-- One colon makes no code. -/
lemma not_encloses_open {word : List Char} (hword : IsCode word) (code : List Char) :
    ¬ Encloses (':' :: word) code := by
  rintro ⟨before, after, heq, -, -⟩
  have hcount := congrArg (List.count ':') heq
  have hnone : word.count ':' = 0 := List.count_eq_zero.mpr fun h => (hword ':' h).1 rfl
  simp only [List.count_cons_self, List.count_append, hnone] at hcount
  omega

/-! ### What replacing leaves -/

/-- The part of a text that was read and not yet given out. -/
def pending : Option (List Char) → List Char
  | none => []
  | some code => ':' :: code.reverse

lemma replaceFrom_eq_iff (state : Option (List Char)) (hstate : ∀ code ∈ state, IsCode code)
    (cs : List Char) :
    replaceFrom state cs = pending state ++ cs ↔ Unnamed (pending state ++ cs) := by
  induction cs generalizing state with
  | nil =>
    cases state with
    | none =>
      refine iff_of_true rfl fun code h => ?_
      obtain ⟨_, _, heq, _⟩ := h
      simp [pending] at heq
    | some word =>
      have hword : IsCode word.reverse := fun c hc => hstate word rfl c (by simpa using hc)
      rw [List.append_nil]
      exact iff_of_true rfl fun code hcode => absurd hcode (not_encloses_open hword code)
  | cons c cs ih =>
    cases state with
    | none =>
      by_cases hc : c = ':'
      · subst hc
        exact ih (some []) (by simp [IsCode])
      · have hcs := ih none (by simp)
        simp only [pending, List.nil_append] at hcs ⊢
        rw [replaceFrom, if_neg hc, List.cons_eq_cons, hcs]
        simp only [true_and, Unnamed, encloses_cons hc]
    | some word =>
      have hword : IsCode word.reverse := fun c hc => hstate word rfl c (by simpa using hc)
      have hcs := ih none (by simp)
      simp only [pending, List.nil_append, List.cons_append] at hcs ⊢
      by_cases hc : c = ':'
      · subst hc
        rw [replaceFrom, if_pos rfl]
        simp only [Unnamed, encloses_closed hword, forall_eq_or_imp]
        by_cases hnamed : IsNamed word.reverse
        · -- An emoji does not begin with the colon that stood there.
          obtain ⟨hne, hshown⟩ := shownFor_named hnamed
          refine iff_of_false (fun heq => ?_) fun h => h.1 hnamed
          obtain ⟨d, ds, hd⟩ := List.exists_cons_of_ne_nil hne
          rw [hd, List.cons_append, List.cons_eq_cons] at heq
          rw [hd, List.forall_mem_cons, heq.1] at hshown
          exact absurd hshown.1 (by decide)
        · rw [shownFor_unnamed hnamed, List.cons_append, List.append_assoc, List.cons_eq_cons,
            List.append_cancel_left_eq, List.singleton_append, List.cons_eq_cons, hcs]
          simp only [true_and, hnamed, not_false_eq_true, Unnamed]
      · by_cases hb : isBlank c = true
        · rw [replaceFrom, if_neg hc, if_pos hb, List.cons_eq_cons, List.append_cancel_left_eq,
            List.cons_eq_cons, hcs]
          simp only [true_and, Unnamed, encloses_broken hword hb]
        · rw [replaceFrom, if_neg hc, if_neg hb]
          have hlonger : ∀ code ∈ some (c :: word), IsCode code := by
            rintro _ ⟨⟩
            refine List.forall_mem_cons.mpr ⟨⟨hc, by simpa using hb⟩, hstate word rfl⟩
          simpa [pending] using ih _ hlonger

/-- A text stays as it is if and only if none of its codes names an emoji. -/
theorem replace_eq_self_iff {cs : List Char} : replace cs = cs ↔ Unnamed cs :=
  replaceFrom_eq_iff none nofun cs

lemma forall_mem_replaceFrom {P : Char → Prop} (hshown : ∀ c, isShown c = true → P c)
    (state : Option (List Char)) {cs : List Char} (hstate : ∀ c ∈ pending state, P c)
    (hcs : ∀ c ∈ cs, P c) : ∀ c ∈ replaceFrom state cs, P c := by
  induction cs generalizing state with
  | nil =>
    cases state with
    | none => exact nofun
    | some word => exact hstate
  | cons c cs ih =>
    obtain ⟨hc, hcs⟩ := List.forall_mem_cons.mp hcs
    have hrest := ih none nofun hcs
    rw [replaceFrom.eq_def]
    cases state with
    | none =>
      dsimp only
      split
      · rename_i hcolon
        rw [hcolon] at hc
        exact ih _ (by simpa [pending] using hc) hcs
      · exact List.forall_mem_cons.mpr ⟨hc, hrest⟩
    | some word =>
      obtain ⟨hcolon, hword⟩ := List.forall_mem_cons.mp hstate
      dsimp only
      split
      · refine List.forall_mem_append.mpr ⟨?_, hrest⟩
        by_cases hnamed : IsNamed word.reverse
        · exact fun d hd => hshown d ((shownFor_named hnamed).2 d hd)
        · rw [shownFor_unnamed hnamed]
          exact List.forall_mem_cons.mpr ⟨hcolon, List.forall_mem_append.mpr
            ⟨hword, by simpa using hcolon⟩⟩
      · split
        · exact List.forall_mem_cons.mpr ⟨hcolon, List.forall_mem_append.mpr
            ⟨hword, List.forall_mem_cons.mpr ⟨hc, hrest⟩⟩⟩
        · refine ih _ ?_ hcs
          rw [pending, List.reverse_cons]
          exact List.forall_mem_cons.mpr ⟨hcolon, List.forall_mem_append.mpr
            ⟨hword, by simpa using hc⟩⟩

/-- All characters of a text with its codes replaced stood there or are those of emoji. -/
lemma forall_mem_replace {P : Char → Prop} (hshown : ∀ c, isShown c = true → P c)
    {cs : List Char} (hcs : ∀ c ∈ cs, P c) : ∀ c ∈ replace cs, P c :=
  forall_mem_replaceFrom hshown none nofun hcs

end ProbeCatalog.Emoji
