import Mathlib.Data.List.Basic
import ProbeCatalog.Syntax.Lexer

/-!
# Strings inside of a text

A text of a program is cut at separators, but not at those inside of its string literals. Whether
a place is inside of a literal is told by a machine that reads the text from the left. A text is
whole if the machine has left all literals at its end and has met no separator outside of them;
whole texts with separators between them are what the text is cut into.
-/
namespace ProbeCatalog.Strings

open Syntax.Lexer (isQuote)

/-- What is known of a place in a text. -/
inductive Mode
  /-- Outside of literals. -/
  | code
  /-- After the first quote of a literal. -/
  | opened (quote : Char)
  /-- After two quotes, which are an empty literal or begin long quotes. -/
  | closed (quote : Char)
  /-- Between short quotes. -/
  | short (quote : Char)
  /-- After a backslash between short quotes. -/
  | shortEscape (quote : Char)
  /-- Between long quotes, after some quotes that have not closed the literal. -/
  | long (quote : Char) (count : Nat)
  /-- After a backslash between long quotes. -/
  | longEscape (quote : Char)

namespace Mode

/-- The mode after a character outside of literals. -/
def start (c : Char) : Mode := if isQuote c then .opened c else .code

/-- The mode after one more character. -/
def step : Mode → Char → Mode
  | .code, c => start c
  | .opened q, c => if c = q then .closed q else if c = '\\' then .shortEscape q else .short q
  | .closed q, c => if isQuote c && c = q then .long q 0 else start c
  | .short q, c => if c = q then .code else if c = '\\' then .shortEscape q else .short q
  | .shortEscape q, _ => .short q
  | .long q n, c =>
    if c = q then (if n = 2 then .code else .long q (n + 1))
    else if c = '\\' then .longEscape q else .long q 0
  | .longEscape q, _ => .long q 0

/-- The place may be outside of literals. -/
def isCode : Mode → Bool
  | .code | .closed _ => true
  | _ => false

end Mode

/-- The text is read from one mode to another, and no separator stands where the place may be
outside of literals. -/
inductive Reads (sep : Char → Bool) : Mode → List Char → Mode → Prop
  | nil {m : Mode} : Reads sep m [] m
  | cons {m m' : Mode} {c : Char} {cs : List Char} (h : m.isCode = true → sep c = false)
      (hr : Reads sep (m.step c) cs m') : Reads sep m (c :: cs) m'

/-- The text has no separator outside of its literals, and all of them end in it. -/
def Whole (sep : Char → Bool) (cs : List Char) : Prop :=
  ∃ m, m.isCode = true ∧ Reads sep .code cs m

/-- The text is whole, and does not end where a quote could still go on with a literal. -/
def Sealed (sep : Char → Bool) (cs : List Char) : Prop := Reads sep .code cs .code

/-- The text is cut at separators outside of literals. -/
def cut (sep : Char → Bool) : Mode → List Char → List (List Char)
  | _, [] => [[]]
  | m, c :: cs =>
    if m.isCode && sep c then [] :: cut sep .code cs
    else match cut sep (m.step c) cs with
      | [] => [[c]]
      | piece :: pieces => (c :: piece) :: pieces

variable {sep : Char → Bool} {m m' m'' : Mode} {c : Char} {cs ds : List Char}

/-! ### Reading -/

lemma Reads.append (h : Reads sep m cs m') (h' : Reads sep m' ds m'') :
    Reads sep m (cs ++ ds) m'' := by
  induction h with
  | nil => exact h'
  | cons hc _ ih => exact .cons hc (ih h')

/-- Reading passes through each place of a text. -/
lemma Reads.split (h : Reads sep m (cs ++ ds) m') :
    ∃ n, Reads sep m cs n ∧ Reads sep n ds m' := by
  induction cs generalizing m with
  | nil => exact ⟨m, .nil, h⟩
  | cons c cs ih =>
    cases h with
    | cons hc hr =>
      obtain ⟨n, hcs, hds⟩ := ih hr
      exact ⟨n, .cons hc hcs, hds⟩

lemma Reads.mono {sep' : Char → Bool} (hsep : ∀ c, sep' c = true → sep c = true)
    (h : Reads sep m cs m') : Reads sep' m cs m' := by
  induction h with
  | nil => exact .nil
  | @cons m m' c cs hc _ ih =>
    refine .cons (fun hm => ?_) ih
    cases h : sep' c with
    | false => rfl
    | true => rw [hsep c h] at hc; cases hc hm

/-- Inside of a literal separators do not matter. -/
lemma Reads.inside (hm : m.isCode = false) (hr : Reads sep (m.step c) cs m') :
    Reads sep m (c :: cs) m' :=
  .cons (fun h => by rw [hm] at h; cases h) hr

/-- A text without separators and quotes. -/
def Plain (sep : Char → Bool) (cs : List Char) : Prop :=
  ∀ c ∈ cs, isQuote c = false ∧ sep c = false

instance : Decidable (Plain sep cs) :=
  List.decidableBAll (fun c => isQuote c = false ∧ sep c = false) cs

lemma start_of_not_quote (h : isQuote c = false) : Mode.start c = .code := by
  rw [Mode.start, h]
  rfl

lemma Plain.sealed (h : Plain sep cs) : Sealed sep cs := by
  induction cs with
  | nil => exact .nil
  | cons c cs ih =>
    obtain ⟨⟨hquote, hsep⟩, hcs⟩ := List.forall_mem_cons.mp h
    refine .cons (fun _ => hsep) ?_
    rw [Mode.step, start_of_not_quote hquote]
    exact ih hcs

lemma Sealed.whole (h : Sealed sep cs) : Whole sep cs := ⟨.code, rfl, h⟩

lemma Plain.whole (h : Plain sep cs) : Whole sep cs := h.sealed.whole

lemma Whole.mono {sep' : Char → Bool} (hsep : ∀ c, sep' c = true → sep c = true)
    (h : Whole sep cs) : Whole sep' cs := by
  obtain ⟨m, hm, h⟩ := h
  exact ⟨m, hm, h.mono hsep⟩

lemma Sealed.append (h : Sealed sep cs) (h' : Whole sep ds) : Whole sep (cs ++ ds) := by
  obtain ⟨m, hm, h'⟩ := h'
  exact ⟨m, hm, Reads.append h h'⟩

/-- Where a literal may have ended, a text that begins without a quote is read as code. -/
lemma Reads.of_code (hm : m.isCode = true) (hc : isQuote c = false)
    (h : Reads sep .code (c :: cs) m') : Reads sep m (c :: cs) m' := by
  cases m with
  | code => exact h
  | closed q =>
    cases h with
    | cons hsep hr =>
      refine .cons (fun _ => hsep rfl) ?_
      rw [Mode.step, hc]
      exact hr
  | _ => cases hm

/-- Two texts in a row are whole, unless a quote at the start of the second could go on with a
literal of the first. -/
lemma Whole.append (h : Whole sep cs) (h' : Whole sep ds)
    (hds : ∀ c ∈ ds.head?, isQuote c = false) : Whole sep (cs ++ ds) := by
  cases ds with
  | nil => rwa [List.append_nil]
  | cons c ds =>
    obtain ⟨m, hm, h⟩ := h
    obtain ⟨m', hm', h'⟩ := h'
    exact ⟨m', hm', h.append (h'.of_code hm (hds c rfl))⟩

lemma Whole.mark (h : Whole sep cs) (hds : Plain sep ds) (hne : ds ≠ []) :
    Sealed sep (cs ++ ds) := by
  cases ds with
  | nil => exact absurd rfl hne
  | cons c ds =>
    obtain ⟨m, hm, h⟩ := h
    exact h.append (Reads.of_code hm (hds c List.mem_cons_self).1 hds.sealed)

/-! ### Cutting -/

/-- What has been read belongs to the first piece. -/
lemma cut_append (h : Reads sep m cs m') {piece : List Char} {pieces : List (List Char)}
    (hcut : cut sep m' ds = piece :: pieces) :
    cut sep m (cs ++ ds) = (cs ++ piece) :: pieces := by
  induction h with
  | nil => exact hcut
  | @cons m m' c cs hsep _ ih =>
    have hbranch : (m.isCode && sep c) = false := by
      cases hm : m.isCode with
      | false => rfl
      | true => rw [hsep hm]; rfl
    rw [List.cons_append, cut, hbranch, ih hcut]
    rfl

lemma Whole.cut (h : Whole sep cs) : cut sep .code cs = [cs] := by
  obtain ⟨m, -, h⟩ := h
  have hcut : Strings.cut sep m [] = [[]] := rfl
  simpa using cut_append h hcut

lemma Whole.cut_append (h : Whole sep cs) (hc : sep c = true) :
    Strings.cut sep .code (cs ++ c :: ds) = cs :: Strings.cut sep .code ds := by
  obtain ⟨m, hm, h⟩ := h
  have hcut : Strings.cut sep m (c :: ds) = [] :: Strings.cut sep .code ds := by
    rw [Strings.cut, hm, hc]
    rfl
  simpa using Strings.cut_append h hcut

/-- Whole texts, and the text that they make with separators between them. -/
inductive Pieces (sep : Char → Bool) : List (List Char) → List Char → Prop
  | single {t : List Char} (h : Whole sep t) : Pieces sep [t] t
  | cons {t text : List Char} {ts : List (List Char)} {c : Char} (h : Whole sep t)
      (hc : sep c = true) (hrest : Pieces sep ts text) : Pieces sep (t :: ts) (t ++ c :: text)

/-- Whole texts are found again when they are cut apart. -/
lemma Pieces.cut {ts : List (List Char)} (h : Pieces sep ts cs) :
    Strings.cut sep .code cs = ts := by
  induction h with
  | single h => exact h.cut
  | cons h hc _ ih => rw [h.cut_append hc, ih]

lemma Pieces.append {ts us : List (List Char)} (h : Pieces sep ts cs) (hc : sep c = true)
    (h' : Pieces sep us ds) : Pieces sep (ts ++ us) (cs ++ c :: ds) := by
  induction h with
  | single h => exact .cons h hc h'
  | @cons t text ts d h hd _ ih =>
    rw [List.cons_append, List.append_assoc, List.cons_append]
    exact .cons h hd ih

/-- A text is whole for another separator, if its pieces are and the marks between them are none. -/
lemma Pieces.whole {sep' : Char → Bool} {ts : List (List Char)} (h : Pieces sep ts cs)
    (hsep : ∀ c, sep c = true → isQuote c = false ∧ sep' c = false)
    (hts : ∀ t ∈ ts, Whole sep' t) : Whole sep' cs := by
  induction h with
  | single _ => exact hts _ List.mem_cons_self
  | @cons t text ts c _ hc _ ih =>
    obtain ⟨ht, hts⟩ := List.forall_mem_cons.mp hts
    have hmark : Plain sep' [c] := List.forall_mem_singleton.mpr (hsep c hc)
    rw [List.append_cons]
    exact (ht.mark hmark (List.cons_ne_nil _ _)).append (ih hts)

lemma pieces_intercalate {ts : List (List Char)} (hc : sep c = true) (hne : ts ≠ [])
    (h : ∀ t ∈ ts, Whole sep t) : Pieces sep ts ([c].intercalate ts) := by
  induction ts with
  | nil => exact absurd rfl hne
  | cons t ts ih =>
    obtain ⟨ht, hts⟩ := List.forall_mem_cons.mp h
    cases ts with
    | nil => simpa using Pieces.single ht
    | cons u ts =>
      rw [List.intercalate_cons_cons, List.append_assoc, List.singleton_append]
      exact .cons ht hc (ih (List.cons_ne_nil _ _) hts)

end ProbeCatalog.Strings
