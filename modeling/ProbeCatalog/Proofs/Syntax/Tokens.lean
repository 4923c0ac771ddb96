import Mathlib.Data.List.TakeWhile
import ProbeCatalog.Proofs.Outcome
import ProbeCatalog.Proofs.Text.Words
import ProbeCatalog.Syntax.Lexer

/-!
# Tokens of a source

A name that the lexer finds is a word, whatever the source. Tokens stand in the order of their
lines, and what comes after a line end stands on a later line.
-/
namespace ProbeCatalog.Syntax

open Lexer

/-- A name is a word; other tokens may be anything. -/
def Token.IsFine : Token → Prop
  | .name spelling => ∀ c ∈ spelling, isWordChar c = true
  | _ => True

/-- All names among the tokens are words. -/
def Fine (tokens : List Lexeme) : Prop := ∀ t ∈ tokens, t.value.IsFine

lemma Fine.of_suffix {tokens rest : List Lexeme} (h : Fine tokens) (hrest : rest <:+ tokens) :
    Fine rest := fun t ht => h t (hrest.subset ht)

/-- A token that stands within a line. -/
def Token.IsInner (t : Token) : Prop := t.IsFine ∧ t ≠ .newline

/-- Tokens as they are laid out from a line on. -/
inductive Laid : Nat → List Lexeme → Prop
  | finish (pos : Position) : Laid pos.line [⟨pos, .finish⟩]
  | inner {pos : Position} {t : Token} {tokens : List Lexeme} (ht : t.IsInner)
      (h : Laid pos.line tokens) : Laid pos.line (⟨pos, t⟩ :: tokens)
  | lineEnd {pos : Position} {tokens : List Lexeme} (h : Laid (pos.line + 1) tokens) :
      Laid pos.line (⟨pos, .newline⟩ :: tokens)
  | skip {line line' : Nat} {tokens : List Lexeme} (hle : line ≤ line') (h : Laid line' tokens) :
      Laid line tokens

/-- The second token may come after the first: on no earlier line, and on a later one than that of
a line end. -/
def Follows (t u : Lexeme) : Prop :=
  t.pos.line ≤ u.pos.line ∧ (t.value = .newline → t.pos.line < u.pos.line)

namespace Laid

variable {line : Nat} {tokens : List Lexeme}

lemma inners {pos : Position} {ts : List Token} (hts : ∀ t ∈ ts, t.IsInner)
    (h : Laid pos.line tokens) : Laid pos.line (ts.map (⟨pos, ·⟩) ++ tokens) := by
  induction ts with
  | nil => exact h
  | cons t ts ih =>
    obtain ⟨ht, hts⟩ := List.forall_mem_cons.mp hts
    exact .inner ht (ih hts)

lemma fine (h : Laid line tokens) : Fine tokens := by
  induction h with
  | finish pos => exact List.forall_mem_singleton.mpr trivial
  | inner ht _ ih => exact List.forall_mem_cons.mpr ⟨ht.1, ih⟩
  | lineEnd _ ih => exact List.forall_mem_cons.mpr ⟨trivial, ih⟩
  | skip _ _ ih => exact ih

lemma le_line (h : Laid line tokens) : ∀ t ∈ tokens, line ≤ t.pos.line := by
  induction h with
  | finish pos => exact List.forall_mem_singleton.mpr le_rfl
  | inner _ _ ih => exact List.forall_mem_cons.mpr ⟨le_rfl, ih⟩
  | lineEnd _ ih => exact List.forall_mem_cons.mpr ⟨le_rfl, fun t ht => Nat.le_of_succ_le (ih t ht)⟩
  | skip hle _ ih => exact fun t ht => hle.trans (ih t ht)

lemma pairwise (h : Laid line tokens) : tokens.Pairwise Follows := by
  induction h with
  | finish pos => exact List.pairwise_singleton _ _
  | inner ht h ih => exact .cons (fun u hu => ⟨h.le_line u hu, fun heq => absurd heq ht.2⟩) ih
  | lineEnd h ih =>
    refine .cons (fun u hu => ?_) ih
    have hlt := h.le_line u hu
    exact ⟨Nat.le_of_succ_le hlt, fun _ => hlt⟩
  | skip _ _ ih => exact ih

end Laid

lemma Position.line_le_advance (p : Position) (cs : List Char) : p.line ≤ (p.advance cs).line := by
  induction p, cs using Position.advance.induct with
  | case1 p => exact le_rfl
  | case2 p cs ih =>
    rw [Position.advance]
    exact Nat.le_of_succ_le ih
  | case3 p c cs hc ih =>
    rw [Position.advance]
    · exact ih
    · exact hc

namespace Lexer

lemma inner_stringFrom {literal : StringLiteral} {cs own rest : List Char} {t : Token}
    (h : stringFrom literal cs = some (t, own, rest)) : t.IsInner := by
  cases cs with
  | nil => cases h
  | cons q cs =>
    simp only [stringFrom, Option.map_eq_some_iff] at h
    obtain ⟨_, -, heq⟩ := h
    cases heq
    exact ⟨trivial, nofun⟩

lemma inner_word {cs own rest : List Char} {t : Token} (h : word cs = some (t, own, rest)) :
    t.IsInner := by
  have hletters : ∀ c ∈ cs.takeWhile isWordChar, isWordChar c = true := fun c hc =>
    List.mem_takeWhile_imp hc
  simp only [word] at h
  split at h
  · obtain ⟨⟨t', own', rest'⟩, hstring, heq⟩ := Option.map_eq_some_iff.mp h
    cases heq
    exact inner_stringFrom hstring
  · split at h
    · split at h
      · cases h
        exact ⟨trivial, nofun⟩
      · cases h
        exact ⟨hletters, nofun⟩
    · split at h
      · cases h
        exact ⟨hletters, nofun⟩
      · cases h

lemma inner_symbol {cs own rest : List Char} {t : Token} (h : symbol cs = some (t, own, rest)) :
    t.IsInner := by
  obtain ⟨_, -, heq⟩ := exists_of_firstM h
  obtain ⟨_, -, heq⟩ := Option.map_eq_some_iff.mp heq
  cases heq
  exact ⟨trivial, nofun⟩

lemma inner_token {cs own rest : List Char} {t : Token} (h : token cs = some (t, own, rest)) :
    t.IsInner := by
  cases cs with
  | nil => cases h
  | cons c cs =>
    simp only [token] at h
    split at h
    · exact inner_word h
    · split at h
      · exact inner_stringFrom h
      · split at h
        · obtain ⟨_, -, heq⟩ := Option.map_eq_some_iff.mp h
          cases heq
          exact ⟨trivial, nofun⟩
        · exact inner_symbol h

lemma inner_closeBlocks {m : Margin} {blocks left : List Margin} {tokens : List Token}
    (h : closeBlocks m blocks = some (tokens, left)) : ∀ t ∈ tokens, t.IsInner := by
  induction blocks generalizing tokens with
  | nil =>
    rw [closeBlocks] at h
    split at h
    · cases h
      exact List.forall_mem_nil _
    · cases h
  | cons top outer ih =>
    rw [closeBlocks] at h
    split at h
    · obtain ⟨⟨tokens', left'⟩, hclose, heq⟩ := Option.map_eq_some_iff.mp h
      cases heq
      exact List.forall_mem_cons.mpr ⟨⟨trivial, nofun⟩, ih hclose⟩
    · split at h
      · cases h
        exact List.forall_mem_nil _
      · cases h

lemma inner_indentation {m : Margin} {blocks left : List Margin} {tokens : List Token}
    (h : indentation m blocks = some (tokens, left)) : ∀ t ∈ tokens, t.IsInner := by
  simp only [indentation] at h
  split at h
  · split at h
    · cases h
    · cases h
      exact List.forall_mem_singleton.mpr ⟨trivial, nofun⟩
  · exact inner_closeBlocks h

lemma line_le_margin {m found : Margin} {continued : Nat} {pos start : Position}
    {cs rest : List Char} (h : margin m continued pos cs = some (found, start, rest)) :
    pos.line ≤ start.line := by
  induction m, continued, pos, cs using margin.induct with
  | case1 m continued pos cs ih => exact ih (by rwa [margin] at h)
  | case2 m continued pos cs ih => exact ih (by rwa [margin] at h)
  | case3 m continued pos cs ih => exact ih (by rwa [margin] at h)
  | case4 m continued pos cs hempty =>
    rw [margin, if_pos hempty] at h
    cases h
  | case5 m continued pos cs hempty ih =>
    rw [margin, if_neg hempty] at h
    exact Nat.le_of_succ_le (ih h)
  | case6 m continued pos cs hblank htab hfeed hslash hhead =>
    simp only [margin, hhead, if_true] at h
    cases h
  | case7 m continued pos cs hblank htab hfeed hslash hhead =>
    simp only [margin, hhead, if_false] at h
    cases h
    exact le_rfl

/-- A step of the lexer gives a token, or goes on in the same line or a later one. -/
lemma laid_lexFrom {fuel : Nat} {st : LexState} {pos : Position} {cs : List Char}
    {tokens : List Lexeme} (h : lexFrom fuel st pos cs = some tokens) : Laid pos.line tokens := by
  induction fuel generalizing st pos cs tokens with
  | zero => cases h
  | succ fuel ih =>
    rw [lexFrom.eq_def] at h
    simp only at h
    split at h
    · -- At the start of a line stand the tokens of its margin.
      obtain ⟨⟨m, start, rest⟩, hmargin, h⟩ := Option.bind_eq_some_iff.mp h
      refine .skip (line_le_margin hmargin) ?_
      simp only at h
      split at h
      · split at h
        · exact .skip ((start.line_le_advance _).trans (Nat.le_succ _)) (ih h)
        · exact .skip (start.line_le_advance _) (ih h)
      · exact .skip (Nat.le_succ _) (ih h)
      · obtain ⟨⟨closed, blocks⟩, hindentation, h⟩ := Option.bind_eq_some_iff.mp h
        obtain ⟨lexemes, hlex, h⟩ := Option.bind_eq_some_iff.mp h
        cases h
        exact .inners (inner_indentation hindentation) (ih hlex)
    · split at h
      · split at h
        · cases h
          exact .finish pos
        · cases h
      · exact .skip (pos.line_le_advance _) (ih h)
      · split at h
        · obtain ⟨lexemes, hlex, h⟩ := Option.bind_eq_some_iff.mp h
          cases h
          exact .lineEnd (ih hlex)
        · exact .skip (Nat.le_succ _) (ih h)
      · split at h
        · cases h
        · exact .skip (Nat.le_succ _) (ih h)
      · split at h
        · have hrest := ih h
          exact hrest
        · obtain ⟨⟨t, own, rest⟩, htoken, h⟩ := Option.bind_eq_some_iff.mp h
          obtain ⟨brackets, -, h⟩ := Option.bind_eq_some_iff.mp h
          obtain ⟨lexemes, hlex, h⟩ := Option.bind_eq_some_iff.mp h
          cases h
          exact .inner (inner_token htoken) (.skip (pos.line_le_advance own) (ih hlex))

/-- The tokens of a source are laid out from its first line on. -/
theorem laid_lexLines {cs : List Char} {tokens : List Lexeme} (h : lexLines cs = some tokens) :
    Laid 1 tokens := by
  rw [lexLines] at h
  split at h
  · cases h
  · exact laid_lexFrom h

/-- The names of a source are words. -/
theorem fine_lexLines {cs : List Char} {tokens : List Lexeme} (h : lexLines cs = some tokens) :
    Fine tokens := (laid_lexLines h).fine

end Lexer

end ProbeCatalog.Syntax
