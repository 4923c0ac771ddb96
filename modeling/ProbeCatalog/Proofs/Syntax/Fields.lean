import Mathlib.Algebra.Order.BigOperators.Group.List
import Mathlib.Algebra.Order.Group.Nat
import ProbeCatalog.Proofs.Syntax.Agreement
import ProbeCatalog.Proofs.Syntax.Likeness
import ProbeCatalog.Proofs.Syntax.Weights

/-!
# Fields of formatted strings

The source of a field is shorter than the string that it stands in, by the brace in front and what
follows. So parsers that agree on what costs less than a string read the same from its fields, and
adjacent strings have values that are alike.
-/
namespace ProbeCatalog.Syntax

namespace Formatted

/-- The sources of the fields, also of those in formats, are shorter than a bound by two. -/
inductive RawPiece.Within (bound : Nat) : RawPiece → Prop
  | literal (body : List Char) : Within bound (.literal body)
  | plain {source : List Char} (shown : Option (List Char)) (conversion : Option Conversion)
      (h : source.length + 2 ≤ bound) : Within bound (.field source shown conversion none)
  | shaped {source : List Char} (shown : Option (List Char)) (conversion : Option Conversion)
      {format : List RawPiece} (h : source.length + 2 ≤ bound)
      (hformat : ∀ p ∈ format, Within bound p) :
      Within bound (.field source shown conversion (some format))

/-! ### Lengths of parts -/

lemma put_eq_some {c : Char} {found : Option (List Char × Bool × List Char)} {text rest : List Char}
    {doubled : Bool} (h : literalPart.put c found = some (text, doubled, rest)) :
    ∃ text', found = some (text', doubled, rest) := by
  rw [literalPart.put] at h
  obtain ⟨⟨text', doubled', rest'⟩, hfound, heq⟩ := Option.map_eq_some_iff.mp h
  cases heq
  exact ⟨text', hfound⟩

lemma length_put {c d : Char} {found : Option (List Char × Bool × List Char)}
    {cs text rest : List Char} {doubled : Bool}
    (h : literalPart.put c found = some (text, doubled, rest))
    (hfound : ∀ text, found = some (text, doubled, rest) → rest.length ≤ cs.length) :
    rest.length ≤ (d :: cs).length := by
  obtain ⟨text', h'⟩ := put_eq_some h
  exact (hfound text' h').trans (Nat.le_succ _)

lemma length_literalPart {isNested isRaw inName doubled : Bool} {cs text rest : List Char} :
    literalPart isNested isRaw inName cs = some (text, doubled, rest) →
      rest.length ≤ cs.length := by
  fun_induction literalPart isNested isRaw inName cs generalizing text with
  | case1 =>
    intro h
    cases h
    exact le_rfl
  | case2 c cs ih => exact fun h => length_put h fun _ => ih
  | case3 c cs hbrace hnested =>
    intro h
    cases h
    exact le_rfl
  | case4 c cs hbrace hnested hdouble =>
    intro h
    cases h
    rw [List.length_drop, List.length_cons]
    omega
  | case5 => exact nofun
  | case6 c cs hbrace hnested hsingle hopen =>
    intro h
    cases h
    exact le_rfl
  | case7 c hbrace hescape rest ih =>
    exact fun h => length_put h fun _ h => length_put h fun _ h => length_put h fun _ => ih
  | case8 c hbrace hescape d rest hname hd ih => exact fun h => length_put h fun _ => ih
  | case9 c hbrace hescape d rest hname hd ih =>
    exact fun h => length_put h fun _ h => length_put h fun _ => ih
  | case10 c hbrace hescape =>
    intro h
    cases h
    exact Nat.zero_le _
  | case11 c cs hbrace hescape ih => exact fun h => length_put h fun _ => ih

/-- The source of a field and what follows it, which begins with the character that ended it. -/
lemma length_fieldSource {extra : Nat} {state : QuoteState} {brackets cs source rest : List Char} :
    fieldSource extra state brackets cs = some (source, rest) →
      source.length + rest.length ≤ cs.length ∧ 1 ≤ rest.length := by
  fun_induction fieldSource extra state brackets cs generalizing source with
  | case1 => exact nofun
  | case2 extra state brackets c cs ih =>
    intro h
    obtain ⟨⟨source', rest'⟩, hsource, heq⟩ := Option.map_eq_some_iff.mp h
    cases heq
    obtain ⟨hle, hrest⟩ := ih hsource
    simp only [List.length_cons]
    omega
  | case3 => exact nofun
  | case4 state brackets c cs hstop =>
    intro h
    cases h
    simp
  | case5 state brackets c cs extra state' brackets' htake ih =>
    intro h
    obtain ⟨⟨source', rest'⟩, hsource, heq⟩ := Option.map_eq_some_iff.mp h
    cases heq
    obtain ⟨hle, hrest⟩ := ih hsource
    simp only [List.length_cons]
    omega

lemma length_showMark (cs : List Char) : (showMark cs).2.length ≤ cs.length := by
  rw [showMark.eq_def]
  split
  · exact (List.length_dropWhile_le _ _).trans (Nat.le_succ _)
  · exact le_rfl

lemma length_conversionMark {cs rest : List Char} {conversion : Option Conversion}
    (h : conversionMark cs = some (conversion, rest)) : rest.length ≤ cs.length := by
  rw [conversionMark.eq_def] at h
  split at h
  · obtain ⟨_, -, heq⟩ := Option.map_eq_some_iff.mp h
    cases heq
    simp only [List.length_cons]
    omega
  · cases h
  · cases h
    exact le_rfl

/-- All pieces keep to the bound, and nothing is put in front of what follows them. -/
def Keeps (bound : Nat) (cs : List Char) (found : List RawPiece × List Char) : Prop :=
  (∀ p ∈ found.1, p.Within bound) ∧ found.2.length ≤ cs.length

/-- What follows a field: the brace that closes it, and more pieces. -/
lemma keeps_closed {isRaw : Bool} {bound fuel level : Nat} {cs afterFormat text : List Char}
    {field : RawPiece} {found : List RawPiece × List Char}
    (ih : ∀ rest found, splitFrom isRaw fuel level rest = some found → rest.length ≤ bound →
      Keeps bound rest found)
    (h : (match afterFormat with
      | '\x7d' :: rest => do
        let more ← splitFrom isRaw fuel level rest
        pure (.literal text :: field :: more.1, more.2)
      | _ => none) = some found)
    (hcs : cs.length ≤ bound) (hfield : field.Within bound) (hle : afterFormat.length ≤ cs.length) :
    Keeps bound cs found := by
  split at h
  · rename_i rest
    obtain ⟨⟨more, rest'⟩, hmore, h⟩ := Option.bind_eq_some_iff.mp h
    cases h
    rw [List.length_cons] at hle
    obtain ⟨hwithin, hrest⟩ := ih rest _ hmore (by omega)
    exact ⟨List.forall_mem_cons.mpr ⟨.literal text, List.forall_mem_cons.mpr ⟨hfield, hwithin⟩⟩,
      by dsimp only at hrest ⊢; omega⟩
  · cases h

lemma keeps_splitFrom {isRaw : Bool} {bound fuel level : Nat} {cs : List Char}
    {found : List RawPiece × List Char} (h : splitFrom isRaw fuel level cs = some found)
    (hcs : cs.length ≤ bound) : Keeps bound cs found := by
  induction fuel generalizing level cs found with
  | zero => cases h
  | succ fuel ih =>
    rw [splitFrom] at h
    obtain ⟨⟨text, doubled, afterText⟩, htext, h⟩ := Option.bind_eq_some_iff.mp h
    have hafterText := length_literalPart htext
    dsimp only at h
    split at h
    · obtain ⟨⟨more, rest'⟩, hmore, h⟩ := Option.bind_eq_some_iff.mp h
      cases h
      obtain ⟨hwithin, hrest⟩ := ih hmore (hafterText.trans hcs)
      exact ⟨List.forall_mem_cons.mpr ⟨.literal text, hwithin⟩, hrest.trans hafterText⟩
    · split at h
      · rename_i opened
        rw [List.length_cons] at hafterText
        obtain ⟨-, h⟩ := Option.ite_none_left_eq_some.mp h
        obtain ⟨⟨source, afterSource⟩, hsource, h⟩ := Option.bind_eq_some_iff.mp h
        obtain ⟨hsourceLength, hafterSource⟩ := length_fieldSource hsource
        dsimp only at h
        obtain ⟨-, h⟩ := Option.ite_none_left_eq_some.mp h
        obtain ⟨⟨conversion, afterConversion⟩, hconversion, h⟩ := Option.bind_eq_some_iff.mp h
        have hmark := length_showMark afterSource
        have hafterConversion := length_conversionMark hconversion
        have hbound : source.length + 2 ≤ bound := by omega
        split at h
        · rename_i hcolon
          obtain ⟨⟨format, afterFormat⟩, hformat, h⟩ := Option.bind_eq_some_iff.mp h
          obtain ⟨⟨pieces, rest⟩, hpieces, heq⟩ := Option.map_eq_some_iff.mp hformat
          cases heq
          dsimp only at hcolon
          rw [hcolon, List.length_cons] at hafterConversion
          obtain ⟨hwithin, hrest⟩ := ih hpieces (by omega)
          exact keeps_closed (fun _ _ h => ih h) h hcs (.shaped _ _ hbound hwithin)
            (by dsimp only at hrest ⊢; omega)
        · exact keeps_closed (fun _ _ h => ih h) h hcs (.plain _ _ hbound) (by dsimp only; omega)
      · cases h
        exact ⟨List.forall_mem_singleton.mpr (.literal text), hafterText⟩

lemma within_split {isRaw : Bool} {body : List Char} {pieces : List RawPiece}
    (h : split isRaw body = some pieces) : ∀ p ∈ pieces, p.Within body.length := by
  rw [split] at h
  split at h
  · rename_i heq
    cases h
    exact (keeps_splitFrom heq le_rfl).1
  · cases h

/-! ### Pieces that are alike -/

/-- Pieces of strings that differ in places only. -/
abbrev PiecesLike : List Piece → List Piece → Prop := List.Forall₂ (PieceOf.Like Expr.Like)

/-- A literal text in front of pieces of which the first is no literal text. -/
lemma cons_like {ps qs : List Piece} (text : Text) (h : PiecesLike ps qs) :
    PiecesLike (if text.isEmpty then ps else .literal text :: ps)
      (if text.isEmpty then qs else .literal text :: qs) := by
  split
  · exact h
  · exact .cons (.literal text) h

lemma joinLiterals_like {ps qs : List Piece} (h : PiecesLike ps qs) :
    PiecesLike (joinLiterals ps) (joinLiterals qs) := by
  induction h with
  | nil => exact .nil
  | @cons p q ps qs hpq _ ih =>
    cases hpq with
    | plain conversion h => exact .cons (.plain conversion h) ih
    | shaped conversion h hformat => exact .cons (.shaped conversion h hformat) ih
    | literal text =>
      rw [joinLiterals, joinLiterals]
      generalize joinLiterals ps = joined at ih ⊢
      generalize joinLiterals qs = joined' at ih ⊢
      cases ih with
      | nil => exact cons_like text List.Forall₂.nil
      | cons hfirst hrest =>
        cases hfirst with
        | literal text' => exact .cons (.literal _) hrest
        | plain conversion h => exact cons_like text (.cons (.plain conversion h) hrest)
        | shaped conversion h hformat =>
          exact cons_like text (.cons (.shaped conversion h hformat) hrest)

/-- The format of a field, if it has one. -/
abbrev FormatLike : Option (List Piece) → Option (List Piece) → Prop := Option.Rel PiecesLike

lemma field_like {value value' : Expr} (conversion : Option Conversion)
    {format format' : Option (List Piece)} (h : Expr.Like value value')
    (hformat : FormatLike format format') :
    PieceOf.Like Expr.Like (.field value conversion format) (.field value' conversion format') := by
  cases hformat with
  | none => exact .plain conversion h
  | some hformat => exact .shaped conversion h hformat

/-- A field, with its own text in front if it shows that. -/
lemma shown_like {value value' : Expr} (shown : Option (List Char)) (conversion : Option Conversion)
    {format format' : Option (List Piece)} {ps qs : List Piece} (h : Expr.Like value value')
    (hformat : FormatLike format format') (hps : PiecesLike ps qs) :
    Option.Rel PiecesLike
      (match shown with
        | none => pure (.field value conversion format :: ps)
        | some text =>
          let conversion := if conversion.isNone && format.isNone then some .repr else conversion
          pure (.literal (Text.ofChars text) :: .field value conversion format :: ps))
      (match shown with
        | none => pure (.field value' conversion format' :: qs)
        | some text =>
          let conversion := if conversion.isNone && format'.isNone then some .repr else conversion
          pure (.literal (Text.ofChars text) :: .field value' conversion format' :: qs)) := by
  cases shown with
  | none => exact .some (.cons (field_like conversion h hformat) hps)
  | some text =>
    have hnone : format.isNone = format'.isNone := by
      cases hformat <;> rfl
    dsimp only
    rw [hnone]
    exact .some (.cons (.literal _) (.cons (field_like _ h hformat) hps))

section

variable {read read' : List Char → Option Expr} {bound : Nat}
  (hread : ∀ source, source.length + 2 ≤ bound → Option.Rel Expr.Like (read source) (read' source))
include hread

/-- If the sources of the fields are read alike, the pieces are. -/
lemma resolve_like (isRaw : Bool) {raw : List RawPiece} (h : ∀ p ∈ raw, p.Within bound) :
    Option.Rel PiecesLike (resolve isRaw read raw) (resolve isRaw read' raw) := by
  match raw with
  | [] =>
    rw [resolve, resolve]
    exact .some .nil
  | .literal body :: rest =>
    obtain ⟨-, hrest⟩ := List.forall_mem_cons.mp h
    rw [resolve, resolve]
    refine rel_bind_self fun text _ => ?_
    exact rel_bind (resolve_like isRaw hrest) fun ps qs hps => .some (.cons (.literal text) hps)
  | .field source shown conversion none :: rest =>
    obtain ⟨hfield, hrest⟩ := List.forall_mem_cons.mp h
    cases hfield with
    | plain _ _ hsource =>
      rw [resolve, resolve]
      refine rel_bind (hread source hsource) fun value value' hvalue => ?_
      refine rel_bind (R := FormatLike) (.some .none) fun format format' hformat => ?_
      exact rel_bind (resolve_like isRaw hrest) fun ps qs hps =>
        shown_like shown conversion hvalue hformat hps
  | .field source shown conversion (some format) :: rest =>
    obtain ⟨hfield, hrest⟩ := List.forall_mem_cons.mp h
    cases hfield with
    | shaped _ _ hsource hformat =>
      rw [resolve, resolve]
      refine rel_bind (hread source hsource) fun value value' hvalue => ?_
      refine rel_bind (R := FormatLike) ?_ fun format format' hformat => ?_
      · exact rel_map (resolve_like isRaw hformat) fun ps qs hps => .some (joinLiterals_like hps)
      · exact rel_bind (resolve_like isRaw hrest) fun ps qs hps =>
          shown_like shown conversion hvalue hformat hps
termination_by sizeOf raw

end

end Formatted

namespace Expression

open ProbeCatalog.Syntax.Parser
open Formatted (PiecesLike resolve_like joinLiterals_like within_split)

lemma mapM_rel {α β γ : Type} {R : β → γ → Prop} {f : α → Option β} {g : α → Option γ}
    {as : List α} (h : ∀ a ∈ as, Option.Rel R (f a) (g a)) :
    Option.Rel (List.Forall₂ R) (as.mapM f) (as.mapM g) := by
  induction as with
  | nil => exact .some .nil
  | cons a as ih =>
    obtain ⟨hfirst, hmore⟩ := List.forall_mem_cons.mp h
    rw [List.mapM_cons, List.mapM_cons]
    exact rel_bind hfirst fun b c hbc =>
      rel_bind (ih hmore) fun bs cs hbcs => .some (.cons hbc hbcs)

section

variable {read read' : List Char → Option Expr} {n : Nat}
  (hread : ∀ source, source.length + 3 < n → Option.Rel Expr.Like (read source) (read' source))
include hread

lemma piecesOf_like {literal : StringLiteral} (h : span literal ≤ n) :
    Option.Rel PiecesLike (piecesOf read literal) (piecesOf read' literal) := by
  have hfield (source : List Char) (hsource : source.length + 2 ≤ literal.body.length) :
      Option.Rel Expr.Like (read source) (read' source) := by
    refine hread source ?_
    rw [span] at h
    omega
  rw [piecesOf, piecesOf]
  split
  · cases hsplit : Formatted.split literal.isRaw literal.body with
    | none => exact .none
    | some raw => exact resolve_like hfield _ (within_split hsplit)
  · exact rel_map_self fun text => .cons (.literal text) .nil

/-- If the sources of the fields are read alike, the values of adjacent strings are. -/
lemma joinStrings_like {literals : List StringLiteral} (h : ∀ l ∈ literals, span l ≤ n) :
    Option.Rel Expr.Like (joinStrings read literals) (joinStrings read' literals) := by
  rw [joinStrings, joinStrings]
  split
  · exact rel_bind_self fun parts _ => .some (.constant _)
  · split
    · exact .none
    · split
      · refine rel_bind (mapM_rel fun l hl => piecesOf_like hread (h l hl)) fun ps qs hps => ?_
        exact .some (.formatted (joinLiterals_like (List.rel_flatten hps)))
      · exact rel_bind_self fun parts _ => .some (.constant _)

end

/-- The literal that a token is, if it is a string. -/
def literalOf? : Token → Option StringLiteral
  | .string literal => some literal
  | _ => none

lemma agrees_stringLiteral {n : Nat} : Agrees n stringLiteral stringLiteral Eq :=
  .ofToken (f := literalOf?) rfl fun ⟨_, v⟩ _ => by cases v <;> rfl

/-- The parsers agree on each kind of expression. -/
def Alike (n : Nat) (self self' : ExprParser) : Prop :=
  ∀ goal, Agrees n (self goal) (self' goal) ExprsLike

variable {n : Nat} {self self' : ExprParser} (hself : Alike n self self')
include hself

/-- The tokens of a field cost less than the string that it stands in. -/
lemma readField_like {source : List Char} (h : source.length + 3 < n) :
    Option.Rel Expr.Like (readField self source) (readField self' source) := by
  rw [readField, readField]
  cases htokens : Lexer.lexLines ('(' :: (source ++ [')', '\n'])) with
  | none => exact .none
  | some tokens =>
    have hcost := Lexer.cost_lexLines htokens
    simp only [List.length_cons, List.length_append, List.length_nil] at hcost
    have hsame : SameTokens tokens tokens := sameTokens_iff.mpr rfl
    change Option.Rel Expr.Like ((self .starExpressions tokens).bind fun x => some x.1.value)
      ((self' .starExpressions tokens).bind fun x => some x.1.value)
    exact rel_bind (hself .starExpressions tokens tokens hsame (by omega))
      fun _ _ h => .some h.result.value

lemma agrees_strings : Agrees (n + 1) (strings self) (strings self') Expr.Like := by
  have hspan (literal : StringLiteral) : 1 ≤ span literal := Nat.le_add_left 1 _
  refine .bindEarned (agrees_stringLiteral.many1.imp fun _ _ h => List.forall₂_eq_eq_eq ▸ h)
    (earns_stringLiteral.many1 hspan) fun literals literals' heq => ?_
  subst heq
  -- A literal that costs too much leaves nothing to agree on.
  by_cases hall : ∀ l ∈ literals, span l ≤ n
  · rcases rel_cases (joinStrings_like (fun _ => readField_like hself) hall) with
      ⟨hx, hy⟩ | ⟨e, e', hx, hy, he⟩
    · rw [hx, hy]
      exact .failure
    · rw [hx, hy]
      exact .pure he
  · push Not at hall
    obtain ⟨l, hl, hlong⟩ := hall
    have hle : span l ≤ (literals.map span).sum :=
      List.single_le_sum (fun _ _ => Nat.zero_le _) _ (List.mem_map_of_mem hl)
    have hzero : n + 1 - total span literals = 0 := by
      rw [total]
      omega
    rw [hzero]
    exact .zero

end Expression

end ProbeCatalog.Syntax
