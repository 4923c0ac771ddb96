import Mathlib.Data.List.Chain
import ProbeCatalog.Syntax.Formatted
import ProbeCatalog.Syntax.Lexer

/-!
# What trees from sources are made of

Two things hold of all expressions that are read from a source, and not of all that can be built:
their names are words, and in their formatted strings no two literal pieces stand side by side.
What stands in the fields of a formatted string does not matter here, since its text is a part of
a literal.
-/
namespace ProbeCatalog.Syntax

/-- The name is a word. -/
def IsWord (id : String) : Prop := ∀ c ∈ id.toList, Lexer.isWordChar c = true

/-- All parameters of a function, in the order in which they are written. -/
def ParamsOf.all {ε : Type} (ps : ParamsOf ε) : List (ParamOf ε) :=
  ps.positionalOnly ++ ps.positional ++ ps.variadic.toList ++ ps.keywordOnly ++
    ps.variadicKeyword.toList

/-- The piece is literal text. -/
def PieceOf.isLiteral {ε : Type} : PieceOf ε → Bool
  | .literal _ => true
  | .field _ _ _ => false

/-- No two literal pieces stand side by side. -/
def Joined {ε : Type} (ps : List (PieceOf ε)) : Prop :=
  ps.IsChain fun p q => ¬ (p.isLiteral = true ∧ q.isLiteral = true)

mutual

/-- An expression as it may be read from a source. -/
inductive Spelled : Expr → Prop
  | constant (c : Constant) : Spelled (.constant c)
  | name {id : String} (h : IsWord id) : Spelled (.name id)
  | attribute {value : Expr} {id : String} (hvalue : Spelled value) (h : IsWord id) :
      Spelled (.attribute value id)
  | subscript {value index : Expr} (hvalue : Spelled value) (hindex : Spelled index) :
      Spelled (.subscript value index)
  | call {function : Expr} {args : List Expr} {ks : List Keyword} (hfunction : Spelled function)
      (hargs : ∀ a ∈ args, Spelled a) (hks : ∀ k ∈ ks, KeywordSpelled k) :
      Spelled (.call function args ks)
  | unary (op : UnaryOp) {operand : Expr} (h : Spelled operand) : Spelled (.unary op operand)
  | binary (op : BinaryOp) {left right : Expr} (hleft : Spelled left) (hright : Spelled right) :
      Spelled (.binary op left right)
  | bool (op : BoolOp) {operands : List Expr} (h : ∀ e ∈ operands, Spelled e) :
      Spelled (.bool op operands)
  | compare {left : Expr} {rest : List (CompareOp × Expr)} (hleft : Spelled left)
      (hrest : ∀ r ∈ rest, Spelled r.2) : Spelled (.compare left rest)
  | conditional {test body orelse : Expr} (htest : Spelled test) (hbody : Spelled body)
      (horelse : Spelled orelse) : Spelled (.conditional test body orelse)
  | lambda {ps : Params} {body : Expr} (hps : ∀ p ∈ ps.all, ParamSpelled p)
      (hbody : Spelled body) : Spelled (.lambda ps body)
  | named {target : String} {value : Expr} (h : IsWord target) (hvalue : Spelled value) :
      Spelled (.named target value)
  | tuple {items : List Expr} (h : ∀ e ∈ items, Spelled e) : Spelled (.tuple items)
  | list {items : List Expr} (h : ∀ e ∈ items, Spelled e) : Spelled (.list items)
  | set {items : List Expr} (h : ∀ e ∈ items, Spelled e) : Spelled (.set items)
  | dict {items : List (Option Expr × Expr)} (hkeys : ∀ i ∈ items, ∀ k ∈ i.1, Spelled k)
      (hvalues : ∀ i ∈ items, Spelled i.2) : Spelled (.dict items)
  | listComp {item : Expr} {cs : List Clause} (hitem : Spelled item)
      (hcs : ∀ c ∈ cs, ClauseSpelled c) : Spelled (.listComp item cs)
  | setComp {item : Expr} {cs : List Clause} (hitem : Spelled item)
      (hcs : ∀ c ∈ cs, ClauseSpelled c) : Spelled (.setComp item cs)
  | dictComp {key value : Expr} {cs : List Clause} (hkey : Spelled key) (hvalue : Spelled value)
      (hcs : ∀ c ∈ cs, ClauseSpelled c) : Spelled (.dictComp key value cs)
  | generator {item : Expr} {cs : List Clause} (hitem : Spelled item)
      (hcs : ∀ c ∈ cs, ClauseSpelled c) : Spelled (.generator item cs)
  | await {value : Expr} (h : Spelled value) : Spelled (.await value)
  | yield {value : Option Expr} (h : ∀ e ∈ value, Spelled e) : Spelled (.yield value)
  | yieldFrom {value : Expr} (h : Spelled value) : Spelled (.yieldFrom value)
  | starred {value : Expr} (h : Spelled value) : Spelled (.starred value)
  | slice {lower upper step : Option Expr} (hlower : ∀ e ∈ lower, Spelled e)
      (hupper : ∀ e ∈ upper, Spelled e) (hstep : ∀ e ∈ step, Spelled e) :
      Spelled (.slice lower upper step)
  | formatted {ps : List Piece} (hjoined : Joined ps) : Spelled (.formatted ps)

/-- A keyword argument as it may be read from a source. -/
inductive KeywordSpelled : Keyword → Prop
  | intro {id : Option String} {value : Expr} (hid : ∀ i ∈ id, IsWord i)
      (hvalue : Spelled value) : KeywordSpelled ⟨id, value⟩

/-- A clause as it may be read from a source. -/
inductive ClauseSpelled : Clause → Prop
  | intro {isAsync : Bool} {target source : Expr} {conditions : List Expr}
      (htarget : Spelled target) (hsource : Spelled source)
      (hconditions : ∀ e ∈ conditions, Spelled e) :
      ClauseSpelled ⟨isAsync, target, source, conditions⟩

/-- A parameter as it may be read from a source. -/
inductive ParamSpelled : Param → Prop
  | intro {pos : Position} {id : String} {hint : Option Expr} {default : Option (Located Expr)}
      (hid : IsWord id) (hhint : ∀ e ∈ hint, Spelled e)
      (hdefault : ∀ d ∈ default, Spelled d.value) : ParamSpelled ⟨pos, id, hint, default⟩

end

/-! ### Literal pieces -/

namespace Formatted

variable {ε : Type}

lemma joined_joinLiterals (ps : List (PieceOf ε)) : Joined (joinLiterals ps) := by
  induction ps with
  | nil => exact List.IsChain.nil
  | cons p ps ih =>
    cases p with
    | field value conversion format =>
      rw [joinLiterals]
      · exact List.isChain_cons.mpr ⟨fun q _ h => (nomatch h.1), ih⟩
      · exact nofun
    | literal t =>
      rw [joinLiterals]
      split
      · rename_i u joined heq
        rw [heq, Joined, List.isChain_cons] at ih
        exact List.isChain_cons.mpr ⟨fun q hq h => ih.1 q hq ⟨rfl, h.2⟩, ih.2⟩
      · rename_i joined hother
        split
        · exact ih
        · refine List.isChain_cons.mpr ⟨fun q hq h => ?_, ih⟩
          cases q with
          | literal u =>
            obtain ⟨joined, heq⟩ := List.head?_eq_some_iff.mp hq
            exact hother u joined heq
          | field value conversion format => cases h.2

end Formatted

end ProbeCatalog.Syntax
