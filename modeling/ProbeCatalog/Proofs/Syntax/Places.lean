import Mathlib.Data.List.Basic
import Mathlib.Tactic.Tauto
import ProbeCatalog.Syntax.Statements

/-!
# Places in a tree

A statement of a tree is named by a place: its number in the outermost block, then its number
among the statements directly inside that one, and so on. `everyStatement` goes through all
places once, those inside a statement before the statement, and else in the order of numbers.
-/
namespace ProbeCatalog.Syntax

/-- The numbers on the way to a statement. -/
abbrev Place := List Nat

/-- The statements directly inside a statement, in the order of the source. -/
def children : Stmt → Block
  | .functionDef f => f.body
  | .classDef c => c.body
  | .forLoop _ _ _ body orelse => body ++ orelse
  | .whileLoop _ body orelse => body ++ orelse
  | .branch _ body orelse => body ++ orelse
  | .withBlock _ _ body => body
  | .matching _ cases => cases.flatMap (·.body)
  | .tryBlock _ body handlers orelse final =>
    body ++ handlers.flatMap (·.body) ++ orelse ++ final
  | _ => []

/-- The statement at a place. -/
def stmtAt? : Block → Place → Option (Located Stmt)
  | _, [] => none
  | block, [i] => block[i]?
  | block, i :: j :: rest => block[i]?.bind fun s => stmtAt? (children s.value) (j :: rest)

/-- What is inside a statement comes before it; of two places that part, the one comes first
that turns to the smaller number. -/
def Place.Before : Place → Place → Prop
  | [], _ => False
  | _ :: _, [] => True
  | i :: p, j :: q => i < j ∨ i = j ∧ Before p q

/-! ### Induction over a tree -/

section

variable {P : Block → Prop}

mutual

lemma children_of_steps (nil : P [])
    (cons : ∀ s rest, P (children s.value) → P rest → P (s :: rest)) :
    (s : Stmt) → P (children s)
  | .functionDef ⟨isAsync, name, params, returns, body, decorators⟩ => by
    rw [children, ← List.append_nil body]
    exact append_of_steps nil cons body [] nil
  | .classDef ⟨name, bases, keywords, body, decorators⟩ => by
    rw [children, ← List.append_nil body]
    exact append_of_steps nil cons body [] nil
  | .forLoop isAsync target source body orelse => by
    rw [children, ← List.append_nil orelse]
    exact append_of_steps nil cons body _ (append_of_steps nil cons orelse [] nil)
  | .whileLoop test body orelse => by
    rw [children, ← List.append_nil orelse]
    exact append_of_steps nil cons body _ (append_of_steps nil cons orelse [] nil)
  | .branch test body orelse => by
    rw [children, ← List.append_nil orelse]
    exact append_of_steps nil cons body _ (append_of_steps nil cons orelse [] nil)
  | .withBlock isAsync items body => by
    rw [children, ← List.append_nil body]
    exact append_of_steps nil cons body [] nil
  | .matching subject cases => by
    rw [children, ← List.append_nil (cases.flatMap _)]
    exact cases_of_steps nil cons cases [] nil
  | .tryBlock grouped body handlers orelse final => by
    rw [children, ← List.append_nil final, List.append_assoc, List.append_assoc]
    exact append_of_steps nil cons body _ (handlers_of_steps nil cons handlers _
      (append_of_steps nil cons orelse _ (append_of_steps nil cons final [] nil)))
  | .returning _ | .delete _ | .assign _ _ | .augAssign _ _ _ | .annAssign _ _ _ _
  | .raising _ _ | .assertion _ _ | .importing _ | .importingFrom _ _ _ | .globals _
  | .nonlocals _ | .expression _ | .pass | .breakLoop | .continueLoop => nil

lemma append_of_steps (nil : P [])
    (cons : ∀ s rest, P (children s.value) → P rest → P (s :: rest)) :
    (b : Block) → ∀ c, P c → P (b ++ c)
  | [] => fun _ hc => hc
  | ⟨pos, s⟩ :: rest => fun c hc =>
    cons ⟨pos, s⟩ (rest ++ c) (children_of_steps nil cons s) (append_of_steps nil cons rest c hc)

lemma handlers_of_steps (nil : P [])
    (cons : ∀ s rest, P (children s.value) → P rest → P (s :: rest)) :
    (hs : List Handler) → ∀ c, P c → P (hs.flatMap (·.body) ++ c)
  | [] => fun _ hc => hc
  | ⟨type, name, body⟩ :: hs => fun c hc => by
    rw [List.flatMap_cons, List.append_assoc]
    exact append_of_steps nil cons body _ (handlers_of_steps nil cons hs c hc)

lemma cases_of_steps (nil : P [])
    (cons : ∀ s rest, P (children s.value) → P rest → P (s :: rest)) :
    (cs : List Case) → ∀ c, P c → P (cs.flatMap (·.body) ++ c)
  | [] => fun _ hc => hc
  | ⟨pattern, guard, body⟩ :: cs => fun c hc => by
    rw [List.flatMap_cons, List.append_assoc]
    exact append_of_steps nil cons body _ (cases_of_steps nil cons cs c hc)

end

/-- Induction over a tree: along a block, and into each of its statements. -/
theorem block_induction (nil : P [])
    (cons : ∀ s rest, P (children s.value) → P rest → P (s :: rest)) (b : Block) : P b := by
  rw [← List.append_nil b]
  exact append_of_steps nil cons b [] nil

end

/-! ### All statements -/

lemma everyStatement_append (b c : Block) :
    everyStatement (b ++ c) = everyStatement b ++ everyStatement c := by
  induction b with
  | nil => rfl
  | cons s b ih =>
    obtain ⟨pos, s⟩ := s
    rw [List.cons_append, everyStatement, everyStatement, ih, List.append_assoc]

lemma inHandlers_eq (hs : List Handler) :
    inHandlers hs = everyStatement (hs.flatMap (·.body)) := by
  induction hs with
  | nil => rfl
  | cons h hs ih =>
    obtain ⟨type, name, body⟩ := h
    rw [inHandlers, ih, List.flatMap_cons, everyStatement_append]

lemma inCases_eq (cs : List Case) : inCases cs = everyStatement (cs.flatMap (·.body)) := by
  induction cs with
  | nil => rfl
  | cons c cs ih =>
    obtain ⟨pattern, guard, body⟩ := c
    rw [inCases, ih, List.flatMap_cons, everyStatement_append]

lemma nested_eq (pos : Position) (s : Stmt) :
    nested pos s = everyStatement (children s) ++ [⟨pos, s⟩] := by
  cases s with
  | functionDef f => rw [nested]; rfl
  | classDef c => rw [nested]; rfl
  | matching subject cases => rw [nested, inCases_eq]; rfl
  | tryBlock grouped body handlers orelse final =>
    rw [nested, inHandlers_eq, children, everyStatement_append, everyStatement_append,
      everyStatement_append]
  | forLoop isAsync target source body orelse => rw [nested, children, everyStatement_append]
  | whileLoop test body orelse => rw [nested, children, everyStatement_append]
  | branch test body orelse => rw [nested, children, everyStatement_append]
  | withBlock isAsync items body => rw [nested, children]
  | _ => rfl

lemma everyStatement_cons (s : Located Stmt) (rest : Block) :
    everyStatement (s :: rest) =
      everyStatement (children s.value) ++ s :: everyStatement rest := by
  obtain ⟨pos, s⟩ := s
  rw [everyStatement, nested_eq, List.append_assoc, List.singleton_append]

lemma mem_everyStatement {s : Located Stmt} {block : Block} (h : s ∈ block) :
    s ∈ everyStatement block := by
  induction block with
  | nil => cases h
  | cons t rest ih =>
    rw [everyStatement_cons]
    rcases List.mem_cons.mp h with rfl | h
    · exact List.mem_append_right _ List.mem_cons_self
    · exact List.mem_append_right _ (List.mem_cons_of_mem t (ih h))

/-! ### Their places -/

lemma stmtAt?_nil (p : Place) : stmtAt? [] p = none := by
  match p with
  | [] => rfl
  | [i] => rfl
  | i :: j :: rest => rfl

lemma stmtAt?_first (s : Located Stmt) (rest : Block) {p : Place} (h : p ≠ []) :
    stmtAt? (s :: rest) (0 :: p) = stmtAt? (children s.value) p := by
  match p with
  | [] => exact absurd rfl h
  | j :: p => rfl

lemma stmtAt?_later (s : Located Stmt) (rest : Block) (i : Nat) (p : Place) :
    stmtAt? (s :: rest) ((i + 1) :: p) = stmtAt? rest (i :: p) := by
  match p with
  | [] => rfl
  | j :: p => rfl

/-- The place after the next statement was put in front of the block. -/
def Place.later : Place → Place
  | [] => []
  | i :: p => (i + 1) :: p

/-- The statements with their places: all of them in order. -/
structure Places (block : Block) (placed : List (Place × Located Stmt)) : Prop where
  statements : placed.map (·.2) = everyStatement block
  ordered : placed.Pairwise fun x y => x.1.Before y.1
  complete : ∀ p s, (p, s) ∈ placed ↔ stmtAt? block p = some s

lemma Places.ne_nil {block : Block} {placed : List (Place × Located Stmt)}
    (h : Places block placed) {x : Place × Located Stmt} (hx : x ∈ placed) : x.1 ≠ [] := by
  obtain ⟨p, s⟩ := x
  rintro rfl
  cases (h.complete _ _).mp hx

lemma Place.before_later {p q : Place} (h : p.Before q) : p.later.Before q.later := by
  match p, q with
  | [], _ => exact absurd h id
  | i :: p, [] => trivial
  | i :: p, j :: q =>
    rcases h with h | ⟨rfl, h⟩
    · exact Or.inl (Nat.succ_lt_succ h)
    · exact Or.inr ⟨rfl, h⟩

lemma Place.before_nil {p : Place} (h : p ≠ []) : p.Before [] := by
  match p with
  | [] => exact absurd rfl h
  | i :: p => trivial

lemma Place.before_of_zero (p : Place) {q : Place} (h : q ≠ []) :
    Place.Before (0 :: p) q.later := by
  match q with
  | [] => exact absurd rfl h
  | j :: q => exact Or.inl (Nat.succ_pos j)

/-- The places in a block from those in its first statement and those in the rest. -/
lemma Places.cons {s : Located Stmt} {rest : Block}
    {inner outer : List (Place × Located Stmt)} (hinner : Places (children s.value) inner)
    (houter : Places rest outer) :
    Places (s :: rest) (inner.map (fun x => (0 :: x.1, x.2)) ++
      ([0], s) :: outer.map (fun x => (x.1.later, x.2))) where
  statements := by
    rw [everyStatement_cons, ← hinner.statements, ← houter.statements]
    simp only [List.map_append, List.map_map, List.map_cons, Function.comp_def]
  ordered := by
    rw [List.pairwise_append, List.pairwise_cons, List.pairwise_map, List.pairwise_map]
    refine ⟨hinner.ordered.imp fun h => Or.inr ⟨rfl, h⟩,
      ⟨?_, houter.ordered.imp Place.before_later⟩, ?_⟩
    · intro y hy
      obtain ⟨y, hy', rfl⟩ := List.mem_map.mp hy
      exact Place.before_of_zero [] (houter.ne_nil hy')
    · intro x hx y hy
      obtain ⟨x, hx', rfl⟩ := List.mem_map.mp hx
      rcases List.mem_cons.mp hy with rfl | hy
      · exact Or.inr ⟨rfl, Place.before_nil (hinner.ne_nil hx')⟩
      · obtain ⟨y, hy', rfl⟩ := List.mem_map.mp hy
        exact Place.before_of_zero _ (houter.ne_nil hy')
  complete p t := by
    simp only [List.mem_append, List.mem_cons, List.mem_map, Prod.mk.injEq, Prod.exists]
    constructor
    · rintro (⟨q, t, hq, rfl, rfl⟩ | ⟨rfl, rfl⟩ | ⟨q, t, hq, rfl, rfl⟩)
      · rw [stmtAt?_first s rest (hinner.ne_nil hq)]
        exact (hinner.complete q t).mp hq
      · rfl
      · match q, houter.ne_nil hq with
        | [], h => exact absurd rfl h
        | i :: q, _ =>
          rw [Place.later, stmtAt?_later]
          exact (houter.complete (i :: q) t).mp hq
    · intro h
      match p with
      | [] => cases h
      | [0] => exact Or.inr (Or.inl ⟨rfl, (Option.some.inj h).symm⟩)
      | 0 :: j :: q =>
        rw [stmtAt?_first s rest (List.cons_ne_nil j q)] at h
        exact Or.inl ⟨j :: q, t, (hinner.complete _ _).mpr h, rfl, rfl⟩
      | (i + 1) :: q =>
        rw [stmtAt?_later] at h
        exact Or.inr (Or.inr ⟨i :: q, t, (houter.complete _ _).mpr h, rfl, rfl⟩)

/-- Every tree has a list of its statements with their places. -/
theorem exists_places (block : Block) : ∃ placed, Places block placed := by
  induction block using block_induction with
  | nil =>
    refine ⟨[], rfl, List.Pairwise.nil, fun p s => ?_⟩
    rw [stmtAt?_nil]
    exact iff_of_false List.not_mem_nil nofun
  | cons s rest ihs ihrest =>
    obtain ⟨inner, hinner⟩ := ihs
    obtain ⟨outer, houter⟩ := ihrest
    exact ⟨_, hinner.cons houter⟩

end ProbeCatalog.Syntax
