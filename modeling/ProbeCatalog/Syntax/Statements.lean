import ProbeCatalog.Syntax.Tree

/-!
# The statements of a tree

`everyStatement` lists the statements at any depth, each after those inside it, and of
two that are not nested the one first that comes first in the source.
-/
namespace ProbeCatalog.Syntax

mutual

/-- A statement after those inside it. -/
def nested (pos : Position) : Stmt → List (Located Stmt)
  | .functionDef ⟨isAsync, name, params, returns, body, decorators⟩ =>
    everyStatement body ++
      [⟨pos, .functionDef ⟨isAsync, name, params, returns, body, decorators⟩⟩]
  | .classDef ⟨name, bases, keywords, body, decorators⟩ =>
    everyStatement body ++ [⟨pos, .classDef ⟨name, bases, keywords, body, decorators⟩⟩]
  | .forLoop isAsync target source body orelse =>
    everyStatement body ++ everyStatement orelse ++
      [⟨pos, .forLoop isAsync target source body orelse⟩]
  | .whileLoop test body orelse =>
    everyStatement body ++ everyStatement orelse ++ [⟨pos, .whileLoop test body orelse⟩]
  | .branch test body orelse =>
    everyStatement body ++ everyStatement orelse ++ [⟨pos, .branch test body orelse⟩]
  | .withBlock isAsync items body =>
    everyStatement body ++ [⟨pos, .withBlock isAsync items body⟩]
  | .matching subject cases =>
    inCases cases ++ [⟨pos, .matching subject cases⟩]
  | .tryBlock grouped body handlers orelse final =>
    everyStatement body ++ inHandlers handlers ++ everyStatement orelse ++ everyStatement final ++
      [⟨pos, .tryBlock grouped body handlers orelse final⟩]
  | s => [⟨pos, s⟩]

/-- The statements of a block at any depth. -/
def everyStatement : Block → List (Located Stmt)
  | [] => []
  | ⟨pos, s⟩ :: rest => nested pos s ++ everyStatement rest

/-- The statements of the handlers at any depth. -/
def inHandlers : List Handler → List (Located Stmt)
  | [] => []
  | ⟨_, _, body⟩ :: handlers => everyStatement body ++ inHandlers handlers

/-- The statements of the cases at any depth. -/
def inCases : List Case → List (Located Stmt)
  | [] => []
  | ⟨_, _, body⟩ :: cases => everyStatement body ++ inCases cases

end

/-- The class that a statement defines. -/
def class? : Located Stmt → Option (Located ClassDecl)
  | ⟨pos, .classDef c⟩ => some ⟨pos, c⟩
  | _ => none

/-- The classes of a block at any depth, each after the classes inside it. -/
def everyClass (block : Block) : List (Located ClassDecl) := (everyStatement block).filterMap class?

/-- What a statement imports. -/
def imports : Located Stmt → List ImportedName
  | ⟨_, .importing names⟩ => names
  | ⟨_, .importingFrom _ _ names⟩ => names
  | _ => []

/-- What is imported anywhere in a block. -/
def everyImport (block : Block) : List ImportedName := (everyStatement block).flatMap imports

end ProbeCatalog.Syntax
