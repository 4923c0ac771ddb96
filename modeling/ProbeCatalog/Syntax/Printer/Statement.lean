import ProbeCatalog.Syntax.Printer.Expression

/-!
# The canonical text of statements

Statements are written as lines, indented by four blanks for each block around them.
An empty line stands before every class and function that is not the first thing
written. A string that begins the body of a class or function is its documentation and
stands between long quotes, its line breaks kept; it counts as one line here.
-/
namespace ProbeCatalog.Syntax.Printer

/-- A line at a depth. -/
def indented (depth : Nat) (s : String) : String :=
  String.ofList (List.replicate (4 * depth) ' ') ++ s

/-- The string that documents a class or function. -/
def documentation (text : Text) (marked : Bool) : String :=
  let written := Quotation.write Quotation.longQuotes text
  String.ofList (if marked then 'u' :: written else written)

/-- A value after a mark, if there is one. -/
def after (mark : String) : Option Expr → Printed String := maybe false mark

/-- Something imported, with the name it gets. -/
def importedName (n : ImportedName) : String :=
  match n.boundAs with
  | none => n.name
  | some id => n.name ++ " as " ++ id

/-- All that one statement imports. -/
def importedNames (ns : List ImportedName) : String := ", ".intercalate (ns.map importedName)

/-- A resource with its target. -/
def withItem (item : WithItem) : Printed String := do
  let s ← expr false .test item.context
  let t ← after " as " item.target
  pure (s ++ t)

/-- Targets of an assignment, each with its sign. -/
def assigned (targets : List Expr) : Printed String := do
  let ss ← exprs false .tuple targets
  pure (String.join (ss.map (· ++ " = ")))

/-- A text if a condition holds. -/
def bool (b : Bool) (s : String) : String := if b then s else ""

/-- A name that a part of a pattern may leave open. -/
def openName (name : Option String) : String := name.getD "_"

mutual

/-- A pattern at a place of a level. -/
def pattern (level : Level) : Pattern → Printed String
  | .value e => expr false .test e
  | .singleton c => constant false c
  | .wildcard => pure "_"
  | .capture id => pure id
  | .named p id => do
    let s ← pattern .bitOr p
    pure (bracketed level .test (s ++ " as " ++ id))
  | .either ps => do
    let ss ← patterns Level.bitOr.next ps
    pure (bracketed level .bitOr (" | ".intercalate ss))
  | .sequence ps => do
    let ss ← patterns .test ps
    pure ("[" ++ ", ".intercalate ss ++ "]")
  | .star id => pure ("*" ++ openName id)
  | .mapping items rest => do
    let ss ← entries items
    let tail := match rest with
      | none => []
      | some id => ["**" ++ id]
    pure ("\x7b" ++ ", ".intercalate (ss ++ tail) ++ "\x7d")
  | .record head positional keywords => do
    let s ← expr false .atom head
    let ps ← patterns .test positional
    let ks ← keywordPatterns keywords
    pure (s ++ "(" ++ ", ".intercalate (ps ++ ks) ++ ")")

/-- Patterns at one level. -/
def patterns (level : Level) : List Pattern → Printed (List String)
  | [] => pure []
  | p :: ps => do
    let s ← pattern level p
    let ss ← patterns level ps
    pure (s :: ss)

/-- The keys of a mapping pattern with their patterns. -/
def entries : List (Expr × Pattern) → Printed (List String)
  | [] => pure []
  | (k, p) :: items => do
    let key ← expr false .test k
    let s ← pattern .test p
    let ss ← entries items
    pure ((key ++ ": " ++ s) :: ss)

/-- The attributes of a class pattern with their patterns. -/
def keywordPatterns : List (String × Pattern) → Printed (List String)
  | [] => pure []
  | (id, p) :: items => do
    let s ← pattern .test p
    let ss ← keywordPatterns items
    pure ((id ++ "=" ++ s) :: ss)

end

/-- The lines of decorators. -/
def decorators (depth : Nat) : List (Located Expr) → Printed (List String)
  | [] => pure []
  | ⟨_, e⟩ :: ds => do
    let s ← expr false .test e
    let ss ← decorators depth ds
    pure (indented depth ("@" ++ s) :: ss)

/-- The head of a class definition. -/
def classHead (name : String) (bases : List Expr) (ks : List Keyword) : Printed String := do
  let bs ← exprs false .test bases
  let ss ← keywords false ks
  let args := bs ++ ss
  pure ("class " ++ name ++ (if args.isEmpty then "" else "(" ++ ", ".intercalate args ++ ")"))

/-- The head of a function definition. -/
def functionHead (isAsync : Bool) (name : String) (ps : Params)
    (returns : Option (Located Expr)) : Printed String := do
  let s ← parameters false ps
  let r ← after " -> " (returns.map (·.value))
  pure (bool isAsync "async " ++ "def " ++ name ++ "(" ++ s ++ ")" ++ r)

/-- A statement without blocks; the other statements have no text here. -/
def simple : Stmt → Printed String
  | .returning value => do
    let s ← after " " value
    pure ("return" ++ s)
  | .delete targets => do
    let ss ← exprs false .test targets
    pure ("del " ++ ", ".intercalate ss)
  | .assign targets value => do
    let ts ← assigned targets
    let s ← expr false .test value
    pure (ts ++ s)
  | .augAssign target op value => do
    let t ← expr false .test target
    let s ← expr false .test value
    pure (t ++ " " ++ op.text ++ "= " ++ s)
  | .annAssign target hint value isBracketed => do
    let t ← expr false .test target
    let a ← expr false .test hint
    let s ← after " = " value
    pure ((if isBracketed then "(" ++ t ++ ")" else t) ++ ": " ++ a ++ s)
  | .raising exception cause => do
    let e ← after " " exception
    let c ← after " from " cause
    pure ("raise" ++ e ++ c)
  | .assertion test message => do
    let t ← expr false .test test
    let m ← after ", " message
    pure ("assert " ++ t ++ m)
  | .importing names => pure ("import " ++ importedNames names)
  | .importingFrom level module names =>
    pure ("from " ++ String.ofList (List.replicate level '.') ++ module.getD "" ++ " import " ++
      importedNames names)
  | .globals names => pure ("global " ++ ", ".intercalate names)
  | .nonlocals names => pure ("nonlocal " ++ ", ".intercalate names)
  | .expression value => expr false .yield value
  | .pass => pure "pass"
  | .breakLoop => pure "break"
  | .continueLoop => pure "continue"
  | _ => pure ""

mutual

/-- The lines of a statement at a depth. -/
def stmt (depth : Nat) : Stmt → Printed (List String)
  | .classDef ⟨name, bases, ks, body, ds⟩ => do
    let d ← decorators depth ds
    let head ← classHead name bases ks
    let b ← documented (depth + 1) body
    pure ("" :: d ++ indented depth (head ++ ":") :: b)
  | .functionDef ⟨isAsync, name, ps, returns, body, ds⟩ => do
    let d ← decorators depth ds
    let head ← functionHead isAsync name ps returns
    let b ← documented (depth + 1) body
    pure ("" :: d ++ indented depth (head ++ ":") :: b)
  | .forLoop isAsync target source body orelse => do
    let t ← expr false .tuple target
    let s ← expr false .test source
    let b ← block (depth + 1) body
    let o ← elseLines depth orelse
    pure (indented depth (bool isAsync "async " ++ "for " ++ t ++ " in " ++ s ++ ":") :: b ++ o)
  | .whileLoop test body orelse => do
    let t ← expr false .test test
    let b ← block (depth + 1) body
    let o ← elseLines depth orelse
    pure (indented depth ("while " ++ t ++ ":") :: b ++ o)
  | .branch test body orelse => do
    let t ← expr false .test test
    let b ← block (depth + 1) body
    let o ← branchLines depth orelse
    pure (indented depth ("if " ++ t ++ ":") :: b ++ o)
  | .withBlock isAsync items body => do
    let ss ← items.mapM withItem
    let b ← block (depth + 1) body
    pure (indented depth (bool isAsync "async " ++ "with " ++ ", ".intercalate ss ++ ":") :: b)
  | .matching subject cs => do
    let s ← expr false .test subject
    let b ← cases (depth + 1) cs
    pure (indented depth ("match " ++ s ++ ":") :: b)
  | .tryBlock grouped body hs orelse final => do
    let b ← block (depth + 1) body
    let h ← handlers depth grouped hs
    let o ← elseLines depth orelse
    let f ← block (depth + 1) final
    let f := if final.isEmpty then [] else indented depth "finally:" :: f
    pure (indented depth "try:" :: b ++ h ++ o ++ f)
  | s => do
    let line ← simple s
    pure [indented depth line]

/-- The lines of statements. -/
def block (depth : Nat) : Block → Printed (List String)
  | [] => pure []
  | ⟨_, s⟩ :: rest => do
    let ls ← stmt depth s
    let rs ← block depth rest
    pure (ls ++ rs)

/-- The lines of the body of a class or function. -/
def documented (depth : Nat) : Block → Printed (List String)
  | [] => pure []
  | ⟨_, .expression (.constant (.string text marked))⟩ :: rest => do
    let rs ← block depth rest
    pure (indented depth (documentation text marked) :: rs)
  | ⟨_, s⟩ :: rest => do
    let ls ← stmt depth s
    let rs ← block depth rest
    pure (ls ++ rs)

/-- The lines of an `else` block, which may be missing. -/
def elseLines (depth : Nat) : Block → Printed (List String)
  | [] => pure []
  | ⟨_, s⟩ :: rest => do
    let ls ← stmt (depth + 1) s
    let rs ← block (depth + 1) rest
    pure (indented depth "else:" :: ls ++ rs)

/-- The lines of what follows a branch: a lone branch continues it. -/
def branchLines (depth : Nat) : Block → Printed (List String)
  | [] => pure []
  | [⟨_, .branch test body orelse⟩] => do
    let t ← expr false .test test
    let b ← block (depth + 1) body
    let o ← branchLines depth orelse
    pure (indented depth ("elif " ++ t ++ ":") :: b ++ o)
  | ⟨_, s⟩ :: rest => do
    let ls ← stmt (depth + 1) s
    let rs ← block (depth + 1) rest
    pure (indented depth "else:" :: ls ++ rs)

/-- Handlers of exceptions, as lines. -/
def handlers (depth : Nat) (grouped : Bool) : List Handler → Printed (List String)
  | [] => pure []
  | ⟨type, name, body⟩ :: hs => do
    let t ← after " " type
    let b ← block (depth + 1) body
    let rest ← handlers depth grouped hs
    let bound := match name with
      | none => ""
      | some id => " as " ++ id
    let head := (if grouped then "except*" else "except") ++ t ++ bound ++ ":"
    pure (indented depth head :: b ++ rest)

/-- The cases of a `match` statement, as lines. -/
def cases (depth : Nat) : List Case → Printed (List String)
  | [] => pure []
  | ⟨p, guard, body⟩ :: cs => do
    let s ← pattern .test p
    let g ← after " if " guard
    let b ← block (depth + 1) body
    let rest ← cases depth cs
    pure (indented depth ("case " ++ s ++ g ++ ":") :: b ++ rest)

end

/-- Lines as one text; the empty line that a definition asks for is not written at the
start. -/
def joinLines : List String → String
  | "" :: ls => "\n".intercalate ls
  | ls => "\n".intercalate ls

/-- The canonical text of a statement. -/
def statementText (s : Stmt) : Printed String := (stmt 0 s).map joinLines

/-- The canonical text of an expression on its own. -/
def expressionText (e : Expr) : Printed String := expr false .test e

/-- The canonical text of a parameter. -/
def paramText (p : Param) : Printed String :=
  maybe false ": " p.hint |>.map (p.name ++ ·)

end ProbeCatalog.Syntax.Printer
