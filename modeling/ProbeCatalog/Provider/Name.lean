import ProbeCatalog.Text.Lowercase
import ProbeCatalog.Text.Utf8
import ProbeCatalog.Digest.Blake2b

/-!
# Names of providers

A provider is named after its class, in lower case with underscores between the words.
Names enter identifiers of the tracing system, which know no other characters than
`a` to `z`, digits and the underscore. The hash of the canonical text makes a name
unique: providers of one name and different contents differ in it.
-/
namespace ProbeCatalog.Name

/-- Replaces, from left to right, each place where `find` finds something. `find` sees
the rest of the text and gives the replacement with the number of characters replaced
beyond the first. The first `skip` characters are already replaced. -/
def substitute (find : List Char → Option (List Char × Nat)) : Nat → List Char → List Char
  | _, [] => []
  | skip + 1, _ :: cs => substitute find skip cs
  | 0, c :: cs =>
    match find (c :: cs) with
    | some (replacement, extra) => replacement ++ substitute find extra cs
    | none => c :: substitute find 0 cs

/-- Capital letters of which the last begins a word: `HTTPServer` is cut into `HTTP`
and `Server`. -/
def acronymEnd (cs : List Char) : Option (List Char × Nat) :=
  let capitals := cs.takeWhile Char.isUpper
  match capitals.reverse, cs.dropWhile Char.isUpper with
  | last :: b :: before, c :: _ =>
    if c.isLower then some ((b :: before).reverse ++ ['_', last, c], capitals.length) else none
  | _, _ => none

/-- A small letter or digit with a capital letter after it. -/
def wordEnd : List Char → Option (List Char × Nat)
  | c :: d :: _ => if (c.isLower || c.isDigit) && d.isUpper then some ([c, '_', d], 1) else none
  | _ => none

/-- A character that names keep. -/
def isKept (c : Char) : Bool := c.isLower || c.isDigit

/-- Every run of other characters becomes one underscore. `inRun` tells that the
underscore of a run has been written. -/
def collapse : Bool → List Char → List Char
  | _, [] => []
  | inRun, c :: cs =>
    if isKept c then c :: collapse false cs
    else if inRun then collapse true cs
    else '_' :: collapse true cs

/-- The text without underscores at its ends. -/
def stripUnderscores (cs : List Char) : List Char :=
  ((cs.dropWhile (· = '_')).reverse.dropWhile (· = '_')).reverse

/-- The name of a class of whose name nothing is kept. -/
def fallback : List Char := "provider".toList

/-- A name in lower case with underscores between its words. -/
def snakeCase (identifier : List Char) : List Char :=
  let words := substitute wordEnd 0 (substitute acronymEnd 0 identifier)
  let kept := stripUnderscores (collapse false (lower words))
  if kept.isEmpty then fallback else kept

/-- The name of a provider from the name of its class. -/
def ofClass (className : String) : String := String.ofList (snakeCase className.toList)

/-- The hash of a text: sixteen hexadecimal digits. -/
def hashOf (text : String) : String :=
  String.join ((Blake2b.digest (Utf8.encode text.toList)).map Utf8.hexOctet)

/-- A name made unique by a hash. -/
def unique (name hash : String) : String := name ++ "_" ++ hash

end ProbeCatalog.Name
