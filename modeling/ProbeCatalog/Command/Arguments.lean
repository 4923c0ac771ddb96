import ProbeCatalog.Text.Digit
import ProbeCatalog.Text.Table

/-!
# Command lines

A command is named first; options follow it, each with its value. The value is attached by
an equals sign or is the next word. A name may be cut short as long as only one option of
the command begins like that, and an option may be given again: the last value counts.
-/
namespace ProbeCatalog.Command

/-- The form of the output of a scan. -/
inductive Form where
  | table
  | json
  deriving DecidableEq

/-- What a command line asks for. -/
inductive Request where
  | scan (path : String) (form : Form) (output cache : Option String) (markers : List String)
  | check (path : String) (markers : List String)
  | show (cache : String) (name : Option String)
  deriving DecidableEq

/-- The options of all commands. -/
inductive Key where
  | help | path | format | output | marker | cache | name
  deriving DecidableEq

namespace Key

/-- The name of an option, without its dashes. -/
def word : Key → List Char
  | .help => "help".toList
  | .path => "path".toList
  | .format => "format".toList
  | .output => "output".toList
  | .marker => "marker".toList
  | .cache => "cache".toList
  | .name => "name".toList

/-- The spelling of the option. -/
def spelling (k : Key) : List Char := '-' :: '-' :: k.word

end Key

/-- What a word on a command line is. -/
inductive Word where
  | value
  /-- The word after which there are only values. -/
  | divider
  | option (k : Key) (attached : Option (List Char))
  /-- It looks like an option and is none, or begins like several. -/
  | wrong
  deriving DecidableEq

/-- The part of a word before its first equals sign, and the part after it. -/
def splitValue : List Char → List Char × Option (List Char)
  | [] => ([], none)
  | c :: cs =>
    if c = '=' then ([], some cs)
    else
      let (name, value) := splitValue cs
      (c :: name, value)

/-- A negative number is a value although it begins with a hyphen. -/
def isNegativeNumber (cs : List Char) : Bool :=
  let digits := match cs.reverse with
    | '\n' :: rest => rest.reverse
    | _ => cs
  match Table.cut '.' digits with
  | [whole] => !whole.isEmpty && whole.all isDecimalDigit
  | [whole, part] => whole.all isDecimalDigit && !part.isEmpty && part.all isDecimalDigit
  | _ => false

/-- What a word with a hyphen at its head is that names no option. -/
def valueOrWrong (rest : List Char) : Word :=
  if isNegativeNumber rest || rest.contains ' ' then .value else .wrong

/-- What a word is for a command with some options. -/
def classify (keys : List Key) (word : List Char) : Word :=
  match word with
  | ['-'] => .value
  | ['-', '-'] => .divider
  | '-' :: '-' :: _ =>
    let (name, value) := splitValue word
    if word = Key.help.spelling then .option .help none
    else match keys.filter (·.spelling = word), keys.filter (·.spelling = name),
        keys.filter fun k => name.isPrefixOf k.spelling with
      | k :: _, _, _ => .option k none
      | [], k :: _, _ => .option k value
      | [], [], [k] => .option k value
      | [], [], _ :: _ :: _ => .wrong
      | [], [], [] => valueOrWrong word.tail
  | '-' :: 'h' :: rest => .option .help (if rest.isEmpty then none else some rest)
  | '-' :: rest => valueOrWrong rest
  | _ => .value

/-- The options of a command line with their values. There is no result if a word is out of
place, an option has no value, or help is asked for. -/
def optionsOf (keys : List Key) : List String → Option (List (Key × String))
  | [] => some []
  | word :: rest =>
    match classify keys word.toList with
    | .value | .divider | .wrong | .option .help _ => none
    | .option k (some value) => (optionsOf keys rest).map ((k, String.ofList value) :: ·)
    | .option k none =>
      match rest with
      | [] => none
      | value :: rest =>
        if classify keys value.toList = .value then (optionsOf keys rest).map ((k, value) :: ·)
        else none

/-- The values of an option in order. -/
def valuesOf (k : Key) (options : List (Key × String)) : List String :=
  (options.filter (·.1 = k)).map (·.2)

/-- The value of an option that counts. -/
def valueOf (k : Key) (options : List (Key × String)) : Option String :=
  (valuesOf k options).getLast?

/-- The form of a name. -/
def formOf? : String → Option Form
  | "table" => some .table
  | "json" => some .json
  | _ => none

/-- The value of an option, unless it is empty. -/
def filled (k : Key) (options : List (Key × String)) : Option String :=
  (valueOf k options).filter (!·.isEmpty)

/-- The options that `scan` knows. -/
def scanKeys : List Key := [.help, .path, .format, .output, .marker, .cache]

/-- The options that `check` knows. -/
def checkKeys : List Key := [.help, .path, .marker]

/-- The options that `show` knows. -/
def showKeys : List Key := [.help, .cache, .name]

/-- What a command line asks for, if it is in order. -/
def request? : List String → Option Request
  | "scan" :: words => do
    let options ← optionsOf scanKeys words
    let forms ← (valuesOf .format options).mapM formOf?
    let path ← valueOf .path options
    pure (.scan path (forms.getLast?.getD .table) (filled .output options) (filled .cache options)
      (valuesOf .marker options))
  | "check" :: words => do
    let options ← optionsOf checkKeys words
    let path ← valueOf .path options
    pure (.check path (valuesOf .marker options))
  | "show" :: words => do
    let options ← optionsOf showKeys words
    let cache ← valueOf .cache options
    pure (.show cache (filled .name options))
  | _ => none

end ProbeCatalog.Command
