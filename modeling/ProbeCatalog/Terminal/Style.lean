import ProbeCatalog.Text.Table
import ProbeCatalog.Text.Lines
import ProbeCatalog.Text.Lowercase

/-!
# Styles

A style sets attributes and colours of printed characters, and leaves others as they are.
Styles are named by words, and are written as the numbers of an escape sequence.
-/
namespace ProbeCatalog

/-- An attribute of printed characters. -/
inductive Attribute where
  | bold | dim | italic | underline | blink | blink2 | reverse | conceal | strike
  | underline2 | frame | encircle | overline
  deriving DecidableEq

namespace Attribute

/-- The attributes in the order in which they are written. -/
def all : List Attribute :=
  [.bold, .dim, .italic, .underline, .blink, .blink2, .reverse, .conceal, .strike,
    .underline2, .frame, .encircle, .overline]

/-- The word for the attribute. -/
def name : Attribute → String
  | .bold => "bold"
  | .dim => "dim"
  | .italic => "italic"
  | .underline => "underline"
  | .blink => "blink"
  | .blink2 => "blink2"
  | .reverse => "reverse"
  | .conceal => "conceal"
  | .strike => "strike"
  | .underline2 => "underline2"
  | .frame => "frame"
  | .encircle => "encircle"
  | .overline => "overline"

/-- The short name, if there is one. -/
def shortName : Attribute → Option String
  | .bold => some "b"
  | .dim => some "d"
  | .italic => some "i"
  | .underline => some "u"
  | .reverse => some "r"
  | .conceal => some "c"
  | .strike => some "s"
  | .underline2 => some "uu"
  | .overline => some "o"
  | .blink | .blink2 | .frame | .encircle => none

/-- The number that sets the attribute. -/
def number : Attribute → Nat
  | .bold => 1
  | .dim => 2
  | .italic => 3
  | .underline => 4
  | .blink => 5
  | .blink2 => 6
  | .reverse => 7
  | .conceal => 8
  | .strike => 9
  | .underline2 => 21
  | .frame => 51
  | .encircle => 52
  | .overline => 53

/-- The attribute of a name. -/
def ofName? (word : String) : Option Attribute :=
  all.find? fun a => a.name = word || a.shortName = some word

end Attribute

/-- The names of the eight colours in the order of their numbers. -/
def colorNames : List String :=
  ["black", "red", "green", "yellow", "blue", "magenta", "cyan", "white"]

/-- The number of a colour, from eight on the bright ones. -/
def colorNumber? (word : String) : Option Nat :=
  (colorNames ++ colorNames.map ("bright_" ++ ·)).findIdx? (· = word)

/-- What a style sets. -/
structure Style where
  attributes : List (Attribute × Bool)
  color : Option Nat
  background : Option Nat
  deriving DecidableEq

namespace Style

/-- Sets nothing. -/
def null : Style := ⟨[], none, none⟩

/-- The style with one attribute set or cleared. -/
def setAttribute (s : Style) (a : Attribute) (value : Bool) : Style :=
  { s with attributes := (a, value) :: s.attributes.filter (·.1 ≠ a) }

/-- Adds what words say to a style. -/
def ofWords (s : Style) : List String → Option Style
  | [] => some s
  | "on" :: word :: rest =>
    (colorNumber? word).bind fun n => ofWords { s with background := n } rest
  | "not" :: word :: rest =>
    (Attribute.ofName? word).bind fun a => ofWords (s.setAttribute a false) rest
  | word :: rest =>
    match Attribute.ofName? word with
    | some a => ofWords (s.setAttribute a true) rest
    | none => (colorNumber? word).bind fun n => ofWords { s with color := n } rest

/-- The words of a text between blanks. -/
def wordsOf (text : List Char) : List String :=
  ((Table.cut ' ' (text.map fun c => if isBlank c then ' ' else c)).filter (!·.isEmpty)).map
    fun w => String.ofList (lower w)

/-- The style of a name. -/
def ofName? (name : String) : Option Style :=
  match wordsOf name.toList with
  | [] => some null
  | ["none"] => some null
  | words => ofWords null words

/-- The name of a colour. -/
def colorName (n : Nat) : String :=
  (colorNames ++ colorNames.map ("bright_" ++ ·)).getD n ""

/-- The words of a style in their usual order. -/
def words (s : Style) : List String :=
  (Attribute.all.filterMap fun a => (s.attributes.lookup a).map fun value =>
    if value then a.name else "not " ++ a.name) ++
  (s.color.map colorName).toList ++ (s.background.map fun n => "on " ++ colorName n).toList

/-- The usual name of a style. -/
def name (s : Style) : String :=
  match s.words with
  | [] => "none"
  | words => " ".intercalate words

/-- The usual spelling of the name of a style; other names in small letters. -/
def normalName (text : List Char) : String :=
  match ofName? (String.ofList text) with
  | some s => s.name
  | none => String.ofList (lower (trim text))

/-- What a style and then another set. -/
def andThen (s t : Style) : Style :=
  ⟨t.attributes ++ s.attributes.filter fun (a, _) => (t.attributes.lookup a).isNone,
    t.color.or s.color, t.background.or s.background⟩

/-- The number of a colour in an escape sequence. -/
def colorCode (base n : Nat) : Nat := if n < 8 then base + n else base + 60 + (n - 8)

/-- The numbers of the escape sequence that sets a style. -/
def numbers (s : Style) : List Nat :=
  (Attribute.all.filter fun a => s.attributes.lookup a = some true).map (·.number) ++
  (s.color.map (colorCode 30)).toList ++ (s.background.map (colorCode 40)).toList

/-- A text in a style. -/
def write (s : Style) (text : String) : String :=
  match s.numbers with
  | [] => text
  | numbers => "\x1b[" ++ ";".intercalate (numbers.map toString) ++ "m" ++ text ++ "\x1b[0m"

end Style

end ProbeCatalog
