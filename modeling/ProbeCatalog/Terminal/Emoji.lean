import ProbeCatalog.Terminal.EmojiTable
import ProbeCatalog.Text.Lines
import ProbeCatalog.Text.Lowercase

/-!
# Emoji codes

The name of an emoji between colons is printed as the emoji. A name may end in a wish for
the look of the emoji. What stands between two colons and is no such name is kept, and its
second colon begins no further code.
-/
namespace ProbeCatalog.Emoji

/-- The emoji of a name in small letters. -/
def ofName (name : List Char) : Option (List Char) :=
  match name with
  | [] => none
  | first :: _ =>
    (((Table.words (EmojiTable.namesWith first)).map (Table.cut '=')).find?
      (·.head? = some name)).map fun entry =>
        match entry with
        | [_, value] => (Table.cut ',' value).map fun n => Char.ofNat (Table.hex n)
        | _ => []

/-- Cuts an ending off, if it is there. -/
def withoutEnding? (ending cs : List Char) : Option (List Char) :=
  if ending.isSuffixOf cs then some (cs.take (cs.length - ending.length)) else none

/-- The name in a code, and the selector of the look that is wished for. -/
def looked (code : List Char) : List Char × List Char :=
  match withoutEnding? ['-', 'e', 'm', 'o', 'j', 'i'] code with
  | some name => (name, ['\uFE0F'])
  | none =>
    match withoutEnding? ['-', 't', 'e', 'x', 't'] code with
    | some name => (name, ['\uFE0E'])
    | none => (code, [])

/-- What is printed for a code between colons. -/
def shownFor (code : List Char) : List Char :=
  let (name, selector) := looked code
  match ofName (lower name) with
  | some emoji => emoji ++ selector
  | none => ':' :: (code ++ [':'])

/-- Replaces codes. The part of a code that was read since its colon is carried along, in
reverse. -/
def replaceFrom : Option (List Char) → List Char → List Char
  | none, [] => []
  | some code, [] => ':' :: code.reverse
  | none, c :: cs => if c = ':' then replaceFrom (some []) cs else c :: replaceFrom none cs
  | some code, c :: cs =>
    if c = ':' then shownFor code.reverse ++ replaceFrom none cs
    else if isBlank c then ':' :: (code.reverse ++ c :: replaceFrom none cs)
    else replaceFrom (some (c :: code)) cs

/-- Replaces the codes of emoji in a text. -/
def replace (cs : List Char) : List Char := replaceFrom none cs

end ProbeCatalog.Emoji
