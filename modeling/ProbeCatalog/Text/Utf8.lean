/-!
# UTF-8

`decode` reads octets as characters and refuses at the first octet that rules
the text out, saying which octets are at fault. `encode` writes characters.
-/
namespace ProbeCatalog.Utf8

/-- Why octets are not UTF-8. -/
inductive Reason where
  /-- No character starts with this octet. -/
  | start
  /-- The octet does not continue the character begun before it. -/
  | continuation
  /-- The text ends inside a character. -/
  | truncated
  deriving DecidableEq

/-- Octets that are not UTF-8: the place of the first, its value, their number. -/
structure Fault where
  position : Nat
  octet : UInt8
  length : Nat
  reason : Reason
  deriving DecidableEq

/-- A character of which some octets have been read: where and with what octet it
began, how many octets were read and are owed, the value of those read, and the
bounds of the next. -/
structure Begun where
  position : Nat
  octet : UInt8
  read : Nat
  owed : Nat
  value : Nat
  low : UInt8
  high : UInt8

/-- A character of several octets, as its first octet determines it. -/
def Begun.ofOctet? (position : Nat) (b : UInt8) : Option Begun :=
  let n := b.toNat
  if 0xC2 ≤ n ∧ n < 0xE0 then some ⟨position, b, 1, 1, n - 0xC0, 0x80, 0xBF⟩
  else if n = 0xE0 then some ⟨position, b, 1, 2, n - 0xE0, 0xA0, 0xBF⟩
  else if n = 0xED then some ⟨position, b, 1, 2, n - 0xE0, 0x80, 0x9F⟩
  else if 0xE1 ≤ n ∧ n < 0xF0 then some ⟨position, b, 1, 2, n - 0xE0, 0x80, 0xBF⟩
  else if n = 0xF0 then some ⟨position, b, 1, 3, n - 0xF0, 0x90, 0xBF⟩
  else if n = 0xF4 then some ⟨position, b, 1, 3, n - 0xF0, 0x80, 0x8F⟩
  else if 0xF1 ≤ n ∧ n < 0xF4 then some ⟨position, b, 1, 3, n - 0xF0, 0x80, 0xBF⟩
  else none

/-- Reads octets from a position on, inside a character or between characters. -/
def decodeFrom (position : Nat) : Option Begun → List UInt8 → Except Fault (List Char)
  | none, [] => .ok []
  | some p, [] => .error ⟨p.position, p.octet, p.read, .truncated⟩
  | none, b :: bs =>
    if b < 0x80 then
      (decodeFrom (position + 1) none bs).map (Char.ofNat b.toNat :: ·)
    else match Begun.ofOctet? position b with
      | some p => decodeFrom (position + 1) (some p) bs
      | none => .error ⟨position, b, 1, .start⟩
  | some p, b :: bs =>
    if p.low ≤ b ∧ b ≤ p.high then
      let value := p.value * 64 + (b.toNat - 0x80)
      if p.owed = 1 then
        (decodeFrom (position + 1) none bs).map (Char.ofNat value :: ·)
      else
        decodeFrom (position + 1)
          (some { p with read := p.read + 1, owed := p.owed - 1, value, low := 0x80, high := 0xBF })
          bs
    else
      .error ⟨p.position, p.octet, p.read, .continuation⟩

/-- The characters that octets encode. -/
def decode (bs : List UInt8) : Except Fault (List Char) := decodeFrom 0 none bs

/-- The octets of a text. -/
def encode (cs : List Char) : List UInt8 := cs.flatMap String.utf8EncodeChar

/-- The number of octets of a text. -/
def size (cs : List Char) : Nat := cs.foldr (fun c total => c.utf8Size + total) 0

/-- Two hexadecimal digits for an octet. -/
def hexOctet (b : UInt8) : String :=
  String.ofList [Nat.digitChar (b.toNat / 16), Nat.digitChar (b.toNat % 16)]

/-- The wording of a reason. -/
def Reason.message : Reason → String
  | .start => "invalid start byte"
  | .continuation => "invalid continuation byte"
  | .truncated => "unexpected end of data"

/-- The wording of a fault. -/
def Fault.message (f : Fault) : String :=
  let place :=
    if f.length = 1 then
      "byte 0x" ++ hexOctet f.octet ++ " in position " ++ toString f.position
    else
      "bytes in position " ++ toString f.position ++ "-" ++ toString (f.position + f.length - 1)
  "'utf-8' codec can't decode " ++ place ++ ": " ++ f.reason.message

end ProbeCatalog.Utf8
