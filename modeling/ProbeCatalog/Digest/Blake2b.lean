/-!
# BLAKE2b with a digest of eight octets

The hash that names the contents of a declaration, after RFC 7693, without a
key. Words have 64 bits and wrap; octets enter a word lowest first.
-/
namespace ProbeCatalog.Blake2b

/-- The digest length in octets. -/
def digestSize : Nat := 8

/-- The initial chaining words. -/
def iv : List UInt64 :=
  [0x6a09e667f3bcc908, 0xbb67ae8584caa73b, 0x3c6ef372fe94f82b, 0xa54ff53a5f1d36f1,
   0x510e527fade682d1, 0x9b05688c2b3e6c1f, 0x1f83d9abfb41bd6b, 0x5be0cd19137e2179]

/-- The order in which each round takes the sixteen message words. -/
def schedule : List (List Nat) :=
  [[0, 1, 2, 3, 4, 5, 6, 7, 8, 9, 10, 11, 12, 13, 14, 15],
   [14, 10, 4, 8, 9, 15, 13, 6, 1, 12, 0, 2, 11, 7, 5, 3],
   [11, 8, 12, 0, 5, 2, 15, 13, 10, 14, 3, 6, 7, 1, 9, 4],
   [7, 9, 3, 1, 13, 12, 11, 14, 2, 6, 5, 10, 4, 0, 15, 8],
   [9, 0, 5, 7, 2, 4, 10, 15, 14, 1, 11, 12, 6, 8, 3, 13],
   [2, 12, 6, 10, 0, 11, 8, 3, 4, 13, 7, 5, 15, 14, 1, 9],
   [12, 5, 1, 15, 14, 13, 4, 10, 0, 7, 6, 3, 9, 2, 8, 11],
   [13, 11, 7, 14, 12, 1, 3, 9, 5, 0, 15, 4, 8, 6, 2, 10],
   [6, 15, 14, 9, 11, 3, 0, 8, 12, 2, 13, 7, 1, 4, 10, 5],
   [10, 2, 8, 4, 7, 6, 1, 5, 15, 11, 9, 14, 3, 12, 13, 0],
   [0, 1, 2, 3, 4, 5, 6, 7, 8, 9, 10, 11, 12, 13, 14, 15],
   [14, 10, 4, 8, 9, 15, 13, 6, 1, 12, 0, 2, 11, 7, 5, 3]]

/-- The four state words that each of the eight mixings of a round takes: the
columns of the four by four state, then its diagonals. -/
def lanes : List (Nat × Nat × Nat × Nat) :=
  [(0, 4, 8, 12), (1, 5, 9, 13), (2, 6, 10, 14), (3, 7, 11, 15),
   (0, 5, 10, 15), (1, 6, 11, 12), (2, 7, 8, 13), (3, 4, 9, 14)]

/-- Rotation to the right by `r` bits, `0 < r < 64`. -/
def rotate (w r : UInt64) : UInt64 := (w >>> r) ||| (w <<< (64 - r))

/-- Mixes two message words into four state words. -/
def mix (v : Array UInt64) (lane : Nat × Nat × Nat × Nat) (x y : UInt64) : Array UInt64 :=
  let (ia, ib, ic, id) := lane
  let (a, b, c, d) := (v.getD ia 0, v.getD ib 0, v.getD ic 0, v.getD id 0)
  let a := a + b + x
  let d := rotate (d ^^^ a) 32
  let c := c + d
  let b := rotate (b ^^^ c) 24
  let a := a + b + y
  let d := rotate (d ^^^ a) 16
  let c := c + d
  let b := rotate (b ^^^ c) 63
  (((v.setIfInBounds ia a).setIfInBounds ib b).setIfInBounds ic c).setIfInBounds id d

/-- One round: the eight mixings, each with its two words of the block. -/
def round (block : Array UInt64) (v : Array UInt64) (order : List Nat) : Array UInt64 :=
  let word (i : Nat) : UInt64 := block.getD (order.getD i 0) 0
  lanes.zipIdx.foldl (fun v (lane, i) => mix v lane (word (2 * i)) (word (2 * i + 1))) v

/-- Compresses a block into the chaining words; `count` octets of the message end
with this block. -/
def compress (h : List UInt64) (block : Array UInt64) (count : Nat) (last : Bool) :
    List UInt64 :=
  let tweak : List UInt64 :=
    [UInt64.ofNat count, UInt64.ofNat (count / Nat.pow 2 64),
      if last then 0xffffffffffffffff else 0, 0]
  let v := (h ++ iv.take 4 ++ (iv.drop 4).zipWith (· ^^^ ·) tweak).toArray
  let v := schedule.foldl (round block) v
  h.zipIdx.map fun (w, i) => w ^^^ v.getD i 0 ^^^ v.getD (i + 8) 0

/-- The word that eight octets write, lowest first. -/
def wordOf (octets : List UInt8) : UInt64 :=
  octets.foldr (fun b w => w * 256 + b.toUInt64) 0

/-- The sixteen words of a block of at most 128 octets, filled up with zeros. -/
def blockOf (octets : List UInt8) : Array UInt64 :=
  ((List.range 16).map fun i => wordOf ((octets.drop (8 * i)).take 8)).toArray

/-- Absorbs a message of which `count` octets came before. `fuel` bounds the number
of blocks; the last block is the first that leaves nothing behind it. -/
def absorb : Nat → List UInt64 → Nat → List UInt8 → List UInt64
  | 0, h, _, _ => h
  | fuel + 1, h, count, octets =>
    let block := octets.take 128
    let rest := octets.drop 128
    let count := count + block.length
    let h := compress h (blockOf block) count rest.isEmpty
    if rest.isEmpty then h else absorb fuel h count rest

/-- The chaining words before the first block: the parameters (digest length, no
key, one leaf) enter the first word. -/
def initial : List UInt64 :=
  match iv with
  | w :: ws => (w ^^^ 0x01010000 ^^^ UInt64.ofNat digestSize) :: ws
  | [] => []

/-- The octets of a word, lowest first. -/
def octetsOf (w : UInt64) : List UInt8 :=
  (List.range 8).map fun i => UInt8.ofNat (w.toNat / Nat.pow 256 i)

/-- The digest of a message. -/
def digest (message : List UInt8) : List UInt8 :=
  let h := absorb (message.length / 128 + 1) initial 0 message
  (h.flatMap octetsOf).take digestSize

end ProbeCatalog.Blake2b
