/-!
# BLAKE2b

The unkeyed hash of RFC 7693 with up to 64 bytes of output, over lists of bytes.
-/

namespace DirectChat

/-- The bytes of a number, the least significant of `count` first. -/
def littleEndian (count n : Nat) : List UInt8 :=
  (List.range count).map fun i => (n >>> (8 * i)).toUInt8

/-- Groups bytes into words of 64 bits, the least significant byte first. -/
def toWords64 : List UInt8 → List UInt64
  | a :: b :: c :: d :: e :: f :: g :: h :: rest =>
    (a.toUInt64 ||| (b.toUInt64 <<< 8) ||| (c.toUInt64 <<< 16) ||| (d.toUInt64 <<< 24)
      ||| (e.toUInt64 <<< 32) ||| (f.toUInt64 <<< 40) ||| (g.toUInt64 <<< 48)
      ||| (h.toUInt64 <<< 56)) :: toWords64 rest
  | _ => []

/-- Rotates a word to the right. -/
@[inline] def rotate64 (x : UInt64) (n : UInt64) : UInt64 := (x >>> n) ||| (x <<< (64 - n))

namespace Blake2b

/-- The words that the hash starts from. -/
def initial : List UInt64 := [
  0x6a09e667f3bcc908, 0xbb67ae8584caa73b, 0x3c6ef372fe94f82b, 0xa54ff53a5f1d36f1,
  0x510e527fade682d1, 0x9b05688c2b3e6c1f, 0x1f83d9abfb41bd6b, 0x5be0cd19137e2179]

/-- The order in which each round takes the words of a block. -/
def schedule : List (List Nat) := [
  [0, 1, 2, 3, 4, 5, 6, 7, 8, 9, 10, 11, 12, 13, 14, 15],
  [14, 10, 4, 8, 9, 15, 13, 6, 1, 12, 0, 2, 11, 7, 5, 3],
  [11, 8, 12, 0, 5, 2, 15, 13, 10, 14, 3, 6, 7, 1, 9, 4],
  [7, 9, 3, 1, 13, 12, 11, 14, 2, 6, 5, 10, 4, 0, 15, 8],
  [9, 0, 5, 7, 2, 4, 10, 15, 14, 1, 11, 12, 6, 8, 3, 13],
  [2, 12, 6, 10, 0, 11, 8, 3, 4, 13, 7, 5, 15, 14, 1, 9],
  [12, 5, 1, 15, 14, 13, 4, 10, 0, 7, 6, 3, 9, 2, 8, 11],
  [13, 11, 7, 14, 12, 1, 3, 9, 5, 0, 15, 4, 8, 6, 2, 10],
  [6, 15, 14, 9, 11, 3, 0, 8, 12, 2, 13, 7, 1, 4, 10, 5],
  [10, 2, 8, 4, 7, 6, 1, 5, 15, 11, 9, 14, 3, 12, 13, 0],
  [0, 1, 2, 3, 4, 5, 6, 7, 8, 9, 10, 11, 12, 13, 14, 15],
  [14, 10, 4, 8, 9, 15, 13, 6, 1, 12, 0, 2, 11, 7, 5, 3]]

/-- The four places that each step of a round mixes: the columns, then the diagonals. -/
def places : List (Nat × Nat × Nat × Nat) := [
  (0, 4, 8, 12), (1, 5, 9, 13), (2, 6, 10, 14), (3, 7, 11, 15),
  (0, 5, 10, 15), (1, 6, 11, 12), (2, 7, 8, 13), (3, 4, 9, 14)]

/-- Mixes two words of the block into four places of the state. -/
def mix (v : Array UInt64) (p : Nat × Nat × Nat × Nat) (x y : UInt64) : Array UInt64 :=
  let (i, j, k, l) := p
  let a := v.getD i 0 + v.getD j 0 + x
  let d := rotate64 (v.getD l 0 ^^^ a) 32
  let c := v.getD k 0 + d
  let b := rotate64 (v.getD j 0 ^^^ c) 24
  let a := a + b + y
  let d := rotate64 (d ^^^ a) 16
  let c := c + d
  let b := rotate64 (b ^^^ c) 63
  (((v.setIfInBounds i a).setIfInBounds j b).setIfInBounds k c).setIfInBounds l d

/-- One round: eight steps, each with the next two words in the round's order. -/
def round (block : Array UInt64) : List Nat → List (Nat × Nat × Nat × Nat) → Array UInt64 →
    Array UInt64
  | x :: y :: order, p :: ps, v =>
    round block order ps (mix v p (block.getD x 0) (block.getD y 0))
  | _, _, v => v

/-- Takes in one block; `count` is the number of bytes so far, and `last` marks the final block. -/
def compress (h : List UInt64) (block : List UInt64) (count : Nat) (last : Bool) : List UInt64 :=
  let tail := initial.drop 4
  let flags : List UInt64 :=
    [count.toUInt64, (count >>> 64).toUInt64, if last then 0xFFFFFFFFFFFFFFFF else 0, 0]
  let v := (h ++ initial.take 4 ++ List.zipWith (· ^^^ ·) tail flags).toArray
  let v := (schedule.foldl (fun v order => round block.toArray order places v) v).toList
  List.zipWith (· ^^^ ·) h (List.zipWith (· ^^^ ·) (v.take 8) (v.drop 8))

/-- Takes in a message block by block; the last block is filled up with zeros. `fuel` bounds the
number of blocks. -/
def absorb : Nat → List UInt64 → List UInt8 → Nat → List UInt64
  | 0, h, _, _ => h
  | fuel + 1, h, message, count =>
    if message.length ≤ 128 then
      let block := message ++ List.replicate (128 - message.length) 0
      compress h (toWords64 block) (count + message.length) true
    else
      let h := compress h (toWords64 (message.take 128)) (count + 128) false
      absorb fuel h (message.drop 128) (count + 128)

end Blake2b

/-- The BLAKE2b hash of a message, with `size` bytes of output, at most 64. -/
def blake2b (size : Nat) (message : List UInt8) : List UInt8 :=
  let h := match Blake2b.initial with
    | w :: ws => (w ^^^ (0x01010000 + size).toUInt64) :: ws
    | [] => []
  let words := Blake2b.absorb (message.length / 128 + 1) h message 0
  (words.flatMap fun w => littleEndian 8 w.toNat).take size

end DirectChat
