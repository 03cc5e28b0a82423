import DirectChat.Crypto.Block
/-!
# Argon2

The memory-hard password hash of RFC 9106 in its three kinds and two versions. The memory is a
matrix with one row, or lane, for each degree of parallelism; a lane has four segments. The matrix
is filled slice by slice, a slice being the segments at one place of all lanes, and every block is
combined from the one before it and one that is drawn from what was filled earlier.
-/

namespace DirectChat

/-- How the drawn blocks depend on the password. -/
inductive Argon2Kind
  /-- They depend on it. -/
  | d
  /-- They do not depend on it. -/
  | i
  /-- They depend on it from the second half of the first pass on. -/
  | id
deriving DecidableEq, Repr, Inhabited

/-- The two versions: on a later pass, a block is replaced or combined with what was there. -/
inductive Argon2Version
  | v16
  | v19
deriving DecidableEq, Repr, Inhabited

/-- What a hash depends on besides the password and the salt. -/
structure Argon2Params where
  kind : Argon2Kind
  version : Argon2Version
  /-- The memory, in blocks. -/
  memory : Nat
  passes : Nat
  lanes : Nat
  /-- The number of bytes of the hash. -/
  size : Nat
  /-- Data that is hashed along. -/
  data : List UInt8
deriving DecidableEq, Repr, Inhabited

/-- The number of a kind. -/
def Argon2Kind.number : Argon2Kind → Nat
  | .d => 0
  | .i => 1
  | .id => 2

/-- The number of a version. -/
def Argon2Version.number : Argon2Version → Nat
  | .v16 => 16
  | .v19 => 19

namespace Argon2

/-- A hash of any length: up to 64 bytes it is one BLAKE2b hash, a longer one is a chain of them of
which each gives its first half. -/
def longHash (size : Nat) (message : List UInt8) : List UInt8 :=
  let message := littleEndian 4 size ++ message
  if size ≤ 64 then blake2b size message
  else chain ((size + 31) / 32 - 3) (blake2b 64 message)
where
  /-- The links of the chain from one on, with `n` full links after it. -/
  chain : Nat → List UInt8 → List UInt8
    | 0, link => link.take 32 ++ blake2b (size - 32 * ((size + 31) / 32 - 2)) link
    | n + 1, link => link.take 32 ++ chain n (blake2b 64 link)

/-- A byte sequence behind its length. -/
def counted (bytes : List UInt8) : List UInt8 := littleEndian 4 bytes.length ++ bytes

/-- The hash of all inputs, from which the memory starts. -/
def seed (p : Argon2Params) (password salt : List UInt8) : List UInt8 :=
  blake2b 64 <|
    [p.lanes, p.size, p.memory, p.passes, p.version.number, p.kind.number].flatMap (littleEndian 4)
      ++ counted password ++ counted salt ++ counted [] ++ counted p.data

/-- A place in the filling order: the pass, the slice and the lane. -/
structure Segment where
  pass : Nat
  slice : Nat
  lane : Nat

/-- The number of blocks in a segment. -/
def segmentSize (p : Argon2Params) : Nat := p.memory / (4 * p.lanes)

/-- The number of blocks in a lane. -/
def laneSize (p : Argon2Params) : Nat := 4 * segmentSize p

/-- Whether the draws in a segment depend on a counter only. -/
def isIndependent (p : Argon2Params) (s : Segment) : Bool :=
  match p.kind with
  | .d => false
  | .i => true
  | .id => s.pass == 0 && s.slice < 2

/-- The words that decide the draws at 128 places of an independent segment; `count` says which
128. -/
def draws (p : Argon2Params) (s : Segment) (count : Nat) : Array UInt64 :=
  let input := Block.ofList <| [s.pass, s.lane, s.slice, laneSize p * p.lanes, p.passes,
    p.kind.number, count].map Nat.toUInt64
  (Block.zero.combine (Block.zero.combine input)).toList.toArray

/-- How many blocks a draw chooses from: all that are filled, without the one just before, and of
other lanes only those of earlier slices. -/
def areaSize (p : Argon2Params) (s : Segment) (index : Nat) (same : Bool) : Nat :=
  let done := (if s.pass = 0 then s.slice else 3) * segmentSize p
  if same then done + index - 1 else if index = 0 then done - 1 else done

/-- The place of a draw within its lane: the square of the deciding half word favours the blocks
filled last. -/
def drawnIndex (p : Argon2Params) (s : Segment) (area : Nat) (half : UInt64) : Nat :=
  let back := (area.toUInt64 * ((half * half) >>> 32)) >>> 32
  let first := if s.pass = 0 ∨ s.slice = 3 then 0 else (s.slice + 1) * segmentSize p
  (first + (area - 1 - back.toNat)) % laneSize p

/-- The block at `index` of a segment, from the memory and the deciding word. -/
def nextBlock (p : Argon2Params) (s : Segment) (index here : Nat) (previous : Block) (word : UInt64)
    (memory : Array Block) : Block :=
  let lane :=
    if s.pass = 0 ∧ s.slice = 0 then s.lane else (word >>> 32).toNat % p.lanes
  let area := areaSize p s index (lane == s.lane)
  let drawn := lane * laneSize p + drawnIndex p s area (word &&& 0xFFFFFFFF)
  let block := previous.combine (memory.getD drawn .zero)
  if s.pass = 0 ∨ p.version = .v16 then block else block.xor (memory.getD here .zero)

/-- Fills the last `n` places of a segment, from `index` on. `words` holds the draws for the
current 128 places of an independent segment. -/
def fillFrom (p : Argon2Params) (s : Segment) :
    Nat → Nat → Array UInt64 → Array Block → Array Block
  | 0, _, _, memory => memory
  | n + 1, index, words, memory =>
    let column := s.slice * segmentSize p + index
    let here := s.lane * laneSize p + column
    let before := if column = 0 then here + laneSize p - 1 else here - 1
    let previous := memory.getD before .zero
    let words :=
      if index % 128 = 0 ∧ 0 < index ∧ isIndependent p s then draws p s (index / 128 + 1) else words
    let word := if isIndependent p s then words.getD (index % 128) 0 else previous.r0.w0
    let block := nextBlock p s index here previous word memory
    fillFrom p s n (index + 1) words (memory.setIfInBounds here block)

/-- Fills a segment. The first two blocks of every lane are there from the start. -/
def fill (p : Argon2Params) (memory : Array Block) (s : Segment) : Array Block :=
  let words := if isIndependent p s then draws p s 1 else #[]
  let start := if s.pass = 0 ∧ s.slice = 0 then 2 else 0
  fillFrom p s (segmentSize p - start) start words memory

/-- The segments in the order in which they are filled. -/
def segments (p : Argon2Params) : List Segment :=
  (List.range p.passes).flatMap fun pass =>
    (List.range 4).flatMap fun slice =>
      (List.range p.lanes).map fun lane => ⟨pass, slice, lane⟩

/-- One of the two first blocks of a lane. -/
def firstBlock (seed : List UInt8) (column lane : Nat) : Block :=
  .ofList (toWords64 (longHash 1024 (seed ++ littleEndian 4 column ++ littleEndian 4 lane)))

/-- The memory with the first two blocks of every lane. -/
def startMemory (p : Argon2Params) (seed : List UInt8) : Array Block :=
  (List.range p.lanes).foldl (fun memory lane =>
    let first := lane * laneSize p
    (memory.setIfInBounds first (firstBlock seed 0 lane)).setIfInBounds (first + 1)
      (firstBlock seed 1 lane)) (Array.replicate (p.lanes * laneSize p) Block.zero)

end Argon2

/-- The Argon2 hash of a password with a salt. -/
def argon2 (p : Argon2Params) (password salt : List UInt8) : List UInt8 :=
  let memory := Argon2.startMemory p (Argon2.seed p password salt)
  let memory := (Argon2.segments p).foldl (Argon2.fill p) memory
  let last := (List.range p.lanes).foldl (fun block lane =>
    block.xor (memory.getD (lane * Argon2.laneSize p + (Argon2.laneSize p - 1)) .zero)) Block.zero
  Argon2.longHash p.size (last.toList.flatMap fun w => littleEndian 8 w.toNat)

end DirectChat
