/-!
# Base64 without padding

Three bytes make four digits of six bits. A last group of one or two bytes makes two or three
digits, whose unused bits are zero; nothing else is accepted when reading, so every sequence of
bytes has exactly one text.
-/

namespace DirectChat

/-- Which digits stand for 62 and 63. -/
structure Base64 where
  plus : Char
  slash : Char
deriving DecidableEq, Repr

namespace Base64

/-- The standard digits. -/
def standard : Base64 := ⟨'+', '/'⟩

/-- The digits that need no escape in an address. -/
def urlSafe : Base64 := ⟨'-', '_'⟩

/-- The digit for a value below 64. -/
def digit (b : Base64) (n : Nat) : Char :=
  if n < 26 then Char.ofNat (65 + n)
  else if n < 52 then Char.ofNat (71 + n)
  else if n < 62 then Char.ofNat (n - 4)
  else if n = 62 then b.plus
  else b.slash

/-- The value of a digit. -/
def value? (b : Base64) (c : Char) : Option Nat :=
  if 'A' ≤ c ∧ c ≤ 'Z' then some (c.toNat - 65)
  else if 'a' ≤ c ∧ c ≤ 'z' then some (c.toNat - 71)
  else if '0' ≤ c ∧ c ≤ '9' then some (c.toNat + 4)
  else if c = b.plus then some 62
  else if c = b.slash then some 63
  else none

/-- The text of a sequence of bytes. -/
def encode (b : Base64) : List UInt8 → List Char
  | [] => []
  | [x] =>
    let n := x.toNat * 16
    [b.digit (n / 64), b.digit (n % 64)]
  | [x, y] =>
    let n := (x.toNat * 256 + y.toNat) * 4
    [b.digit (n / 4096), b.digit (n / 64 % 64), b.digit (n % 64)]
  | x :: y :: z :: rest =>
    let n := (x.toNat * 256 + y.toNat) * 256 + z.toNat
    b.digit (n / 262144) :: b.digit (n / 4096 % 64) :: b.digit (n / 64 % 64) :: b.digit (n % 64)
      :: encode b rest

/-- The bytes that a sequence of values of six bits stands for. -/
def join : List Nat → Option (List UInt8)
  | [] => some []
  | [_] => none
  | [p, q] => if q % 16 = 0 then some [(p * 4 + q / 16).toUInt8] else none
  | [p, q, r] =>
    if r % 4 = 0 then some [(p * 4 + q / 16).toUInt8, (q * 16 + r / 4).toUInt8] else none
  | p :: q :: r :: s :: rest =>
    (join rest).map fun bytes =>
      (p * 4 + q / 16).toUInt8 :: (q * 16 + r / 4).toUInt8 :: (r * 64 + s).toUInt8 :: bytes

/-- Reads a text. -/
def decode (b : Base64) (cs : List Char) : Option (List UInt8) := (cs.mapM b.value?).bind join

end Base64

end DirectChat
