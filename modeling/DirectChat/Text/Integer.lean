/-!
# Integers in text

An integer is written in decimal with ASCII digits, at least one, and an optional sign. Zeros in
front are allowed.
-/

namespace DirectChat

/-- The number that a run of decimal digits says. -/
def natOfDigits (ds : List Char) : Nat := ds.foldl (fun n d => n * 10 + (d.toNat - 48)) 0

/-- A number without a sign. -/
def digits? (cs : List Char) : Option Nat :=
  if cs ≠ [] ∧ cs.all Char.isDigit then some (natOfDigits cs) else none

/-- A number with an optional plus. -/
def natural? : List Char → Option Nat
  | '+' :: cs => digits? cs
  | cs => digits? cs

/-- A number with an optional sign. -/
def integer? : List Char → Option Int
  | '-' :: cs => (digits? cs).map fun n => -(n : Int)
  | cs => (natural? cs).map fun n => (n : Int)

/-- Whether an integer fits 64 bits with a sign. -/
def isInt64 (i : Int) : Bool := -(Nat.pow 2 63 : Int) ≤ i && i < (Nat.pow 2 63 : Int)

/-- An integer of 64 bits with an optional sign. -/
def int64? (cs : List Char) : Option Int := (integer? cs).filter isInt64

end DirectChat
