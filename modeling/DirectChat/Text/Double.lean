/-!
# Doubles

A decimal number is taken for the nearest double, half way for the one with an even mantissa. A
double is written with the fewest digits that read back as it, without an exponent.
-/

namespace DirectChat

/-- A double. A finite one is `mantissa × 2 ^ exponent`. -/
inductive Double
  | finite (negative : Bool) (mantissa : Nat) (exponent : Int)
  | infinite (negative : Bool)
  | nan
deriving DecidableEq, Repr, Inhabited

namespace Double

/-- A quotient rounded to a whole number, half way to an even one. -/
def roundDiv (num den : Nat) : Nat :=
  let q := num / den
  let twice := 2 * (num % den)
  if twice < den then q
  else if den < twice then q + 1
  else q + q % 2

/-- A power with a whole exponent, as numerator and denominator. -/
def power (base : Nat) (e : Int) : Nat × Nat :=
  match e with
  | .ofNat n => (Nat.pow base n, 1)
  | .negSucc n => (1, Nat.pow base (n + 1))

/-- The double nearest to a positive quotient. -/
def ofQuotient (negative : Bool) (num den : Nat) : Double :=
  let guess : Int := (num.log2 : Int) - den.log2 - 52
  let scaled (q : Int) : Nat :=
    let (up, down) := power 2 q
    roundDiv (num * down) (den * up)
  let q := if scaled guess < Nat.pow 2 52 then guess - 1 else guess
  let q := max q (-1074)
  let m := scaled q
  let (m, q) := if Nat.pow 2 53 ≤ m then (m / 2, q + 1) else (m, q)
  if 971 < q then .infinite negative else .finite negative m q

/-- The double nearest to `digits × 10 ^ exponent`. -/
def ofDecimal (negative : Bool) (digits : Nat) (exponent : Int) : Double :=
  if digits = 0 then .finite negative 0 0
  else
    let size : Int := (Nat.toDigits 10 digits).length + exponent
    if 310 < size then .infinite negative
    else if size < -330 then .finite negative 0 0
    else
      let (up, down) := power 10 exponent
      ofQuotient negative (digits * up) down

/-- The smallest exponent from `k` on, of at most `n`, for which the quotient is below the power of
ten. -/
def tenFrom (num den : Nat) : Nat → Int → Int
  | 0, k => k
  | n + 1, k =>
    let (up, down) := power 10 k
    if num * down < den * up then k else tenFrom num den n (k + 1)

/-- The nearest of the decimals with the given exponent that read back as `m × 2 ^ q`, if there is
one. Distances are measured in quarters of the last place. -/
def digitsAt? (m : Nat) (q k : Int) : Option Nat :=
  let (up2, down2) := power 2 (q - 2)
  let (up10, down10) := power 10 k
  let place (quarters : Nat) : Nat := quarters * up2 * down10
  let decimal (d : Nat) : Nat := d * up10 * down2
  let below := if m = Nat.pow 2 52 ∧ -1074 < q then 1 else 2
  let low := place (4 * m - below)
  let high := place (4 * m + 2)
  let inside (d : Nat) : Bool :=
    if m % 2 = 0 then low ≤ decimal d && decimal d ≤ high else low < decimal d && decimal d < high
  let value := place (4 * m)
  let d := value / (up10 * down2)
  if inside d then
    if inside (d + 1) ∧ decimal (d + 1) - value < value - decimal d then some (d + 1) else some d
  else if inside (d + 1) then some (d + 1) else none

/-- The decimal with the fewest digits that reads back as `m × 2 ^ q`, tried from the given exponent
downwards. -/
def shortestFrom (m : Nat) (q : Int) : Nat → Int → Nat × Int
  | 0, k => (0, k)
  | n + 1, k =>
    match digitsAt? m q k with
    | some d => (d, k)
    | none => shortestFrom m q n (k - 1)

/-- The decimal with the fewest digits that reads back as `m × 2 ^ q`. -/
def shortest (m : Nat) (q : Int) : Nat × Int :=
  let (up, down) := power 2 q
  shortestFrom m q 20 (tenFrom (m * up) down 700 (-330))

/-- Digits with a point, `d × 10 ^ k`. -/
def positional (d : Nat) (k : Int) : List Char :=
  let ds := Nat.toDigits 10 d
  match k with
  | .ofNat n => if d = 0 then ds else ds ++ List.replicate n '0'
  | .negSucc n =>
    let places := n + 1
    let ds := List.replicate (places + 1 - ds.length) '0' ++ ds
    ds.take (ds.length - places) ++ '.' :: ds.drop (ds.length - places)

/-- The text of a double. -/
def text : Double → String
  | .nan => "NaN"
  | .infinite negative => if negative then "-inf" else "inf"
  | .finite negative m q =>
    let body := if m = 0 then ['0'] else
      let (d, k) := shortest m q
      positional d k
    String.ofList (if negative then '-' :: body else body)

end Double

end DirectChat
