/-!
# JSON values

A value keeps what a reader of it may ask for: the members of an object in the order in which they
were written, repeated keys included, and of a number whether it was written as an integer.
-/

namespace DirectChat

/-- What a JSON string says. `none` is a string with an unpaired surrogate escape: well formed as
JSON, but not a sequence of characters. -/
abbrev JsonText := Option String

/-- A JSON number, by the way it was written. -/
inductive JsonNumber
  /-- An integer literal other than minus zero. -/
  | int (value : Int)
  /-- Minus zero, or a literal with a point or an exponent: `digits × 10 ^ exponent`. -/
  | real (negative : Bool) (digits : Nat) (exponent : Int)
deriving DecidableEq, Repr, Inhabited

/-- A JSON value. -/
inductive Json
  | null
  | bool (value : Bool)
  | num (value : JsonNumber)
  | str (value : JsonText)
  | arr (items : List Json)
  | obj (members : List (JsonText × Json))
deriving Repr, Inhabited, BEq

namespace Json

/-- A string of characters. -/
def text (s : String) : Json := .str (some s)

/-- An integer. -/
def int (i : Int) : Json := .num (.int i)

/-- An object with the given members, in order. -/
def record (members : List (String × Json)) : Json :=
  .obj (members.map fun m => (some m.1, m.2))

/-- The first member of an object with the given key. -/
def get? (v : Json) (key : String) : Option Json :=
  match v with
  | .obj members => (members.find? fun m => m.1 == some key).map Prod.snd
  | _ => none

end Json

/-- The part of an absent-or-present member: nothing when absent. -/
def Json.optional (key : String) (value : Option Json) : List (String × Json) :=
  value.toList.map fun v => (key, v)

/-- Too large for a double: at or above the midpoint between the largest double and `2 ^ 1024`. -/
def JsonNumber.overflows : JsonNumber → Bool
  | .int i => Nat.pow 2 1024 - Nat.pow 2 970 ≤ i.natAbs
  | .real _ digits exponent =>
    match exponent with
    | .ofNat e => digits != 0 && (310 < e || Nat.pow 2 1024 - Nat.pow 2 970 ≤ digits * Nat.pow 10 e)
    | .negSucc e => e < digits.log2 && (Nat.pow 2 1024 - Nat.pow 2 970) * Nat.pow 10 (e + 1) ≤ digits

end DirectChat
