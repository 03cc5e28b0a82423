import DirectChat.Json.Value
import DirectChat.Text.Integer
/-!
# Reading JSON

Strict JSON: no leading zeros, no trailing commas, no control characters in strings, nothing but
space, tab, line feed and carriage return between the tokens. A text that stops being JSON is not
lost: the reader hands out what it had read by then (`Broken`), so that a decoder can tell which of
two faults comes first.

An escaped surrogate without its partner is allowed by the grammar; the string that holds it reads
as `none`.
-/

namespace DirectChat

/-- What had been read of a value at the place where the text stops being JSON. -/
inductive Broken
  /-- In or before a literal, a number or a string. -/
  | scalar
  /-- In an array, after the given items; `inner` when a further item had begun. -/
  | arr (items : List Json) (inner : Option Broken)
  /-- In an object, after the given members; `key` when a further key had been read. -/
  | obj (members : List (JsonText × Json)) (key : Option JsonText) (inner : Option Broken)

namespace Json

/-- The blanks of JSON. -/
def isBlank (c : Char) : Bool := c == ' ' || c == '\t' || c == '\n' || c == '\r'

/-- The text after its leading blanks. -/
def skipBlanks (cs : List Char) : List Char := cs.dropWhile isBlank

/-- The value of a hexadecimal digit. -/
def hexValue? (c : Char) : Option Nat :=
  if '0' ≤ c ∧ c ≤ '9' then some (c.toNat - 48)
  else if 'a' ≤ c ∧ c ≤ 'f' then some (c.toNat - 87)
  else if 'A' ≤ c ∧ c ≤ 'F' then some (c.toNat - 55)
  else none

/-- The code unit of four hexadecimal digits. -/
def codeUnit? (a b c d : Char) : Option Nat := do
  return (((← hexValue? a) * 16 + (← hexValue? b)) * 16 + (← hexValue? c)) * 16 + (← hexValue? d)

/-- The character of a one-letter escape. -/
def simpleEscape? (c : Char) : Option Char :=
  if c = '"' then some '"'
  else if c = '\\' then some '\\'
  else if c = '/' then some '/'
  else if c = 'b' then some '\x08'
  else if c = 'f' then some '\x0c'
  else if c = 'n' then some '\n'
  else if c = 'r' then some '\r'
  else if c = 't' then some '\t'
  else none

/-- The first half of a surrogate pair. -/
def isHighSurrogate (u : Nat) : Bool := 0xD800 ≤ u && u ≤ 0xDBFF

/-- The second half of a surrogate pair. -/
def isLowSurrogate (u : Nat) : Bool := 0xDC00 ≤ u && u ≤ 0xDFFF

/-- The character of a surrogate pair. -/
def pairChar (high low : Nat) : Char :=
  Char.ofNat (0x10000 + (high - 0xD800) * 0x400 + (low - 0xDC00))

/-- A piece of a string: a character, or an escaped half of a surrogate pair. -/
inductive TextUnit
  | char (c : Char)
  | half (unit : Nat)

/-- The piece that an escaped code unit stands for. -/
def TextUnit.ofCodeUnit (u : Nat) : TextUnit :=
  if isHighSurrogate u || isLowSurrogate u then .half u else .char (Char.ofNat u)

/-- Reads the pieces of a string up to its closing quote; `acc` holds the pieces so far, last
first. -/
def readUnits (acc : List TextUnit) : List Char → Option (List TextUnit × List Char)
  | [] => none
  | '"' :: rest => some (acc.reverse, rest)
  | '\\' :: 'u' :: a :: b :: c :: d :: rest =>
    match codeUnit? a b c d with
    | some u => readUnits (TextUnit.ofCodeUnit u :: acc) rest
    | none => none
  | '\\' :: c :: rest =>
    match simpleEscape? c with
    | some x => readUnits (.char x :: acc) rest
    | none => none
  | c :: rest => if c.toNat < 32 then none else readUnits (.char c :: acc) rest

/-- The characters of a string: a first half and the second half after it are one character, any
other half is none. `acc` holds the characters so far, last first. -/
def pairUnits (acc : List Char) : List TextUnit → JsonText
  | [] => some (String.ofList acc.reverse)
  | .char c :: us => pairUnits (c :: acc) us
  | .half h :: .half l :: us =>
    if isHighSurrogate h && isLowSurrogate l then pairUnits (pairChar h l :: acc) us else none
  | .half _ :: _ => none

/-- Reads a string after its opening quote. -/
def readText (cs : List Char) : Option (JsonText × List Char) :=
  (readUnits [] cs).map fun (us, rest) => (pairUnits [] us, rest)

/-- A number from its parts: the digits before and after the point, and the exponent. -/
def numberOf (negative : Bool) (whole : List Char) (fraction : List Char) (exponent : Option Int) :
    JsonNumber :=
  let n := natOfDigits (whole ++ fraction)
  if fraction.isEmpty && exponent.isNone && !(negative && n == 0) then
    .int (if negative then -n else n)
  else .real negative n (exponent.getD 0 - fraction.length)

/-- Reads the digits of an exponent. -/
def readExponent (cs : List Char) : Option (Int × List Char) :=
  let (negative, cs) := match cs with
    | '-' :: r => (true, r)
    | '+' :: r => (false, r)
    | r => (false, r)
  let (ds, rest) := cs.span Char.isDigit
  if ds.isEmpty then none
  else some (if negative then -(natOfDigits ds : Int) else natOfDigits ds, rest)

/-- Reads what follows the digits before the point. -/
def readFraction (negative : Bool) (whole : List Char) (cs : List Char) :
    Option (JsonNumber × List Char) :=
  let finish (fraction : List Char) (cs : List Char) : Option (JsonNumber × List Char) :=
    match cs with
    | 'e' :: r | 'E' :: r =>
      (readExponent r).map fun (e, rest) => (numberOf negative whole fraction (some e), rest)
    | rest => some (numberOf negative whole fraction none, rest)
  match cs with
  | '.' :: r =>
    let (ds, rest) := r.span Char.isDigit
    if ds.isEmpty then none else finish ds rest
  | rest => finish [] rest

/-- Reads a number after its sign. Several digits do not begin with a zero. -/
def readNumber (negative : Bool) (cs : List Char) : Option (JsonNumber × List Char) :=
  let (whole, rest) := cs.span Char.isDigit
  match whole with
  | [] => none
  | '0' :: _ :: _ => none
  | _ => readFraction negative whole rest

/-- Reads a literal, a number or a string. -/
def readScalar : List Char → Option (Json × List Char)
  | 'n' :: 'u' :: 'l' :: 'l' :: rest => some (.null, rest)
  | 't' :: 'r' :: 'u' :: 'e' :: rest => some (.bool true, rest)
  | 'f' :: 'a' :: 'l' :: 's' :: 'e' :: rest => some (.bool false, rest)
  | '"' :: rest => (readText rest).map fun (t, rest) => (.str t, rest)
  | '-' :: rest => (readNumber true rest).map fun (n, rest) => (.num n, rest)
  | cs => (readNumber false cs).map fun (n, rest) => (.num n, rest)

mutual

/-- Reads one value; `fuel` bounds the number of nested and following values. -/
def readValue : Nat → List Char → Except Broken (Json × List Char)
  | 0, _ => .error .scalar
  | fuel + 1, cs =>
    match skipBlanks cs with
    | '[' :: rest =>
      match skipBlanks rest with
      | ']' :: rest => .ok (.arr [], rest)
      | _ => readItems fuel [] rest
    | '\x7b' :: rest =>
      match skipBlanks rest with
      | '\x7d' :: rest => .ok (.obj [], rest)
      | _ => readMembers fuel [] rest
    | rest =>
      match readScalar rest with
      | some (v, rest) => .ok (v, rest)
      | none => .error .scalar

/-- Reads the items of an array from the next one on; `acc` holds the earlier ones, last first. -/
def readItems : Nat → List Json → List Char → Except Broken (Json × List Char)
  | 0, acc, _ => .error (.arr acc.reverse none)
  | fuel + 1, acc, cs =>
    match readValue fuel cs with
    | .error b => .error (.arr acc.reverse (some b))
    | .ok (v, rest) =>
      match skipBlanks rest with
      | ',' :: rest => readItems fuel (v :: acc) rest
      | ']' :: rest => .ok (.arr (v :: acc).reverse, rest)
      | _ => .error (.arr (v :: acc).reverse none)

/-- Reads the members of an object from the next one on; `acc` holds the earlier ones, last
first. -/
def readMembers : Nat → List (JsonText × Json) → List Char → Except Broken (Json × List Char)
  | 0, acc, _ => .error (.obj acc.reverse none none)
  | fuel + 1, acc, cs =>
    match skipBlanks cs with
    | '"' :: rest =>
      match readText rest with
      | none => .error (.obj acc.reverse none none)
      | some (k, rest) =>
        match skipBlanks rest with
        | ':' :: rest =>
          match readValue fuel rest with
          | .error b => .error (.obj acc.reverse (some k) (some b))
          | .ok (v, rest) =>
            match skipBlanks rest with
            | ',' :: rest => readMembers fuel ((k, v) :: acc) rest
            | '\x7d' :: rest => .ok (.obj ((k, v) :: acc).reverse, rest)
            | _ => .error (.obj ((k, v) :: acc).reverse none none)
        | _ => .error (.obj acc.reverse (some k) none)
    | _ => .error (.obj acc.reverse none none)

end

/-- What a text holds, as JSON. -/
inductive Reading
  /-- Exactly one value. -/
  | whole (value : Json)
  /-- A value, and after it something that is not blank. -/
  | trailing (value : Json)
  /-- No value. -/
  | broken (part : Broken)

/-- Reads a text as one value. Two steps of fuel for each character are never used up. -/
def scan (s : String) : Reading :=
  let cs := s.toList
  match readValue (2 * cs.length + 2) cs with
  | .error b => .broken b
  | .ok (v, rest) => if (skipBlanks rest).isEmpty then .whole v else .trailing v

/-- The value that a text holds, if it is JSON and nothing else. -/
def parse? (s : String) : Option Json :=
  match scan s with
  | .whole v => some v
  | _ => none

end Json

end DirectChat
