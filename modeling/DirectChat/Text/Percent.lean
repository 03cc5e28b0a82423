import DirectChat.Json.Parser
import DirectChat.Text.Split
/-!
# Percent escapes

In an address a byte may be written as a percent sign and two hexadecimal digits. In a query a plus
sign is also a space.
-/

namespace DirectChat

/-- The bytes of a text with its percent escapes undone. A percent sign without two digits stands
for itself. -/
def percentBytes : List Char → List UInt8
  | '%' :: a :: b :: rest =>
    match Json.hexValue? a, Json.hexValue? b with
    | some x, some y => (x * 16 + y).toUInt8 :: percentBytes rest
    | _, _ => 0x25 :: percentBytes (a :: b :: rest)
  | c :: rest => c.toString.toUTF8.toList ++ percentBytes rest
  | [] => []

/-- The text with its percent escapes undone, if that is a text. -/
def percentDecode? (cs : List Char) : Option String :=
  String.fromUTF8? (ByteArray.mk (percentBytes cs).toArray)

/-- The length of the UTF-8 sequence that a byte begins. -/
def sequenceLength (b : UInt8) : Nat :=
  if b < 0x80 then 1 else if b < 0xE0 then 2 else if b < 0xF0 then 3 else 4

/-- The first character of a sequence of bytes, and how many bytes it takes. What is no character
is replaced. -/
def takeChar (bs : List UInt8) : Char × Nat :=
  let n := sequenceLength (bs.headD 0)
  match (String.fromUTF8? (ByteArray.mk (bs.take n).toArray)).map String.toList with
  | some [c] => (c, n)
  | _ => (Char.ofNat 0xFFFD, 1)

/-- A sequence of bytes as text; `fuel` bounds its length. -/
def textOfBytes : Nat → List UInt8 → List Char
  | 0, _ => []
  | _ + 1, [] => []
  | fuel + 1, bs =>
    let (c, n) := takeChar bs
    c :: textOfBytes fuel (bs.drop n)

/-- A name or a value in a query. -/
def queryDecode (cs : List Char) : String :=
  let bytes := percentBytes (cs.map fun c => if c = '+' then ' ' else c)
  String.ofList (textOfBytes bytes.length bytes)

/-- The names and values of a query. -/
def queryPairs (query : List Char) : List (String × String) :=
  ((splitOnChar '&' query).filter (· ≠ [])).map fun piece =>
    (queryDecode (piece.takeWhile (· ≠ '=')), queryDecode ((piece.dropWhile (· ≠ '=')).drop 1))

end DirectChat
