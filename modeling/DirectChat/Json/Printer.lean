import DirectChat.Json.Value
/-!
# Writing JSON

The text of a value has no blanks. In a string only the quote, the backslash and the characters
below U+0020 are escaped; everything else is written as it is.
-/

namespace DirectChat

/-- The digit for a value below sixteen, in lower case. -/
def hexDigit (n : Nat) : Char :=
  if n < 10 then Char.ofNat (48 + n) else Char.ofNat (87 + n)

namespace Json

/-- One character inside a string. -/
def escapeChar (c : Char) : List Char :=
  if c = '"' then ['\\', '"']
  else if c = '\\' then ['\\', '\\']
  else if c = '\x08' then ['\\', 'b']
  else if c = '\t' then ['\\', 't']
  else if c = '\n' then ['\\', 'n']
  else if c = '\x0c' then ['\\', 'f']
  else if c = '\r' then ['\\', 'r']
  else if c.toNat < 32 then
    ['\\', 'u', '0', '0', hexDigit (c.toNat / 16), hexDigit (c.toNat % 16)]
  else [c]

/-- A string with its quotes. An unpaired surrogate stands for every text that is none. -/
def writeText (t : JsonText) : List Char :=
  match t with
  | some s => '"' :: (s.toList.flatMap escapeChar ++ ['"'])
  | none => ['"', '\\', 'u', 'd', '8', '0', '0', '"']

/-- A number: an integer in decimal, any other with its exponent. -/
def writeNumber : JsonNumber → List Char
  | .int i => (toString i).toList
  | .real negative digits exponent =>
    (if negative then ['-'] else []) ++ (toString digits).toList
      ++ if negative && digits == 0 && exponent == 0 then [] else 'e' :: (toString exponent).toList

mutual

/-- The text of a value, in front of `rest`. -/
def write : Json → List Char → List Char
  | .null, rest => 'n' :: 'u' :: 'l' :: 'l' :: rest
  | .bool true, rest => 't' :: 'r' :: 'u' :: 'e' :: rest
  | .bool false, rest => 'f' :: 'a' :: 'l' :: 's' :: 'e' :: rest
  | .num n, rest => writeNumber n ++ rest
  | .str t, rest => writeText t ++ rest
  | .arr [], rest => '[' :: ']' :: rest
  | .arr (x :: xs), rest => '[' :: write x (writeItems xs rest)
  | .obj [], rest => '\x7b' :: '\x7d' :: rest
  | .obj ((k, v) :: ms), rest => '\x7b' :: (writeText k ++ ':' :: write v (writeMembers ms rest))

/-- The further items of an array, each after a comma, and the closing bracket. -/
def writeItems : List Json → List Char → List Char
  | [], rest => ']' :: rest
  | x :: xs, rest => ',' :: write x (writeItems xs rest)

/-- The further members of an object, each after a comma, and the closing brace. -/
def writeMembers : List (JsonText × Json) → List Char → List Char
  | [], rest => '\x7d' :: rest
  | (k, v) :: ms, rest => ',' :: (writeText k ++ ':' :: write v (writeMembers ms rest))

end

/-- The text of a value. -/
def render (v : Json) : String := String.ofList (write v [])

end Json

end DirectChat
