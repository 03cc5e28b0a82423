/-!
# Quoted text in messages

A text that is shown inside a message stands between quotes. Quotes, backslashes and characters that
have no picture of their own are escaped.
-/

namespace DirectChat

/-- The characters, from U+007F on, that have no picture: controls, formats, separators, marks that
attach to the character before, private characters and those that are none. -/
def pictureless : List (Nat × Nat) := [
  (0x7F, 0xA0), (0xAD, 0xAD), (0x300, 0x36F), (0x483, 0x489), (0x591, 0x5BD), (0x5BF, 0x5BF),
  (0x5C1, 0x5C2), (0x5C4, 0x5C5), (0x5C7, 0x5C7), (0x600, 0x605), (0x610, 0x61A), (0x61C, 0x61C),
  (0x64B, 0x65F), (0x670, 0x670), (0x6D6, 0x6DD), (0x6DF, 0x6E4), (0x6E7, 0x6E8), (0x6EA, 0x6ED),
  (0x70F, 0x70F), (0x711, 0x711), (0x730, 0x74A), (0x93A, 0x93A), (0x93C, 0x93C), (0x941, 0x948),
  (0x94D, 0x94D), (0xE31, 0xE31), (0xE34, 0xE3A), (0xE47, 0xE4E), (0x1680, 0x1680),
  (0x180B, 0x180F), (0x1AB0, 0x1ACE), (0x1DC0, 0x1DFF), (0x2000, 0x200F), (0x2028, 0x202F),
  (0x205F, 0x206F), (0x20D0, 0x20F0), (0x302A, 0x302F), (0x3000, 0x3000), (0x3099, 0x309A),
  (0xD800, 0xF8FF), (0xFDD0, 0xFDEF), (0xFE00, 0xFE0F), (0xFE20, 0xFE2F), (0xFEFF, 0xFEFF),
  (0xFF9E, 0xFF9F), (0xFFF0, 0xFFFB), (0xFFFE, 0xFFFF), (0x110BD, 0x110BD), (0x1BCA0, 0x1BCA3),
  (0x1D165, 0x1D169), (0x1D16D, 0x1D182), (0x1FFFE, 0x1FFFF), (0xE0000, 0x10FFFF)]

/-- Whether a character has a picture of its own. -/
def hasPicture (c : Char) : Bool :=
  32 ≤ c.toNat && pictureless.all fun r => c.toNat < r.1 || r.2 < c.toNat

/-- A character inside quotes. -/
def quotedChar (c : Char) : List Char :=
  if c = '"' then ['\\', '"']
  else if c = '\\' then ['\\', '\\']
  else if c = '\n' then ['\\', 'n']
  else if c = '\r' then ['\\', 'r']
  else if c = '\t' then ['\\', 't']
  else if c.toNat = 0 then ['\\', '0']
  else if hasPicture c then [c]
  else ['\\', 'u', '\x7b'] ++ Nat.toDigits 16 c.toNat ++ ['\x7d']

/-- A text in quotes. -/
def quoted (s : String) : String := String.ofList ('"' :: (s.toList.flatMap quotedChar ++ ['"']))

/-- A character in single quotes. -/
def quotedLetter (c : Char) : String :=
  String.ofList <| '\'' ::
    ((if c = '\'' then ['\\', c] else if c = '"' then [c] else quotedChar c) ++ ['\''])

end DirectChat
