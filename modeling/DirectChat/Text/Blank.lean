/-!
# Blank characters

A blank is a character with the Unicode property `White_Space`. Names are taken without the blanks
around them.
-/

namespace DirectChat

/-- Whether a character has the property `White_Space`. -/
def isBlank (c : Char) : Bool :=
  let n := c.toNat
  (9 ≤ n && n ≤ 13) || n == 0x20 || n == 0x85 || n == 0xA0 || n == 0x1680
    || (0x2000 ≤ n && n ≤ 0x200A) || n == 0x2028 || n == 0x2029 || n == 0x202F || n == 0x205F
    || n == 0x3000

/-- The characters without those of a class at either end. -/
def stripEnds (p : Char → Bool) (cs : List Char) : List Char :=
  ((cs.dropWhile p).reverse.dropWhile p).reverse

/-- The characters without the blanks at either end. -/
def trimBlanks (cs : List Char) : List Char := stripEnds isBlank cs

/-- The text without the blanks at either end. -/
def trimmed (s : String) : String := String.ofList (trimBlanks s.toList)

end DirectChat
