import DirectChat.Json.Parser
/-!
# What is JSON

The grammar of JSON, as a relation between values and the texts that say them (`Json.IsTextOf`). It is the
strict grammar, and it leaves a writer every choice that JSON leaves: where white space stands, how a character
of a string is written, how a fraction is. Nothing in it refers to the reader.
-/

namespace DirectChat

namespace Json

/-- White space. -/
def Blanks (cs : List Char) : Prop := ∀ c ∈ cs, c = ' ' ∨ c = '\t' ∨ c = '\n' ∨ c = '\r'

/-! ## Strings -/

/-- A hexadecimal digit, in either case. -/
def IsHexDigit (n : Nat) (c : Char) : Prop := n < 16 ∧ (c = n.digitChar ∨ c = n.digitChar.toUpper)

instance (n : Nat) (c : Char) : Decidable (IsHexDigit n c) :=
  inferInstanceAs (Decidable (n < 16 ∧ (c = n.digitChar ∨ c = n.digitChar.toUpper)))

/-- A code unit of four hexadecimal digits. -/
inductive IsCodeUnit : Nat → List Char → Prop
  | digits {i j k l : Nat} {a b c d : Char} : IsHexDigit i a → IsHexDigit j b → IsHexDigit k c → IsHexDigit l d →
      IsCodeUnit (((i * 16 + j) * 16 + k) * 16 + l) [a, b, c, d]

/-- The letters that escape a character, with the character. -/
def shortEscapes : List (Char × Char) :=
  [('"', '"'), ('\\', '\\'), ('/', '/'), ('b', '\x08'), ('f', '\x0c'), ('n', '\n'), ('r', '\r'), ('t', '\t')]

/-- A piece of a string: a character as it is or escaped, or an escaped half of a surrogate pair. -/
inductive IsPiece : TextUnit → List Char → Prop
  | plain {c : Char} : c ≠ '"' → c ≠ '\\' → 32 ≤ c.toNat → IsPiece (.char c) [c]
  | short {e c : Char} : (e, c) ∈ shortEscapes → IsPiece (.char c) ['\\', e]
  | escaped {c : Char} {cs : List Char} : IsCodeUnit c.toNat cs → IsPiece (.char c) ('\\' :: 'u' :: cs)
  | half {u : Nat} {cs : List Char} : IsCodeUnit u cs → 0xD800 ≤ u → u ≤ 0xDFFF → IsPiece (.half u) ('\\' :: 'u' :: cs)

/-- What stands between the quotes of a string. -/
inductive IsBody : List TextUnit → List Char → Prop
  | nil : IsBody [] []
  | cons {u : TextUnit} {us : List TextUnit} {cs ds : List Char} : IsPiece u cs → IsBody us ds →
      IsBody (u :: us) (cs ++ ds)

/-- The characters that pieces spell: a first half and a second half of a surrogate pair are one character. -/
inductive Spells : List TextUnit → List Char → Prop
  | nil : Spells [] []
  | char {c : Char} {us : List TextUnit} {cs : List Char} : Spells us cs → Spells (.char c :: us) (c :: cs)
  | pair {high low : Nat} {c : Char} {us : List TextUnit} {cs : List Char} : 0xD800 ≤ high → high ≤ 0xDBFF →
      0xDC00 ≤ low → low ≤ 0xDFFF → c.toNat = 0x10000 + (high - 0xD800) * 0x400 + (low - 0xDC00) → Spells us cs →
      Spells (.half high :: .half low :: us) (c :: cs)

/-- What pieces say as a whole: their characters, or nothing when a half is left without its partner. -/
def Says (us : List TextUnit) : JsonText → Prop
  | some s => Spells us s.toList
  | none => ∀ cs, ¬ Spells us cs

/-- A string in its quotes. -/
inductive IsString : JsonText → List Char → Prop
  | quoted {t : JsonText} {us : List TextUnit} {cs : List Char} : IsBody us cs → Says us t →
      IsString t ('"' :: (cs ++ ['"']))

/-! ## Numbers -/

/-- Decimal digits, at least one. -/
structure Digits (cs : List Char) : Prop where
  nonempty : cs ≠ []
  digits : ∀ c ∈ cs, c.isDigit = true

/-- The digits before the point: several of them do not begin with a zero. -/
structure IsWhole (cs : List Char) : Prop where
  digits : Digits cs
  noZero : cs.head? = some '0' → cs = ['0']

/-- The point and the digits after it, or neither. -/
inductive IsFraction : List Char → List Char → Prop
  | none : IsFraction [] []
  | point {ds : List Char} : Digits ds → IsFraction ds ('.' :: ds)

/-- Digits with an optional sign. -/
inductive IsSigned : Int → List Char → Prop
  | bare {ds : List Char} : Digits ds → IsSigned (natOfDigits ds) ds
  | plus {ds : List Char} : Digits ds → IsSigned (natOfDigits ds) ('+' :: ds)
  | minus {ds : List Char} : Digits ds → IsSigned (-natOfDigits ds) ('-' :: ds)

/-- An exponent and its letter, or neither. -/
inductive IsExponent : Option Int → List Char → Prop
  | none : IsExponent none []
  | some {e : Char} {i : Int} {cs : List Char} : e = 'e' ∨ e = 'E' → IsSigned i cs → IsExponent (some i) (e :: cs)

/-- The sign in front of a number. -/
def minus (negative : Bool) : List Char := if negative then ['-'] else []

/-- A number: an integer as it is usually written, or anything with a point or an exponent, or minus zero. -/
inductive IsNumber : JsonNumber → List Char → Prop
  | int (i : Int) : IsNumber (.int i) (toString i).toList
  | real {negative : Bool} {whole fraction point letter : List Char} {exponent : Option Int} :
      IsWhole whole → IsFraction fraction point → IsExponent exponent letter →
      (point ≠ [] ∨ letter ≠ [] ∨ (negative = true ∧ whole = ['0'])) →
      IsNumber (.real negative (natOfDigits (whole ++ fraction)) (exponent.getD 0 - fraction.length))
        (minus negative ++ (whole ++ (point ++ letter)))

/-! ## Values -/

mutual

/-- The text of a value, without white space around it. -/
inductive IsValue : Json → List Char → Prop
  | null : IsValue .null ['n', 'u', 'l', 'l']
  | yes : IsValue (.bool true) ['t', 'r', 'u', 'e']
  | no : IsValue (.bool false) ['f', 'a', 'l', 's', 'e']
  | num {n : JsonNumber} {cs : List Char} : IsNumber n cs → IsValue (.num n) cs
  | str {t : JsonText} {cs : List Char} : IsString t cs → IsValue (.str t) cs
  | emptyArr {cs : List Char} : Blanks cs → IsValue (.arr []) ('[' :: (cs ++ [']']))
  | arr {items : List Json} {cs : List Char} : IsItems items cs → IsValue (.arr items) ('[' :: (cs ++ [']']))
  | emptyObj {cs : List Char} : Blanks cs → IsValue (.obj []) ('\x7b' :: (cs ++ ['\x7d']))
  | obj {members : List (JsonText × Json)} {cs : List Char} : IsMembers members cs →
      IsValue (.obj members) ('\x7b' :: (cs ++ ['\x7d']))

/-- The text of a value, with white space around it. -/
inductive IsPadded : Json → List Char → Prop
  | pad {v : Json} {before cs after : List Char} : Blanks before → IsValue v cs → Blanks after →
      IsPadded v (before ++ (cs ++ after))

/-- The texts of values, with commas between them. -/
inductive IsItems : List Json → List Char → Prop
  | one {v : Json} {cs : List Char} : IsPadded v cs → IsItems [v] cs
  | more {v : Json} {vs : List Json} {cs ds : List Char} : IsPadded v cs → IsItems vs ds →
      IsItems (v :: vs) (cs ++ ',' :: ds)

/-- The text of a member: a key, a colon and a value. -/
inductive IsMember : JsonText × Json → List Char → Prop
  | pair {k : JsonText} {v : Json} {before key after cs : List Char} : Blanks before → IsString k key → Blanks after →
      IsPadded v cs → IsMember (k, v) (before ++ (key ++ (after ++ ':' :: cs)))

/-- The texts of members, with commas between them. -/
inductive IsMembers : List (JsonText × Json) → List Char → Prop
  | one {m : JsonText × Json} {cs : List Char} : IsMember m cs → IsMembers [m] cs
  | more {m : JsonText × Json} {ms : List (JsonText × Json)} {cs ds : List Char} : IsMember m cs → IsMembers ms ds →
      IsMembers (m :: ms) (cs ++ ',' :: ds)

end

/-- The text says the value and nothing else. -/
def IsTextOf (text : String) (v : Json) : Prop := IsPadded v text.toList

end Json

end DirectChat
