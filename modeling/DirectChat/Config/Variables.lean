import DirectChat.Config.Key
import DirectChat.Config.Toml
import DirectChat.Text.Blank
import DirectChat.Text.Split
/-!
# Variables of the environment

A variable sets a key if its name is the mark of this program and the name of the key, in letters of
any case. Its text may say a truth value, a number, a list, a map, a quoted character or a quoted
text; any other text stands for itself.
-/

namespace DirectChat

/-- The variables of an environment; of variables that set one key the last counts. -/
abbrev Environment := List (String × String)

namespace Environment

/-! ## Texts of variables -/

/-- Whether a character is passed over between the parts of a value. -/
def isSpace (c : Char) : Bool :=
  c == ' ' || c == '\t' || c == '\n' || c == '\x0c' || c == '\r'

/-- Whether a character ends a plain value. -/
def isSeparator (c : Char) : Bool :=
  c == '\x7b' || c == '\x7d' || c == '[' || c == ']' || c == ','

/-- A number with a point: digits on at least one side of it, and an optional exponent. -/
def real? (cs : List Char) : Option Double :=
  let (negative, body) := Toml.sign cs
  let (whole, rest) := body.span Char.isDigit
  match rest with
  | '.' :: rest =>
    let (fraction, rest) := rest.span Char.isDigit
    let value (exponent : Int) := Double.ofDecimal negative (natOfDigits (whole ++ fraction))
      (exponent - fraction.length)
    if whole = [] ∧ fraction = [] then none
    else match rest with
      | [] => some (value 0)
      | e :: rest => if e = 'e' ∨ e = 'E' then (integer? rest).map value else none
  | _ => none

/-- The value of a text without quotes or brackets. -/
def plain (cs : List Char) : ConfigValue :=
  match real? cs with
  | some x => .real x
  | none =>
    match (natural? cs).filter fun n => n < Nat.pow 2 64 with
    | some n => .unsigned n
    | none =>
      match int64? cs with
      | some i => .signed i
      | none => .text (String.ofList cs)

/-- Reads items between commas up to a closing character; a comma may come last. `fuel` bounds
their number. -/
def collect (item : List Char → Option (List Char)) (close : Char) :
    Nat → List Char → Option (List Char)
  | 0, _ => none
  | fuel + 1, cs =>
    if cs.head? = some close then some cs.tail
    else do
      match ← item cs with
      | ',' :: rest => collect item close fuel rest
      | c :: rest => if c = close then some rest else none
      | [] => none

/-- The text after a key of a map. -/
def skipKey? (cs : List Char) : Option (List Char) :=
  match cs with
  | '"' :: rest => (Toml.basicText (rest.length + 1) [] rest).map Prod.snd
  | _ =>
    match cs.span Toml.isKeyChar with
    | ([], _) => none
    | (_, rest) => some rest

/-- Reads a value and the blanks around it; `depth` bounds its nesting. -/
def value? : Nat → List Char → Option (ConfigValue × List Char)
  | 0, _ => none
  | depth + 1, cs =>
    let item (cs : List Char) := (value? depth cs).map Prod.snd
    let pair (cs : List Char) := do
      match (← skipKey? (cs.dropWhile isSpace)).dropWhile isSpace with
      | '=' :: rest => item rest
      | _ => none
    let result := match cs.dropWhile isSpace with
      | 't' :: 'r' :: 'u' :: 'e' :: rest => some (ConfigValue.bool true, rest)
      | 'f' :: 'a' :: 'l' :: 's' :: 'e' :: rest => some (.bool false, rest)
      | '\x7b' :: rest => (collect pair '\x7d' (rest.length + 1) rest).map fun rest => (.map, rest)
      | '[' :: rest => (collect item ']' (rest.length + 1) rest).map fun rest => (.sequence, rest)
      | '"' :: rest =>
        (Toml.basicText (rest.length + 1) [] rest).map fun (s, rest) =>
          (.text (String.ofList s), rest)
      | '\'' :: c :: '\'' :: rest => some (.letter c, rest)
      | '\'' :: _ => none
      | cs =>
        let (word, rest) := cs.span fun c => !isSeparator c
        some (plain (trimBlanks word), rest)
    result.map fun (v, rest) => (v, rest.dropWhile isSpace)

/-- The value of the text of a variable. -/
def valueOf (s : String) : ConfigValue :=
  let cs := trimBlanks s.toList
  match value? (cs.length + 1) cs with
  | some (v, []) => v
  | _ => .text (String.ofList cs)

/-! ## Names of variables -/

/-- What the names of the variables that set a key begin with. -/
def mark : String := "duet_"

/-- The name that a variable sets, in small letters and in its parts between points; no part is
empty. -/
def nameParts? (variableName : String) : Option (List String) :=
  let cs := (trimBlanks variableName.toList).map Char.toLower
  if mark.toList.isPrefixOf cs then
    let parts := splitOnChar '.' (trimBlanks (cs.drop mark.length))
    if [] ∈ parts then none else some (parts.map String.ofList)
  else none

/-- The key name and the value that a variable gives. A name of several parts gives a map. -/
def setting? (v : String × String) : Option (String × ConfigValue) :=
  match nameParts? v.1 with
  | some [k] => some (k, valueOf v.2)
  | some (k :: _) => some (k, .map)
  | _ => none

/-- The layer of an environment. -/
def layer (env : Environment) : ConfigLayer := ConfigLayer.ofNamed (env.filterMap setting?)

end Environment

end DirectChat
