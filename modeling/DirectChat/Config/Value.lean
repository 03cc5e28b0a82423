import DirectChat.Text.Double
import DirectChat.Text.Quoted
/-!
# Values in a configuration

What a source of the configuration may give for a key, and how it is named when something else was
wanted. Of lists and tables it only matters that they are no plain value.
-/

namespace DirectChat

/-- A value that a source gives for a key. -/
inductive ConfigValue
  | text (s : String)
  /-- A single character, from a source that tells it apart from a text. -/
  | letter (c : Char)
  | bool (b : Bool)
  /-- An integer from a source whose integers have a sign. -/
  | signed (i : Int)
  /-- An integer from a source that tells those without a sign apart. -/
  | unsigned (n : Nat)
  | real (x : Double)
  | sequence
  | map
deriving DecidableEq, Repr, Inhabited

/-- How a value is named in a message. -/
def ConfigValue.describe : ConfigValue → String
  | .text s => "string " ++ quoted s
  | .letter c => "char " ++ quotedLetter c
  | .bool b => "bool " ++ (if b then "true" else "false")
  | .signed i => "signed int \x60" ++ toString i ++ "\x60"
  | .unsigned n => "unsigned int \x60" ++ toString n ++ "\x60"
  | .real x => "float \x60" ++ x.text ++ "\x60"
  | .sequence => "sequence"
  | .map => "map"

end DirectChat
