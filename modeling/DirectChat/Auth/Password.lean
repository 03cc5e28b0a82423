import DirectChat.Crypto.Argon2
import DirectChat.Text.Base64
import DirectChat.Text.Integer
import DirectChat.Text.Split
/-!
# Password hashes

A password is kept as one text: the kind of hash, its version, its parameters, the salt and the
hash, each behind a dollar sign. New hashes use Argon2id with 19 MiB, two passes and one lane; when
a password is verified, everything is taken from the text.
-/

namespace DirectChat

/-- A password hash and what it was made with. -/
structure PasswordHash where
  params : Argon2Params
  salt : List UInt8
  hash : List UInt8
deriving DecidableEq, Repr, Inhabited

namespace PasswordHash

/-- The kinds of hash, by name. -/
def kinds : List (String × Argon2Kind) := [("argon2d", .d), ("argon2i", .i), ("argon2id", .id)]

/-- The name of a kind. -/
def kindName : Argon2Kind → String
  | .d => "argon2d"
  | .i => "argon2i"
  | .id => "argon2id"

/-- A decimal number of 32 bits without zeros in front. -/
def decimal? (cs : List Char) : Option Nat :=
  match cs with
  | '0' :: _ :: _ => none
  | _ => (digits? cs).filter (· < Nat.pow 2 32)

/-- Whether a character may stand in the value of a parameter or in a salt. -/
def isValueChar (c : Char) : Bool := c.isAlphanum || c == '/' || c == '+' || c == '.' || c == '-'

/-- Whether a character may stand in a name. -/
def isNameChar (c : Char) : Bool := ('a' ≤ c && c ≤ 'z') || ('0' ≤ c && c ≤ '9') || c == '-'

/-- A parameter: a name and a value around an equals sign. -/
def parameter? (cs : List Char) : Option (List Char × List Char) :=
  match splitOnChar '=' cs with
  | [name, value] =>
    if name ≠ [] ∧ name.length ≤ 32 ∧ name.all isNameChar ∧ value.length ≤ 64
      ∧ value.all isValueChar then some (name, value) else none
  | _ => none

/-- Takes one parameter over. A key identifier only has to be well formed. -/
def setParameter (p : Argon2Params) (name value : List Char) : Option Argon2Params :=
  if name = "m".toList then (decimal? value).map fun n => { p with memory := n }
  else if name = "t".toList then (decimal? value).map fun n => { p with passes := n }
  else if name = "p".toList then (decimal? value).map fun n => { p with lanes := n }
  else if name = "keyid".toList then (Base64.standard.decode value).bind fun bytes =>
    if bytes.length ≤ 8 then some p else none
  else if name = "data".toList then (Base64.standard.decode value).bind fun bytes =>
    if bytes.length ≤ 32 then some { p with data := bytes } else none
  else none

/-- Takes over a list of parameters. -/
def setParameters (p : Argon2Params) : List (List Char) → Option Argon2Params
  | [] => some p
  | f :: fs => do
    let (name, value) ← parameter? f
    setParameters (← setParameter p name value) fs

/-- The parameters that are used when a text does not give them. -/
def defaults : Argon2Params where
  kind := .id
  version := .v19
  memory := 19456
  passes := 2
  lanes := 1
  size := 32
  data := []

/-- Whether a hash can be computed with the parameters. -/
def isUsable (p : Argon2Params) : Bool :=
  8 ≤ p.memory && 8 * p.lanes ≤ p.memory && 1 ≤ p.passes && 1 ≤ p.lanes && p.lanes < Nat.pow 2 24

/-- The version, if the first field gives one, and the fields after it. -/
def version? : List (List Char) → Option (Argon2Version × List (List Char))
  | ('v' :: '=' :: digits) :: fields =>
    if digits.contains ',' then some (.v19, ('v' :: '=' :: digits) :: fields)
    else match decimal? digits with
      | some 16 => some (.v16, fields)
      | some 19 => some (.v19, fields)
      | _ => none
  | fields => some (.v19, fields)

/-- The parameters, if the first field gives any, and the fields after it. -/
def parameters? (p : Argon2Params) :
    List (List Char) → Option (Argon2Params × List (List Char))
  | [] => some (p, [])
  | f :: fields =>
    if f.contains '=' then
      if f.length ≤ 127 then (setParameters p (splitOnChar ',' f)).map fun p => (p, fields) else none
    else some (p, f :: fields)

/-- Reads the text of a password hash. -/
def parse? (text : String) : Option PasswordHash := do
  match splitOnChar '$' text.toList with
  | [] :: name :: fields =>
    let kind ← kinds.lookup (String.ofList name)
    let (version, fields) ← version? fields
    let (params, fields) ← parameters? { defaults with kind, version } fields
    match fields with
    | [salt, hash] =>
      let saltBytes ← Base64.standard.decode salt
      let hashBytes ← Base64.standard.decode hash
      if 4 ≤ salt.length ∧ salt.length ≤ 64 ∧ 8 ≤ saltBytes.length ∧ 10 ≤ hashBytes.length
        ∧ hashBytes.length ≤ 64 then
        some ⟨{ params with size := hashBytes.length }, saltBytes, hashBytes⟩
      else none
    | _ => none
  | _ => none

/-- The text of a password hash up to its salt. -/
def front (p : Argon2Params) : String :=
  "$" ++ kindName p.kind ++ "$v=" ++ toString p.version.number ++ "$m=" ++ toString p.memory
    ++ ",t=" ++ toString p.passes ++ ",p=" ++ toString p.lanes

/-- The text of a password hash. -/
def render (h : PasswordHash) : String :=
  front h.params ++ "$" ++ String.ofList (Base64.standard.encode h.salt) ++ "$"
    ++ String.ofList (Base64.standard.encode h.hash)

end PasswordHash

/-- The bytes of a password. -/
def passwordBytes (password : String) : List UInt8 := password.toUTF8.toList

/-- The text under which a password is kept, for a given salt. -/
def hashPassword (salt : List UInt8) (password : String) : String :=
  let params := PasswordHash.defaults
  PasswordHash.render ⟨params, salt, argon2 params (passwordBytes password) salt⟩

/-- Whether a password is the one that a kept text was made from. A malformed text is that of no
password. -/
def verifyPassword (password stored : String) : Bool :=
  match PasswordHash.parse? stored with
  | some h => PasswordHash.isUsable h.params
      && argon2 h.params (passwordBytes password) h.salt == h.hash
  | none => false

end DirectChat
