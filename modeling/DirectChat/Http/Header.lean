import DirectChat.Text.Blank
/-!
# Header fields

A field has a name, compared without regard to case, and a value. A value that holds other than
visible ASCII characters, spaces and tabs is carried along but has no text.
-/

namespace DirectChat

/-- A header field. -/
structure Header where
  name : String
  value : String
deriving DecidableEq, Repr, Inhabited

namespace Header

/-- Whether a character may stand in a field name. -/
def isNameChar (c : Char) : Bool := c.isAlphanum || "!#$%&'*+-.^_|~".toList.contains c
  || c.toNat == 0x60

/-- Whether a character may stand in a field value: no control character but the tab. -/
def isValueChar (c : Char) : Bool := (32 ≤ c.toNat && c.toNat ≠ 127) || c == '\t'

/-- Whether a field can be sent. -/
def isValid (h : Header) : Bool :=
  h.name ≠ "" && h.name.toList.all isNameChar && h.value.toList.all isValueChar

/-- Whether a character may surround a value without being part of it. -/
def isPadding (c : Char) : Bool := c == ' ' || c == '\t'

/-- A field as it arrives over a socket: without padding around its value. -/
def onWire (h : Header) : Header :=
  ⟨h.name, String.ofList (stripEnds isPadding h.value.toList)⟩

/-- A name in lower case. -/
def lowered (name : String) : String := String.ofList (name.toList.map Char.toLower)

/-- The value of a field as text, if all of it is visible. -/
def text? (h : Header) : Option String :=
  if h.value.toList.all fun c => (32 ≤ c.toNat && c.toNat ≤ 126) || c == '\t' then some h.value
  else none

end Header

/-- The header fields of a request. -/
abbrev Headers := List Header

namespace Headers

/-- The first field of a name, which is given in lower case. -/
def first? (hs : Headers) (name : String) : Option Header :=
  hs.find? fun h => Header.lowered h.name == name

/-- The text of the first field of a name. -/
def text? (hs : Headers) (name : String) : Option String := (hs.first? name).bind Header.text?

end Headers

/-- The token in the first `Authorization` field, if that is of the form `Bearer` and a token. -/
def bearerToken (hs : Headers) : Option String := do
  match (← hs.text? "authorization").toList with
  | 'B' :: 'e' :: 'a' :: 'r' :: 'e' :: 'r' :: ' ' :: token =>
    let token := trimBlanks token
    if token = [] then none else some (String.ofList token)
  | _ => none

end DirectChat
