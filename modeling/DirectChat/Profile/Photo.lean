import DirectChat.Text.FileName
/-!
# Names and addresses of profile photos

A photo is stored under a name made of its owner, the moment of the upload in nanoseconds and the
extension of the name that the client gave, when that is short and plain. It is served under
`/uploads`.
-/

namespace DirectChat

/-- The identifier of a user. -/
abbrev UserId := Int

/-- The most bytes that one photo upload may have. -/
def photoMaxBytes : Nat := 10 * 1024 * 1024

/-- Whether a character is an ASCII letter or digit. -/
def isPlain (c : Char) : Bool := c.isAlphanum

/-- The extension under which a photo is stored, with its dot: that of the client's name in lower
case, or nothing if it is not one to eight ASCII letters and digits. -/
def photoExtension (clientName : Option String) : String :=
  match (clientName.bind fileName?).bind extension? with
  | some ext =>
    if ext ≠ [] ∧ ext.length ≤ 8 ∧ ext.all isPlain then String.ofList ('.' :: ext.map Char.toLower)
    else ""
  | none => ""

/-- The name under which a photo is stored. -/
def photoFileName (user : UserId) (nanos : Int) (clientName : Option String) : String :=
  toString user ++ "_" ++ toString nanos ++ photoExtension clientName

/-- The address of a stored photo, absolute when the public address of the server is configured. -/
def photoUrl (base : Option String) (file : String) : String :=
  base.getD "" ++ "/uploads/" ++ file

end DirectChat
