import DirectChat.Http.Header
/-!
# Media types

A media type is a type and a subtype around a slash, and parameters behind semicolons. Its names are
compared without regard to case; the subtype may have a suffix behind a plus sign.
-/

namespace DirectChat

/-- A media type. -/
structure MediaType where
  type : String
  subtype : String
  suffix : Option String
  params : List (String × String)
deriving DecidableEq, Repr, Inhabited

namespace MediaType

/-- Whether a character may stand inside quotes. -/
def isQuotedChar (c : Char) : Bool := 31 < c.toNat && c.toNat ≠ 127 && c ≠ '"'

/-- Reads the value of a parameter: a name, or any text in quotes. -/
def readValue (cs : List Char) : Option (String × List Char) :=
  match cs with
  | '"' :: rest =>
    match rest.span isQuotedChar with
    | (value, '"' :: rest) => if value = [] then none else some (String.ofList value, rest)
    | _ => none
  | _ =>
    match cs.span Header.isNameChar with
    | (value, rest) => some (String.ofList value, rest)

/-- Reads the parameters behind a semicolon; `fuel` bounds their number. -/
def readParams : Nat → List Char → Option (List (String × String))
  | 0, _ => none
  | fuel + 1, cs =>
    match cs.dropWhile (· = ' ') with
    | [] => some []
    | cs =>
      match cs.span Header.isNameChar with
      | ([], _) => none
      | (name, '=' :: rest) => do
        let (value, rest) ← readValue rest
        match rest with
        | [] => return [(Header.lowered (String.ofList name), value)]
        | ';' :: rest => return (Header.lowered (String.ofList name), value) :: (← readParams fuel rest)
        | _ => none
      | _ => none

/-- The two sides of the last plus sign, if something precedes it. -/
def splitSuffix (cs : List Char) : List Char × Option (List Char) :=
  match cs.reverse.span (· ≠ '+') with
  | (back, _ :: front) => if front = [] then (cs, none) else (front.reverse, some back.reverse)
  | (_, []) => (cs, none)

/-- Reads a media type. -/
def parse? (text : String) : Option MediaType :=
  match text.toList.span Header.isNameChar with
  | (type, '/' :: rest) =>
    match rest.span Header.isNameChar with
    | (sub, rest) =>
      if type = [] ∨ sub = [] then none
      else do
        let params ← match rest with
          | [] => some []
          | ';' :: rest => readParams (rest.length + 1) rest
          | _ => none
        let (subtype, suffix) := splitSuffix sub
        return ⟨Header.lowered (String.ofList type), Header.lowered (String.ofList subtype),
          suffix.map fun s => Header.lowered (String.ofList s), params⟩
  | _ => none

/-- Whether a media type is JSON. -/
def isJson (m : MediaType) : Bool :=
  m.type == "application" && (m.subtype == "json" || m.suffix == some "json")

/-- The boundary of a form in parts. -/
def formBoundary? (m : MediaType) : Option String :=
  if m.type = "multipart" ∧ m.subtype = "form-data" ∧ m.suffix = none then
    m.params.lookup "boundary"
  else none

end MediaType

/-- The media type that a request declares. -/
def Headers.mediaType? (hs : Headers) : Option MediaType :=
  (hs.text? "content-type").bind MediaType.parse?

end DirectChat
