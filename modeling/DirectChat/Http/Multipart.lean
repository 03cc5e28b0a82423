import DirectChat.Http.MediaType
import DirectChat.Text.Quoted
import DirectChat.Text.Split
/-!
# Forms in parts

The body of a form is a sequence of parts between boundary lines; each has header fields, an empty
line and its data. The parts are read one after another until the wanted one, and only what was read
by then can be at fault: a part that is passed over has to be complete, what follows the wanted part
has not.
-/

namespace DirectChat

/-! ## Searching bytes -/

/-- The byte at a place, zero beyond the end. -/
@[inline] def byteAt (bytes : ByteArray) (i : Nat) : UInt8 :=
  if h : i < bytes.size then bytes[i] else 0

/-- Whether the first `n` bytes of a pattern stand at a place. -/
def agrees (bytes pattern : ByteArray) (place : Nat) : Nat → Bool
  | 0 => true
  | n + 1 => byteAt bytes (place + n) == byteAt pattern n && agrees bytes pattern place n

/-- Whether a pattern stands at a place. -/
def standsAt (bytes pattern : ByteArray) (place : Nat) : Bool :=
  place + pattern.size ≤ bytes.size && agrees bytes pattern place pattern.size

/-- The first of `n` places, from the given one on, where a pattern stands. -/
def searchFrom (bytes pattern : ByteArray) : Nat → Nat → Option Nat
  | 0, _ => none
  | n + 1, place =>
    if standsAt bytes pattern place then some place else searchFrom bytes pattern n (place + 1)

/-- The first place of a pattern, from the given one on. -/
def findBytes (bytes pattern : ByteArray) (start : Nat) : Option Nat :=
  searchFrom bytes pattern (bytes.size + 1 - start) start

/-- The first place of `n`, from the given one on, that holds neither a space nor a tab. -/
def skipPadding (bytes : ByteArray) : Nat → Nat → Nat
  | 0, place => place
  | n + 1, place =>
    if byteAt bytes place = 32 ∨ byteAt bytes place = 9 then skipPadding bytes n (place + 1)
    else place

/-! ## The header of a part -/

/-- A part of a form. -/
structure FormPart where
  name : Option String
  fileName : Option String
  data : ByteArray

/-- Why a form cannot be read. -/
inductive FormError
  | tooLarge
  | incomplete
  | badHeaders
  | incompletePart (name : Option String)
deriving DecidableEq, Repr

/-- Whether a character is blank in ASCII. -/
def isAsciiBlank (c : Char) : Bool :=
  c == ' ' || c == '\t' || c == '\n' || c == '\r' || c == '\x0c'

/-- The text in quotes up to its end; a quote behind a backslash does not end it. -/
def quotedText : List Char → Option (List Char)
  | [] => none
  | '"' :: _ => some []
  | '\\' :: c :: rest => (quotedText rest).map fun t => '\\' :: c :: t
  | c :: rest => (quotedText rest).map (c :: ·)

/-- The value of an attribute in a header value: where its key, which ends in an equals sign, stands
at the start or behind a blank or a semicolon. `before` is the character before; `fuel` bounds the
length. -/
def attributeFrom (key : List Char) : Nat → Option Char → List Char → Option String
  | 0, _, _ => none
  | _ + 1, _, [] => none
  | fuel + 1, before, c :: rest =>
    if key.isPrefixOf (c :: rest) then
      let value := (c :: rest).drop key.length
      if before.all fun b => isAsciiBlank b || b == ';' then
        match value with
        | '"' :: quoted => (quotedText quoted).map String.ofList
        | plain => some (String.ofList (plain.takeWhile (· ≠ ';')))
      else attributeFrom key fuel none value
    else attributeFrom key fuel (some c) rest

/-- The value of an attribute in a header value. -/
def attribute? (key : String) (value : String) : Option String :=
  attributeFrom key.toList (value.length + 1) none value.toList

/-- The lines of a header: each ends in a line feed, before which a carriage return is dropped. -/
def headerLines (cs : List Char) : List (List Char) :=
  (splitOnChar '\n' cs).map fun line =>
    match line.reverse with
    | '\r' :: back => back.reverse
    | _ => line

/-- One header line. -/
def headerLine? (line : List Char) : Option Header :=
  match line.span Header.isNameChar with
  | ([], _) => none
  | (name, ':' :: value) =>
    let value := stripEnds Header.isPadding value
    if value.all Header.isValueChar then some ⟨String.ofList name, String.ofList value⟩ else none
  | _ => none

/-- The most header fields that a part may have. -/
def maxPartHeaders : Nat := 32

/-- The header fields of a part, up to the first empty line. -/
def partHeaders? (block : String) : Option Headers := do
  let lines := (headerLines block.toList).takeWhile (· ≠ [])
  let headers ← lines.mapM headerLine?
  if headers.length ≤ maxPartHeaders then some headers else none

/-- How a part is to be treated: the last field of that name counts. -/
def disposition? (hs : Headers) : Option String :=
  (Headers.first? hs.reverse "content-disposition").map (·.value)

/-! ## The parts -/

/-- The part whose header begins at a place, and the place of the boundary after it. -/
def readPart (body mark : ByteArray) (place : Nat) : Except FormError (FormPart × Nat) := do
  match findBytes body "\r\n\r\n".toUTF8 place with
  | none => .error .incomplete
  | some stop =>
    let block := (String.fromUTF8? (body.extract place (stop + 4))).getD ""
    match partHeaders? block with
    | none => .error .badHeaders
    | some headers =>
      let how := disposition? headers
      let name := how.bind (attribute? "name=")
      match findBytes body ("\r\n".toUTF8 ++ mark) (stop + 4) with
      | none => .error (.incompletePart name)
      | some next =>
        .ok (⟨name, how.bind (attribute? "filename="), body.extract (stop + 4) next⟩, next + 2)

/-- The first part of a name, from the boundary at a place on; `fuel` bounds the number of parts. -/
def findPartFrom (body mark : ByteArray) (name : String) :
    Nat → Nat → Except FormError (Option FormPart)
  | 0, _ => .ok none
  | fuel + 1, place => do
    let place := place + mark.size
    if body.size < place + 2 then .error .incomplete
    else if byteAt body place = 45 ∧ byteAt body (place + 1) = 45 then .ok none
    else
      let place := skipPadding body (body.size - place) place
      if standsAt body "\r\n".toUTF8 place then
        match readPart body mark (place + 2) with
        | .error e => .error e
        | .ok (part, next) =>
          if part.name = some name then .ok (some part) else findPartFrom body mark name fuel next
      else .error .incomplete

/-- The first part of a name in a form with the given boundary, whose body may have at most `limit`
bytes. -/
def findPart (limit : Nat) (boundary : String) (name : String) (body : ByteArray) :
    Except FormError (Option FormPart) :=
  if limit < body.size then .error .tooLarge
  else
    let mark := ("--" ++ boundary).toUTF8
    match findBytes body mark 0 with
    | none => .error .incomplete
    | some place => findPartFrom body mark name (body.size + 1) place

/-! ## Wording -/

/-- The wording of a fault in a form. -/
def FormError.message : FormError → String
  | .tooLarge => "Request payload is too large"
  | .incomplete => "incomplete multipart stream"
  | .badHeaders => "failed to read headers"
  | .incompletePart name =>
    "field " ++ quoted (name.getD "<unknown>") ++ " received with incomplete data"

end DirectChat
