import DirectChat.Crypto.Sha256
import DirectChat.Json.Printer
import DirectChat.Json.Record
import DirectChat.Profile.Photo
import DirectChat.Text.Base64
/-!
# Access and refresh tokens

A token is a signed statement of who its bearer is, what it may be used for and until when. It is
written as three parts between dots: a header, the claims and the signature, the keyed SHA-256 hash
of the first two. A token is refused a minute after its expiry, as the clocks of two machines may
differ.
-/

namespace DirectChat

/-- What a token may be used for. -/
inductive TokenKind
  /-- To act as its owner. -/
  | access
  /-- To get a new pair of tokens. -/
  | refresh
deriving DecidableEq, Repr, Inhabited

/-- The word for a kind of token. -/
def TokenKind.word : TokenKind → String
  | .access => "access"
  | .refresh => "refresh"

/-- For how many seconds a token of a kind is issued. -/
def TokenKind.lifetime : TokenKind → Int
  | .access => 24 * 60 * 60
  | .refresh => 7 * 24 * 60 * 60

/-- What a token states. Times are in Unix seconds. -/
structure Claims where
  user : UserId
  username : String
  kind : TokenKind
  issuedAt : Int
  expiresAt : Int
deriving DecidableEq, Repr, Inhabited

/-- Who someone is. -/
structure Identity where
  user : UserId
  username : String
deriving DecidableEq, Repr, Inhabited

/-- Why a token is refused. -/
inductive AuthError
  | expired
  | invalid
  | wrongKind
deriving DecidableEq, Repr, Inhabited

/-- The wording of a refusal. -/
def AuthError.message : AuthError → String
  | .expired => "token expired"
  | .invalid => "token invalid"
  | .wrongKind => "wrong token kind"

/-- For how many seconds after its expiry a token is still accepted. -/
def leeway : Int := 60

/-- The seconds of a moment in milliseconds. -/
def secondsOf (millis : Int) : Int := Int.fdiv millis 1000

namespace Claims

/-- The claims as JSON. -/
def toJson (c : Claims) : Json :=
  .record [("sub", .int c.user), ("username", .text c.username), ("kind", .text c.kind.word),
    ("iat", .int c.issuedAt), ("exp", .int c.expiresAt)]

/-- The fields of the claims. -/
def record : Record Claims where
  blank := ⟨0, "", .access, 0, 0⟩
  fields := [
    ⟨"sub", .required, fun v c => v.asInt64.map fun i => { c with user := i }⟩,
    ⟨"username", .required, fun v c => v.asText.map fun s => { c with username := s }⟩,
    ⟨"kind", .required, fun v c =>
      (v.asName [("access", .access), ("refresh", .refresh)]).map fun k => { c with kind := k }⟩,
    ⟨"iat", .required, fun v c => v.asInt64.map fun i => { c with issuedAt := i }⟩,
    ⟨"exp", .required, fun v c => v.asInt64.map fun i => { c with expiresAt := i }⟩]

end Claims

namespace Token

/-! ## The common claims

Expiry and audience are also read by the rules for tokens in general, which know five claims and
take a value of the wrong type for an absent one, as long as it is passed over as a whole. -/

/-- What the general rules look at: the expiry, and whether an audience is named. -/
structure Common where
  expiresAt : Option Nat
  audience : Bool

/-- Whether a value of the wrong type is passed over where one without parts is read. -/
def isPassedOver : Json → Bool
  | .arr (_ :: _) | .obj (_ :: _) | .str none => false
  | _ => true

/-- Whether a value of the wrong type is passed over where a text is read. -/
def isPassedOverAsText : Json → Bool
  | .arr _ | .obj _ | .str none => false
  | _ => true

/-- Whether a value names an audience: a text or a list of texts. -/
def namesAudience : Json → Bool
  | .str (some _) => true
  | .arr items => items.all fun v => match v with
    | .str (some _) => true
    | _ => false
  | _ => false

/-- The fields that the general rules know. -/
def commonRecord : Record Common where
  blank := ⟨none, false⟩
  fields := [
    ⟨"exp", .nullable, fun v c => match v with
      | .num (.int (.ofNat n)) => .ok { c with expiresAt := some n }
      | v => if isPassedOver v then .ok c else .error .mismatched⟩,
    ⟨"nbf", .nullable, fun v c => if isPassedOver v then .ok c else .error .mismatched⟩,
    ⟨"sub", .nullable, fun v c => if isPassedOverAsText v then .ok c else .error .mismatched⟩,
    ⟨"iss", .nullable, fun v c => if v matches .str none then .error .mismatched else .ok c⟩,
    ⟨"aud", .nullable, fun v c =>
      if v matches .str none then .error .mismatched
      else .ok { c with audience := namesAudience v }⟩]

/-! ## The header -/

/-- A list of texts. -/
def asTexts : Json → Except Fault (List String)
  | .arr items => items.mapM Json.asText
  | v => .error v.kindFault

/-- A field that may hold a text and is not used. -/
def unusedText (key : String) : Field Unit :=
  ⟨key, .nullable, fun v _ => (Json.orNull Json.asText v).map fun _ => ()⟩

/-- A required text field that is not used. -/
def unusedName (key : String) (names : List String) : Field Unit :=
  ⟨key, .required, fun v _ => v.asName (names.map fun n => (n, ()))⟩

/-- A required field of any text. -/
def neededText (key : String) : Field Unit :=
  ⟨key, .required, fun v _ => v.asText.map fun _ => ()⟩

/-- The fields that any key in a header may have. -/
def keyFields : List (Field Unit) := [
  unusedText "use",
  ⟨"key_ops", .nullable, fun v _ => (Json.orNull asTexts v).map fun _ => ()⟩,
  ⟨"alg", .nullable, fun v _ => (Json.orNull (Json.asName (["HS256", "HS384", "HS512", "ES256",
    "ES384", "RS256", "RS384", "RS512", "PS256", "PS384", "PS512", "EdDSA", "RSA1_5", "RSA-OAEP",
    "RSA-OAEP-256"].map fun n => (n, ()))) v).map fun _ => ()⟩,
  unusedText "kid", unusedText "x5u",
  ⟨"x5c", .nullable, fun v _ => (Json.orNull asTexts v).map fun _ => ()⟩,
  unusedText "x5t", unusedText "x5t#S256"]

/-- The fields of each family of keys. -/
def keyFamilies : List (List (Field Unit)) :=
  let curve := unusedName "crv" ["P-256", "P-384", "P-521", "Ed25519"]
  [[unusedName "kty" ["EC"], curve, neededText "x", neededText "y"],
    [unusedName "kty" ["RSA"], neededText "n", neededText "e"],
    [unusedName "kty" ["oct"], neededText "k"],
    [unusedName "kty" ["OKP"], curve, neededText "x"]]

/-- Whether a value is a key as a header may carry it. -/
def isKey : Json → Bool
  | .obj members => keyFamilies.any fun family =>
    ((⟨(), keyFields ++ family⟩ : Record Unit).ofMembers members).toOption.isSome
  | _ => false

/-- The fields of a header. The only algorithm is the keyed SHA-256 hash. -/
def headerRecord : Record Unit where
  blank := ()
  fields := [
    unusedText "typ", unusedName "alg" ["HS256"], unusedText "cty", unusedText "jku",
    ⟨"jwk", .nullable, fun v _ =>
      if v matches .null then .ok () else if isKey v then .ok () else .error .mismatched⟩,
    unusedText "kid", unusedText "x5u",
    ⟨"x5c", .nullable, fun v _ => (Json.orNull asTexts v).map fun _ => ()⟩,
    unusedText "x5t", unusedText "x5t#S256"]

/-! ## Writing and reading -/

/-- The bytes of a text. -/
def bytesOf (s : String) : List UInt8 := s.toUTF8.toList

/-- A part of a token. -/
def part (bytes : List UInt8) : List Char := Base64.urlSafe.encode bytes

/-- The signature of the first two parts. -/
def signature (secret : List UInt8) (signed : List Char) : List Char :=
  part (hmacSha256 secret (bytesOf (String.ofList signed)))

/-- The header of every token that is issued. -/
def header : Json := .record [("typ", .text "JWT"), ("alg", .text "HS256")]

/-- The token that states the given claims. -/
def encode (secret : List UInt8) (c : Claims) : String :=
  let signed := part (bytesOf header.render) ++ '.' :: part (bytesOf c.toJson.render)
  String.ofList (signed ++ '.' :: signature secret signed)

/-- The text of a part. -/
def textOf? (cs : List Char) : Option String :=
  (Base64.urlSafe.decode cs).bind fun bytes => String.fromUTF8? (ByteArray.mk bytes.toArray)

/-- The two sides of the last dot. -/
def splitLastDot? (cs : List Char) : Option (List Char × List Char) :=
  match cs.reverse.span (· ≠ '.') with
  | (back, _ :: front) => some (front.reverse, back.reverse)
  | (_, []) => none

/-- The claims of a token that is signed with the secret, with what the general rules look at. -/
def open? (secret : List UInt8) (token : String) : Option (Claims × Common) := do
  let (signed, mark) ← splitLastDot? token.toList
  let (head, body) ← splitLastDot? signed
  headerRecord.read? (← textOf? head)
  if mark ≠ signature secret signed then none
  let text ← textOf? body
  return (← Claims.record.read? text, ← commonRecord.read? text)

/-- The claims of a token, if it is signed with the secret, not expired at `now` (Unix
milliseconds) and for no particular audience. -/
def decode (secret : List UInt8) (now : Int) (token : String) : Except AuthError Claims :=
  match open? secret token with
  | none => .error .invalid
  | some (claims, common) =>
    match common.expiresAt with
    | none => .error .invalid
    | some expiresAt =>
      if (expiresAt : Int) < secondsOf now - leeway then .error .expired
      else if common.audience then .error .invalid
      else .ok claims

/-- Who a token of the given kind was issued to. -/
def resolveKind (secret : List UInt8) (now : Int) (kind : TokenKind) (token : String) :
    Except AuthError Identity :=
  match decode secret now token with
  | .error e => .error e
  | .ok claims => if claims.kind = kind then .ok ⟨claims.user, claims.username⟩
    else .error .wrongKind

/-- Who an access token was issued to. -/
def resolve (secret : List UInt8) (now : Int) (token : String) : Except AuthError Identity :=
  resolveKind secret now .access token

/-- Who a refresh token was issued to. -/
def resolveRefresh (secret : List UInt8) (now : Int) (token : String) :
    Except AuthError Identity :=
  resolveKind secret now .refresh token

/-- Issues a token. -/
def issue (secret : List UInt8) (now : Int) (kind : TokenKind) (who : Identity) : String :=
  let seconds := secondsOf now
  encode secret ⟨who.user, who.username, kind, seconds, seconds + kind.lifetime⟩

end Token

/-- An access token and a refresh token of the same owner. -/
structure TokenPair where
  access : String
  refresh : String
deriving DecidableEq, Repr, Inhabited

/-- Issues a pair of tokens. -/
def TokenPair.issue (secret : List UInt8) (now : Int) (who : Identity) : TokenPair :=
  ⟨Token.issue secret now .access who, Token.issue secret now .refresh who⟩

/-- The members of a pair of tokens. -/
def TokenPair.members (p : TokenPair) : List (String × Json) :=
  [("access_token", .text p.access), ("refresh_token", .text p.refresh)]

/-- A pair of tokens as JSON. -/
def TokenPair.toJson (p : TokenPair) : Json := .record p.members

end DirectChat
