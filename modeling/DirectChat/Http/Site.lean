import DirectChat.Auth.Password
import DirectChat.Auth.Token
import DirectChat.Chat.Server
import DirectChat.Http.Limiter
import DirectChat.Http.Multipart
import DirectChat.Http.Request
import DirectChat.Http.Route
import DirectChat.Profile.Uploads
import DirectChat.Text.Percent
/-!
# The site

The endpoints over HTTP: accounts, direct rooms, the user directory, profiles and their photos.
Who may use an endpoint is settled before anything else of a request is looked at.
-/

namespace DirectChat

/-- What answers requests. -/
structure Site where
  server : Server
  /-- The key that signs tokens. -/
  secret : List UInt8
  uploads : Uploads
  limiter : Limiter
  /-- The number of salts used so far. -/
  salts : Nat
  /-- The nanoseconds that the clock shows beyond its whole milliseconds. -/
  nanosPast : Fin 1000000

namespace Site

/-- A site without users and files. -/
def start (settings : ChatSettings) (secret : List UInt8) (now : Int) : Site where
  server := .start settings now
  secret := secret
  uploads := .empty
  limiter := .empty
  salts := 0
  nanosPast := 0

instance : Inhabited Site := ⟨start .default [] 0⟩

/-- The salt for the next password. -/
def nextSalt (s : Site) : List UInt8 := littleEndian 16 (s.salts + 1)

/-! ## Bodies -/

/-- The most bytes that a JSON body may have. -/
def jsonMaxBytes : Nat := 2 * 1024 * 1024

/-- The response to a body that is no JSON, or of another shape. -/
def refusal : Fault → Response
  | .malformed => .text 400 "Failed to parse the request body as JSON"
  | .mismatched => .text 422 "Failed to deserialize the JSON body into the target type"

/-- The record in the body of a request. -/
def jsonBody {α : Type} (r : Record α) (req : Request) : Except Response α :=
  if ¬ req.headers.mediaType?.any MediaType.isJson then
    .error (.text 415 "Expected request with \x60Content-Type: application/json\x60")
  else if jsonMaxBytes < req.body.size then
    .error (.text 413 "Failed to buffer the request body: length limit exceeded")
  else
    match String.fromUTF8? req.body with
    | none => .error (refusal .malformed)
    | some text =>
      match r.decode text with
      | .ok a => .ok a
      | .error f => .error (refusal f)

/-- A name and a password. -/
structure Credentials where
  username : String
  password : String
deriving DecidableEq, Repr, Inhabited

/-- The fields of credentials. -/
def Credentials.record : Record Credentials where
  blank := ⟨"", ""⟩
  fields := [
    ⟨"username", .defaulted, fun v c => v.asText.map fun s => { c with username := s }⟩,
    ⟨"password", .defaulted, fun v c => v.asText.map fun s => { c with password := s }⟩]

/-- The fields of a request for new tokens. -/
def refreshRecord : Record String where
  blank := ""
  fields := [⟨"refresh_token", .required, fun v _ => v.asText⟩]

/-- The fields of a request for a direct room. -/
def recipientRecord : Record (Option UserId) where
  blank := none
  fields := [⟨"recipient_id", .nullable, fun v _ => Json.orNull Json.asInt64 v⟩]

/-! ## Accounts -/

/-- Adds a user. -/
def register (c : Credentials) (s : Site) : Response × Site :=
  let name := trimmed c.username
  if name = "" ∨ c.password = "" then (.text 400 "Username and password are required", s)
  else
    let hash := hashPassword s.nextSalt c.password
    let s := { s with salts := s.salts + 1 }
    match s.server.store.createUser name hash s.server.now with
    | .ok (user, store) => (.json 201 user.toJson, { s with server := { s.server with store } })
    | .error .usernameTaken => (.text 400 "Username already exists", s)
    | .error _ => (.text 500 "Registration failed", s)

/-- Logs a user in. -/
def login (c : Credentials) (s : Site) : Response :=
  match s.server.store.credentials (trimmed c.username) with
  | .error _ => .empty 500
  | .ok none => .empty 401
  | .ok (some user) =>
    if verifyPassword c.password user.passwordHash then
      let tokens := TokenPair.issue s.secret s.server.now ⟨user.id, user.username⟩
      .json 200 (.record (tokens.members ++ [("user", user.info.toJson)]))
    else .empty 401

/-- Exchanges a refresh token for a new pair. The user must still exist. -/
def refresh (token : String) (s : Site) : Response :=
  match Token.resolveRefresh s.secret s.server.now token with
  | .error _ => .empty 401
  | .ok who =>
    match s.server.store.userInfo who.user with
    | .error _ => .empty 500
    | .ok none => .empty 401
    | .ok (some user) =>
      .json 200 (TokenPair.issue s.secret s.server.now ⟨user.id, user.username⟩).toJson

/-! ## Rooms and users -/

/-- Gives the direct room with a recipient, made on first use. -/
def directRoom (who : Identity) (recipient : Option UserId) (s : Site) : Response × Site :=
  match recipient with
  | none => (.empty 400, s)
  | some other =>
    if other = who.user then (.empty 400, s)
    else match s.server.directRoom who.user other with
      | .ok (room, server) => (.json 200 room.toJson, { s with server })
      | .error (.notFound _) => (.empty 404, s)
      | .error _ => (.empty 500, s)

/-- Lists every user but the caller, with their presence. -/
def users (who : Identity) (s : Site) : Response :=
  match s.server.store.listUsers with
  | .error _ => .empty 500
  | .ok users => .json 200 <| .arr <| (users.filter (·.id ≠ who.user)).map fun u =>
      .record (u.members
        ++ [("status", .text (presenceWord (s.server.registry.isOnline u.id)))])

/-- Shows the caller's profile. -/
def profile (who : Identity) (s : Site) : Response :=
  match s.server.store.profile who.user with
  | .error _ => .empty 500
  | .ok none => .empty 404
  | .ok (some p) => .json 200 p.toJson

/-! ## Photos -/

/-- A moment in Unix nanoseconds, zero when that does not fit 64 bits. -/
def nanosOf (moment : Int) : Int := if isInt64 moment then moment else 0

/-- What the clock shows in nanoseconds. -/
def nanos (s : Site) : Int := nanosOf (s.server.now * 1000000 + s.nanosPast.val)

/-- Stores a photo and records it. If it cannot be recorded, the file is removed again. -/
def storePhoto (who : Identity) (clientName : Option String) (data : ByteArray) (s : Site) :
    Response × Site :=
  let file := photoFileName who.user s.nanos clientName
  match s.uploads.write? [file] data with
  | none => (.text 500 "Failed to save photo", s)
  | some uploads =>
    let url := photoUrl s.server.settings.baseUrl file
    match s.server.store.addPhoto who.user file url s.server.now with
    | .ok (photo, store) =>
      (.json 201 photo.toJson, { s with uploads, server := { s.server with store } })
    | .error _ =>
      (.text 500 "Failed to save photo", { s with uploads := uploads.remove [file] })

/-- Takes a photo out of a form and stores it. -/
def uploadPhoto (who : Identity) (req : Request) (s : Site) : Response × Site :=
  match req.headers.mediaType?.bind MediaType.formBoundary? with
  | none => (.text 400 "Invalid \x60boundary\x60 for \x60multipart/form-data\x60 request", s)
  | some boundary =>
    match findPart photoMaxBytes boundary "photo" req.body with
    | .error e => (.text 400 e.message, s)
    | .ok none => (.text 400 "photo file is required", s)
    | .ok (some part) =>
      if part.data.size = 0 then (.text 400 "photo file is required", s)
      else s.storePhoto who part.fileName part.data

/-- Removes a photo of the caller, and its file. -/
def deletePhoto (who : Identity) (id : List Char) (s : Site) : Response × Site :=
  match percentDecode? id with
  | none => (.text 400 "Invalid URL: Invalid UTF-8 in \x60photo_id\x60", s)
  | some text =>
    match int64? text.toList with
    | none => (.text 400 ("Invalid URL: Cannot parse \x60" ++ text ++ "\x60 to a \x60i64\x60"), s)
    | some id =>
      if id ≤ 0 then (.text 400 "invalid photo id", s)
      else match s.server.store.deletePhoto who.user id with
        | .ok (photo, store) =>
          (.empty 204, { s with
            uploads := s.uploads.removeNamed photo.file, server := { s.server with store } })
        | .error (.notFound _) => (.text 404 "photo not found", s)
        | .error _ => (.text 500 "Failed to delete photo", s)

/-- Serves a file. A directory is served through its index, under its path with a slash. -/
def serveFile (rest : List Char) (s : Site) : Response :=
  match percentDecode? rest with
  | none => .empty 404
  | some text =>
    let parts := Uploads.path text
    let slashed := rest = [] ∨ rest.getLast? = some '/'
    if parts.contains ".." then .empty 404
    else if parts = [] ∨ s.uploads.isFolder parts then
      if slashed then
        match s.uploads.read? (parts ++ ["index.html"]) with
        | some bytes => ⟨200, .file "index.html" bytes⟩
        | none => .empty 404
      else .empty 307
    else match s.uploads.read? parts with
      | some bytes => ⟨200, .file (parts.getLast?.getD "") bytes⟩
      | none => .empty 404

/-! ## Sockets -/

/-- The token in a query, unless it is blank. A query that gives two is refused. -/
def queryToken (query : List Char) : Except Response (Option String) :=
  match (queryPairs query).filter fun p => p.1 = "access_token" with
  | [] => .ok none
  | [p] =>
    let token := trimmed p.2
    .ok (if token = "" then none else some token)
  | _ => .error (.text 400 "Failed to deserialize query string")

/-- The token of a request, the query before the header. -/
def socketToken (req : Request) : Except Response (Option String) :=
  match queryToken req.query with
  | .error e => .error e
  | .ok (some token) => .ok (some token)
  | .ok none => .ok (bearerToken req.headers)

/-- Whether a header field is the given word, whatever its case. -/
def headerIs (hs : Headers) (name word : String) : Bool :=
  (hs.first? name).any fun h => Header.lowered h.value == word

/-- Whether a header field contains the given word, whatever its case. -/
def headerHas (hs : Headers) (name word : String) : Bool :=
  (hs.text? name).any fun v => occursIn word.toList (Header.lowered v).toList

/-- The response to a request for a socket that comes without an upgrade. -/
def socketRefusal (req : Request) : Response :=
  match queryToken req.query with
  | .error e => e
  | .ok _ =>
    if req.method ≠ "GET" then .text 405 "Request method must be \x60GET\x60"
    else if ¬ headerHas req.headers "connection" "upgrade" then
      .text 400 "Connection header did not include 'upgrade'"
    else if ¬ headerIs req.headers "upgrade" "websocket" then
      .text 400 "\x60Upgrade\x60 header did not include 'websocket'"
    else if (req.headers.first? "sec-websocket-key").isNone then
      .text 400 "\x60Sec-WebSocket-Key\x60 header missing"
    else if ¬ headerIs req.headers "sec-websocket-version" "13" then
      .text 400 "\x60Sec-WebSocket-Version\x60 header did not include '13'"
    else .text 426 "WebSocket request couldn't be upgraded since no upgrade state was present"

/-! ## Dispatch -/

/-- Who a request comes from: the bearer of an access token. -/
def caller? (req : Request) (s : Site) : Option Identity :=
  match bearerToken req.headers with
  | none => none
  | some token =>
    match Token.decode s.secret s.server.now token with
    | .error _ => none
    | .ok claims => if claims.kind = .access then some ⟨claims.user, claims.username⟩ else none

/-- Answers for the caller, or refuses when there is none. -/
def authenticated (req : Request) (s : Site) (act : Identity → Response × Site) : Response × Site :=
  match s.caller? req with
  | some who => act who
  | none => (.empty 401, s)

/-- Answers with the record in the body, or with what is wrong with it. -/
def withBody {α : Type} (r : Record α) (req : Request) (s : Site) (act : α → Response × Site) :
    Response × Site :=
  match jsonBody r req with
  | .ok a => act a
  | .error e => (e, s)

/-- Carries out a request at an endpoint that answers its method. -/
def serve (route : Route) (req : Request) (s : Site) : Response × Site :=
  match route with
  | .register => withBody Credentials.record req s fun c => s.register c
  | .login => withBody Credentials.record req s fun c => (s.login c, s)
  | .refresh => withBody refreshRecord req s fun token => (s.refresh token, s)
  | .directRoom => s.authenticated req fun who =>
      withBody recipientRecord req s fun recipient => s.directRoom who recipient
  | .users => s.authenticated req fun who => (s.users who, s)
  | .profile => s.authenticated req fun who => (s.profile who, s)
  | .photoUpload => s.authenticated req fun who => s.uploadPhoto who req
  | .photoDelete id => s.authenticated req fun who => s.deletePhoto who id
  | .socket => (socketRefusal req, s)
  | .health => (.json 200 (.record [("status", .text "ok")]), s)
  | .uploads rest => (s.serveFile rest, s)

/-- Takes a request of the sender out of the limiter, where requests are limited. -/
def passGate (route : Route) (req : Request) (s : Site) : Except Response Site :=
  if route.isLimited then
    match req.peer with
    | none => .error (.text 500 "Unable To Extract Key!")
    | some peer =>
      match s.limiter.grant? peer with
      | some limiter => .ok { s with limiter }
      | none => .error (.text 429 "Too Many Requests!")
  else .ok s

/-- Answers a request. -/
def handle (req : Request) (s : Site) : Response × Site :=
  if req.method = "OPTIONS" then (.empty 200, s)
  else match Route.ofPath? req.path with
    | none => (.empty 404, s)
    | some route =>
      match s.passGate route req with
      | .error e => (e, s)
      | .ok s =>
        if route.methods.contains req.method then
          let (response, s) := s.serve route req
          (if req.method = "HEAD" then response.withoutBody else response, s)
        else (.empty 405, s)

/-- The site as it is after a restart: the store and the files are kept. -/
def restarted (s : Site) : Site :=
  { s with
    server := { Server.start s.server.settings s.server.now with
      store := s.server.store.reopened, roomsMade := s.server.roomsMade }
    limiter := .empty }

end Site

end DirectChat
