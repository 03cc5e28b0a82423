import DirectChat.Text.Split
/-!
# Routes

Which endpoint a path leads to. Paths are compared as they are written; one that is only longer by a
slash, or written in another case, leads nowhere.
-/

namespace DirectChat

/-- An endpoint. -/
inductive Route
  | register
  | login
  | refresh
  | directRoom
  | users
  | profile
  | photoUpload
  /-- The deletion of the photo whose identifier the path gives. -/
  | photoDelete (id : List Char)
  | socket
  | health
  /-- A file below the upload directory. -/
  | uploads (rest : List Char)
deriving DecidableEq, Repr

namespace Route

/-- The fixed paths. -/
def fixed : List (String × Route) := [
  ("/api/register", .register), ("/api/login", .login), ("/api/refresh", .refresh),
  ("/api/rooms/direct", .directRoom), ("/api/users", .users), ("/api/profile", .profile),
  ("/api/profile/photo", .photoUpload), ("/ws", .socket), ("/health", .health)]

/-- The endpoint of a path. -/
def ofPath? (path : List Char) : Option Route :=
  match fixed.lookup (String.ofList path) with
  | some route => some route
  | none =>
    match splitOnChar '/' path with
    | [[], ['a', 'p', 'i'], ['p', 'r', 'o', 'f', 'i', 'l', 'e'], ['p', 'h', 'o', 't', 'o'], id] =>
      if id = [] then none else some (.photoDelete id)
    | [] :: ['u', 'p', 'l', 'o', 'a', 'd', 's'] :: _ => some (.uploads (path.drop "/uploads".length))
    | _ => none

/-- The methods that an endpoint answers. -/
def methods : Route → List String
  | .register | .login | .refresh | .directRoom => ["POST"]
  | .users | .profile | .socket | .health | .uploads _ => ["GET", "HEAD"]
  | .photoUpload => ["PUT"]
  | .photoDelete _ => ["DELETE"]

/-- Whether the requests to an endpoint are limited. -/
def isLimited : Route → Bool
  | .register | .login | .refresh => true
  | _ => false

end Route

end DirectChat
