import DirectChat.Table
import DirectChat.Store.Rows
/-!
# The session registry

Which sessions are live, which of them look at which room, and which belong to which user. The same
relation is kept three times, once for each question: by session, by room and by user. Rooms and
users without a session have no entry.
-/

namespace DirectChat

/-- The identifier of a session. -/
abbrev SessionId := Nat

/-- The sending end of a session's queue. -/
abbrev Handle := Nat

/-- What the registry knows of a live session. -/
structure SessionEntry where
  user : UserId
  username : String
  handle : Handle
  room : Option RoomId
deriving DecidableEq, Repr, Inhabited

/-- The live sessions, by session, by room and by user. -/
structure Registry where
  sessions : Table SessionId SessionEntry
  rooms : Table RoomId (List SessionId)
  users : Table UserId (List SessionId)

/-- Adds a session to the set at a key. -/
def addTo {κ : Type} [DecidableEq κ] (sets : Table κ (List SessionId)) (k : κ) (s : SessionId) :
    Table κ (List SessionId) :=
  sets.insert k (((sets.get? k).getD []).insert s)

/-- Takes a session out of the set at a key, and the key out when nothing is left. -/
def removeFrom {κ : Type} [DecidableEq κ] (sets : Table κ (List SessionId)) (k : κ)
    (s : SessionId) : Table κ (List SessionId) :=
  match sets.get? k with
  | none => sets
  | some members =>
    let rest := members.erase s
    if rest.isEmpty then sets.erase k else sets.insert k rest

namespace Registry

/-- The registry without sessions. -/
def empty : Registry := ⟨.empty, .empty, .empty⟩

instance : Inhabited Registry := ⟨empty⟩

/-! ## Questions -/

/-- The sessions of a user. -/
def sessionsOfUser (r : Registry) (user : UserId) : List SessionId := (r.users.get? user).getD []

/-- The sessions joined to a room. -/
def members (r : Registry) (room : RoomId) : List SessionId := (r.rooms.get? room).getD []

/-- Whether a user has a live session. -/
def isOnline (r : Registry) (user : UserId) : Bool := r.users.contains user

/-- Whether one of a user's sessions is joined to the room. -/
def isInRoom (r : Registry) (user : UserId) (room : RoomId) : Bool :=
  (r.sessionsOfUser user).any fun s => (r.members room).contains s

/-- The number of a user's sessions. -/
def countSessions (r : Registry) (user : UserId) : Nat := (r.sessionsOfUser user).length

/-- The entries of the given sessions, each with its session. -/
def entriesOf (r : Registry) (ids : List SessionId) : List (SessionId × SessionEntry) :=
  ids.filterMap fun s => (r.sessions.get? s).map fun e => (s, e)

/-- The handles of a user's sessions. -/
def handlesOf (r : Registry) (user : UserId) : List Handle :=
  (r.entriesOf (r.sessionsOfUser user)).map fun e => e.2.handle

/-- The room that a session is joined to. -/
def roomOf (r : Registry) (s : SessionId) : Option RoomId := (r.sessions.get? s).bind (·.room)

/-- Whether a session is joined to the room. -/
def hasRoom (r : Registry) (room : RoomId) : Bool := r.rooms.contains room

/-- The number of rooms with a session. -/
def roomCount (r : Registry) : Nat := r.rooms.size

/-- The number of sessions joined to a room. -/
def roomSize (r : Registry) (room : RoomId) : Nat := (r.members room).length

/-- The number of live sessions. -/
def sessionCount (r : Registry) : Nat := r.sessions.size

/-- The sessions joined to a room with their entries, one of them left out if asked. -/
def inRoom (r : Registry) (room : RoomId) (exclude : Option SessionId) :
    List (SessionId × SessionEntry) :=
  r.entriesOf ((r.members room).filter fun s => some s ≠ exclude)

/-- The sessions of a user with their entries. -/
def ofUser (r : Registry) (user : UserId) : List (SessionId × SessionEntry) :=
  r.entriesOf (r.sessionsOfUser user)

/-! ## Changes -/

/-- Takes a session out of the set of its room. -/
def removeFromRoom (r : Registry) (room : RoomId) (s : SessionId) : Registry :=
  { r with rooms := removeFrom r.rooms room s }

/-- Takes a session out of the set of its user. -/
def removeFromUser (r : Registry) (user : UserId) (s : SessionId) : Registry :=
  { r with users := removeFrom r.users user s }

/-- Takes a session out everywhere; tells whose it was. -/
def remove (r : Registry) (s : SessionId) : Registry × Option UserId :=
  match r.sessions.get? s with
  | none => (r, none)
  | some entry =>
    let r := { r with sessions := r.sessions.erase s }
    let r := match entry.room with
      | some room => r.removeFromRoom room s
      | none => r
    (r.removeFromUser entry.user s, some entry.user)

/-- Makes a session live, joined to no room; what was live under its identifier is gone. Tells
whether it is now the user's only session. -/
def register (r : Registry) (s : SessionId) (user : UserId) (username : String) (handle : Handle) :
    Registry × Bool :=
  let r := (r.remove s).1
  let r := {
    sessions := r.sessions.insert s ⟨user, username, handle, none⟩
    rooms := r.rooms
    users := addTo r.users user s }
  (r, r.countSessions user == 1)

/-- Ends a session. Tells whether it was live and its user's only one. -/
def unregister (r : Registry) (s : SessionId) : Registry × Bool :=
  match r.remove s with
  | (r, some user) => (r, !r.isOnline user)
  | (r, none) => (r, false)

/-- Joins a live session to a room, out of the room it was joined to. -/
def join (r : Registry) (room : RoomId) (s : SessionId) : Registry :=
  match r.sessions.get? s with
  | none => r
  | some entry =>
    let r := { r with sessions := r.sessions.insert s { entry with room := some room } }
    let r := match entry.room with
      | some previous => if previous = room then r else r.removeFromRoom previous s
      | none => r
    { r with rooms := addTo r.rooms room s }

/-- Takes a session out of a room, if it is joined to that one. -/
def leave (r : Registry) (room : RoomId) (s : SessionId) : Registry :=
  let r := r.removeFromRoom room s
  match r.sessions.get? s with
  | some entry =>
    if entry.room = some room then
      { r with sessions := r.sessions.insert s { entry with room := none } }
    else r
  | none => r

end Registry

end DirectChat
