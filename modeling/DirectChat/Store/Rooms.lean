import DirectChat.Store.Messages
import DirectChat.Store.Users
/-!
# Rooms

Who takes part in which room, and how a room looks from the place of one participant.
-/

namespace DirectChat

namespace Store

/-- Whether a user has a place in a room. -/
def hasPlace (s : Store) (room : RoomId) (user : UserId) : Bool :=
  s.participants.any fun p => p.room == room && p.user == user

/-- The users with a place in a room, by identifier. -/
def usersIn (s : Store) (room : RoomId) : List UserId :=
  ((s.participants.filter (·.room = room)).map (·.user)).mergeSort fun u v => u ≤ v

/-- The rooms that a user has a place in, in the order in which they came in. -/
def roomsWith (s : Store) (user : UserId) : List RoomId :=
  (s.participants.filter (·.user = user)).map (·.room)

/-- The direct room of an identifier. -/
def findDirect (s : Store) (room : RoomId) : Option Room :=
  s.rooms.find? fun r => r.id = room ∧ r.kind = "direct"

/-- The users with a place in a room. -/
def roomParticipants (s : Store) (room : RoomId) : Except StoreError (List UserId) := do
  s.require [.participants]
  return s.usersIn room

/-- Every other user with whom the user shares a room, once. -/
def usersSharingRoomWith (s : Store) (user : UserId) : Except StoreError (List UserId) := do
  s.require [.participants]
  return ((s.roomsWith user).flatMap s.usersIn).filter (· ≠ user) |>.eraseDups

/-- Another user in the room, the one with the lowest identifier. -/
def otherUserInRoom (s : Store) (room : RoomId) (user : UserId) :
    Except StoreError (Option UserId) := do
  s.require [.participants]
  return (s.usersIn room).find? (· ≠ user)

/-- A direct room as one participant is shown it beside another. -/
def summary (s : Store) (room : Room) (other : User) : RoomSummary :=
  let last := (s.log room.id).getLast?
  ⟨room.id, other.id, other.username, last.bind (·.content), last.bind (·.voice), none,
    last.map (·.createdAt), ""⟩

/-- The order of a room list: rooms with messages first, the latest message first, and then the
latest room first. -/
def listedBefore (a b : RoomSummary × Int) : Bool :=
  match a.1.lastAt, b.1.lastAt with
  | some x, some y => y < x || (x == y && decide (b.2 ≤ a.2))
  | some _, none => true
  | none, some _ => false
  | none, none => b.2 ≤ a.2

/-- The direct rooms of a user, each with the other participant and the last message. -/
def userRooms (s : Store) (user : UserId) : Except StoreError (List RoomSummary) := do
  s.require [.participants, .rooms, .users, .messages]
  let found := ((s.roomsWith user).filterMap s.findDirect).flatMap fun room =>
    (((s.usersIn room.id).filter (· ≠ user)).filterMap s.findUser).map fun other =>
      (s.summary room other, room.createdAt)
  return (found.mergeSort listedBefore).map Prod.fst

/-- Puts a room and the places of its participants in. A room of that identifier must not exist,
the users must, and nobody gets two places. -/
def insertRoom (s : Store) (room : Room) (users : List UserId) : Except StoreError Store := do
  s.require [.rooms]
  if users ≠ [] then s.require [.participants, .users]
  if s.rooms.any (·.id == room.id) ∨ ¬ users.Nodup
      ∨ users.any fun u => (s.findUser u).isNone || s.hasPlace room.id u then .error .database
  else return { s with
    rooms := s.rooms ++ [room]
    participants := s.participants ++ users.map fun u => ⟨room.id, u⟩ }

/-- The direct room of two users, if they have one. -/
def sharedDirect (s : Store) (a b : UserId) : Option RoomId :=
  (s.roomsWith a).find? fun room => (s.findDirect room).isSome && s.hasPlace room b

/-- The direct room of two users. If they have none, it is made under the given identifier. -/
def directRoom (s : Store) (a b : UserId) (fresh : RoomId) (now : Int) :
    Except StoreError (DirectRoom × Store) := do
  s.require [.users]
  if (s.findUser b).isNone then .error (.notFound .user)
  else
    s.require [.rooms, .participants]
    match s.sharedDirect a b with
    | some room => return (⟨room, false⟩, s)
    | none =>
      let s ← s.insertRoom ⟨fresh, "direct", now⟩ [a, b]
      return (⟨fresh, true⟩, s)

end Store

end DirectChat
