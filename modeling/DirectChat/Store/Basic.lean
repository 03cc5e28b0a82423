import DirectChat.Store.Rows
/-!
# The store

Five tables. Users, messages and photos are numbered by counters that never go back, so that an
identifier is not given out twice. A table can be missing, and the store can be left locked by a
task that died: every operation first makes sure of what it needs.
-/

namespace DirectChat

/-- The tables of the store. -/
inductive StoreTable
  | users
  | rooms
  | participants
  | messages
  | photos
deriving DecidableEq, Repr, Inhabited

/-- The name of a table. -/
def StoreTable.name : StoreTable → String
  | .users => "users"
  | .rooms => "rooms"
  | .participants => "room_participants"
  | .messages => "messages"
  | .photos => "photos"

/-- All tables. -/
def StoreTable.all : List StoreTable := [.users, .rooms, .participants, .messages, .photos]

/-- What an operation did not find. -/
inductive Missing
  | user
  | photo
deriving DecidableEq, Repr, Inhabited

/-- Why an operation of the store failed. A failed operation changes nothing. -/
inductive StoreError
  /-- The tables refused the operation. -/
  | database
  | notFound (what : Missing)
  | usernameTaken
  | lockPoisoned
deriving DecidableEq, Repr, Inhabited

/-- The wording of a failure. -/
def StoreError.message : StoreError → String
  | .database => "database error: the tables refused the operation"
  | .notFound .user => "user not found"
  | .notFound .photo => "photo not found"
  | .usernameTaken => "username already exists"
  | .lockPoisoned => "database lock poisoned"

/-- The tables, each in the order in which its rows were put in, and the counters. -/
structure Store where
  users : List User
  rooms : List Room
  participants : List Participant
  messages : List StoredMessage
  photos : List Photo
  lastUser : Nat
  lastMessage : Nat
  lastPhoto : Nat
  /-- The tables that are gone. -/
  missing : List StoreTable
  /-- Whether a task died while it held the store. -/
  poisoned : Bool
deriving Repr, Inhabited

namespace Store

/-- The store without rows. -/
def empty : Store where
  users := []
  rooms := []
  participants := []
  messages := []
  photos := []
  lastUser := 0
  lastMessage := 0
  lastPhoto := 0
  missing := []
  poisoned := false

/-- Whether an operation on the given tables can begin. -/
def require (s : Store) (tables : List StoreTable) : Except StoreError Unit :=
  if s.poisoned then .error .lockPoisoned
  else if tables.any s.missing.contains then .error .database
  else .ok ()

/-- Removes a table with its rows. Fails if it is not there. -/
def dropTable (s : Store) (t : StoreTable) : Except StoreError Store :=
  if s.missing.contains t then .error .database else .ok { s with missing := t :: s.missing }

/-- A task dies while it holds the store. -/
def poison (s : Store) : Store := { s with poisoned := true }

/-- The store as it is after a restart. -/
def reopened (s : Store) : Store := { s with poisoned := false }

end Store

end DirectChat
