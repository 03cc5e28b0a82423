import DirectChat.Store.Basic
/-!
# Messages

The messages of a room in order of time, those of one moment in the order in which they were saved,
are its log. A history window is read from the newest message on, as far as its limit goes, and then
turned round.
-/

namespace DirectChat

/-- Earlier in time, or at the same moment and saved no later. -/
def StoredMessage.before (m n : StoredMessage) : Bool :=
  m.createdAt < n.createdAt || (m.createdAt == n.createdAt && m.id ≤ n.id)

/-- The first elements of a list, as many as the limit says. As a number of 64 bits with a sign, a
limit from `2 ^ 63` on is negative, which is none. -/
def firstOf {α : Type} (limit : Nat) (l : List α) : List α :=
  if limit < Nat.pow 2 63 then l.take limit else l

namespace Store

/-- The log of a room. -/
def log (s : Store) (room : RoomId) : List StoredMessage :=
  (s.messages.filter (·.room = room)).mergeSort StoredMessage.before

/-- The messages of a room from the newest on: the latest first, and of those of one moment the one
that was saved last. -/
def newestFirst (s : Store) (room : RoomId) : List StoredMessage :=
  (s.messages.filter (·.room = room)).mergeSort fun m n => n.before m

/-- Puts a row into the messages. It needs a text or a voice note. -/
def insertMessage (s : Store) (room : RoomId) (author : UserId) (username : String)
    (content voice : Option String) (hasSeen : Bool) (replyText : Option String) (createdAt : Int) :
    Except StoreError (StoredMessage × Store) := do
  s.require [.messages]
  if content.isNone ∧ voice.isNone then .error .database
  else
    let row : StoredMessage :=
      ⟨s.lastMessage + 1, room, author, username, content, voice, hasSeen, replyText, createdAt⟩
    return (row, { s with messages := s.messages ++ [row], lastMessage := s.lastMessage + 1 })

/-- Saves a message, unseen, at the given moment. -/
def saveMessage (s : Store) (m : NewMessage) (now : Int) : Except StoreError (Message × Store) := do
  let (row, s) ← s.insertMessage m.room m.author m.username m.content m.voice false
    (m.replyTo.map ReplyPreview.encode) now
  return ({ row.load with replyTo := m.replyTo }, s)

/-- The last messages of a room, oldest first. -/
def recentMessages (s : Store) (room : RoomId) (limit : Nat) : Except StoreError (List Message) := do
  s.require [.messages]
  return (firstOf limit (s.newestFirst room)).reverse.map StoredMessage.load

/-- The message of an identifier. -/
def messageById (s : Store) (id : Int) : Except StoreError (Option Message) := do
  s.require [.messages]
  return (s.messages.find? (·.id = id)).map StoredMessage.load

/-- Whether a viewer who has seen a room up to a moment sees a message for the first time. -/
def isNewlySeen (room : RoomId) (viewer : UserId) (upTo : Int) (m : StoredMessage) : Bool :=
  m.room == room && m.author != viewer && decide (m.createdAt ≤ upTo) && !m.hasSeen

/-- Marks what others have written to a room up to a moment as seen, and tells how many messages
that were. -/
def markSeen (s : Store) (room : RoomId) (viewer : UserId) (upTo : Int) :
    Except StoreError (Nat × Store) := do
  s.require [.messages]
  let isNew := isNewlySeen room viewer upTo
  return (s.messages.countP isNew,
    { s with messages := s.messages.map fun m => if isNew m then { m with hasSeen := true } else m })

end Store

end DirectChat
