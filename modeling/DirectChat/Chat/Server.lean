import DirectChat.Chat.Settings
import DirectChat.Message.Voice
import DirectChat.Session.FanOut
import DirectChat.Store.Rooms
/-!
# The server

What all sessions share: the store, the registry of live sessions, their queues, the notifications
that are still to be sent, and the clock.
-/

namespace DirectChat

/-- What a notification about a new message says. -/
structure MessageHint where
  room : RoomId
  sender : UserId
  senderName : String
  kind : MessageKind
  timestamp : Int
deriving DecidableEq, Repr, Inhabited

/-- A notification that is to be sent in the background. -/
inductive Notification
  /-- A user came online, or went offline. -/
  | presence (user : UserId) (username : String) (online : Bool)
  /-- There is a message in a room. -/
  | hint (h : MessageHint)
deriving DecidableEq, Repr, Inhabited

/-- What all sessions share. -/
structure Server where
  settings : ChatSettings
  store : Store
  registry : Registry
  mail : Mailroom
  /-- The notifications that are still to be sent, oldest first. -/
  pending : List Notification
  /-- The wall clock, in Unix milliseconds. -/
  now : Int
  /-- The number of rooms made so far. -/
  roomsMade : Nat

namespace Server

/-- A server without users, rooms and sessions. -/
def start (settings : ChatSettings) (now : Int) : Server where
  settings := settings
  store := .empty
  registry := .empty
  mail := .empty
  pending := []
  now := now
  roomsMade := 0

instance : Inhabited Server := ⟨start .default 0⟩

/-- Sends an event to a session. -/
def send (sv : Server) (h : Handle) (e : Event) : Server :=
  { sv with mail := (sendToSession h e sv.mail).1 }

/-- Sends an event to the sessions joined to a room, except one if asked. -/
def announce (sv : Server) (room : RoomId) (e : Event) (exclude : Option SessionId) : Server :=
  { sv with mail := (broadcast sv.registry room e exclude sv.mail).1 }

/-- Leaves a notification for the background. -/
def notifyLater (sv : Server) (n : Notification) : Server :=
  { sv with pending := sv.pending ++ [n] }

/-- A number in hexadecimal, with at least twelve digits. -/
def twelveDigits (n : Nat) : String :=
  let digits := Nat.toDigits 16 n
  String.ofList (List.replicate (12 - digits.length) '0' ++ digits)

/-- The identifier of the `n`-th room that is made. -/
def roomId (n : Nat) : RoomId := "00000000-0000-4000-8000-" ++ twelveDigits n

/-- The direct room of two users, made if they have none. -/
def directRoom (sv : Server) (a b : UserId) : Except StoreError (DirectRoom × Server) := do
  let (room, store) ← sv.store.directRoom a b (roomId (sv.roomsMade + 1)) sv.now
  return (room, { sv with
    store, roomsMade := if room.isNew then sv.roomsMade + 1 else sv.roomsMade })

/-- The address of a voice note for a client that asked for the given host. -/
def voiceUrl (sv : Server) (host : Option String) (file : String) : Option String :=
  DirectChat.voiceUrl sv.settings.baseUrl host file

end Server

end DirectChat
