import DirectChat.Store.Rows
/-!
# Events for the clients

What the server tells its clients, each event with its name and its fields in a fixed order. An
absent field is left out.
-/

namespace DirectChat

/-- A message in a room's history. -/
structure HistoryItem where
  id : Int
  room : RoomId
  text : Option String
  voice : Option String
  voiceUrl : Option String
  username : String
  timestamp : Int
  isYours : Bool
  hasSeen : Bool
  replyTo : Option ReplyPreview
deriving DecidableEq, Repr, Inhabited

/-- A message as it is sent to the room when it is saved. -/
structure ChatMessage where
  id : Int
  room : RoomId
  text : Option String
  voice : Option String
  voiceUrl : Option String
  username : String
  timestamp : Int
  hasSeen : Bool
  replyTo : Option ReplyPreview
deriving DecidableEq, Repr, Inhabited

/-- What a message mainly is. -/
inductive MessageKind
  | text
  | voice
deriving DecidableEq, Repr, Inhabited

/-- The word for a kind of message. -/
def MessageKind.word : MessageKind → String
  | .text => "text"
  | .voice => "voice"

/-- The word for a user's presence. -/
def presenceWord (online : Bool) : String := if online then "online" else "offline"

/-- What the server tells a client. -/
inductive Event
  | connected (message : String)
  | joined (room : RoomId) (username : String) (timestamp : Int)
  | join (room : RoomId) (username : String) (timestamp : Int)
  | leave (room : RoomId) (username : String) (timestamp : Int)
  | history (room : RoomId) (items : List HistoryItem) (other : Option Profile) (timestamp : Int)
  | chat (message : ChatMessage)
  | error (text : String)
  | seenSuccessful (room : RoomId) (username : String) (timestamp : Int)
  | seenFailed (room : RoomId) (reason : String) (updated : Nat) (timestamp : Int)
  | messagesSeen (room : RoomId) (seenBy : UserId) (username : String) (timestamp : Int)
      (count : Nat)
  | list (rooms : List RoomSummary)
  | newMessage (room : RoomId) (sender : UserId) (senderName : String) (kind : MessageKind)
      (timestamp : Int)
  | userStatus (user : UserId) (username : String) (online : Bool) (timestamp : Int)
deriving DecidableEq, Repr, Inhabited

/-- A history item as JSON. -/
def HistoryItem.toJson (m : HistoryItem) : Json :=
  .record ([("id", .int m.id), ("event", .text "chat"), ("room", .text m.room)]
    ++ Json.optional "text" (m.text.map .text)
    ++ Json.optional "voice" (m.voice.map .text)
    ++ Json.optional "voice_url" (m.voiceUrl.map .text)
    ++ [("username", .text m.username), ("timestamp", .int m.timestamp),
      ("is_your_message", .bool m.isYours), ("has_seen", .bool m.hasSeen)]
    ++ Json.optional "reply_to" (m.replyTo.map ReplyPreview.toJson))

/-- The members of a chat message. -/
def ChatMessage.members (m : ChatMessage) : List (String × Json) :=
  [("id", .int m.id), ("room", .text m.room)]
    ++ Json.optional "text" (m.text.map .text)
    ++ Json.optional "voice" (m.voice.map .text)
    ++ Json.optional "voice_url" (m.voiceUrl.map .text)
    ++ [("username", .text m.username), ("timestamp", .int m.timestamp),
      ("has_seen", .bool m.hasSeen)]
    ++ Json.optional "reply_to" (m.replyTo.map ReplyPreview.toJson)

namespace Event

/-- The name of an event. -/
def name : Event → String
  | .connected .. => "connected"
  | .joined .. => "joined"
  | .join .. => "join"
  | .leave .. => "leave"
  | .history .. => "history"
  | .chat .. => "chat"
  | .error .. => "error"
  | .seenSuccessful .. => "seen_successful"
  | .seenFailed .. => "seen_failed"
  | .messagesSeen .. => "messages_seen"
  | .list .. => "list"
  | .newMessage .. => "new_message"
  | .userStatus .. => "user_status"

/-- The fields of an event. -/
def fields : Event → List (String × Json)
  | .connected message => [("message", .text message)]
  | .joined room username timestamp | .join room username timestamp
  | .leave room username timestamp | .seenSuccessful room username timestamp =>
    [("room", .text room), ("username", .text username), ("timestamp", .int timestamp)]
  | .history room items other timestamp =>
    [("room", .text room), ("history", .arr (items.map HistoryItem.toJson))]
      ++ Json.optional "otherUser" (other.map Profile.toJson)
      ++ [("timestamp", .int timestamp)]
  | .chat message => message.members
  | .error text => [("error", .text text)]
  | .seenFailed room reason updated timestamp =>
    [("room", .text room), ("error", .text reason), ("updated", .int updated),
      ("timestamp", .int timestamp)]
  | .messagesSeen room seenBy username timestamp count =>
    [("room", .text room), ("seen_by", .int seenBy), ("username", .text username),
      ("timestamp", .int timestamp), ("count", .int count)]
  | .list rooms => [("rooms", .arr (rooms.map RoomSummary.toJson))]
  | .newMessage room sender senderName kind timestamp =>
    [("room", .text room), ("sender_id", .int sender), ("sender_username", .text senderName),
      ("type", .text kind.word), ("timestamp", .int timestamp)]
  | .userStatus user username online timestamp =>
    [("user_id", .int user), ("username", .text username),
      ("status", .text (presenceWord online)), ("timestamp", .int timestamp)]

/-- An event as JSON. -/
def toJson (e : Event) : Json := .record (("event", .text e.name) :: e.fields)

/-- The text of the frame that carries an event. -/
def encode (e : Event) : String := e.toJson.render

end Event

end DirectChat
