import DirectChat.Message.Reply
import DirectChat.Profile.Photo
/-!
# What the store holds

Users, rooms with their participants, messages and photos, and the views on them that clients are
shown. Moments are Unix milliseconds.
-/

namespace DirectChat

/-- The identifier of a room. -/
abbrev RoomId := String

/-- What everybody may know of a user. -/
structure UserInfo where
  id : UserId
  username : String
  createdAt : Int
deriving DecidableEq, Repr, Inhabited

/-- A user with what is needed to log in. -/
structure User where
  id : UserId
  username : String
  passwordHash : String
  createdAt : Int
deriving DecidableEq, Repr, Inhabited

/-- The public part of a user. -/
def User.info (u : User) : UserInfo := ⟨u.id, u.username, u.createdAt⟩

/-- A room. Only rooms of the kind `direct` are listed to their participants. -/
structure Room where
  id : RoomId
  kind : String
  createdAt : Int
deriving DecidableEq, Repr, Inhabited

/-- A user's place in a room. -/
structure Participant where
  room : RoomId
  user : UserId
deriving DecidableEq, Repr, Inhabited

/-- A message as it is handed out: the stored reply is decoded. -/
structure Message where
  id : Int
  room : RoomId
  author : UserId
  username : String
  content : Option String
  voice : Option String
  hasSeen : Bool
  replyTo : Option ReplyPreview
  createdAt : Int
deriving DecidableEq, Repr, Inhabited

/-- A message as it is stored: the reply is a text. -/
structure StoredMessage where
  id : Int
  room : RoomId
  author : UserId
  username : String
  content : Option String
  voice : Option String
  hasSeen : Bool
  replyText : Option String
  createdAt : Int
deriving DecidableEq, Repr, Inhabited

/-- A stored message, handed out. A reply that cannot be read is dropped. -/
def StoredMessage.load (m : StoredMessage) : Message where
  id := m.id
  room := m.room
  author := m.author
  username := m.username
  content := m.content
  voice := m.voice
  hasSeen := m.hasSeen
  replyTo := m.replyText.bind ReplyPreview.decode
  createdAt := m.createdAt

/-- A message that is still to be saved. -/
structure NewMessage where
  room : RoomId
  author : UserId
  username : String
  content : Option String
  voice : Option String
  replyTo : Option ReplyPreview
deriving DecidableEq, Repr, Inhabited

/-- The copy of a message that an answer to it carries. -/
def Message.preview (m : Message) : ReplyPreview :=
  ⟨m.id, m.username, m.content, m.voice, m.createdAt⟩

/-- A photo of a user. Its bytes are the file of that name in the upload directory. -/
structure Photo where
  id : Int
  user : UserId
  file : String
  url : String
  createdAt : Int
deriving DecidableEq, Repr, Inhabited

/-- A user with their photos, oldest first. -/
structure Profile where
  user : UserInfo
  photos : List Photo
deriving DecidableEq, Repr, Inhabited

/-- A direct room as its participant sees it in a list: the other participant and the last
message. -/
structure RoomSummary where
  room : RoomId
  other : UserId
  otherName : String
  lastMessage : Option String
  lastVoice : Option String
  lastVoiceUrl : Option String
  lastAt : Option Int
  otherStatus : String
deriving DecidableEq, Repr, Inhabited

/-- The direct room of two users, and whether it was made just now. -/
structure DirectRoom where
  room : RoomId
  isNew : Bool
deriving DecidableEq, Repr, Inhabited

/-! ## As JSON -/

/-- The members of a user. -/
def UserInfo.members (u : UserInfo) : List (String × Json) :=
  [("id", .int u.id), ("username", .text u.username), ("created_at", .int u.createdAt)]

/-- A user as JSON. -/
def UserInfo.toJson (u : UserInfo) : Json := .record u.members

/-- A photo as JSON. -/
def Photo.toJson (p : Photo) : Json :=
  .record [("id", .int p.id), ("user_id", .int p.user), ("filename", .text p.file),
    ("url", .text p.url), ("created_at", .int p.createdAt)]

/-- A profile as JSON. -/
def Profile.toJson (p : Profile) : Json :=
  .record (p.user.members ++ [("photos", .arr (p.photos.map Photo.toJson))])

/-- A room summary as JSON. -/
def RoomSummary.toJson (r : RoomSummary) : Json :=
  .record ([("room_id", .text r.room), ("other_user_id", .int r.other),
      ("other_username", .text r.otherName)]
    ++ Json.optional "last_message" (r.lastMessage.map .text)
    ++ Json.optional "last_voice" (r.lastVoice.map .text)
    ++ Json.optional "last_voice_url" (r.lastVoiceUrl.map .text)
    ++ Json.optional "last_message_at" (r.lastAt.map .int)
    ++ [("other_user_status", .text r.otherStatus)])

/-- A direct room as JSON. -/
def DirectRoom.toJson (r : DirectRoom) : Json :=
  .record [("room_id", .text r.room), ("is_new", .bool r.isNew)]

end DirectChat
