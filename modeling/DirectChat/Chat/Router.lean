import DirectChat.Chat.Server
import DirectChat.Message.Frame
/-!
# Routers

Every connection has a router, which knows what room its client looks at and carries out what the
client's frames ask for. Joining and chatting touch the store between two steps that other sessions
may separate, so each of these steps is an operation of its own.
-/

namespace DirectChat

/-- The text that greets a new session. -/
def welcomeText : String := "Welcome to the chat server"

/-- The text for a message with nothing in it. -/
def emptyMessageText : String := "message must have either text or voice"

/-- What serves one connection. -/
structure Router where
  session : SessionId
  user : UserId
  username : String
  handle : Handle
  /-- The host that the client asked for. -/
  host : Option String
  /-- The room that the client looks at. -/
  room : Option RoomId
  closed : Bool
deriving DecidableEq, Repr, Inhabited

namespace Router

/-- Registers a session, which makes its user come online if it is the only one. -/
def connect (session : SessionId) (handle : Handle) (user : UserId) (username : String)
    (host : Option String) (sv : Server) : Router × Server :=
  let (registry, first) := sv.registry.register session user username handle
  let sv := { sv with registry }
  let sv := if first then sv.notifyLater (.presence user username true) else sv
  (⟨session, user, username, handle, host, none, false⟩, sv)

/-- Sends an event to the router's own client. -/
def reply (r : Router) (e : Event) (sv : Server) : Server := sv.send r.handle e

/-- Greets the client. -/
def welcome (r : Router) (sv : Server) : Server := r.reply (.connected welcomeText) sv

/-! ## Rooms -/

/-- Leaves the room, if the client looks at one, and tells the others there. -/
def leave (r : Router) (sv : Server) : Router × Server :=
  match r.room with
  | none => (r, sv)
  | some room =>
    let sv := { sv with registry := sv.registry.leave room r.session }
    ({ r with room := none }, sv.announce room (.leave room r.username sv.now) (some r.session))

/-- Enters a room, out of the one before: the client is told, and so are the others there. -/
def enter (r : Router) (room : RoomId) (sv : Server) : Router × Server :=
  let (r, sv) := r.leave sv
  let sv := { sv with registry := sv.registry.join room r.session }
  let sv := r.reply (.joined room r.username sv.now) sv
  ({ r with room := some room }, sv.announce room (.join room r.username sv.now) (some r.session))

/-- A message as the history shows it to the router's client. -/
def historyItem (r : Router) (sv : Server) (m : Message) : HistoryItem where
  id := m.id
  room := m.room
  text := m.content
  voice := m.voice
  voiceUrl := m.voice.bind (sv.voiceUrl r.host)
  username := m.username
  timestamp := m.createdAt
  isYours := m.author == r.user
  hasSeen := m.hasSeen
  replyTo := m.replyTo

/-- The profile of the other participant, if there is one and nothing fails. -/
def otherProfile (r : Router) (room : RoomId) (s : Store) : Option Profile :=
  match s.otherUserInRoom room r.user with
  | .ok (some other) => (s.profile other).toOption.join
  | _ => none

/-- Shows the client the last messages of a room. -/
def sendHistory (r : Router) (room : RoomId) (sv : Server) : Server :=
  match sv.store.recentMessages room sv.settings.historyLimit with
  | .error _ => sv
  | .ok messages =>
    r.reply (.history room (messages.map (r.historyItem sv)) (r.otherProfile room sv.store) sv.now)
      sv

/-- Joins a room. An empty identifier is none. -/
def join (r : Router) (room : RoomId) (sv : Server) : Router × Server :=
  if room = "" then (r, sv)
  else
    let (r, sv) := r.enter room sv
    (r, r.sendHistory room sv)

/-! ## Messages -/

/-- What a message to the room answers: an inline copy comes first, then an identifier, which has
to be that of a message in the same room. -/
def resolveReply (room : RoomId) (inline : Option ReplyPreview) (id : Option Int) (s : Store) :
    Option ReplyPreview :=
  match inline, id with
  | some p, _ => some p
  | none, none => none
  | none, some id =>
    if id = 0 then none
    else match s.messageById id with
      | .ok (some m) => if m.room = room then some m.preview else none
      | _ => none

/-- Saves a message to the room that the client looks at. -/
def saveChat (r : Router) (room : RoomId) (text voice : Option String)
    (inline : Option ReplyPreview) (id : Option Int) (sv : Server) :
    Except StoreError (Message × Server) := do
  let (m, store) ← sv.store.saveMessage
    ⟨room, r.user, r.username, text, voice, resolveReply room inline id sv.store⟩ sv.now
  return (m, { sv with store })

/-- A message as it is sent to the room. -/
def chatMessage (r : Router) (sv : Server) (m : Message) : ChatMessage where
  id := m.id
  room := m.room
  text := m.content
  voice := m.voice
  voiceUrl := m.voice.bind (sv.voiceUrl r.host)
  username := m.username
  timestamp := m.createdAt
  hasSeen := m.hasSeen
  replyTo := m.replyTo

/-- The notification about a message. -/
def hintOf (m : Message) : MessageHint :=
  ⟨m.room, m.author, m.username, if m.voice.isSome then .voice else .text, m.createdAt⟩

/-- Sends a saved message to everyone in its room, the sender included, and leaves a notification
for the others. -/
def announceChat (r : Router) (m : Message) (sv : Server) : Server :=
  (sv.announce m.room (.chat (r.chatMessage sv m)) none).notifyLater (.hint (hintOf m))

/-- Writes to the room that the client looks at. -/
def chat (r : Router) (f : ClientFrame) (sv : Server) : Server :=
  match r.room with
  | none => sv
  | some room =>
    let text := f.text.filter (· ≠ "")
    let voice := f.voice.filter (· ≠ "")
    if text.isNone ∧ voice.isNone then r.reply (.error emptyMessageText) sv
    else match r.saveChat room text voice f.replyTo f.replyToId sv with
      | .error _ => sv
      | .ok (m, sv) => r.announceChat m sv

/-! ## Receipts and lists -/

/-- The room that a receipt is for: the one that the client looks at, else the one it names. -/
def seenRoom (r : Router) (named : Option RoomId) : Option RoomId :=
  match r.room with
  | some room => some room
  | none => named.filter (· ≠ "")

/-- Marks what others have written up to a moment as seen. -/
def seen (r : Router) (timestamp : Option Int) (named : Option RoomId) (sv : Server) : Server :=
  match r.seenRoom named, timestamp.filter (· ≠ 0) with
  | some room, some ts =>
    match sv.store.markSeen room r.user (seenMillis ts) with
    | .ok (count, store) =>
      let sv := r.reply (.seenSuccessful room r.username ts) { sv with store }
      sv.announce room (.messagesSeen room r.user r.username ts count) none
    | .error e => r.reply (.seenFailed room e.message 0 ts) sv
  | _, _ => sv

/-- A room summary with what only the server knows. -/
def present (r : Router) (sv : Server) (s : RoomSummary) : RoomSummary :=
  { s with
    lastVoiceUrl := s.lastVoice.bind (sv.voiceUrl r.host)
    otherStatus := presenceWord (sv.registry.isOnline s.other) }

/-- Lists the user's rooms. -/
def list (r : Router) (sv : Server) : Server :=
  let rooms := match sv.store.userRooms r.user with
    | .ok rooms => rooms
    | .error _ => []
  r.reply (.list (rooms.map (r.present sv))) sv

/-! ## Frames -/

/-- Carries out a frame. An unknown event is ignored. -/
def dispatch (r : Router) (f : ClientFrame) (sv : Server) : Router × Server :=
  match f.event with
  | "join" => r.join (f.room.getD "") sv
  | "leave" => r.leave sv
  | "chat" => (r, r.chat f sv)
  | "seen" => (r, r.seen f.timestamp f.room sv)
  | "list" => (r, r.list sv)
  | _ => (r, sv)

/-- Handles a text from the client. What is no frame is ignored. -/
def handleText (r : Router) (raw : String) (sv : Server) : Router × Server :=
  match ClientFrame.decode raw with
  | some f => r.dispatch f sv
  | none => (r, sv)

/-- Ends the session, once: leaves the room and unregisters, which makes the user go offline if it
was the last session. -/
def close (r : Router) (sv : Server) : Router × Server :=
  if r.closed then (r, sv)
  else
    let (r, sv) := { r with closed := true }.leave sv
    let (registry, last) := sv.registry.unregister r.session
    let sv := { sv with registry }
    (r, if last then sv.notifyLater (.presence r.user r.username false) else sv)

end Router

end DirectChat
