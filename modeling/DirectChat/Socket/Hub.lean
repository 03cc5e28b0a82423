import DirectChat.Chat.Notification
import DirectChat.Http.Site
import DirectChat.Socket.Line
/-!
# The hub

The site with everything that is connected to it: sessions that are driven directly, sockets with
their clients, and the clock of the timers. Background work is done when the hub settles: pending
notifications are sent, frames cross their lines, and what they set off is done as well.
-/

namespace DirectChat

/-- The site with everything that is connected to it. -/
structure Hub where
  site : Site
  /-- The sessions that are driven directly. -/
  routers : Table SessionId Router
  lines : Table SessionId Line
  /-- The identifier of the next session, and of its queue. -/
  next : SessionId
  /-- The clock of the timers, in milliseconds. -/
  clock : Nat

/-- The code that closes the socket of a client whose token is expired. -/
def expiredCode : Nat := 4001

/-- The code that closes the socket of a client whose token is of no use. -/
def invalidCode : Nat := 4002

namespace Hub

/-- A hub to which nothing is connected. -/
def start (settings : ChatSettings) (secret : List UInt8) (now : Int) : Hub :=
  ⟨.start settings secret now, .empty, .empty, 0, 0⟩

instance : Inhabited Hub := ⟨start .default [] 0⟩

/-- What all sessions share. -/
def server (h : Hub) : Server := h.site.server

/-- Changes what all sessions share. -/
def setServer (h : Hub) (server : Server) : Hub := { h with site := { h.site with server } }

/-- Sets the wall clock. -/
def setNow (h : Hub) (now : Int) : Hub := h.setServer { h.server with now }

/-! ## Sessions -/

/-- Connects a session. -/
def connect (h : Hub) (user : UserId) (username : String) (host : Option String) :
    SessionId × Hub :=
  let s := h.next
  let sv := { h.server with mail := h.server.mail.openQueue s }
  let (router, sv) := Router.connect s s user username host sv
  (s, { h.setServer sv with routers := h.routers.insert s router, next := s + 1 })

/-- Lets the router of a session act. -/
def act (h : Hub) (s : SessionId) (f : Router → Server → Router × Server) : Hub :=
  match h.routers.get? s with
  | some router =>
    let (router, sv) := f router h.server
    { h.setServer sv with routers := h.routers.insert s router }
  | none => h

/-- Greets the client of a session. -/
def welcome (h : Hub) (s : SessionId) : Hub := h.act s fun r sv => (r, r.welcome sv)

/-- A text comes in from the client of a session. -/
def text (h : Hub) (s : SessionId) (raw : String) : Hub := h.act s fun r sv => r.handleText raw sv

/-- A session leaves its room. -/
def leave (h : Hub) (s : SessionId) : Hub := h.act s Router.leave

/-- A session is closed; its router can still be used. -/
def close (h : Hub) (s : SessionId) : Hub := h.act s Router.close

/-- A session is closed and forgotten. -/
def drop (h : Hub) (s : SessionId) : Hub :=
  let h := h.close s
  { h with routers := h.routers.erase s }

/-- The receiving end of a session's queue goes away. -/
def kill (h : Hub) (s : SessionId) : Hub :=
  h.setServer { h.server with mail := h.server.mail.kill s }

/-- The room that a session's router is in. -/
def roomOf (h : Hub) (s : SessionId) : Option RoomId := (h.routers.get? s).bind (·.room)

/-- Takes the frames that wait for a session. -/
def takeFrames (h : Hub) (s : SessionId) : Hub × List Frame :=
  let (mail, frames) := h.server.mail.drain s
  (h.setServer { h.server with mail }, frames)

/-! ## Background work -/

/-- Lets a line act. -/
def actLine (h : Hub) (s : SessionId) (f : Line → Server → Line × Server) : Hub :=
  match h.lines.get? s with
  | some line =>
    let (line, sv) := f line h.server
    { h.setServer sv with lines := h.lines.insert s line }
  | none => h

/-- Lets all lines act, in the order in which they were opened. -/
def actLines (h : Hub) (f : Line → Server → Line × Server) : Hub :=
  (h.lines.keys.mergeSort fun s t => s ≤ t).foldl (fun h s => h.actLine s f) h

/-- Sends all pending notifications and moves what is under way on the lines. -/
def round (h : Hub) : Hub := (h.setServer h.server.settle).actLines Line.work

/-- Works for a number of rounds. -/
def rounds : Nat → Hub → Hub
  | 0, h => h
  | n + 1, h => rounds n h.round

/-- Works until nothing is left to do. Only the end of a line leaves work for another round, and
every line ends once. -/
def settle (h : Hub) : Hub := rounds (h.lines.size + 2) h

/-! ## Time -/

/-- The earliest moment, up to a limit, at which a heartbeat has to act. -/
def nextBeat? (h : Hub) (limit : Nat) : Option Nat :=
  ((h.lines.values.filterMap Line.due?).filter (· ≤ limit)).min?

/-- Lets the timers run up to a moment; `fuel` bounds the number of heartbeats. -/
def runTimers (limit : Nat) : Nat → Hub → Hub
  | 0, h => { h with clock := limit }
  | fuel + 1, h =>
    match h.nextBeat? limit with
    | none => { h with clock := limit }
    | some time =>
      runTimers limit fuel ({ h with clock := time }.actLines (·.beatAt time)).settle

/-- Lets timer time pass. A heartbeat acts at most twice in an interval. -/
def advance (h : Hub) (millis : Nat) : Hub :=
  runTimers (h.clock + millis) (h.lines.size * (2 * (millis / pingInterval + 2))) h

/-- Settles after an operation, which takes a millisecond. -/
def finishStep (h : Hub) : Hub := (h.settle.advance 1).settle

/-- The store is held while timer time passes: notifications that had to wait too long are lost. -/
def stall (h : Hub) (millis : Nat) : Hub :=
  let waiting := h.server.pending
  let kept := if millis < h.server.settings.notifyTimeoutSecs * 1000 then waiting else []
  let h := (h.setServer { h.server with pending := [] }).advance millis
  h.setServer { h.server with pending := kept ++ h.server.pending }

/-! ## Sockets -/

/-- Adds a line. -/
def addLine (h : Hub) (line : Line) : SessionId × Hub :=
  (h.next, { h with lines := h.lines.insert h.next line, next := h.next + 1 })

/-- Opens a socket for whoever a token was issued to, or turns the client away. -/
def accept (h : Hub) (token : String) (host : Option String) : SessionId × Hub :=
  match Token.resolve h.site.secret h.server.now token with
  | .ok who =>
    let (c, sv) :=
      Connection.start h.next h.next who.user who.username host h.clock h.server
    (h.setServer sv).addLine (.opened c)
  | .error .expired => h.addLine (.turnedAway expiredCode "Token expired")
  | .error _ => h.addLine (.turnedAway invalidCode "Token invalid")

/-- Answers a request to open a socket: with a line, or with a response when there is no token. -/
def upgrade (h : Hub) (req : Request) : Except Response SessionId × Hub :=
  match Site.socketToken req with
  | .error e => (.error e, h)
  | .ok none => (.error (.text 401 "Missing access token"), h)
  | .ok (some token) =>
    let (s, h) := h.accept token (req.headers.text? "host")
    (.ok s, h)

/-- A request to open a socket comes in over the wire. On a path that is not that of the socket it is
answered like any other. -/
def openSocket (h : Hub) (req : Request) : Except Response SessionId × Hub :=
  let h := h.settle
  let req := { req with headers := req.headers.map Header.onWire }
  if Route.ofPath? req.path = some .socket then h.upgrade req
  else
    let (response, site) := h.site.handle req
    (.error response, { h with site })

/-- The client of a line sends a frame. Tells whether it could. -/
def sendFrom (h : Hub) (s : SessionId) (i : Incoming) : Bool × Hub :=
  match h.lines.get? s with
  | some line =>
    let (line, sent) := line.send i
    (sent, { h with lines := h.lines.insert s line })
  | none => (false, h)

/-- The client of a line stops or resumes reading. -/
def mute (h : Hub) (s : SessionId) (muted : Bool) : Hub :=
  h.actLine s fun line sv => ({ line with muted }, sv)

/-- The transport of a line is cut. -/
def cut (h : Hub) (s : SessionId) : Hub := h.actLine s fun line sv => (line.cut, sv)

/-- Takes what the client of a line has seen. -/
def takeSeen (h : Hub) (s : SessionId) : Hub × List Sight :=
  match h.lines.get? s with
  | some line =>
    let (line, seen) := line.takeSeen
    ({ h with lines := h.lines.insert s line }, seen)
  | none => (h, [])

/-! ## Requests and restarts -/

/-- Answers a request. -/
def handle (h : Hub) (req : Request) : Response × Hub :=
  let (response, site) := h.site.handle req
  (response, { h with site })

/-- All sessions and sockets go, and the server begins anew with the same store and files. -/
def restart (h : Hub) : Hub :=
  { h with site := h.site.restarted, routers := .empty, lines := .empty }

end Hub

end DirectChat
