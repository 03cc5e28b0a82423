import DirectChat.Socket.Connection
/-!
# Lines

A socket with both its ends: the server's connection and the client. Frames cross it in order, both
ways. A client reads what arrives unless it is muted; reading a ping it answers with a pong, reading
a close with a close. Once the server has sent a close, further frames cannot be sent.
-/

namespace DirectChat

/-- What a client sees. -/
inductive Sight
  | frame (f : Frame)
  /-- The stream is over. -/
  | finished
deriving DecidableEq, Repr, Inhabited

/-- A socket with both its ends. -/
structure Line where
  /-- The server's end, unless the client was turned away. -/
  connection : Option Connection
  /-- Whether the server has sent a close. -/
  closing : Bool
  /-- What the client has sent and the server has not yet taken in. -/
  arriving : List Incoming
  /-- What the server has sent and the client has not yet read. -/
  unread : List Frame
  muted : Bool
  /-- Whether the client has sent a close. -/
  closed : Bool
  /-- Whether the stream is over for the client. -/
  finished : Bool
  /-- What the client has seen lately, last first. -/
  seen : List Sight
deriving Repr, Inhabited

namespace Line

/-- The line of a connection that has just begun. -/
def opened (c : Connection) : Line := ⟨some c, false, [], [], false, false, false, []⟩

/-- The line of a client that is turned away with a close. -/
def turnedAway (code : Nat) (reason : String) : Line :=
  ⟨none, true, [], [.close code reason], false, false, false, []⟩

/-- Whether the server's end is gone. -/
def isHungUp (l : Line) : Bool := l.connection.all (·.ended)

/-! ## The client -/

/-- The client sends a frame. Tells whether it could. -/
def send (l : Line) (i : Incoming) : Line × Bool :=
  if l.finished || l.closed then (l, false)
  else ({ l with arriving := l.arriving ++ [i], closed := i == .close }, true)

/-- The transport is cut. The client sees nothing any more. -/
def cut (l : Line) : Line :=
  { l with arriving := l.arriving ++ [.lost], finished := true, unread := [], seen := [] }

/-- The client sees something; a pong equal to the one before it is not seen again. -/
def see (l : Line) (s : Sight) : Line :=
  match s with
  | .frame (.pong _) => if l.seen.head? = some s then l else { l with seen := s :: l.seen }
  | s => { l with seen := s :: l.seen }

/-- The client reads a frame. -/
def readFrame (l : Line) (f : Frame) : Line :=
  let l := l.see (.frame f)
  match f with
  | .ping _ => if l.closed then l else { l with arriving := l.arriving ++ [.pong] }
  | .close .. => if l.closed then l else { l with arriving := l.arriving ++ [.close], closed := true }
  | _ => l

/-- The client reads what has arrived, and in the end that the stream is over. -/
def read (l : Line) : Line :=
  if l.muted || l.finished then l
  else
    let l := l.unread.foldl readFrame { l with unread := [] }
    if l.isHungUp then { l.see .finished with finished := true } else l

/-- Takes what the client has seen. -/
def takeSeen (l : Line) : Line × List Sight := ({ l with seen := [] }, l.seen.reverse)

/-! ## The server -/

/-- Sends the frames of the queue over the line. The first one that cannot be sent is lost with all
after it, and nobody receives any more. -/
def flushFrames (l : Line) (handle : Handle) : List Frame → Server → Line × Server
  | [], sv => (l, sv)
  | f :: fs, sv =>
    if l.closing then (l, { sv with mail := sv.mail.kill handle })
    else
      let unread := if l.finished then [] else l.unread ++ [f]
      flushFrames { l with unread, closing := f matches .close .. } handle fs sv

/-- Sends what waits in the queue over the line. -/
def flush (l : Line) (sv : Server) : Line × Server :=
  match l.connection with
  | some c =>
    if c.ended then (l, sv)
    else
      let (mail, frames) := sv.mail.drain c.router.handle
      l.flushFrames c.router.handle frames { sv with mail }
  | none => (l, sv)

/-- Takes in what the client has sent. -/
def takeIn (l : Line) (sv : Server) : Line × Server :=
  match l.connection with
  | some c =>
    let (c, sv) := l.arriving.foldl (fun (c, sv) i => Connection.receive c i sv) (c, sv)
    ({ l with connection := some c, arriving := [] }, sv)
  | none => ({ l with arriving := [] }, sv)

/-- Moves everything that is under way to where it goes. -/
def work (l : Line) (sv : Server) : Line × Server :=
  let (l, sv) := l.flush sv
  let (l, sv) := l.takeIn sv
  let (l, sv) := l.flush sv
  (l.read, sv)

/-- Lets the heartbeat act if its time has come. -/
def beatAt (l : Line) (time : Nat) (sv : Server) : Line × Server :=
  match l.connection with
  | some c =>
    if c.heartbeat.due?.any (· ≤ time) then
      let (c, sv) := c.beat sv
      ({ l with connection := some c }, sv)
    else (l, sv)
  | none => (l, sv)

/-- When the heartbeat has to act next. -/
def due? (l : Line) : Option Nat := l.connection.bind (·.heartbeat.due?)

end Line

end DirectChat
