import DirectChat.Chat.Router
import DirectChat.Socket.Heartbeat
/-!
# Connections

The server's end of a socket: a router that is fed with the texts that come in, and a heartbeat.
However a connection ends, by a close, by an error or because the stream is over, its router is
closed once and nothing that comes later has an effect.
-/

namespace DirectChat

/-- What comes in over a socket. -/
inductive Incoming
  | text (raw : String)
  | binary
  | ping (payload : List UInt8)
  | pong
  | close
  /-- The stream fails. -/
  | lost
  /-- The stream is over. -/
  | eof
deriving DecidableEq, Repr, Inhabited

/-- The payload of every ping that the server sends. -/
def pingPayload : List UInt8 := [1, 2, 3, 4]

/-- The code with which a silent client is closed. -/
def awayCode : Nat := 1001

/-- The reason that a silent client is given. -/
def awayReason : String := "Pong timeout"

/-- The server's end of a socket. -/
structure Connection where
  router : Router
  heartbeat : Heartbeat
  ended : Bool
deriving DecidableEq, Repr, Inhabited

namespace Connection

/-- Begins a connection: opens its queue, registers its session and greets the client. -/
def start (session : SessionId) (handle : Handle) (user : UserId) (username : String)
    (host : Option String) (time : Nat) (sv : Server) : Connection × Server :=
  let sv := { sv with mail := sv.mail.openQueue handle }
  let (router, sv) := Router.connect session handle user username host sv
  (⟨router, .start time, false⟩, router.welcome sv)

/-- Ends a connection: the heartbeat stops, the router is closed, and nobody receives any more. -/
def finish (c : Connection) (sv : Server) : Connection × Server :=
  let (router, sv) := c.router.close sv
  (⟨router, .stopped, true⟩, { sv with mail := sv.mail.kill router.handle })

/-- Takes in one frame. -/
def receive (c : Connection) (i : Incoming) (sv : Server) : Connection × Server :=
  if c.ended then (c, sv)
  else match i with
    | .text raw =>
      let (router, sv) := c.router.handleText raw sv
      ({ c with router }, sv)
    | .binary => (c, sv)
    | .ping payload => (c, { sv with mail := (sv.mail.send c.router.handle (.pong payload)).1 })
    | .pong => ({ c with heartbeat := c.heartbeat.pong }, sv)
    | .close | .lost | .eof => c.finish sv

/-- Lets the heartbeat act. When nobody receives any more, it stops. -/
def beat (c : Connection) (sv : Server) : Connection × Server :=
  match c.heartbeat.beat with
  | (heartbeat, some b) =>
    let frame := match b with
      | .ping => .ping pingPayload
      | .close => .close awayCode awayReason
    let (mail, sent) := sv.mail.send c.router.handle frame
    ({ c with heartbeat := if sent then heartbeat else .stopped }, { sv with mail })
  | (heartbeat, none) => ({ c with heartbeat }, sv)

end Connection

end DirectChat
