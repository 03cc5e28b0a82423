/-!
# Heartbeat

The server pings every connection every thirty seconds. A client that does not answer within ten
seconds is sent a close. A pong that comes unasked is kept and answers the next ping. Times are
milliseconds of the timers' clock.
-/

namespace DirectChat

/-- The time between two pings. -/
def pingInterval : Nat := 30000

/-- The time within which a pong has to come. -/
def pongTimeout : Nat := 10000

/-- Where the heartbeat of a connection stands. -/
inductive Heartbeat
  /-- The next ping is due at a time; so many pongs are kept for it. -/
  | resting (next : Nat) (pongs : Nat)
  /-- A pong has to come before the deadline; the next ping is due later. -/
  | waiting (next deadline : Nat)
  | stopped
deriving DecidableEq, Repr, Inhabited

/-- What the heartbeat asks to be sent. -/
inductive Beat
  | ping
  | close
deriving DecidableEq, Repr

namespace Heartbeat

/-- The heartbeat of a connection that begins at a time. -/
def start (now : Nat) : Heartbeat := .resting (now + pingInterval) 0

/-- When the heartbeat has to act next. -/
def due? : Heartbeat → Option Nat
  | .resting next _ => some next
  | .waiting _ deadline => some deadline
  | .stopped => none

/-- A pong comes in. -/
def pong : Heartbeat → Heartbeat
  | .resting next pongs => .resting next (pongs + 1)
  | .waiting next _ => .resting next 0
  | .stopped => .stopped

/-- The time comes at which the heartbeat has to act. -/
def beat : Heartbeat → Heartbeat × Option Beat
  | .resting next 0 => (.waiting (next + pingInterval) (next + pongTimeout), some .ping)
  | .resting next (pongs + 1) => (.resting (next + pingInterval) pongs, some .ping)
  | .waiting _ _ => (.stopped, some .close)
  | .stopped => (.stopped, none)

end Heartbeat

end DirectChat
