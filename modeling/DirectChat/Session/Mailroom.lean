import DirectChat.Message.Event
import DirectChat.Session.Registry
/-!
# Outgoing queues

Every session has a queue of frames for its client. Anyone who holds its handle may put frames in;
once the receiving end is gone, sending fails and changes nothing.
-/

namespace DirectChat

/-- A frame on its way to a client. -/
inductive Frame
  | event (e : Event)
  | ping (payload : List UInt8)
  | pong (payload : List UInt8)
  | close (code : Nat) (reason : String)
deriving DecidableEq, Repr, Inhabited

/-- A queue: whether someone still receives, and the frames that were not yet received, oldest
first. -/
structure Queue where
  live : Bool
  frames : List Frame
deriving DecidableEq, Repr, Inhabited

/-- The queues of all sessions. -/
abbrev Mailroom := Table Handle Queue

namespace Mailroom

/-- The frames waiting behind a handle. -/
def waiting (m : Mailroom) (h : Handle) : List Frame := ((m.get? h).map (·.frames)).getD []

/-- Whether someone receives behind a handle. -/
def isLive (m : Mailroom) (h : Handle) : Bool := ((m.get? h).map (·.live)).getD false

/-- Opens an empty queue. -/
def openQueue (m : Mailroom) (h : Handle) : Mailroom := m.insert h ⟨true, []⟩

/-- The receiving end goes away, and what waits is lost. -/
def kill (m : Mailroom) (h : Handle) : Mailroom := m.insert h ⟨false, []⟩

/-- Puts a frame into a queue. Tells whether someone will receive it. -/
def send (m : Mailroom) (h : Handle) (f : Frame) : Mailroom × Bool :=
  match m.get? h with
  | some q => if q.live then (m.insert h { q with frames := q.frames ++ [f] }, true) else (m, false)
  | none => (m, false)

/-- Sends a frame to every handle in a list, in order. Tells how many were reached. -/
def sendAll (m : Mailroom) (hs : List Handle) (f : Frame) : Mailroom × Nat :=
  hs.foldl (fun acc h =>
    let (m, ok) := acc.1.send h f
    (m, if ok then acc.2 + 1 else acc.2)) (m, 0)

/-- Receives everything that waits. -/
def drain (m : Mailroom) (h : Handle) : Mailroom × List Frame :=
  (m.modify h fun q => { q with frames := [] }, m.waiting h)

end Mailroom

end DirectChat
