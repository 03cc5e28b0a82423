import DirectChat.Session.Mailroom
/-!
# Fan-out

Sending one event to many sessions: those in a room, those of a user, those of several users. A
session that no longer receives is passed over.
-/

namespace DirectChat

/-- The handles that an event for a room goes to. -/
def Registry.roomHandles (r : Registry) (room : RoomId) (exclude : Option SessionId) :
    List Handle :=
  (r.inRoom room exclude).map fun e => e.2.handle

/-- The handles that an event for several users goes to, in the order of the list. -/
def Registry.userHandles (r : Registry) (users : List UserId) : List Handle :=
  users.flatMap r.handlesOf

/-- Sends an event to the sessions joined to a room, except one if asked. -/
def broadcast (r : Registry) (room : RoomId) (e : Event) (exclude : Option SessionId)
    (m : Mailroom) : Mailroom × Nat :=
  m.sendAll (r.roomHandles room exclude) (.event e)

/-- Sends an event to every session of the given users, once for each time a user is listed. -/
def sendToUsers (r : Registry) (users : List UserId) (e : Event) (m : Mailroom) : Mailroom × Nat :=
  m.sendAll (r.userHandles users) (.event e)

/-- Sends an event to every session of a user. -/
def sendToUser (r : Registry) (user : UserId) (e : Event) (m : Mailroom) : Mailroom × Nat :=
  sendToUsers r [user] e m

/-- Sends an event to the session behind a handle. -/
def sendToSession (h : Handle) (e : Event) (m : Mailroom) : Mailroom × Bool := m.send h (.event e)

end DirectChat
