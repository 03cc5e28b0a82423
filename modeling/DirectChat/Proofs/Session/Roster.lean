import DirectChat.Session.Registry
import Mathlib.Data.List.Dedup
/-!
# The roster

What the registry is meant to say, kept once: a roster is one table of the live sessions, each with
its user, handle and room. A change is one edit of that table, and every question is answered by
looking through it.
-/

namespace DirectChat

/-- A change of the live sessions. -/
inductive SessionChange
  | register (s : SessionId) (user : UserId) (username : String) (handle : Handle)
  | unregister (s : SessionId)
  | join (room : RoomId) (s : SessionId)
  | leave (room : RoomId) (s : SessionId)
deriving DecidableEq, Repr, Inhabited

/-- Carries out a change. -/
def Registry.change (r : Registry) : SessionChange → Registry
  | .register s user username handle => (r.register s user username handle).1
  | .unregister s => (r.unregister s).1
  | .join room s => r.join room s
  | .leave room s => r.leave room s

/-- The registry after a sequence of changes. -/
def Registry.after (cs : List SessionChange) : Registry := cs.foldl Registry.change .empty

/-- The live sessions, in one table. -/
abbrev Roster := Table SessionId SessionEntry

/-- The entry of a session after it was joined to a room. -/
def SessionEntry.joined (e : SessionEntry) (room : RoomId) : SessionEntry := { e with room := some room }

/-- The entry of a session after it was taken out of a room, in which it need not have been. -/
def SessionEntry.left (e : SessionEntry) (room : RoomId) : SessionEntry :=
  if e.room = some room then { e with room := none } else e

namespace Roster

/-- Carries out a change. -/
def change (t : Roster) : SessionChange → Roster
  | .register s user username handle => t.insert s ⟨user, username, handle, none⟩
  | .unregister s => t.erase s
  | .join room s => t.modify s (·.joined room)
  | .leave room s => t.modify s (·.left room)

/-- The roster after a sequence of changes. -/
def after (cs : List SessionChange) : Roster := cs.foldl change .empty

/-! ## Questions -/

/-- The room that a session is joined to. -/
def roomOf (t : Roster) (s : SessionId) : Option RoomId := (t.get? s).bind (·.room)

/-- The user that a session belongs to. -/
def userOf (t : Roster) (s : SessionId) : Option UserId := (t.get? s).map (·.user)

/-- Whether a user has a live session. -/
def isOnline (t : Roster) (user : UserId) : Bool := t.values.any fun e => e.user = user

/-- Whether one of a user's sessions is joined to the room. -/
def isInRoom (t : Roster) (user : UserId) (room : RoomId) : Bool :=
  t.values.any fun e => e.user = user ∧ e.room = some room

/-- The number of a user's sessions. -/
def countSessions (t : Roster) (user : UserId) : Nat := t.values.countP fun e => e.user = user

/-- The handles of a user's sessions. -/
def handlesOf (t : Roster) (user : UserId) : List Handle :=
  (t.values.filter fun e => e.user = user).map (·.handle)

/-- Whether a session is joined to the room. -/
def hasRoom (t : Roster) (room : RoomId) : Bool := t.values.any fun e => e.room = some room

/-- The number of rooms with a session. -/
def roomCount (t : Roster) : Nat := (t.values.filterMap (·.room)).dedup.length

/-- The number of sessions joined to a room. -/
def roomSize (t : Roster) (room : RoomId) : Nat := t.values.countP fun e => e.room = some room

/-- The sessions joined to a room with their entries, one of them left out if asked. -/
def inRoom (t : Roster) (room : RoomId) (exclude : Option SessionId) : List (SessionId × SessionEntry) :=
  t.entries.filter fun e => e.2.room = some room ∧ some e.1 ≠ exclude

/-- The sessions of a user with their entries. -/
def ofUser (t : Roster) (user : UserId) : List (SessionId × SessionEntry) :=
  t.entries.filter fun e => e.2.user = user

end Roster

end DirectChat
