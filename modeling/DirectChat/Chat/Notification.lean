import DirectChat.Chat.Server
/-!
# Notifications

A notification is sent in two steps, between which other sessions may act. First the store tells
whom it may concern; then the registry, as it is at that moment, decides who is sent what. A news
of presence that the registry no longer agrees with is dropped: whatever overtook it has left a
notification of its own.
-/

namespace DirectChat

namespace Notification

/-- Whom a notification may concern, by the store. -/
def concerned (n : Notification) (s : Store) : Except StoreError (List UserId) :=
  match n with
  | .presence user _ _ => s.usersSharingRoomWith user
  | .hint h => s.roomParticipants h.room

/-- The event that is sent for a notification. -/
def event (n : Notification) (now : Int) : Event :=
  match n with
  | .presence user username online => .userStatus user username online now
  | .hint h => .newMessage h.room h.sender h.senderName h.kind h.timestamp

/-- Who of those concerned is sent the event, by the registry. -/
def recipients (n : Notification) (concerned : List UserId) (r : Registry) : List UserId :=
  match n with
  | .presence user _ online => if r.isOnline user = online then concerned else []
  | .hint h => concerned.filter fun u => u ≠ h.sender ∧ r.isOnline u ∧ ¬ r.isInRoom u h.room

/-- Sends the event to those concerned whom the registry confirms. Tells how many sessions were
reached. -/
def deliver (n : Notification) (concerned : List UserId) (sv : Server) : Server × Nat :=
  let (mail, count) :=
    sendToUsers sv.registry (n.recipients concerned sv.registry) (n.event sv.now) sv.mail
  ({ sv with mail }, count)

/-- Both steps at once. -/
def run (n : Notification) (sv : Server) : Except StoreError (Server × Nat) := do
  return n.deliver (← n.concerned sv.store) sv

end Notification

namespace Server

/-- Sends one notification, whatever becomes of it. -/
def notify (sv : Server) (n : Notification) : Server :=
  match n.run sv with
  | .ok (sv, _) => sv
  | .error _ => sv

/-- Sends all pending notifications in order. -/
def settle (sv : Server) : Server := sv.pending.foldl notify { sv with pending := [] }

end Server

end DirectChat
