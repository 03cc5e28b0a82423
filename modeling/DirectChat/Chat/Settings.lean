/-!
# Settings

What the chat reads from the configuration on every event.
-/

namespace DirectChat

/-- The knobs of a running server. -/
structure ChatSettings where
  /-- The public address of the server, for the addresses of attachments. -/
  baseUrl : Option String
  /-- How many messages the history shows on joining a room. -/
  historyLimit : Nat
  /-- How many seconds a notification may wait. -/
  notifyTimeoutSecs : Nat
  /-- Where photos are stored. -/
  uploadDir : String
deriving DecidableEq, Repr, Inhabited

/-- The settings of a server that is not configured. -/
def ChatSettings.default : ChatSettings := ⟨none, 50, 5, "./uploads"⟩

end DirectChat
