import DirectChat.Message.Reply
/-!
# Frames from a client

A client sends JSON records. Which fields an event needs is judged later, where it is handled; here
every field but the event's name may be missing.
-/

namespace DirectChat

/-- What a client says in one frame. -/
structure ClientFrame where
  event : String
  room : Option String
  text : Option String
  voice : Option String
  replyTo : Option ReplyPreview
  replyToId : Option Int
  timestamp : Option Int
deriving DecidableEq, Repr, Inhabited

namespace ClientFrame

/-- The fields of a frame. -/
def record : Record ClientFrame where
  blank := ⟨"", none, none, none, none, none, none⟩
  fields := [
    ⟨"event", .defaulted, fun v f => v.asText.map fun s => { f with event := s }⟩,
    ⟨"room", .defaulted, fun v f => (Json.orNull Json.asText v).map fun t => { f with room := t }⟩,
    ⟨"text", .defaulted, fun v f => (Json.orNull Json.asText v).map fun t => { f with text := t }⟩,
    ⟨"voice", .defaulted, fun v f => (Json.orNull Json.asText v).map fun t => { f with voice := t }⟩,
    ⟨"reply_to", .defaulted, fun v f =>
      (Json.orNull ReplyPreview.record.ofJson v).map fun r => { f with replyTo := r }⟩,
    ⟨"reply_to_id", .defaulted, fun v f =>
      (Json.orNull Json.asInt64 v).map fun i => { f with replyToId := i }⟩,
    ⟨"timestamp", .defaulted, fun v f =>
      (Json.orNull Json.asInt64 v).map fun i => { f with timestamp := i }⟩]

/-- Reads the text of a frame. -/
def decode (s : String) : Option ClientFrame := record.read? s

end ClientFrame

/-- A client's time as milliseconds: what lies below `10 ^ 12` is taken for seconds, and the product
stays within 64 bits. -/
def seenMillis (ts : Int) : Int :=
  if ts < 1000000000000 then max (-(Nat.pow 2 63 : Int)) (min ((Nat.pow 2 63 : Int) - 1) (ts * 1000)) else ts

end DirectChat
