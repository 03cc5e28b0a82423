import DirectChat.Json.Printer
import DirectChat.Json.Record
/-!
# Reply previews

A message that answers another carries a copy of what it answers. The copy is stored and sent as a
JSON record.
-/

namespace DirectChat

/-- The copy of the message that is answered. -/
structure ReplyPreview where
  id : Int
  username : String
  text : Option String
  voice : Option String
  timestamp : Int
deriving DecidableEq, Repr, Inhabited

namespace ReplyPreview

/-- The preview as JSON; an absent text or voice note is left out. -/
def toJson (p : ReplyPreview) : Json :=
  .record ([("id", .int p.id), ("username", .text p.username)]
    ++ Json.optional "text" (p.text.map .text)
    ++ Json.optional "voice" (p.voice.map .text)
    ++ [("timestamp", .int p.timestamp)])

/-- The stored text of a preview. -/
def encode (p : ReplyPreview) : String := p.toJson.render

/-- The fields of a preview. -/
def record : Record ReplyPreview where
  blank := ⟨0, "", none, none, 0⟩
  fields := [
    ⟨"id", .defaulted, fun v p => (v.asInt64).map fun i => { p with id := i }⟩,
    ⟨"username", .defaulted, fun v p => (v.asText).map fun s => { p with username := s }⟩,
    ⟨"text", .defaulted, fun v p => (Json.orNull Json.asText v).map fun t => { p with text := t }⟩,
    ⟨"voice", .defaulted, fun v p => (Json.orNull Json.asText v).map fun t => { p with voice := t }⟩,
    ⟨"timestamp", .defaulted, fun v p => (v.asInt64).map fun i => { p with timestamp := i }⟩]

/-- Reads a stored text. -/
def decode (s : String) : Option ReplyPreview := record.read? s

end ReplyPreview

end DirectChat
