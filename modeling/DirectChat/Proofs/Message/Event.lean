import DirectChat.Message.Event
import DirectChat.Proofs.Json.Reading
import DirectChat.Proofs.Message.Reply
import Mathlib.Data.Option.Basic
/-!
# Frames are unambiguous

What a frame carries is read back from its text by a reader that knows the keys of every kind of event and
accepts no others (`Event.ofJson?`). What an event is written as is plain JSON (`Event.plain_toJson`), so that its
text parses to just that; the parts of it are read back one inside the other (`ofJson?_toJson`), and so is the
whole (`Event.frames_unambiguous`). Two events with the same text are the same.
-/

namespace DirectChat

open Json

/-! ## Previews -/

namespace ReplyPreview

/-- The preview that a value is written for. -/
def ofJson? (v : Json) : Option ReplyPreview :=
  v.only keys do
    return ⟨← v.field? "id" int?, ← v.field? "username" text?, ← v.maybe? "text" text?, ← v.maybe? "voice" text?,
      ← v.field? "timestamp" int?⟩

theorem keys_toJson (p : ReplyPreview) (read : Option ReplyPreview) : p.toJson.only keys read = read := by
  refine only_record ?_ read
  simp only [List.map_append]
  exact (((List.Sublist.refl _).append (keys_optional_sublist ..)).append (keys_optional_sublist ..)).append
    (List.Sublist.refl _)

theorem ofJson?_toJson (p : ReplyPreview) : ofJson? p.toJson = some p := by
  rw [ofJson?, keys_toJson]
  simp [toJson, field?_record, maybe?_record, List.lookup_append, List.lookup_cons, lookup_optional]

end ReplyPreview

/-! ## Messages -/

namespace HistoryItem

/-- The keys of a history item. -/
def keys : List String :=
  ["id", "event", "room", "text", "voice", "voice_url", "username", "timestamp", "is_your_message", "has_seen",
    "reply_to"]

/-- The history item that a value is written for. -/
def ofJson? (v : Json) : Option HistoryItem :=
  v.only keys do
    guard (v.field? "event" text? = some "chat")
    return ⟨← v.field? "id" int?, ← v.field? "room" text?, ← v.maybe? "text" text?, ← v.maybe? "voice" text?,
      ← v.maybe? "voice_url" text?, ← v.field? "username" text?, ← v.field? "timestamp" int?,
      ← v.field? "is_your_message" bool?, ← v.field? "has_seen" bool?, ← v.maybe? "reply_to" ReplyPreview.ofJson?⟩

theorem keys_toJson (m : HistoryItem) (read : Option HistoryItem) : m.toJson.only keys read = read := by
  refine only_record ?_ read
  simp only [List.map_append]
  exact (((((List.Sublist.refl _).append (keys_optional_sublist ..)).append (keys_optional_sublist ..)).append
    (keys_optional_sublist ..)).append (List.Sublist.refl _)).append (keys_optional_sublist ..)

theorem ofJson?_toJson (m : HistoryItem) : ofJson? m.toJson = some m := by
  rw [ofJson?, keys_toJson]
  simp [toJson, field?_record, maybe?_record, List.lookup_append, List.lookup_cons, lookup_optional,
    mapM_map ReplyPreview.ofJson?_toJson]

theorem plain_toJson (m : HistoryItem) : m.toJson.Plain :=
  plain_record (by simp [plainFields_optional plain_text, plainFields_optional ReplyPreview.plain_toJson])

end HistoryItem

namespace ChatMessage

/-- The keys of a chat message. -/
def keys (m : ChatMessage) : List String :=
  ["id", "room"] ++ (if m.text.isSome then ["text"] else []) ++ (if m.voice.isSome then ["voice"] else [])
    ++ (if m.voiceUrl.isSome then ["voice_url"] else []) ++ ["username", "timestamp", "has_seen"]
    ++ if m.replyTo.isSome then ["reply_to"] else []

/-- The chat message whose members a value has among others. -/
def ofMembers? (v : Json) : Option ChatMessage := do
  return ⟨← v.field? "id" int?, ← v.field? "room" text?, ← v.maybe? "text" text?, ← v.maybe? "voice" text?,
    ← v.maybe? "voice_url" text?, ← v.field? "username" text?, ← v.field? "timestamp" int?, ← v.field? "has_seen" bool?,
    ← v.maybe? "reply_to" ReplyPreview.ofJson?⟩

theorem keys_members (m : ChatMessage) : m.members.map Prod.fst = m.keys := by
  simp [members, keys, keys_optional]

theorem ofMembers?_record (m : ChatMessage) (name : Json) :
    ofMembers? (record (("event", name) :: m.members)) = some m := by
  simp [ofMembers?, members, field?_record, maybe?_record, List.lookup_append, List.lookup_cons, lookup_optional,
    mapM_map ReplyPreview.ofJson?_toJson]

theorem plain_members (m : ChatMessage) : PlainFields m.members := by
  simp [members, plainFields_optional plain_text, plainFields_optional ReplyPreview.plain_toJson]

end ChatMessage

/-! ## Users and rooms -/

namespace Photo

/-- The keys of a photo. -/
def keys : List String := ["id", "user_id", "filename", "url", "created_at"]

/-- The photo that a value is written for. -/
def ofJson? (v : Json) : Option Photo :=
  v.only keys do
    return ⟨← v.field? "id" int?, ← v.field? "user_id" int?, ← v.field? "filename" text?, ← v.field? "url" text?,
      ← v.field? "created_at" int?⟩

theorem keys_toJson (p : Photo) (read : Option Photo) : p.toJson.only keys read = read :=
  only_record (List.Sublist.refl _) read

theorem ofJson?_toJson (p : Photo) : ofJson? p.toJson = some p := by
  rw [ofJson?, keys_toJson]
  simp [toJson, field?_record, List.lookup_cons]

theorem plain_toJson (p : Photo) : p.toJson.Plain := plain_record (by simp)

end Photo

namespace Profile

/-- The keys of a profile: those of its user, and the photos. -/
def keys : List String := ["id", "username", "created_at", "photos"]

/-- The profile that a value is written for. -/
def ofJson? (v : Json) : Option Profile :=
  v.only keys do
    return ⟨⟨← v.field? "id" int?, ← v.field? "username" text?, ← v.field? "created_at" int?⟩,
      ← v.field? "photos" (items? Photo.ofJson?)⟩

theorem keys_toJson (p : Profile) (read : Option Profile) : p.toJson.only keys read = read :=
  only_record (List.Sublist.refl _) read

theorem ofJson?_toJson (p : Profile) : ofJson? p.toJson = some p := by
  rw [ofJson?, keys_toJson]
  simp [toJson, UserInfo.members, field?_record, List.lookup_cons, items?_map Photo.ofJson?_toJson]

theorem plain_toJson (p : Profile) : p.toJson.Plain :=
  plain_record (by simp [UserInfo.members, plain_items Photo.plain_toJson])

end Profile

namespace RoomSummary

/-- The keys of a room summary. -/
def keys : List String :=
  ["room_id", "other_user_id", "other_username", "last_message", "last_voice", "last_voice_url", "last_message_at",
    "other_user_status"]

/-- The room summary that a value is written for. -/
def ofJson? (v : Json) : Option RoomSummary :=
  v.only keys do
    return ⟨← v.field? "room_id" text?, ← v.field? "other_user_id" int?, ← v.field? "other_username" text?,
      ← v.maybe? "last_message" text?, ← v.maybe? "last_voice" text?, ← v.maybe? "last_voice_url" text?,
      ← v.maybe? "last_message_at" int?, ← v.field? "other_user_status" text?⟩

theorem keys_toJson (r : RoomSummary) (read : Option RoomSummary) : r.toJson.only keys read = read := by
  refine only_record ?_ read
  simp only [List.map_append]
  exact (((((List.Sublist.refl _).append (keys_optional_sublist ..)).append (keys_optional_sublist ..)).append
    (keys_optional_sublist ..)).append (keys_optional_sublist ..)).append (List.Sublist.refl _)

theorem ofJson?_toJson (r : RoomSummary) : ofJson? r.toJson = some r := by
  rw [ofJson?, keys_toJson]
  simp [toJson, field?_record, maybe?_record, List.lookup_append, List.lookup_cons, lookup_optional]

theorem plain_toJson (r : RoomSummary) : r.toJson.Plain :=
  plain_record (by simp [plainFields_optional plain_text, plainFields_optional plain_int])

end RoomSummary

/-! ## Events -/

/-- The kind of message that a word says. -/
def MessageKind.ofWord? : String → Option MessageKind
  | "text" => some .text
  | "voice" => some .voice
  | _ => none

@[simp] theorem MessageKind.ofWord?_word (k : MessageKind) : ofWord? k.word = some k := by cases k <;> rfl

/-- The presence that a word says. -/
def presenceOf? : String → Option Bool
  | "online" => some true
  | "offline" => some false
  | _ => none

@[simp] theorem presenceOf?_presenceWord (online : Bool) : presenceOf? (presenceWord online) = some online := by
  cases online <;> rfl

namespace Event

/-- The keys of an event after its name. They depend on the kind of the event, and on which of its optional fields are
there. -/
def keys : Event → List String
  | .connected .. => ["message"]
  | .joined .. | .join .. | .leave .. | .seenSuccessful .. => ["room", "username", "timestamp"]
  | .history _ _ other _ => ["room", "history"] ++ (if other.isSome then ["otherUser"] else []) ++ ["timestamp"]
  | .chat m => m.keys
  | .error .. => ["error"]
  | .seenFailed .. => ["room", "error", "updated", "timestamp"]
  | .messagesSeen .. => ["room", "seen_by", "username", "timestamp", "count"]
  | .list .. => ["rooms"]
  | .newMessage .. => ["room", "sender_id", "sender_username", "type", "timestamp"]
  | .userStatus .. => ["user_id", "username", "status", "timestamp"]

theorem keys_fields (e : Event) : e.fields.map Prod.fst = e.keys := by
  cases e <;> simp [fields, keys, keys_optional, ChatMessage.keys_members]

/-- The event whose name and fields a value has among its members. -/
def ofMembers? (v : Json) : Option Event := do
  let room := v.field? "room" text?
  let username := v.field? "username" text?
  let timestamp := v.field? "timestamp" int?
  match ← v.field? "event" text? with
  | "connected" => return .connected (← v.field? "message" text?)
  | "joined" => return .joined (← room) (← username) (← timestamp)
  | "join" => return .join (← room) (← username) (← timestamp)
  | "leave" => return .leave (← room) (← username) (← timestamp)
  | "history" =>
    return .history (← room) (← v.field? "history" (items? HistoryItem.ofJson?))
      (← v.maybe? "otherUser" Profile.ofJson?) (← timestamp)
  | "chat" => return .chat (← ChatMessage.ofMembers? v)
  | "error" => return .error (← v.field? "error" text?)
  | "seen_successful" => return .seenSuccessful (← room) (← username) (← timestamp)
  | "seen_failed" =>
    return .seenFailed (← room) (← v.field? "error" text?) (← v.field? "updated" nat?) (← timestamp)
  | "messages_seen" =>
    return .messagesSeen (← room) (← v.field? "seen_by" int?) (← username) (← timestamp) (← v.field? "count" nat?)
  | "list" => return .list (← v.field? "rooms" (items? RoomSummary.ofJson?))
  | "new_message" =>
    return .newMessage (← room) (← v.field? "sender_id" int?) (← v.field? "sender_username" text?)
      (← (← v.field? "type" text?) |> MessageKind.ofWord?) (← timestamp)
  | "user_status" =>
    return .userStatus (← v.field? "user_id" int?) (← username) (← (← v.field? "status" text?) |> presenceOf?)
      (← timestamp)
  | _ => none

theorem ofMembers?_toJson (e : Event) : ofMembers? e.toJson = some e := by
  cases e <;>
    simp [ofMembers?, toJson, name, fields, field?_record, maybe?_record, List.lookup_append, List.lookup_cons,
      lookup_optional, ChatMessage.ofMembers?_record, items?_map HistoryItem.ofJson?_toJson,
      items?_map RoomSummary.ofJson?_toJson, mapM_map Profile.ofJson?_toJson]

/-- The event that a value is written for: it has no other keys than the event. -/
def ofJson? (v : Json) : Option Event := (ofMembers? v).filter fun e => v.hasKeys ("event" :: e.keys)

theorem ofJson?_toJson (e : Event) : ofJson? e.toJson = some e := by
  have hkeys : e.toJson.hasKeys ("event" :: e.keys) = true := by
    refine hasKeys_record ?_
    rw [List.map_cons, keys_fields]
  rw [ofJson?, ofMembers?_toJson, Option.filter_some, if_pos hkeys]

theorem plain_toJson (e : Event) : e.toJson.Plain := by
  refine plain_record ?_
  cases e <;>
    simp [fields, ChatMessage.plain_members, plain_items HistoryItem.plain_toJson,
      plain_items RoomSummary.plain_toJson, plainFields_optional Profile.plain_toJson]

theorem nodup_keys (e : Event) : ("event" :: e.keys).Nodup := by
  cases e with
  | history _ _ other _ => cases other <;> simp [keys]
  | chat m =>
    obtain ⟨_, _, text, voice, voiceUrl, _, _, _, replyTo⟩ := m
    cases text <;> cases voice <;> cases voiceUrl <;> cases replyTo <;> simp [keys, ChatMessage.keys]
  | _ => simp [keys]

/-- The event that a text is the frame of. -/
def read? (s : String) : Option Event := (parse? s).bind ofJson?

theorem read?_encode (e : Event) : read? e.encode = some e := by
  rw [read?, encode, parse?_render e.plain_toJson, Option.bind_some, ofJson?_toJson]

/-- **A frame says one thing.** The text of an event is JSON of one record: first the name of the event, then its
fields, each key once and none but those of the event. Every part of the event is read back from it as it was,
whatever texts the users supplied, so that no other event has the same text. -/
theorem frames_unambiguous (e : Event) :
    parse? e.encode = some (record (("event", text e.name) :: e.fields)) ∧
      e.fields.map Prod.fst = e.keys ∧ ("event" :: e.keys).Nodup ∧
      read? e.encode = some e ∧ ∀ e', e'.encode = e.encode → e' = e := by
  refine ⟨parse?_render e.plain_toJson, e.keys_fields, e.nodup_keys, e.read?_encode, fun e' h => ?_⟩
  have hread := e'.read?_encode
  rw [h, read?_encode] at hread
  exact (Option.some.inj hread).symm

end Event

end DirectChat
