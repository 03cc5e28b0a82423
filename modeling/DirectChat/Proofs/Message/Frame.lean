import DirectChat.Proofs.Json.Fields
import DirectChat.Proofs.Message.Reply
/-!
# What a frame is read from

A frame is read from exactly the texts that give its fields (`ClientFrame.GivenBy`): the JSON texts of an object that
has each field at most once, in any order and between members that are no fields, or of an array of the fields in
their order. A field that is not given has its default. So the reading depends on the values of the fields only
(`ClientFrame.decode_iff_given`).
-/

namespace DirectChat

open Json (IsText IsInteger IsOptional)

/-! ## Previews -/

namespace ReplyPreview

/-- A value gives the fields of a preview. -/
structure GivenBy (v : Json) (p : ReplyPreview) : Prop where
  shape : v.HasFields keys
  id : Gives IsInteger 0 (v.given keys "id") p.id
  username : Gives IsText "" (v.given keys "username") p.username
  text : Gives (IsOptional IsText) none (v.given keys "text") p.text
  voice : Gives (IsOptional IsText) none (v.given keys "voice") p.voice
  timestamp : Gives IsInteger 0 (v.given keys "timestamp") p.timestamp

/-- A value that no preview is read from. -/
abbrev Faulty (v : Json) : Prop := v.Faulty keys ["id", "username", "timestamp"] ["id", "timestamp"]

/-- Setting a field leaves the others as they are. -/
theorem keeps_fields {f : Field ReplyPreview} (hf : f ∈ record.fields) {v : Json} {p q : ReplyPreview}
    (h : f.set v p = .ok q) :
    (f.key ≠ "id" → q.id = p.id) ∧ (f.key ≠ "username" → q.username = p.username) ∧ (f.key ≠ "text" → q.text = p.text) ∧
      (f.key ≠ "voice" → q.voice = p.voice) ∧ (f.key ≠ "timestamp" → q.timestamp = p.timestamp) := by
  simp only [record, List.mem_cons, List.not_mem_nil, or_false] at hf
  rcases hf with rfl | rfl | rfl | rfl | rfl <;> obtain ⟨y, -, rfl⟩ := exists_of_map_eq_ok h <;> simp

theorem nodup_keys : record.keys.Nodup := by decide

theorem shows_id : record.Shows "id" id IsInteger :=
  Record.shows_of_read nodup_keys 0 rfl (fun _ _ => rfl) (fun _ _ => rfl) (fun _ _ => Json.asInt64_eq_ok_iff)
    fun _ hf hne _ _ _ h => (keeps_fields hf h).1 hne

theorem shows_username : record.Shows "username" username IsText :=
  Record.shows_of_read nodup_keys 1 rfl (fun _ _ => rfl) (fun _ _ => rfl) (fun _ _ => Json.asText_eq_ok_iff)
    fun _ hf hne _ _ _ h => (keeps_fields hf h).2.1 hne

theorem shows_text : record.Shows "text" text (IsOptional IsText) :=
  Record.shows_of_read nodup_keys 2 rfl (fun _ _ => rfl) (fun _ _ => rfl) (fun _ _ => Json.orNull_asText_eq_ok_iff)
    fun _ hf hne _ _ _ h => (keeps_fields hf h).2.2.1 hne

theorem shows_voice : record.Shows "voice" voice (IsOptional IsText) :=
  Record.shows_of_read nodup_keys 3 rfl (fun _ _ => rfl) (fun _ _ => rfl) (fun _ _ => Json.orNull_asText_eq_ok_iff)
    fun _ hf hne _ _ _ h => (keeps_fields hf h).2.2.2.1 hne

theorem shows_timestamp : record.Shows "timestamp" timestamp IsInteger :=
  Record.shows_of_read nodup_keys 4 rfl (fun _ _ => rfl) (fun _ _ => rfl) (fun _ _ => Json.asInt64_eq_ok_iff)
    fun _ hf hne _ _ _ h => (keeps_fields hf h).2.2.2.2 hne

variable {v : Json} {p q : ReplyPreview}

theorem givenBy_of_ofJson (h : record.ofJson v = .ok p) : p.GivenBy v where
  shape := Record.hasFields_of_ofJson h
  id := Record.gives_of_ofJson nodup_keys (by decide) shows_id h
  username := Record.gives_of_ofJson nodup_keys (by decide) shows_username h
  text := Record.gives_of_ofJson nodup_keys (by decide) shows_text h
  voice := Record.gives_of_ofJson nodup_keys (by decide) shows_voice h
  timestamp := Record.gives_of_ofJson nodup_keys (by decide) shows_timestamp h

/-- A value gives one preview. -/
theorem GivenBy.unique (h : p.GivenBy v) (h' : q.GivenBy v) : p = q := by
  obtain ⟨id, username, text, voice, timestamp⟩ := p
  obtain rfl := h.id.unique (Json.unique_of_read fun _ _ => Json.asInt64_eq_ok_iff) h'.id
  obtain rfl := h.username.unique (Json.unique_of_read fun _ _ => Json.asText_eq_ok_iff) h'.username
  obtain rfl := h.text.unique (Json.unique_of_read fun _ _ => Json.orNull_asText_eq_ok_iff) h'.text
  obtain rfl := h.voice.unique (Json.unique_of_read fun _ _ => Json.orNull_asText_eq_ok_iff) h'.voice
  obtain rfl := h.timestamp.unique (Json.unique_of_read fun _ _ => Json.asInt64_eq_ok_iff) h'.timestamp
  rfl

theorem GivenBy.suits (h : p.GivenBy v) : ∀ f ∈ record.fields, record.Suits f v := by
  intro f hf
  have hmem := hf
  simp only [record, List.mem_cons, List.not_mem_nil, or_false] at hf
  rcases hf with rfl | rfl | rfl | rfl | rfl
  · exact shows_id.suits hmem h.id
  · exact shows_username.suits hmem h.username
  · exact shows_text.suits hmem h.text
  · exact shows_voice.suits hmem h.voice
  · exact shows_timestamp.suits hmem h.timestamp

/-- **A preview is read from the values that give its fields.** -/
theorem ofJson_eq_ok_iff : record.ofJson v = .ok p ↔ p.GivenBy v := by
  refine ⟨givenBy_of_ofJson, fun h => ?_⟩
  obtain ⟨q, hq⟩ := Record.exists_of_ofJson nodup_keys (by simp [record]) h.shape h.suits
  rw [hq, h.unique (givenBy_of_ofJson hq)]

theorem GivenBy.not_faulty (h : p.GivenBy v) : ¬ Faulty v := by
  rintro (⟨hkey, hlength⟩ | ⟨hkey, hnull⟩ | ⟨hkey, hw, -, hother⟩ | ⟨rfl, hlength⟩)
  · obtain ⟨f, hf, rfl⟩ := List.mem_map.1 (show _ ∈ record.keys from hkey)
    exact absurd (h.suits f hf).1 (Nat.not_le.2 hlength)
  · simp only [List.mem_cons, List.not_mem_nil, or_false] at hkey
    rcases hkey with rfl | rfl | rfl
    · cases (h.id.of_mem hnull).1
    · cases h.username.of_mem hnull
    · cases (h.timestamp.of_mem hnull).1
  · simp only [List.mem_cons, List.not_mem_nil, or_false] at hkey
    rcases hkey with rfl | rfl
    · exact hother _ (h.id.of_mem hw)
    · exact hother _ (h.timestamp.of_mem hw)
  · exact absurd h.shape (Nat.not_le.2 hlength)

end ReplyPreview

/-! ## Frames -/

namespace ClientFrame

/-- The keys of a frame. -/
def keys : List String := ["event", "room", "text", "voice", "reply_to", "reply_to_id", "timestamp"]

/-- A value gives the fields of a frame. -/
structure GivenBy (v : Json) (f : ClientFrame) : Prop where
  shape : v.HasFields keys
  event : Gives IsText "" (v.given keys "event") f.event
  room : Gives (IsOptional IsText) none (v.given keys "room") f.room
  text : Gives (IsOptional IsText) none (v.given keys "text") f.text
  voice : Gives (IsOptional IsText) none (v.given keys "voice") f.voice
  replyTo : Gives (IsOptional ReplyPreview.GivenBy) none (v.given keys "reply_to") f.replyTo
  replyToId : Gives (IsOptional IsInteger) none (v.given keys "reply_to_id") f.replyToId
  timestamp : Gives (IsOptional IsInteger) none (v.given keys "timestamp") f.timestamp

/-- A value that no frame is read from, for what it is or for the preview in it. -/
def Faulty (v : Json) : Prop :=
  v.Faulty keys ["event"] ["reply_to_id", "timestamp"] ∨ ∃ w ∈ v.given keys "reply_to", ReplyPreview.Faulty w

/-- Setting a field leaves the others as they are. -/
theorem keeps_fields {field : Field ClientFrame} (hf : field ∈ record.fields) {v : Json} {f g : ClientFrame}
    (h : field.set v f = .ok g) :
    (field.key ≠ "event" → g.event = f.event) ∧ (field.key ≠ "room" → g.room = f.room) ∧
      (field.key ≠ "text" → g.text = f.text) ∧ (field.key ≠ "voice" → g.voice = f.voice) ∧
      (field.key ≠ "reply_to" → g.replyTo = f.replyTo) ∧ (field.key ≠ "reply_to_id" → g.replyToId = f.replyToId) ∧
      (field.key ≠ "timestamp" → g.timestamp = f.timestamp) := by
  simp only [record, List.mem_cons, List.not_mem_nil, or_false] at hf
  rcases hf with rfl | rfl | rfl | rfl | rfl | rfl | rfl <;> obtain ⟨y, -, rfl⟩ := exists_of_map_eq_ok h <;> simp

theorem nodup_keys : record.keys.Nodup := by decide

theorem orNull_replyTo_eq_ok_iff {v : Json} {x : Option ReplyPreview} :
    Json.orNull ReplyPreview.record.ofJson v = .ok x ↔ IsOptional ReplyPreview.GivenBy v x :=
  Json.orNull_eq_ok_iff (fun _ _ => ReplyPreview.ofJson_eq_ok_iff) fun _ h => absurd h.shape id

theorem shows_event : record.Shows "event" event IsText :=
  Record.shows_of_read nodup_keys 0 rfl (fun _ _ => rfl) (fun _ _ => rfl) (fun _ _ => Json.asText_eq_ok_iff)
    fun _ hf hne _ _ _ h => (keeps_fields hf h).1 hne

theorem shows_room : record.Shows "room" room (IsOptional IsText) :=
  Record.shows_of_read nodup_keys 1 rfl (fun _ _ => rfl) (fun _ _ => rfl) (fun _ _ => Json.orNull_asText_eq_ok_iff)
    fun _ hf hne _ _ _ h => (keeps_fields hf h).2.1 hne

theorem shows_text : record.Shows "text" text (IsOptional IsText) :=
  Record.shows_of_read nodup_keys 2 rfl (fun _ _ => rfl) (fun _ _ => rfl) (fun _ _ => Json.orNull_asText_eq_ok_iff)
    fun _ hf hne _ _ _ h => (keeps_fields hf h).2.2.1 hne

theorem shows_voice : record.Shows "voice" voice (IsOptional IsText) :=
  Record.shows_of_read nodup_keys 3 rfl (fun _ _ => rfl) (fun _ _ => rfl) (fun _ _ => Json.orNull_asText_eq_ok_iff)
    fun _ hf hne _ _ _ h => (keeps_fields hf h).2.2.2.1 hne

theorem shows_replyTo : record.Shows "reply_to" replyTo (IsOptional ReplyPreview.GivenBy) :=
  Record.shows_of_read nodup_keys 4 rfl (fun _ _ => rfl) (fun _ _ => rfl) (fun _ _ => orNull_replyTo_eq_ok_iff)
    fun _ hf hne _ _ _ h => (keeps_fields hf h).2.2.2.2.1 hne

theorem shows_replyToId : record.Shows "reply_to_id" replyToId (IsOptional IsInteger) :=
  Record.shows_of_read nodup_keys 5 rfl (fun _ _ => rfl) (fun _ _ => rfl) (fun _ _ => Json.orNull_asInt64_eq_ok_iff)
    fun _ hf hne _ _ _ h => (keeps_fields hf h).2.2.2.2.2.1 hne

theorem shows_timestamp : record.Shows "timestamp" timestamp (IsOptional IsInteger) :=
  Record.shows_of_read nodup_keys 6 rfl (fun _ _ => rfl) (fun _ _ => rfl) (fun _ _ => Json.orNull_asInt64_eq_ok_iff)
    fun _ hf hne _ _ _ h => (keeps_fields hf h).2.2.2.2.2.2 hne

variable {v : Json} {f g : ClientFrame}

theorem givenBy_of_ofJson (h : record.ofJson v = .ok f) : f.GivenBy v where
  shape := Record.hasFields_of_ofJson h
  event := Record.gives_of_ofJson nodup_keys (by decide) shows_event h
  room := Record.gives_of_ofJson nodup_keys (by decide) shows_room h
  text := Record.gives_of_ofJson nodup_keys (by decide) shows_text h
  voice := Record.gives_of_ofJson nodup_keys (by decide) shows_voice h
  replyTo := Record.gives_of_ofJson nodup_keys (by decide) shows_replyTo h
  replyToId := Record.gives_of_ofJson nodup_keys (by decide) shows_replyToId h
  timestamp := Record.gives_of_ofJson nodup_keys (by decide) shows_timestamp h

/-- A value gives one frame. -/
theorem GivenBy.unique (h : f.GivenBy v) (h' : g.GivenBy v) : f = g := by
  obtain ⟨event, room, text, voice, replyTo, replyToId, timestamp⟩ := f
  obtain rfl := h.event.unique (Json.unique_of_read fun _ _ => Json.asText_eq_ok_iff) h'.event
  obtain rfl := h.room.unique (Json.unique_of_read fun _ _ => Json.orNull_asText_eq_ok_iff) h'.room
  obtain rfl := h.text.unique (Json.unique_of_read fun _ _ => Json.orNull_asText_eq_ok_iff) h'.text
  obtain rfl := h.voice.unique (Json.unique_of_read fun _ _ => Json.orNull_asText_eq_ok_iff) h'.voice
  obtain rfl := h.replyTo.unique (Json.unique_of_read fun _ _ => orNull_replyTo_eq_ok_iff) h'.replyTo
  obtain rfl := h.replyToId.unique (Json.unique_of_read fun _ _ => Json.orNull_asInt64_eq_ok_iff) h'.replyToId
  obtain rfl := h.timestamp.unique (Json.unique_of_read fun _ _ => Json.orNull_asInt64_eq_ok_iff) h'.timestamp
  rfl

theorem GivenBy.suits (h : f.GivenBy v) : ∀ field ∈ record.fields, record.Suits field v := by
  intro field hf
  have hmem := hf
  simp only [record, List.mem_cons, List.not_mem_nil, or_false] at hf
  rcases hf with rfl | rfl | rfl | rfl | rfl | rfl | rfl
  · exact shows_event.suits hmem h.event
  · exact shows_room.suits hmem h.room
  · exact shows_text.suits hmem h.text
  · exact shows_voice.suits hmem h.voice
  · exact shows_replyTo.suits hmem h.replyTo
  · exact shows_replyToId.suits hmem h.replyToId
  · exact shows_timestamp.suits hmem h.timestamp

/-- A frame is read from the values that give its fields. -/
theorem ofJson_eq_ok_iff : record.ofJson v = .ok f ↔ f.GivenBy v := by
  refine ⟨givenBy_of_ofJson, fun h => ?_⟩
  obtain ⟨g, hg⟩ := Record.exists_of_ofJson nodup_keys (by simp [record]) h.shape h.suits
  rw [hg, h.unique (givenBy_of_ofJson hg)]

theorem not_isInteger_of_isOptional {w : Json} {x : Option Int} (hnull : w ≠ .null) (hother : ∀ i, ¬ w.IsInteger i) :
    ¬ IsOptional IsInteger w x := by
  cases x with
  | none => exact hnull
  | some i => exact hother i

theorem GivenBy.not_faulty (h : f.GivenBy v) : ¬ Faulty v := by
  rintro ((⟨hkey, hlength⟩ | ⟨hkey, hnull⟩ | ⟨hkey, hw, hnull, hother⟩ | ⟨rfl, hlength⟩) | ⟨w, hw, hfaulty⟩)
  · obtain ⟨field, hf, rfl⟩ := List.mem_map.1 (show _ ∈ record.keys from hkey)
    exact absurd (h.suits field hf).1 (Nat.not_le.2 hlength)
  · obtain rfl := List.mem_singleton.1 hkey
    cases h.event.of_mem hnull
  · simp only [List.mem_cons, List.not_mem_nil, or_false] at hkey
    rcases hkey with rfl | rfl
    · exact not_isInteger_of_isOptional hnull hother (h.replyToId.of_mem hw)
    · exact not_isInteger_of_isOptional hnull hother (h.timestamp.of_mem hw)
  · exact absurd h.shape (Nat.not_le.2 hlength)
  · have hreply := h.replyTo.of_mem hw
    cases hp : f.replyTo with
    | none =>
      rw [hp] at hreply
      obtain rfl : w = .null := hreply
      exact Json.not_faulty_null hfaulty
    | some p =>
      rw [hp] at hreply
      exact hreply.not_faulty hfaulty

theorem decode_eq_some_iff {text : String} : decode text = some f ↔ ∃ v, Json.IsTextOf text v ∧ f.GivenBy v := by
  constructor
  · intro h
    obtain ⟨v, hparse, hread⟩ := Record.ofJson_of_read h
    exact ⟨v, Json.parse?_eq_some_iff.1 hparse, ofJson_eq_ok_iff.1 hread⟩
  · rintro ⟨v, htext, hf⟩
    rw [decode, Record.read?, Json.parse?_eq_some_iff.2 htext, Option.bind_some, ofJson_eq_ok_iff.2 hf]
    rfl

/-- **A frame is read from the texts that give its fields, and from no others.** Which frame it is depends on the values
of the fields only. No frame is read from a text that gives a field twice, or a field that is no option as `null`, or
for an integer another thing, or too many items, in the frame or in its preview; and none when anything but white space
follows the value. -/
theorem decode_iff_given (text : String) :
    (∀ f, decode text = some f ↔ ∃ v, Json.IsTextOf text v ∧ f.GivenBy v) ∧
      (∀ v, Json.IsTextOf text v → Faulty v → decode text = none) ∧
      ∀ v rest, Json.IsTextOf text v → ¬ Json.Blanks rest.toList → decode (text ++ rest) = none := by
  refine ⟨fun f => decode_eq_some_iff, fun v htext hfaulty => ?_, fun v rest htext hrest => ?_⟩
  · refine Option.eq_none_iff_forall_not_mem.2 fun f hf => ?_
    obtain ⟨u, hu, hgiven⟩ := decode_eq_some_iff.1 hf
    have hsame : some u = some v := (Json.parse?_eq_some_iff.2 hu).symm.trans (Json.parse?_eq_some_iff.2 htext)
    cases hsame
    exact hgiven.not_faulty hfaulty
  · refine Option.eq_none_iff_forall_not_mem.2 fun f hf => ?_
    obtain ⟨u, hu, hgiven⟩ := decode_eq_some_iff.1 hf
    obtain ⟨n, rfl⟩ := Json.parse?_append htext hrest (Json.parse?_eq_some_iff.2 hu)
    exact absurd hgiven.shape id

/-- A text in which the key of the event is escaped, a key that is no field comes twice, and the preview is an array. -/
theorem isTextOf_escaped_key :
    Json.IsTextOf "\x7b\"x\":[], \"\\u0065vent\":\"join\",\"x\":-0,\"reply_to\":[7,\"ann\"],\"room\":null\x7d"
      (.obj [(some "x", .arr []), (some "event", .str (some "join")), (some "x", .num (.real true 0 0)),
        (some "reply_to", .arr [.num (.int 7), .str (some "ann")]), (some "room", .null)]) := by
  have hletter : Json.IsPiece (.char 'e') ['\\', 'u', '0', '0', '6', '5'] :=
    .escaped (.digits (i := 0) (j := 0) (k := 6) (l := 5) (by decide) (by decide) (by decide) (by decide))
  have hkey : Json.IsString (some "event") _ :=
    .quoted (.cons hletter (Json.isBody_flatMap "vent".toList)) (.char (Json.spells_map_char "vent".toList))
  have hblank : Json.Blanks [' '] := by simp [Json.Blanks]
  have hevent : Json.IsMember (some "event", .str (some "join")) _ :=
    .pair hblank hkey Json.blanks_nil (Json.isPadded_of_isValue (.str (Json.isString_writeText "join")))
  have hzero : Json.IsNumber (.real true 0 0) _ :=
    .real (Json.isWhole_toDigits 0) .none .none (.inr (.inr ⟨rfl, rfl⟩))
  have hreply : Json.IsValue (.arr [.num (.int 7), .str (some "ann")]) _ :=
    .arr (.more (Json.isPadded_of_isValue (.num (.int 7)))
      (.one (Json.isPadded_of_isValue (.str (Json.isString_writeText "ann")))))
  have hobj : Json.IsPadded _ _ := Json.isPadded_of_isValue
    (.obj (.more (Json.isMember_of_isValue "x" (.emptyArr Json.blanks_nil)) (.more hevent
      (.more (Json.isMember_of_isValue "x" (.num hzero)) (.more (Json.isMember_of_isValue "reply_to" hreply)
      (.one (Json.isMember_of_isValue "room" .null)))))))
  rw [Json.IsTextOf]
  convert hobj
  decide +kernel

theorem decode_iff_given_escaped_key :
    decode "\x7b\"x\":[], \"\\u0065vent\":\"join\",\"x\":-0,\"reply_to\":[7,\"ann\"],\"room\":null\x7d" =
        some ⟨"join", none, none, none, some ⟨7, "ann", none, none, 0⟩, none, none⟩ ∧
      decode (Json.record [("event", .text "join"), ("event", .text "list")]).render = none ∧
      decode ((Json.record []).render ++ ",") = none := by
  have hrepeated := Json.scan_eq_whole_iff.1 (Json.scan_render
    (show (Json.record [("event", .text "join"), ("event", .text "list")]).Plain from Json.plain_record (by simp)))
  have hempty := Json.scan_eq_whole_iff.1 (Json.scan_render (Json.plain_record Json.plainFields_nil))
  refine ⟨((decode_iff_given _).1 _).2 ⟨_, isTextOf_escaped_key, ?_⟩, (decode_iff_given _).2.1 _ hrepeated (.inl ?_),
    (decode_iff_given _).2.2 _ "," hempty (by simp [Json.Blanks])⟩
  · have hreply : ReplyPreview.GivenBy (.arr [.num (.int 7), .str (some "ann")]) ⟨7, "ann", none, none, 0⟩ := by
      constructor <;> simp [Json.HasFields, ReplyPreview.keys, Gives, Json.given, IsInteger, IsText, isInt64]
    constructor
    case replyTo => exact hreply
    all_goals simp [Json.HasFields, Gives, Json.given, IsText, IsOptional]
  · exact .repeated (show "event" ∈ keys by decide) (by simp [Json.record, Json.given])

end ClientFrame

end DirectChat
