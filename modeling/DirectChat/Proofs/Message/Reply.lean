import DirectChat.Message.Frame
import DirectChat.Proofs.Json.Record
import DirectChat.Proofs.Json.RoundTrip
/-!
# Reply previews are stored without loss

A preview whose numbers fit 64 bits is read back from its stored text as it was
(`ReplyPreview.decode_encode`). Every preview that a client can send is such a one
(`ClientFrame.fits_of_decode`).
-/

namespace DirectChat

namespace ReplyPreview

/-- The keys of a preview. -/
def keys : List String := ["id", "username", "text", "voice", "timestamp"]

/-- The numbers of a preview fit 64 bits. -/
structure Fits (p : ReplyPreview) : Prop where
  id : isInt64 p.id = true
  timestamp : isInt64 p.timestamp = true

theorem plain_toJson (p : ReplyPreview) : p.toJson.Plain := by
  refine Json.plain_record fun m hm => ?_
  simp only [Json.optional, List.mem_append, List.mem_cons, List.not_mem_nil, or_false, List.mem_map,
    Option.mem_toList, Option.map_eq_some_iff] at hm
  obtain ((((rfl | rfl) | ⟨v, ⟨s, -, rfl⟩, rfl⟩) | ⟨v, ⟨s, -, rfl⟩, rfl⟩) | rfl) := hm
  · exact Json.plain_int p.id
  · exact Json.plain_text p.username
  · exact Json.plain_text s
  · exact Json.plain_text s
  · exact Json.plain_int p.timestamp

theorem ofJson_toJson {p : ReplyPreview} (h : p.Fits) : record.ofJson p.toJson = .ok p := by
  obtain ⟨id, username, text, voice, timestamp⟩ := p
  have hid : (Json.int id).asInt64 = .ok id := Json.asInt64_int h.id
  have hts : (Json.int timestamp).asInt64 = .ok timestamp := Json.asInt64_int h.timestamp
  -- Which members there are depends on the two options; each is set once, to what was written.
  cases text <;> cases voice <;>
    simp [toJson, Json.record, Json.optional, Record.ofJson, Record.ofMembers, Record.setMembers, record, hid, hts,
      Json.text, Json.asText, Json.orNull, Except.map]

/-- **What is stored of a preview is the preview.** -/
theorem decode_encode {p : ReplyPreview} (h : p.Fits) : decode p.encode = some p := by
  rw [decode, encode, Record.read?, Json.parse?_render p.plain_toJson, Option.bind_some, ofJson_toJson h]
  rfl

theorem fits_of_ofJson {v : Json} {p : ReplyPreview} (h : record.ofJson v = .ok p) : p.Fits := by
  refine Record.holds_of_ofJson ⟨by decide, by decide⟩ (fun f hf v a b ha hset => ?_) h
  simp only [record, List.mem_cons, List.not_mem_nil, or_false] at hf
  rcases hf with rfl | rfl | rfl | rfl | rfl <;> obtain ⟨y, hy, rfl⟩ := exists_of_map_eq_ok hset
  · exact ⟨Json.isInt64_of_asInt64 hy, ha.timestamp⟩
  · exact ⟨ha.id, ha.timestamp⟩
  · exact ⟨ha.id, ha.timestamp⟩
  · exact ⟨ha.id, ha.timestamp⟩
  · exact ⟨ha.id, Json.isInt64_of_asInt64 hy⟩

theorem fits_of_decode {text : String} {p : ReplyPreview} (h : decode text = some p) : p.Fits := by
  obtain ⟨v, -, hv⟩ := Record.ofJson_of_read h
  exact fits_of_ofJson hv

end ReplyPreview

/-- What a frame copies of the message it answers, if anything, fits. -/
def ClientFrame.ReplyFits (f : ClientFrame) : Prop := ∀ p, f.replyTo = some p → p.Fits

theorem ClientFrame.fits_of_decode {raw : String} {f : ClientFrame} (h : decode raw = some f) : f.ReplyFits := by
  refine Record.holds_of_read (P := ReplyFits) (fun p hp => by cases hp) (fun f hf v a b ha hset => ?_) h
  simp only [record, List.mem_cons, List.not_mem_nil, or_false] at hf
  rcases hf with rfl | rfl | rfl | rfl | rfl | rfl | rfl <;> obtain ⟨y, hy, rfl⟩ := exists_of_map_eq_ok hset
  case inr.inr.inr.inr.inl =>
    intro p hp
    obtain rfl : y = some p := hp
    exact ReplyPreview.fits_of_ofJson (Json.eq_ok_of_orNull hy)
  all_goals exact ha

end DirectChat
