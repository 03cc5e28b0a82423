import DirectChat.Proofs.Store.Seen
import Mathlib.Data.List.Sort
/-!
# Replies in the store

A reply is a column of text among the others. What stands in it, readable or not, decides of nothing but the reply
that a message is handed out with: other rows, other columns, the order and whether loading succeeds are the same
(`recentMessages_withReplies`, `messageById_withReplies`). What is written into it by saving a message is read back
(`load_rowOf`), and the message goes on saying it for as long as it is kept (`Store.Extends`).
-/

namespace DirectChat

/-- A message without its reply. -/
def Message.bare (m : Message) : Message := { m with replyTo := none }

/-- A stored message with another text in its reply column. -/
def StoredMessage.withReply (text : Option String) (m : StoredMessage) : StoredMessage := { m with replyText := text }

namespace Store

variable {s s' s'' : Store} {room : RoomId}

/-! ## Arbitrary columns -/

/-- The store with other texts in its reply columns. -/
def withReplies (s : Store) (column : StoredMessage → Option String) : Store :=
  { s with messages := s.messages.map fun m => m.withReply (column m) }

variable (column : StoredMessage → Option String)

theorem rows_withReplies (s : Store) (room : RoomId) :
    (s.withReplies column).rows room = (s.rows room).map fun m => m.withReply (column m) := by
  rw [rows, withReplies, List.filter_map]
  rfl

theorem newestFirst_withReplies (s : Store) (room : RoomId) :
    (s.withReplies column).newestFirst room = (s.newestFirst room).map fun m => m.withReply (column m) := by
  show ((s.withReplies column).rows room).mergeSort (fun m n => n.before m) = _
  rw [rows_withReplies]
  refine (List.map_mergeSort ?_).symm
  intro m _ n _
  rfl

theorem firstOf_map {α β : Type} (f : α → β) (limit : Nat) (l : List α) :
    firstOf limit (l.map f) = (firstOf limit l).map f := by
  unfold firstOf
  split
  · rw [List.map_take]
  · rfl

theorem bare_load_withReply (text : Option String) (m : StoredMessage) : (m.withReply text).load.bare = m.load.bare :=
  rfl

/-- The last messages of a room are found or not whatever stands in the reply columns, and apart from their
replies they are the same. -/
theorem recentMessages_withReplies (s : Store) (room : RoomId) (limit : Nat) :
    ((s.withReplies column).recentMessages room limit).map (List.map Message.bare) =
      (s.recentMessages room limit).map (List.map Message.bare) := by
  have hready : (s.withReplies column).require [.messages] = s.require [.messages] := rfl
  rw [recentMessages, recentMessages, hready, newestFirst_withReplies, firstOf_map, ← List.map_reverse]
  cases s.require [.messages] with
  | error e => rfl
  | ok u =>
    show Except.ok ((((firstOf limit (s.newestFirst room)).reverse.map _).map StoredMessage.load).map Message.bare) =
      Except.ok (((firstOf limit (s.newestFirst room)).reverse.map StoredMessage.load).map Message.bare)
    simp only [List.map_map, Function.comp_def, bare_load_withReply]

theorem messageById_withReplies (s : Store) (id : Int) :
    ((s.withReplies column).messageById id).map (Option.map Message.bare) =
      (s.messageById id).map (Option.map Message.bare) := by
  have hready : (s.withReplies column).require [.messages] = s.require [.messages] := rfl
  have hfound : (s.withReplies column).messages.find? (·.id = id) =
      (s.messages.find? (·.id = id)).map fun m => m.withReply (column m) := by
    rw [withReplies, List.find?_map]
    rfl
  rw [messageById, messageById, hready, hfound]
  cases s.require [.messages] with
  | error e => rfl
  | ok u => cases s.messages.find? (·.id = id) <;> rfl

/-! ## Where a message that is handed out comes from -/

theorem exists_row_of_messageById {id : Int} {m : Message} (h : s.messageById id = .ok (some m)) :
    ∃ row ∈ s.messages, row.id = id ∧ m = row.load := by
  unfold messageById at h
  have hfound : (s.messages.find? (·.id = id)).map StoredMessage.load = some m := by
    have hok := eq_ok_of_require (f := fun _ => pure ((s.messages.find? (·.id = id)).map StoredMessage.load)) h
    exact Except.ok.inj hok
  obtain ⟨row, hrow, rfl⟩ := Option.map_eq_some_iff.1 hfound
  exact ⟨row, List.mem_of_find?_eq_some hrow, by simpa using List.find?_some hrow, rfl⟩

theorem load_withReply (text : Option String) (m : StoredMessage) :
    (m.withReply text).load = { m.load with replyTo := text.bind ReplyPreview.decode } := rfl

/-- Whatever stands in the reply columns, the same messages are handed out with the same success, and each with the
reply that can be read of its column, if any. -/
structure LoadsAnyReply (s : Store) (column : StoredMessage → Option String) : Prop where
  byId : ∀ id, ((s.withReplies column).messageById id).map (Option.map Message.bare) =
    (s.messageById id).map (Option.map Message.bare)
  recent : ∀ room limit, ((s.withReplies column).recentMessages room limit).map (List.map Message.bare) =
    (s.recentMessages room limit).map (List.map Message.bare)
  replyById : ∀ id m, (s.withReplies column).messageById id = .ok (some m) →
    ∃ row ∈ s.messages, m = { row.load with replyTo := (column row).bind ReplyPreview.decode }
  replyRecent : ∀ room limit messages, (s.withReplies column).recentMessages room limit = .ok messages →
    ∀ m ∈ messages, ∃ row ∈ s.messages, m = { row.load with replyTo := (column row).bind ReplyPreview.decode }

theorem loadsAnyReply (s : Store) : s.LoadsAnyReply column where
  byId := s.messageById_withReplies column
  recent := s.recentMessages_withReplies column
  replyById := fun id m h => by
    obtain ⟨row', hrow', -, rfl⟩ := exists_row_of_messageById h
    obtain ⟨row, hrow, rfl⟩ := List.mem_map.1 hrow'
    exact ⟨row, hrow, load_withReply ..⟩
  replyRecent := fun room limit messages h m hm => by
    obtain ⟨row', hrow', -, rfl⟩ := exists_row_of_recentMessages h hm
    obtain ⟨row, hrow, rfl⟩ := List.mem_map.1 hrow'
    exact ⟨row, hrow, load_withReply ..⟩

/-! ## What is saved stays -/

/-- The messages stay, and each says what it said; others may come behind them. -/
def Extended (s s' : Store) : Prop := s.messages.map StoredMessage.unseen <+: s'.messages.map StoredMessage.unseen

instance (s s' : Store) : Decidable (s.Extended s') := inferInstanceAs (Decidable (_ <+: _))

instance (s : Store) : Decidable s.Numbered :=
  decidable_of_iff (s.numbers.Nodup ∧ ∀ m ∈ s.messages, m.id ≤ s.lastMessage)
    ⟨fun h => ⟨h.1, h.2⟩, fun h => ⟨h.nodup, h.upTo⟩⟩

/-- The numbers and the times of the messages fit 64 bits. -/
def Stamped (s : Store) : Prop := ∀ m ∈ s.messages, isInt64 m.id = true ∧ isInt64 m.createdAt = true

instance (s : Store) : Decidable s.Stamped := inferInstanceAs (Decidable (∀ m ∈ s.messages, _))

variable {said : Said} {c? : Option Receipt} {m : NewMessage} {now : Int} {saved : Message}

theorem mem_sayings : said ∈ s.sayings room ↔ ∃ row ∈ s.messages, row.room = room ∧ row.load.said = said := by
  simp only [sayings, rows, List.mem_map, List.mem_filter, decide_eq_true_eq, and_assoc]

theorem Extended.sayings (h : s.Extended s') (room : RoomId) : s.sayings room ⊆ s'.sayings room := by
  intro said hsaid
  obtain ⟨row, hrow, hroom, rfl⟩ := mem_sayings.1 hsaid
  obtain ⟨row', hrow', hsame⟩ := List.mem_map.1 (h.subset (List.mem_map_of_mem hrow))
  have hroom' : row'.unseen.room = row.unseen.room := by rw [hsame]
  have hsaid' : row'.unseen.load.said = row.unseen.load.said := by rw [hsame]
  exact mem_sayings.2 ⟨row', hrow', hroom'.trans hroom, hsaid'⟩

theorem LogBecomes.extended (h : s.LogBecomes c? s') : s.Extended s' := by
  unfold Extended
  cases h with
  | same hmessages =>
    exact hmessages ▸ List.prefix_rfl
  | wrote row hmessages =>
    rw [hmessages, List.map_append]
    exact List.prefix_append ..
  | marked c hmessages =>
    rw [hmessages, List.map_map]
    simp only [Function.comp_def, StoredMessage.unseen_markedBy]
    exact List.prefix_rfl

theorem Stamped.mark (hs : s.Stamped) {viewer : UserId} {upTo : Int} {count : Nat}
    (h : s.markSeen room viewer upTo = .ok (count, s')) : s'.Stamped := by
  unfold markSeen at h
  cases eq_ok_of_require h
  intro m hm
  obtain ⟨row, hrow, rfl⟩ := List.mem_map.1 hm
  split <;> exact hs row hrow

theorem Stamped.save (hs : s.Stamped) (hnumber : s.lastMessage + 1 < 2 ^ 63) (hnow : isInt64 now = true)
    (h : s.saveMessage m now = .ok (saved, s')) : s'.Stamped := by
  obtain ⟨-, rfl⟩ := saveMessage_eq_ok h
  intro row hrow
  rcases List.mem_append.1 hrow with hrow | hrow
  · exact hs row hrow
  · obtain rfl := List.mem_singleton.1 hrow
    refine ⟨?_, hnow⟩
    show isInt64 ((s.lastMessage : Int) + 1) = true
    rw [isInt64_iff]
    omega

/-- The copy of a stored message that an answer carries can be stored itself. -/
theorem Stamped.preview_fits (hs : s.Stamped) {id : Int} {m : Message} (h : s.messageById id = .ok (some m)) :
    m.preview.Fits := by
  obtain ⟨row, hrow, -, rfl⟩ := exists_row_of_messageById h
  exact ⟨(hs row hrow).1, (hs row hrow).2⟩

/-- What is saved is in the store as it was handed out. -/
theorem sayings_of_saveMessage (hfits : ∀ p, m.replyTo = some p → p.Fits)
    (h : s.saveMessage m now = .ok (saved, s')) : saved.said ∈ s'.sayings saved.room := by
  obtain ⟨row, hrows, hroom, -, -, hsaid⟩ := (saved_of_ok h).row
  refine mem_sayings.2 ⟨row, ?_, hroom.trans (saved_of_ok h).room.symm, hsaid hfits⟩
  rw [hrows]
  exact List.mem_append_right _ (List.mem_singleton_self row)

/-! ## What is said of a number -/

theorem Numbered.said_of_id (h : s.Numbered) (hsaid : said ∈ s.sayings room) {row : StoredMessage}
    (hrow : row ∈ s.messages) (hid : row.id = said.id) : row.room = room ∧ row.load.said = said := by
  obtain ⟨row', hrow', hroom, rfl⟩ := mem_sayings.1 hsaid
  obtain rfl : row = row' := List.inj_on_of_nodup_map h.nodup hrow hrow' hid
  exact ⟨hroom, rfl⟩

theorem Numbered.said_of_messageById (h : s.Numbered) (hsaid : said ∈ s.sayings room) {m : Message}
    (hm : s.messageById said.id = .ok (some m)) : m.room = room ∧ m.said = said := by
  obtain ⟨row, hrow, hid, rfl⟩ := exists_row_of_messageById hm
  exact h.said_of_id hsaid hrow hid

theorem Numbered.said_of_recentMessages (h : s.Numbered) (hsaid : said ∈ s.sayings room) {shown : RoomId} {limit : Nat}
    {messages : List Message} (hrecent : s.recentMessages shown limit = .ok messages) {m : Message}
    (hm : m ∈ messages) (hid : m.id = said.id) : m.room = room ∧ m.said = said := by
  obtain ⟨row, hrow, -, rfl⟩ := exists_row_of_recentMessages hrecent hm
  exact h.said_of_id hsaid hrow hid

theorem exists_messageById (hsaid : said ∈ s.sayings room) (hready : s.require [.messages] = .ok ()) :
    ∃ m, s.messageById said.id = .ok (some m) := by
  obtain ⟨row, hrow, -, rfl⟩ := mem_sayings.1 hsaid
  have hfound : (s.messages.find? (·.id = row.load.said.id)).isSome := by
    rw [List.find?_isSome]
    exact ⟨row, hrow, by simp [StoredMessage.load, Message.said]⟩
  obtain ⟨found, hfound⟩ := Option.isSome_iff_exists.1 hfound
  refine ⟨found.load, ?_⟩
  rw [messageById, hready, hfound]
  rfl

end Store

end DirectChat
