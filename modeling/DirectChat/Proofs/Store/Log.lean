import DirectChat.Proofs.Message.Reply
import DirectChat.Store.Messages
import Mathlib.Algebra.Group.Nat.Defs
import Mathlib.Data.List.Nodup
/-!
# The log of a room is what was saved, in that order

A store whose clock never went back holds the messages of a room in the order of time (`Store.Ordered`),
so that a history, which is read from the newest on and turned round, shows the end of them as they were
saved (`recentMessages_eq`); whatever the clock did, it shows the end of the messages in their order
(`recentMessages_of_sorted`). Saving puts one message at the end and hands out
what a later look at the store will show (`saved_of_ok`); anything else leaves of a message what it
says, at most it is seen (`Store.Keeps`).
-/

namespace DirectChat

/-- What a message says, apart from whether it was seen. -/
structure Said where
  id : Int
  text : Option String
  voice : Option String
  username : String
  timestamp : Int
  replyTo : Option ReplyPreview
deriving DecidableEq, Repr

def Message.said (m : Message) : Said := ⟨m.id, m.content, m.voice, m.username, m.createdAt, m.replyTo⟩

/-- A stored message as if it was not seen. -/
def StoredMessage.unseen (m : StoredMessage) : StoredMessage := { m with hasSeen := false }

namespace StoredMessage

variable {m n : StoredMessage}

theorem before_iff : m.before n = true ↔ m.createdAt < n.createdAt ∨ m.createdAt = n.createdAt ∧ m.id ≤ n.id := by
  simp only [before, Bool.or_eq_true, decide_eq_true_eq, Bool.and_eq_true, beq_iff_eq]

theorem before_trans (m n k : StoredMessage) (h : m.before n = true) (h' : n.before k = true) : m.before k = true := by
  rw [before_iff] at h h' ⊢
  omega

theorem before_total (m n : StoredMessage) : (m.before n || n.before m) = true := by
  rw [Bool.or_eq_true, before_iff, before_iff]
  omega

/-- Earlier in time, or at the same moment and saved before. -/
def Older (m n : StoredMessage) : Prop := m.createdAt < n.createdAt ∨ m.createdAt = n.createdAt ∧ m.id < n.id

theorem Older.before (h : m.Older n) : m.before n = true := by
  rw [before_iff]
  exact h.imp_right fun htie => ⟨htie.1, Int.le_of_lt htie.2⟩

/-- Messages that each are older than those behind have one order from the newest on. -/
theorem eq_reverse_of_sorted {log found : List StoredMessage} (hsorted : log.Pairwise Older)
    (hfound : found.Pairwise fun m n => n.before m = true) (hperm : found.Perm log) : found = log.reverse := by
  -- No two of them agree in the moment and the number.
  have hkeys : (log.map fun m => (m.createdAt, m.id)).Nodup := by
    refine List.pairwise_map.2 (hsorted.imp fun {m n} hmn hkey => ?_)
    obtain ⟨htime, hid⟩ := Prod.mk.inj hkey
    simp only [Older] at hmn
    omega
  refine List.Perm.eq_of_pairwise (fun m n hm hn hmn hnm => ?_) hfound
    (List.pairwise_reverse.2 (hsorted.imp Older.before)) (hperm.trans (List.reverse_perm log).symm)
  rw [before_iff] at hmn hnm
  have hkey : (m.createdAt, m.id) = (n.createdAt, n.id) := by
    rw [Prod.mk.injEq]
    omega
  exact List.inj_on_of_nodup_map hkeys (hperm.mem_iff.1 hm) (List.mem_reverse.1 hn) hkey

end StoredMessage

/-- Saved before, and not at a later moment. -/
def StoredMessage.Precedes (m n : StoredMessage) : Prop := m.createdAt ≤ n.createdAt ∧ m.id < n.id

theorem StoredMessage.Precedes.older {m n : StoredMessage} (h : m.Precedes n) : m.Older n := by
  simp only [Precedes, Older] at h ⊢
  omega

/-- The last elements of a list, as many as the limit says. A limit from `2 ^ 63` on is none. -/
def lastOf {α : Type} (limit : Nat) (l : List α) : List α :=
  if limit < Nat.pow 2 63 then l.drop (l.length - limit) else l

namespace Store

variable {s s' s'' : Store} {room : RoomId} {now now' : Int}

/-- The messages of a room in the order in which they were saved. -/
def rows (s : Store) (room : RoomId) : List StoredMessage := s.messages.filter (·.room = room)

/-- What the messages of a room say. -/
def sayings (s : Store) (room : RoomId) : List Said := (s.rows room).map (·.load.said)

/-- Messages can be saved and read, and there are numbers left for them. -/
structure Works (s : Store) : Prop where
  unlocked : s.poisoned = false
  there : StoreTable.messages ∉ s.missing
  numbers : s.lastMessage < 2 ^ 63

instance (s : Store) : Decidable s.Works :=
  decidable_of_iff (s.poisoned = false ∧ StoreTable.messages ∉ s.missing ∧ s.lastMessage < 2 ^ 63)
    ⟨fun h => ⟨h.1, h.2.1, h.2.2⟩, fun h => ⟨h.unlocked, h.there, h.numbers⟩⟩

theorem works_empty : Store.empty.Works := by decide

theorem Works.ready (h : s.Works) : s.require [.messages] = .ok () := by
  have hthere : (([.messages] : List StoreTable).any s.missing.contains) = false := by
    simpa using h.there
  rw [require, h.unlocked, hthere]
  rfl

/-- The messages of a room are in the order of time, and none is later than now. -/
structure Ordered (s : Store) (room : RoomId) (now : Int) : Prop where
  sorted : (s.rows room).Pairwise StoredMessage.Precedes
  upTo : ∀ m ∈ s.rows room, m.createdAt ≤ now ∧ m.id ≤ s.lastMessage
  fits : ∀ m ∈ s.rows room, isInt64 m.createdAt = true ∧ 0 < m.id

/-- The messages of a room have times and numbers that fit 64 bits while there are numbers left. -/
def Fitting (s : Store) (room : RoomId) : Prop :=
  ∀ m ∈ s.rows room, isInt64 m.createdAt = true ∧ 0 < m.id ∧ m.id ≤ s.lastMessage

theorem fitting_empty (room : RoomId) : Store.empty.Fitting room := fun _ h => (List.not_mem_nil h).elim

theorem Ordered.fitting (h : s.Ordered room now) : s.Fitting room := fun m hm =>
  ⟨(h.fits m hm).1, (h.fits m hm).2, (h.upTo m hm).2⟩

theorem ordered_empty (room : RoomId) (now : Int) : Store.empty.Ordered room now :=
  ⟨.nil, fun _ h => (List.not_mem_nil h).elim, fun _ h => (List.not_mem_nil h).elim⟩

/-- An operation that begins with a look at its tables, and succeeds, found them. -/
theorem eq_ok_of_require {α : Type} {tables : List StoreTable} {f : Unit → Except StoreError α} {a : α}
    (h : (s.require tables >>= f) = .ok a) : f () = .ok a := by
  cases hready : s.require tables with
  | error e => rw [hready] at h; cases h
  | ok u => rwa [hready] at h

/-- All tables are there, and nobody died holding them. -/
structure Ready (s : Store) : Prop where
  unlocked : s.poisoned = false
  complete : s.missing = []

theorem Ready.require (h : s.Ready) (tables : List StoreTable) : s.require tables = .ok () := by
  simp [Store.require, h.unlocked, h.complete]

/-! ## The log -/

section Limits

variable {α : Type} {limit : Nat}

theorem lastOf_unlimited (l : List α) : lastOf (2 ^ 63) l = l := if_neg (Nat.lt_irrefl _)

theorem lastOf_eq_drop (h : limit < 2 ^ 63) (l : List α) : lastOf limit l = l.drop (l.length - limit) := if_pos h

/-- What is read first from the end on is what stands last. -/
theorem reverse_firstOf_reverse (limit : Nat) (l : List α) : (firstOf limit l.reverse).reverse = lastOf limit l := by
  unfold firstOf lastOf
  split
  · rw [List.take_reverse, List.reverse_reverse]
  · rw [List.reverse_reverse]

theorem firstOf_subset (limit : Nat) (l : List α) : firstOf limit l ⊆ l := by
  unfold firstOf
  split
  · exact List.take_subset limit l
  · exact List.Subset.refl l

theorem firstOf_of_length_le {l : List α} (h : l.length ≤ limit) : firstOf limit l = l := by
  unfold firstOf
  split
  · exact List.take_of_length_le h
  · rfl

end Limits

theorem log_perm (s : Store) (room : RoomId) : (s.log room).Perm (s.rows room) := List.mergeSort_perm ..

theorem newestFirst_perm (s : Store) (room : RoomId) : (s.newestFirst room).Perm (s.rows room) :=
  List.mergeSort_perm ..

theorem pairwise_newestFirst (s : Store) (room : RoomId) :
    (s.newestFirst room).Pairwise fun m n => n.before m = true :=
  List.pairwise_mergeSort (fun m n k h h' => StoredMessage.before_trans k n m h' h)
    (fun m n => StoredMessage.before_total n m) _

theorem newestFirst_of_sorted {log : List StoredMessage} (hperm : log.Perm (s.rows room))
    (hsorted : log.Pairwise StoredMessage.Older) : s.newestFirst room = log.reverse :=
  StoredMessage.eq_reverse_of_sorted hsorted (s.pairwise_newestFirst room) ((s.newestFirst_perm room).trans hperm.symm)

theorem recentMessages_of_sorted (hready : s.require [.messages] = .ok ()) {log : List StoredMessage}
    (hperm : log.Perm (s.rows room)) (hsorted : log.Pairwise StoredMessage.Older) (limit : Nat) :
    s.recentMessages room limit = .ok ((lastOf limit log).map StoredMessage.load) := by
  rw [recentMessages, hready, newestFirst_of_sorted hperm hsorted, ← reverse_firstOf_reverse]
  rfl

theorem recentMessages_eq (hw : s.Works) (h : s.Ordered room now) (limit : Nat) :
    s.recentMessages room limit = .ok ((lastOf limit (s.rows room)).map StoredMessage.load) :=
  recentMessages_of_sorted hw.ready (.refl _) (h.sorted.imp StoredMessage.Precedes.older) limit

/-- What is read of a room is the end of its messages as they were saved. -/
theorem Ordered.recent_eq (h : s.Ordered room now) {limit : Nat} {messages : List Message}
    (hrecent : s.recentMessages room limit = .ok messages) :
    messages = (lastOf limit (s.rows room)).map StoredMessage.load := by
  unfold recentMessages at hrecent
  cases eq_ok_of_require hrecent
  rw [newestFirst_of_sorted (.refl _) (h.sorted.imp StoredMessage.Precedes.older), reverse_firstOf_reverse]

theorem Ordered.recent_sorted (h : s.Ordered room now) {limit : Nat} {messages : List Message}
    (hrecent : s.recentMessages room limit = .ok messages) : messages.Pairwise (·.id < ·.id) := by
  rw [h.recent_eq hrecent, List.pairwise_map]
  have hsorted : (s.rows room).Pairwise fun m n => m.id < n.id := h.sorted.imp fun hmn => hmn.2
  unfold lastOf
  split
  · exact hsorted.drop
  · exact hsorted

/-- What is read of a room comes from its rows. -/
theorem exists_row_of_recentMessages {limit : Nat} {messages : List Message}
    (h : s.recentMessages room limit = .ok messages) {m : Message} (hm : m ∈ messages) :
    ∃ row ∈ s.messages, row.room = room ∧ m = row.load := by
  unfold recentMessages at h
  cases eq_ok_of_require h
  obtain ⟨row, hrow, rfl⟩ := List.mem_map.1 hm
  have hin : row ∈ s.rows room :=
    (s.newestFirst_perm room).mem_iff.1 (firstOf_subset limit _ (List.mem_reverse.1 hrow))
  exact ⟨row, (List.mem_filter.1 hin).1, of_decide_eq_true (List.mem_filter.1 hin).2, rfl⟩

theorem room_of_mem_recentMessages {limit : Nat} {messages : List Message}
    (h : s.recentMessages room limit = .ok messages) {m : Message} (hm : m ∈ messages) : m.room = room := by
  obtain ⟨row, -, hroom, rfl⟩ := exists_row_of_recentMessages h hm
  exact hroom

/-- The last messages are shown, and all of them as long as no more are in the room than the limit says. -/
theorem exists_recentMessages (hw : s.Works) (room : RoomId) (limit : Nat) :
    ∃ messages, s.recentMessages room limit = .ok messages ∧
      ((s.rows room).length ≤ limit → (messages.map Message.said).Perm (s.sayings room)) := by
  have hnewest := s.newestFirst_perm room
  refine ⟨(firstOf limit (s.newestFirst room)).reverse.map StoredMessage.load, ?_, fun hlimit => ?_⟩
  · rw [recentMessages, hw.ready]
    rfl
  · rw [firstOf_of_length_le (by rwa [hnewest.length_eq]), List.map_map]
    exact ((List.reverse_perm _).trans hnewest).map _

/-! ## Changes that keep what messages say -/

/-- The messages of a room stay, at most they are seen, and no number is given out again. -/
structure Keeps (room : RoomId) (s s' : Store) : Prop where
  rows : (s'.rows room).map StoredMessage.unseen = (s.rows room).map StoredMessage.unseen
  numbers : s.lastMessage ≤ s'.lastMessage

instance (room : RoomId) (s s' : Store) : Decidable (s.Keeps room s') :=
  decidable_of_iff ((s'.rows room).map StoredMessage.unseen = (s.rows room).map StoredMessage.unseen ∧
    s.lastMessage ≤ s'.lastMessage) ⟨fun h => ⟨h.1, h.2⟩, fun h => ⟨h.rows, h.numbers⟩⟩

theorem Keeps.refl (room : RoomId) (s : Store) : s.Keeps room s := ⟨rfl, Nat.le_refl _⟩

theorem Keeps.sayings (h : s.Keeps room s') : s'.sayings room = s.sayings room := by
  have key : ∀ t : Store, t.sayings room = ((t.rows room).map StoredMessage.unseen).map (·.load.said) := fun t => by
    rw [Store.sayings, List.map_map]
    rfl
  rw [key, key, h.rows]

theorem Keeps.exists_row (h : s.Keeps room s') {m : StoredMessage} (hm : m ∈ s'.rows room) :
    ∃ m₀ ∈ s.rows room, m.createdAt = m₀.createdAt ∧ m.id = m₀.id := by
  have hunseen : m.unseen ∈ (s.rows room).map StoredMessage.unseen := h.rows ▸ List.mem_map_of_mem hm
  obtain ⟨m₀, hm₀, heq⟩ := List.mem_map.1 hunseen
  have htime := congrArg StoredMessage.createdAt heq.symm
  have hid := congrArg StoredMessage.id heq.symm
  exact ⟨m₀, hm₀, htime, hid⟩

theorem Keeps.ids (h : s.Keeps room s') : (s'.rows room).map (·.id) = (s.rows room).map (·.id) := by
  have key : ∀ t : Store, (t.rows room).map (·.id) = ((t.rows room).map StoredMessage.unseen).map (·.id) := by
    intro t
    rw [List.map_map]
    rfl
  rw [key, key, h.rows]

theorem Fitting.keep (hf : s.Fitting room) (h : s.Keeps room s') : s'.Fitting room := fun m hm => by
  obtain ⟨m₀, hm₀, htime, hid⟩ := h.exists_row hm
  obtain ⟨hfits, hpos, hle⟩ := hf m₀ hm₀
  have hnumbers := h.numbers
  rw [htime, hid]
  exact ⟨hfits, hpos, by omega⟩

theorem Ordered.keep (ho : s.Ordered room now) (h : s.Keeps room s') (hnow : now ≤ now') : s'.Ordered room now' := by
  have hrow : ∀ m ∈ s'.rows room, ∃ m₀ ∈ s.rows room, m.createdAt = m₀.createdAt ∧ m.id = m₀.id :=
    fun m hm => h.exists_row hm
  refine ⟨?_, fun m hm => ?_, fun m hm => ?_⟩
  · -- The order speaks of the time and the number of messages only, which being seen does not touch.
    have hsorted := ho.sorted
    have key : ∀ l : List StoredMessage, l.Pairwise StoredMessage.Precedes ↔
        (l.map StoredMessage.unseen).Pairwise StoredMessage.Precedes := fun l =>
      (List.pairwise_map (R := StoredMessage.Precedes) (f := StoredMessage.unseen)).symm
    rwa [key, h.rows, ← key]
  · obtain ⟨m₀, hm₀, htime, hid⟩ := hrow m hm
    obtain ⟨hle, hlast⟩ := ho.upTo m₀ hm₀
    have hnumbers := h.numbers
    rw [htime, hid]
    omega
  · obtain ⟨m₀, hm₀, htime, hid⟩ := hrow m hm
    rw [htime, hid]
    exact ho.fits m₀ hm₀

theorem markSeen_keeps {viewer : UserId} {upTo : Int} {seenRoom : RoomId} {count : Nat}
    (h : s.markSeen seenRoom viewer upTo = .ok (count, s')) (room : RoomId) : s.Keeps room s' := by
  unfold markSeen at h
  cases hready : s.require [.messages] with
  | error e => rw [hready] at h; cases h
  | ok u =>
    rw [hready] at h
    cases h
    refine ⟨?_, Nat.le_refl _⟩
    have hroom : ∀ m : StoredMessage,
        (if isNewlySeen seenRoom viewer upTo m then { m with hasSeen := true } else m).room = m.room := by
      intro m
      split <;> rfl
    have hunseen : ∀ m : StoredMessage,
        (if isNewlySeen seenRoom viewer upTo m then { m with hasSeen := true } else m).unseen = m.unseen := by
      intro m
      split <;> rfl
    simp only [Store.rows, List.filter_map, List.map_map, Function.comp_def, hroom, hunseen]

/-! ## Saving -/

theorem rows_append {row : StoredMessage} (h : s'.messages = s.messages ++ [row]) (room : RoomId) :
    s'.rows room = s.rows room ++ if row.room = room then [row] else [] := by
  rw [rows, h, List.filter_append, ← rows]
  congr 1
  by_cases hroom : row.room = room <;> simp [hroom]

theorem mem_rows_append {row : StoredMessage} (h : s'.messages = s.messages ++ [row]) {m : StoredMessage}
    (hm : m ∈ s'.rows room) : m ∈ s.rows room ∨ m = row := by
  rw [rows_append h, List.mem_append] at hm
  refine hm.imp_right fun hm => ?_
  split at hm
  · exact List.mem_singleton.1 hm
  · cases hm

/-- What saving a message does: it has the next number and the present time, stands behind all others,
and is shown from the store as it was handed out, if what it answers can be stored. -/
structure Saved (s : Store) (m : NewMessage) (now : Int) (saved : Message) (s' : Store) : Prop where
  row : ∃ row : StoredMessage, s'.messages = s.messages ++ [row] ∧ row.room = m.room ∧ row.id = s.lastMessage + 1 ∧
    row.createdAt = now ∧ ((∀ p, m.replyTo = some p → p.Fits) → row.load.said = saved.said)
  numbers : s'.lastMessage = s.lastMessage + 1
  room : saved.room = m.room

variable {m : NewMessage} {saved : Message}

/-- The row that a message becomes when it is saved. -/
def rowOf (s : Store) (m : NewMessage) (now : Int) : StoredMessage :=
  ⟨s.lastMessage + 1, m.room, m.author, m.username, m.content, m.voice, false, m.replyTo.map ReplyPreview.encode, now⟩

/-- All that saving a message does when it succeeds. -/
theorem saveMessage_eq_ok (h : s.saveMessage m now = .ok (saved, s')) :
    saved = { (s.rowOf m now).load with replyTo := m.replyTo } ∧
      s' = { s with messages := s.messages ++ [s.rowOf m now], lastMessage := s.lastMessage + 1 } := by
  unfold saveMessage insertMessage at h
  cases hready : s.require [.messages] with
  | error e => rw [hready] at h; cases h
  | ok u =>
    rw [hready] at h
    simp only [bind, Except.bind] at h
    split at h
    · cases h
    · rename_i hinsert
      split at hinsert
      · cases hinsert
      · cases hinsert
        cases h
        exact ⟨rfl, rfl⟩

theorem id_of_saveMessage (h : s.saveMessage m now = .ok (saved, s')) : saved.id = s.lastMessage + 1 := by
  rw [(saveMessage_eq_ok h).1]
  rfl

theorem saved_of_ok (h : s.saveMessage m now = .ok (saved, s')) : s.Saved m now saved s' := by
  obtain ⟨rfl, rfl⟩ := saveMessage_eq_ok h
  refine ⟨⟨s.rowOf m now, rfl, rfl, rfl, rfl, fun hfits => ?_⟩, rfl, rfl⟩
  have hread : (m.replyTo.map ReplyPreview.encode).bind ReplyPreview.decode = m.replyTo := by
    cases hp : m.replyTo with
    | none => rfl
    | some p => rw [Option.map_some, Option.bind_some, ReplyPreview.decode_encode (hfits p hp)]
  simp only [rowOf, StoredMessage.load, Message.said, hread]

theorem Saved.keeps (h : s.Saved m now saved s') (hroom : m.room ≠ room) : s.Keeps room s' := by
  obtain ⟨row, hrows, hrow, -⟩ := h.row
  refine ⟨?_, by rw [h.numbers]; exact Nat.le_succ _⟩
  rw [rows_append hrows, hrow, if_neg hroom, List.append_nil]

theorem Saved.sayings (h : s.Saved m now saved s') (hroom : m.room = room)
    (hfits : ∀ p, m.replyTo = some p → p.Fits) : s'.sayings room = s.sayings room ++ [saved.said] := by
  obtain ⟨row, hrows, hrow, -, -, hsaid⟩ := h.row
  rw [Store.sayings, rows_append hrows, hrow, if_pos hroom, List.map_append, List.map_singleton, hsaid hfits,
    Store.sayings]

theorem Saved.ordered (h : s.Saved m now saved s') (ho : s.Ordered room now) (hnow : isInt64 now = true) :
    s'.Ordered room now := by
  obtain ⟨row, hrows, -, hid, htime, -⟩ := h.row
  have hmem : ∀ n ∈ s'.rows room, n ∈ s.rows room ∨ n = row := fun n hn => mem_rows_append hrows hn
  refine ⟨?_, fun n hn => ?_, fun n hn => ?_⟩
  · rw [rows_append hrows, List.pairwise_append]
    refine ⟨ho.sorted, ?_, fun a ha b hb => ?_⟩
    · split
      · exact List.pairwise_singleton ..
      · exact .nil
    · obtain ⟨hatime, haid⟩ := ho.upTo a ha
      have hb : b = row := by
        split at hb
        · exact List.mem_singleton.1 hb
        · cases hb
      exact ⟨by rw [hb, htime]; exact hatime, by rw [hb, hid]; omega⟩
  · rw [h.numbers]
    rcases hmem n hn with hn | rfl
    · obtain ⟨hntime, hnid⟩ := ho.upTo n hn
      exact ⟨hntime, by omega⟩
    · exact ⟨Int.le_of_eq htime, by omega⟩
  · rcases hmem n hn with hn | rfl
    · exact ho.fits n hn
    · exact ⟨htime ▸ hnow, by omega⟩

theorem Saved.fitting (h : s.Saved m now saved s') (hf : s.Fitting room) (hnow : isInt64 now = true) :
    s'.Fitting room := fun n hn => by
  obtain ⟨row, hrows, -, hid, htime, -⟩ := h.row
  rw [h.numbers]
  rcases mem_rows_append hrows hn with hn | rfl
  · obtain ⟨hfits, hpos, hle⟩ := hf n hn
    exact ⟨hfits, hpos, by omega⟩
  · exact ⟨htime ▸ hnow, by omega, by omega⟩

/-- A message of the room can be answered by a copy that can be stored. -/
theorem Fitting.preview_fits (hf : s.Fitting room) (hw : s.Works) {id : Int} {m : Message}
    (h : s.messageById id = .ok (some m)) (hroom : m.room = room) : m.preview.Fits := by
  rw [messageById, hw.ready] at h
  obtain ⟨row, hrow, rfl⟩ := Option.map_eq_some_iff.1 (Except.ok.inj h)
  have hmem : row ∈ s.rows room :=
    List.mem_filter.2 ⟨List.mem_of_find?_eq_some hrow, decide_eq_true (show row.room = room from hroom)⟩
  obtain ⟨htime, hpos, hlast⟩ := hf row hmem
  have hnumbers := hw.numbers
  refine ⟨?_, htime⟩
  show isInt64 row.id = true
  rw [isInt64_iff]
  omega

end Store

end DirectChat
