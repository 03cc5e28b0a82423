import DirectChat.Chat.Notification
import DirectChat.Chat.Router
import DirectChat.Proofs.Store.Seen
import Mathlib.Data.List.Nodup
/-!
# Stores that agree on a room

Two stores are alike for a room when they differ in the messages of other rooms only (`Store.Alike`). What is
asked of both about the room has the same answer: its history (`Alike.recentMessages`), the message that a reply
names (`Alike.resolveReply`), what a save hands out (`Alike.saveMessage`) and what a receipt counts
(`Alike.markSeen`), and after the last two the stores are alike again. A message is looked up by its number
among those of all rooms; as no two messages have the same, the others make no difference (`find?_filter`).
-/

namespace DirectChat

namespace Store

variable {s s' : Store} {room : RoomId}

/-- The stores differ in the messages of other rooms only. -/
structure Alike (room : RoomId) (s s' : Store) : Prop where
  rest : ∃ messages, s' = { s with messages }
  rows : s'.rows room = s.rows room
  numbered : s.Numbered
  numbered' : s'.Numbered

/-- Both fail in the same way, or answer the same and leave stores that are alike. -/
inductive AnswerAlike {α : Type} (room : RoomId) : Except StoreError (α × Store) → Except StoreError (α × Store) → Prop
  | failed (e : StoreError) : AnswerAlike room (.error e) (.error e)
  | answered (a : α) {s s' : Store} (h : s.Alike room s') : AnswerAlike room (.ok (a, s)) (.ok (a, s'))

/-! ## What is asked -/

theorem Alike.require (h : s.Alike room s') (tables : List StoreTable) : s'.require tables = s.require tables := by
  obtain ⟨messages, rfl⟩ := h.rest
  rfl

theorem Alike.recentMessages (h : s.Alike room s') (limit : Nat) :
    s'.recentMessages room limit = s.recentMessages room limit := by
  have hnewest : s'.newestFirst room = s.newestFirst room := by
    show (s'.rows room).mergeSort _ = (s.rows room).mergeSort _
    rw [h.rows]
  rw [Store.recentMessages, Store.recentMessages, h.require, hnewest]

theorem Alike.concerned (h : s.Alike room s') (n : Notification) : n.concerned s' = n.concerned s := by
  obtain ⟨messages, rfl⟩ := h.rest
  rfl

theorem Alike.otherProfile (h : s.Alike room s') (r : Router) (shown : RoomId) :
    r.otherProfile shown s' = r.otherProfile shown s := by
  obtain ⟨messages, rfl⟩ := h.rest
  rfl

/-- A message of the room that is looked up among all messages is looked up among those of the room. -/
theorem find?_filter {l : List StoredMessage} (h : (l.map (·.id)).Nodup) (id : Int) :
    (l.find? (·.id = id)).filter (·.room = room) = (l.filter (·.room = room)).find? (·.id = id) := by
  induction l with
  | nil => rfl
  | cons m l ih =>
    obtain ⟨hnew, hrest⟩ := List.nodup_cons.1 h
    by_cases hid : m.id = id
    · by_cases hroom : m.room = room
      · simp [hid, hroom]
      · -- The message is in another room, and its number is nobody else's.
        have hnone : (l.filter (·.room = room)).find? (·.id = id) = none := by
          rw [List.find?_eq_none]
          intro n hn
          simp only [decide_eq_true_iff]
          intro heq
          have hsame : n.id = m.id := heq.trans hid.symm
          exact hnew (List.mem_map.2 ⟨n, (List.mem_filter.1 hn).1, hsame⟩)
        simp [hid, hroom, hnone]
    · by_cases hroom : m.room = room
      · simp [hid, hroom, ih hrest]
      · simp [hid, hroom, ih hrest]

/-- A reply by number is to a message of the room, or to none. -/
theorem resolveReply_eq (s : Store) (room : RoomId) (id : Int) :
    Router.resolveReply room none (some id) s =
      if id = 0 ∨ s.require [.messages] ≠ .ok () then none
      else ((s.messages.find? (·.id = id)).filter (·.room = room)).map (·.load.preview) := by
  unfold Router.resolveReply messageById
  by_cases hid : id = 0
  · simp [hid]
  · cases hready : s.require [.messages] with
    | error e => simp [hid, bind, Except.bind]
    | ok u =>
      simp only [bind, Except.bind, pure, Except.pure]
      cases hfound : s.messages.find? (·.id = id) with
      | none => simp [hid]
      | some m => by_cases hroom : m.room = room <;> simp [hid, hroom, StoredMessage.load, Option.filter]

theorem Alike.resolveReply (h : s.Alike room s') (inline : Option ReplyPreview) (id : Option Int) :
    Router.resolveReply room inline id s' = Router.resolveReply room inline id s := by
  cases inline with
  | some p => rfl
  | none =>
    cases id with
    | none => rfl
    | some id =>
      have hrows : s'.messages.filter (·.room = room) = s.messages.filter (·.room = room) := h.rows
      rw [resolveReply_eq, resolveReply_eq, h.require, find?_filter h.numbered.nodup, find?_filter h.numbered'.nodup,
        hrows]

/-- A reply by number to a message of another room is a reply to none. -/
theorem resolveReply_of_elsewhere (hs : s.Numbered) {m : StoredMessage} (hm : m ∈ s.messages) (hroom : m.room ≠ room)
    (inline : Option ReplyPreview) : Router.resolveReply room inline (some m.id) s = inline := by
  cases inline with
  | some p => rfl
  | none =>
    have hnone : (s.messages.filter (·.room = room)).find? (·.id = m.id) = none := by
      rw [List.find?_eq_none]
      intro n hn
      obtain ⟨hn, hin⟩ := List.mem_filter.1 hn
      simp only [decide_eq_true_iff] at hin ⊢
      intro hid
      have hsame : n = m := List.inj_on_of_nodup_map hs.nodup hn hm hid
      exact hroom (hsame ▸ hin)
    rw [resolveReply_eq, find?_filter hs.nodup, hnone]
    simp

theorem replyTo_of_saveMessage {m : NewMessage} {now : Int} {saved : Message}
    (h : s.saveMessage m now = .ok (saved, s')) : saved.replyTo = m.replyTo := by
  rw [(saveMessage_eq_ok h).1]

/-! ## What is changed -/

/-- A message saved in the room is the same for both. -/
theorem Alike.saveMessage (h : s.Alike room s') {m : NewMessage} (now : Int) :
    AnswerAlike room (s.saveMessage m now) (s'.saveMessage m now) := by
  have hnumbered : ∀ {saved : Message} {u : Store}, s.saveMessage m now = .ok (saved, u) → u.Numbered := fun hsave =>
    (logBecomes_of_saveMessage hsave).numbered h.numbered
  have hnumbered' : ∀ {saved : Message} {u : Store}, s'.saveMessage m now = .ok (saved, u) → u.Numbered := fun hsave =>
    (logBecomes_of_saveMessage hsave).numbered h.numbered'
  have hrows := h.rows
  obtain ⟨messages, rfl⟩ := h.rest
  have hadded : ∀ row : StoredMessage,
      (messages ++ [row]).filter (·.room = room) = (s.messages ++ [row]).filter (·.room = room) := by
    intro row
    rw [List.filter_append, List.filter_append, show messages.filter _ = s.messages.filter _ from hrows]
  revert hnumbered hnumbered'
  unfold Store.saveMessage insertMessage
  have hready : ({ s with messages } : Store).require [.messages] = s.require [.messages] := rfl
  rw [hready]
  cases s.require [.messages] with
  | error e => exact fun _ _ => .failed e
  | ok u =>
    simp only [bind, Except.bind]
    by_cases hempty : m.content.isNone ∧ m.voice.isNone
    · simp only [if_pos hempty]
      exact fun _ _ => .failed .database
    · simp only [if_neg hempty, pure, Except.pure]
      intro hnumbered hnumbered'
      exact .answered _ ⟨⟨_, rfl⟩, hadded _, hnumbered rfl, hnumbered' rfl⟩

theorem rows_marked (l : List StoredMessage) (c : Receipt) (room : RoomId) :
    (l.map (·.markedBy c)).filter (·.room = room) = (l.filter (·.room = room)).map (·.markedBy c) := by
  have hroom : ∀ m : StoredMessage, (m.markedBy c).room = m.room := by
    intro m
    unfold StoredMessage.markedBy
    split <;> rfl
  simp only [List.filter_map, Function.comp_def, hroom]

/-- Only messages of its room are news to a receipt. -/
theorem countP_isNews (l : List StoredMessage) (c : Receipt) :
    l.countP c.isNews = (l.filter (·.room = c.room)).countP c.isNews := by
  rw [List.countP_filter]
  refine List.countP_congr fun m _ => ?_
  rw [Bool.and_eq_true, decide_eq_true_iff]
  exact (and_iff_left_of_imp fun hnew => (Receipt.isNews_iff.1 hnew).1.room).symm

/-- A receipt for the room counts the same for both. -/
theorem Alike.markSeen (h : s.Alike room s') (viewer : UserId) (upTo : Int) :
    AnswerAlike room (s.markSeen room viewer upTo) (s'.markSeen room viewer upTo) := by
  have hnumbered : ∀ {count : Nat} {u : Store}, s.markSeen room viewer upTo = .ok (count, u) → u.Numbered :=
    fun hmark => (logBecomes_of_markSeen hmark).numbered h.numbered
  have hnumbered' : ∀ {count : Nat} {u : Store}, s'.markSeen room viewer upTo = .ok (count, u) → u.Numbered :=
    fun hmark => (logBecomes_of_markSeen hmark).numbered h.numbered'
  have hrows := h.rows
  obtain ⟨messages, rfl⟩ := h.rest
  let c : Receipt := ⟨room, viewer, upTo, 0⟩
  have hrows' : messages.filter (·.room = room) = s.messages.filter (·.room = room) := hrows
  have hcount : messages.countP c.isNews = s.messages.countP c.isNews := by
    rw [countP_isNews, countP_isNews s.messages, hrows']
  have hmarked : (messages.map (·.markedBy c)).filter (·.room = room) =
      (s.messages.map (·.markedBy c)).filter (·.room = room) := by rw [rows_marked, rows_marked, hrows']
  have hmark : ∀ u : Store, u.markSeen room viewer upTo = do
      u.require [.messages]
      return (u.messages.countP c.isNews, { u with messages := u.messages.map (·.markedBy c) }) := fun _ => rfl
  have hready : ({ s with messages } : Store).require [.messages] = s.require [.messages] := rfl
  revert hnumbered hnumbered'
  rw [hmark, hmark, hready, hcount]
  cases s.require [.messages] with
  | error e => exact fun _ _ => .failed e
  | ok u => exact fun hnumbered hnumbered' => .answered _ ⟨⟨_, rfl⟩, hmarked, hnumbered rfl, hnumbered' rfl⟩

end Store

end DirectChat
