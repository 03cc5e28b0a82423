import DirectChat.Proofs.Chat.Coupling
import DirectChat.Proofs.Session.Delivery
import DirectChat.Proofs.Store.Log
/-!
# What a step tells a room

Only chats show messages live: every other step of a router leaves what the messages of a room say, and
sends no chat (`Server.Quiet`, `Router.dispatch_quiet`). A chat puts one message behind the others of
its room and sends every queue of that room the same one (`Router.chat_tells`). Both are ways in which
what a room's messages say grows by what its queues are told (`Server.Tells`).
-/

namespace DirectChat

/-! ## Frames that show messages -/

def HistoryItem.said (m : HistoryItem) : Said := ⟨m.id, m.text, m.voice, m.username, m.timestamp, m.replyTo⟩

def ChatMessage.said (m : ChatMessage) : Said := ⟨m.id, m.text, m.voice, m.username, m.timestamp, m.replyTo⟩

namespace Frame

/-- The message of a chat frame for the room. -/
def chatIn? (room : RoomId) : Frame → Option ChatMessage
  | .event (.chat m) => if m.room = room then some m else none
  | _ => none

/-- The messages of a history frame for the room. -/
def historyIn? (room : RoomId) : Frame → Option (List HistoryItem)
  | .event (.history r items _ _) => if r = room then some items else none
  | _ => none

/-- A frame that shows no message live. -/
def NoChat : Frame → Prop
  | .event (.chat _) => False
  | _ => True

/-- A frame that shows no message at all. -/
def NoMessage : Frame → Prop
  | .event (.chat _) | .event (.history ..) => False
  | _ => True

theorem NoMessage.noChat {f : Frame} (h : f.NoMessage) : f.NoChat := by
  cases f with
  | event e => cases e <;> trivial
  | _ => trivial

theorem NoChat.chatIn? {f : Frame} (h : f.NoChat) (room : RoomId) : f.chatIn? room = none := by
  cases f with
  | event e => cases e <;> first | rfl | exact h.elim
  | _ => rfl

theorem NoMessage.historyIn? {f : Frame} (h : f.NoMessage) (room : RoomId) : f.historyIn? room = none := by
  cases f with
  | event e => cases e <;> first | rfl | exact h.elim
  | _ => rfl

theorem filterMap_chatIn? {fs : List Frame} (h : ∀ f ∈ fs, f.NoChat) (room : RoomId) :
    fs.filterMap (Frame.chatIn? room) = [] :=
  List.filterMap_eq_nil_iff.2 fun f hf => (h f hf).chatIn? room

theorem filterMap_historyIn? {fs : List Frame} (h : ∀ f ∈ fs, f.NoMessage) (room : RoomId) :
    fs.filterMap (Frame.historyIn? room) = [] :=
  List.filterMap_eq_nil_iff.2 fun f hf => (h f hf).historyIn? room

end Frame

/-! ## Steps that tell nothing -/

namespace Server

variable {p q : Handle → Frame → Prop} {room : RoomId} {sv sv' sv'' : Server}

/-- A step that sends only frames of a kind, and leaves what the messages of the room say. -/
structure Quiet (p : Handle → Frame → Prop) (room : RoomId) (sv sv' : Server) : Prop where
  mail : sv.mail.Grows p sv'.mail
  store : sv.store.Keeps room sv'.store
  now : sv'.now = sv.now

theorem Quiet.of_eq (hmail : sv'.mail = sv.mail) (hstore : sv'.store = sv.store) (hnow : sv'.now = sv.now) :
    sv.Quiet p room sv' :=
  ⟨hmail ▸ .refl p sv.mail, hstore ▸ .refl room sv.store, hnow⟩

theorem Quiet.trans (h : sv.Quiet p room sv') (h' : sv'.Quiet p room sv'') : sv.Quiet p room sv'' where
  mail := h.mail.trans h'.mail
  store := ⟨h'.store.rows.trans h.store.rows, Nat.le_trans h.store.numbers h'.store.numbers⟩
  now := h'.now.trans h.now

theorem Quiet.mono (h : sv.Quiet p room sv') (hpq : ∀ k f, p k f → q k f) : sv.Quiet q room sv' :=
  ⟨h.mail.mono hpq, h.store, h.now⟩

theorem Quiet.noChat (h : sv.Quiet (fun _ => Frame.NoMessage) room sv') : sv.Quiet (fun _ => Frame.NoChat) room sv' :=
  h.mono fun _ _ => Frame.NoMessage.noChat

theorem Quiet.grows (h : sv.Quiet p room sv') : sv.mail.Grows (fun _ _ => True) sv'.mail :=
  h.mail.mono fun _ _ _ => trivial

theorem quiet_send {h : Handle} {e : Event} (he : p h (.event e)) : sv.Quiet p room (sv.send h e) :=
  ⟨sv.mail.grows_send he, .refl room sv.store, rfl⟩

theorem quiet_announce {r : RoomId} {e : Event} {exclude : Option SessionId} (he : ∀ h, p h (.event e)) :
    sv.Quiet p room (sv.announce r e exclude) :=
  ⟨sv.mail.grows_sendAll fun h _ => he h, .refl room sv.store, rfl⟩

end Server

namespace Router

variable {sv : Server}

theorem leave_quiet (r : Router) (sv : Server) (room : RoomId) :
    sv.Quiet (fun _ => Frame.NoMessage) room (r.leave sv).2 := by
  unfold leave
  split
  · exact .of_eq rfl rfl rfl
  · rename_i left _
    have hleft : sv.Quiet (fun _ => Frame.NoMessage) room { sv with registry := sv.registry.leave left r.session } :=
      .of_eq rfl rfl rfl
    exact hleft.trans (Server.quiet_announce fun _ => trivial)

theorem leave_store (r : Router) (sv : Server) : (r.leave sv).2.store = sv.store := by
  unfold leave
  split <;> rfl

theorem enter_quiet (r : Router) (entered : RoomId) (sv : Server) (room : RoomId) :
    sv.Quiet (fun _ => Frame.NoMessage) room (r.enter entered sv).2 := by
  have hjoined : (r.leave sv).2.Quiet (fun _ => Frame.NoMessage) room
      { (r.leave sv).2 with registry := (r.leave sv).2.registry.join entered r.session } := .of_eq rfl rfl rfl
  refine (r.leave_quiet sv room).trans (hjoined.trans ?_)
  simp only [enter, leave_fst]
  refine .trans (Server.quiet_send ?_) (Server.quiet_announce fun _ => ?_)
  · trivial
  · trivial

theorem leave_settings (r : Router) (sv : Server) : (r.leave sv).2.settings = sv.settings := by
  unfold leave
  split <;> rfl

theorem enter_settings (r : Router) (room : RoomId) (sv : Server) :
    (r.enter room sv).2.settings = sv.settings := r.leave_settings sv

theorem enter_store (r : Router) (room : RoomId) (sv : Server) : (r.enter room sv).2.store = sv.store :=
  r.leave_store sv

theorem sendHistory_quiet (r : Router) (shown : RoomId) (sv : Server) (room : RoomId) :
    sv.Quiet (fun _ => Frame.NoChat) room (r.sendHistory shown sv) := by
  unfold sendHistory
  split
  · exact .of_eq rfl rfl rfl
  · exact Server.quiet_send trivial

theorem sendHistory_store (r : Router) (room : RoomId) (sv : Server) : (r.sendHistory room sv).store = sv.store := by
  unfold sendHistory
  split <;> rfl

theorem join_quiet (r : Router) (joined : RoomId) (sv : Server) (room : RoomId) :
    sv.Quiet (fun _ => Frame.NoChat) room (r.join joined sv).2 := by
  unfold join
  split
  · exact .of_eq rfl rfl rfl
  · exact (r.enter_quiet joined sv room).noChat.trans (sendHistory_quiet ..)

theorem seen_quiet (r : Router) (timestamp : Option Int) (named : Option RoomId) (sv : Server) (room : RoomId) :
    sv.Quiet (fun _ => Frame.NoChat) room (r.seen timestamp named sv) := by
  unfold seen
  split
  · split
    · rename_i store hseen
      have hmarked : sv.Quiet (fun _ => Frame.NoChat) room { sv with store } :=
        ⟨.refl _ sv.mail, Store.markSeen_keeps hseen room, rfl⟩
      refine hmarked.trans (.trans (Server.quiet_send ?_) (Server.quiet_announce fun _ => ?_))
      · trivial
      · trivial
    · exact Server.quiet_send trivial
  · exact .of_eq rfl rfl rfl

theorem list_quiet (r : Router) (sv : Server) (room : RoomId) :
    sv.Quiet (fun _ => Frame.NoChat) room (r.list sv) :=
  Server.quiet_send trivial

theorem close_quiet (r : Router) (sv : Server) (room : RoomId) :
    sv.Quiet (fun _ => Frame.NoMessage) room (r.close sv).2 := by
  unfold close
  split
  · exact .of_eq rfl rfl rfl
  · refine (leave_quiet { r with closed := true } sv room).trans ?_
    dsimp only
    split <;> exact .of_eq rfl rfl rfl

/-- Every frame but a chat is quiet. -/
theorem dispatch_quiet (r : Router) {f : ClientFrame} (hf : f.event ≠ "chat") (sv : Server) (room : RoomId) :
    sv.Quiet (fun _ => Frame.NoChat) room (r.dispatch f sv).2 := by
  unfold dispatch
  split
  · exact r.join_quiet _ sv room
  · exact (r.leave_quiet sv room).noChat
  · rename_i hchat
    exact absurd hchat hf
  · exact r.seen_quiet _ _ sv room
  · exact r.list_quiet sv room
  · exact .of_eq rfl rfl rfl

theorem dispatch_chat (r : Router) {f : ClientFrame} (hf : f.event = "chat") (sv : Server) :
    (r.dispatch f sv).2 = r.chat f sv := by
  simp only [dispatch, hf]

/-! ## Histories -/

theorem join_store (r : Router) (room : RoomId) (sv : Server) : (r.join room sv).2.store = sv.store := by
  unfold join
  split
  · rfl
  · exact (sendHistory_store _ room _).trans (r.enter_store room sv)

theorem isLive_join (r : Router) (room : RoomId) (sv : Server) (h : Handle) :
    (r.join room sv).2.mail.isLive h = sv.mail.isLive h := (r.join_quiet room sv room).mail.live h

/-- Joining a room sends its client one history: the last messages of the room, oldest first. -/
theorem join_shows_history (r : Router) {room : RoomId} (hroom : room ≠ "") (hw : sv.store.Works)
    (ho : sv.store.Ordered room sv.now) (hlive : sv.mail.isLive r.handle = true) :
    ∃ items, (sv.mail.since (r.join room sv).2.mail r.handle).filterMap (Frame.historyIn? room) = [items] ∧
      items.map HistoryItem.said = (lastOf sv.settings.historyLimit (sv.store.rows room)).map (·.load.said) ∧
      items.map (·.isYours) = (lastOf sv.settings.historyLimit (sv.store.rows room)).map (·.author == r.user) := by
  obtain ⟨fs, hfs, hnone⟩ := (r.enter_quiet room sv room).mail.added r.handle
  have hliveEntered := (r.enter_quiet room sv room).mail.live r.handle
  rw [hlive] at hliveEntered
  have hrecent : (r.enter room sv).2.store.recentMessages room (r.enter room sv).2.settings.historyLimit =
      .ok ((lastOf sv.settings.historyLimit (sv.store.rows room)).map StoredMessage.load) := by
    rw [enter_store, enter_settings]
    exact Store.recentMessages_eq hw ho _
  let entered : Router := { r with room := some room }
  let items := ((lastOf sv.settings.historyLimit (sv.store.rows room)).map StoredMessage.load).map
    (entered.historyItem (r.enter room sv).2)
  let shown : Event := .history room items (entered.otherProfile room (r.enter room sv).2.store) (r.enter room sv).2.now
  have hjoin : (r.join room sv).2 = (r.enter room sv).2.send r.handle shown := by
    simp only [join, if_neg hroom, sendHistory, hrecent, enter_fst]
    rfl
  have hadded : (r.join room sv).2.mail.waiting r.handle = sv.mail.waiting r.handle ++ (fs ++ [.event shown]) := by
    rw [hjoin, ← List.append_assoc, ← hfs]
    exact ((r.enter room sv).2.mail.waiting_send r.handle (.event shown) r.handle).trans
      (congrArg _ (if_pos ⟨rfl, hliveEntered⟩))
  have hin : Frame.historyIn? room (.event shown) = some items := if_pos rfl
  refine ⟨items, ?_, ?_, ?_⟩
  · rw [Mailroom.since_of_append hadded, List.filterMap_append, Frame.filterMap_historyIn? hnone, List.nil_append,
      List.filterMap_cons_some hin, List.filterMap_nil]
  · simp only [items, List.map_map]
    rfl
  · simp only [items, List.map_map]
    rfl

end Router

theorem Notification.deliver_quiet (n : Notification) (users : List UserId) (sv : Server) (room : RoomId) :
    sv.Quiet (fun _ => Frame.NoMessage) room (n.deliver users sv).1 := by
  refine ⟨sv.mail.grows_sendAll fun h _ => ?_, .refl room sv.store, rfl⟩
  cases n <;> trivial

/-! ## Chats -/

/-- What the messages of the room say was extended by `new`, and every queue that someone receives and
that is listed once for the room was told just that. -/
structure Server.Tells (room : RoomId) (sv sv' : Server) (new : List Said) : Prop where
  sayings : sv'.store.sayings room = sv.store.sayings room ++ new
  ordered : sv'.store.Ordered room sv'.now
  heard : ∀ h, sv.mail.isLive h = true → (sv.registry.roomHandles room none).count h = 1 →
    ((sv.mail.since sv'.mail h).filterMap (Frame.chatIn? room)).map ChatMessage.said = new

theorem Server.Quiet.tells {room : RoomId} {sv sv' : Server} (h : sv.Quiet (fun _ => Frame.NoChat) room sv')
    (ho : sv.store.Ordered room sv.now) : sv.Tells room sv' [] where
  sayings := by rw [h.store.sayings, List.append_nil]
  ordered := ho.keep h.store (Int.le_of_eq h.now.symm)
  heard k _ _ := by rw [Frame.filterMap_chatIn? (h.mail.since k), List.map_nil]

/-- Where nothing is put into any queue, nothing is told. -/
theorem Server.tells_of_fades {room : RoomId} {sv sv' : Server} (hmail : sv.mail.Fades sv'.mail)
    (hstore : sv.store.Keeps room sv'.store) (hnow : sv.now ≤ sv'.now) (ho : sv.store.Ordered room sv.now) :
    sv.Tells room sv' [] where
  sayings := by rw [hstore.sayings, List.append_nil]
  ordered := ho.keep hstore hnow
  heard k _ _ := by rw [hmail.since k, List.filterMap_nil, List.map_nil]

namespace Router

variable {room : RoomId} {sv : Server}

theorem resolveReply_fits {s : Store}
    (hstored : ∀ id m, s.messageById id = .ok (some m) → m.room = room → m.preview.Fits)
    {inline : Option ReplyPreview} (hinline : ∀ p, inline = some p → p.Fits) {id : Option Int} {p : ReplyPreview}
    (h : resolveReply room inline id s = some p) : p.Fits := by
  unfold resolveReply at h
  split at h
  · cases h
    exact hinline _ rfl
  · cases h
  · split at h
    · cases h
    · split at h
      · rename_i m hm
        split at h
        · rename_i hroom
          cases h
          exact hstored _ m hm hroom
        · cases h
      · cases h

/-- What becomes of a chat: nothing, a complaint to its author, or a saved message that is announced. -/
theorem chat_cases (r : Router) (f : ClientFrame) (sv : Server) :
    r.chat f sv = sv ∨ r.chat f sv = r.reply (.error emptyMessageText) sv ∨
      ∃ (room : RoomId) (text voice : Option String) (m : Message) (store : Store), r.room = some room ∧
        sv.store.saveMessage ⟨room, r.user, r.username, text, voice, resolveReply room f.replyTo f.replyToId sv.store⟩
          sv.now = .ok (m, store) ∧
        r.chat f sv = r.announceChat m { sv with store } := by
  unfold chat
  split
  · exact .inl rfl
  · rename_i room hroom
    dsimp only
    split
    · exact .inr (.inl rfl)
    · split
      · exact .inl rfl
      · rename_i m sv' hsave
        obtain ⟨store, hstore, rfl⟩ := saveChat_eq_ok hsave
        exact .inr (.inr ⟨room, _, _, m, store, hroom, hstore, rfl⟩)

theorem waiting_announceChat (r : Router) (m : Message) (sv : Server) (h : Handle) :
    (r.announceChat m sv).mail.waiting h = sv.mail.waiting h ++
      if sv.mail.isLive h = true then
        List.replicate ((sv.registry.roomHandles m.room none).count h) (.event (.chat (r.chatMessage sv m)))
      else [] :=
  sv.mail.waiting_sendAll _ _ h

/-- A chat tells its room what it puts into the store, and tells any other room nothing. -/
theorem chat_tells (r : Router) {f : ClientFrame} (hf : f.ReplyFits) (ho : sv.store.Ordered room sv.now)
    (hw : sv.store.Works) (hnow : isInt64 sv.now = true) : ∃ new, sv.Tells room (r.chat f sv) new := by
  rcases r.chat_cases f sv with h | h | ⟨chatRoom, text, voice, m, store, hroom, hsave, h⟩
  · rw [h]
    exact ⟨[], Server.Quiet.tells (.of_eq rfl rfl rfl) ho⟩
  · rw [h]
    exact ⟨[], Server.Quiet.tells (Server.quiet_send trivial) ho⟩
  · have hsaved := Store.saved_of_ok hsave
    have hmroom : m.room = chatRoom := hsaved.room
    rw [h]
    by_cases hchat : chatRoom = room
    · refine ⟨[m.said], hsaved.sayings hchat fun p hp => ?_, hsaved.ordered ho hnow, fun k hlive hcount => ?_⟩
      · rw [hchat] at hp
        exact resolveReply_fits (fun id n hn => ho.fitting.preview_fits hw hn) hf hp
      · have hadded := r.waiting_announceChat m { sv with store } k
        rw [hmroom, hchat, if_pos hlive, hcount, List.replicate_one] at hadded
        rw [Mailroom.since_of_append hadded]
        have hin : Frame.chatIn? room (.event (.chat (r.chatMessage { sv with store } m))) =
            some (r.chatMessage { sv with store } m) := if_pos (hmroom.trans hchat)
        rw [List.filterMap_cons_some hin]
        rfl
    · have hkept := hsaved.keeps hchat
      refine ⟨[], by rw [List.append_nil]; exact hkept.sayings, ho.keep hkept (Int.le_refl _), fun k hlive _ => ?_⟩
      have hother : Frame.chatIn? room (.event (.chat (r.chatMessage { sv with store } m))) = none :=
        if_neg fun hm => hchat (hmroom.symm.trans hm)
      have hadded := r.waiting_announceChat m { sv with store } k
      rw [if_pos hlive] at hadded
      rw [Mailroom.since_of_append hadded, List.filterMap_replicate_of_none hother, List.map_nil]

theorem handleText_tells (r : Router) (raw : String) (ho : sv.store.Ordered room sv.now) (hw : sv.store.Works)
    (hnow : isInt64 sv.now = true) : ∃ new, sv.Tells room (r.handleText raw sv).2 new := by
  unfold handleText
  split
  · rename_i f hdecode
    by_cases hchat : f.event = "chat"
    · rw [r.dispatch_chat hchat]
      exact r.chat_tells (ClientFrame.fits_of_decode hdecode) ho hw hnow
    · exact ⟨[], (r.dispatch_quiet hchat sv room).tells ho⟩
  · exact ⟨[], Server.Quiet.tells (.of_eq rfl rfl rfl) ho⟩

end Router

end DirectChat
