import DirectChat.Proofs.Chat.Order
import DirectChat.Proofs.Store.Replies
/-!
# A reply is the same wherever it is shown

A chat is announced with the copy of what it answers that was at hand when it was saved; whoever asks for it later is
given the copy that was stored. Between the two, the message is in the hands of its router and in the store
(`Traffic.Kept`), and the store goes on saying of it what it said. So the two are the same, in whatever way the message
is read and however long after (`replies_survive`).
-/

namespace DirectChat

namespace Traffic

variable {t : Traffic} {mv : Move} {moves : List Move}

/-- There are numbers left, the clock shows a moment of 64 bits, and whatever is done to the store from outside
leaves what its messages say and gives others numbers of their own. -/
structure Proper (t : Traffic) (mv : Move) : Prop where
  numbers : t.crowd.server.store.lastMessage + 1 < 2 ^ 63
  clock : isInt64 t.crowd.server.now = true
  outside : ∀ store, mv = .act (.store store) →
    t.crowd.server.store.Extended store ∧ store.Numbered ∧ store.Stamped

instance (t : Traffic) (mv : Move) : Decidable (t.Proper mv) :=
  have := mv.decideStore fun store => t.crowd.server.store.Extended store ∧ store.Numbered ∧ store.Stamped
  decidable_of_iff (t.crowd.server.store.lastMessage + 1 < 2 ^ 63 ∧ isInt64 t.crowd.server.now = true ∧
      ∀ store, mv = .act (.store store) → t.crowd.server.store.Extended store ∧ store.Numbered ∧ store.Stamped)
    ⟨fun h => ⟨h.1, h.2.1, h.2.2⟩, fun h => ⟨h.numbers, h.clock, h.outside⟩⟩

/-- Every message has a number of its own, and those that are to be announced are in the store. -/
structure Kept (t : Traffic) : Prop where
  numbered : t.crowd.server.store.Numbered
  stamped : t.crowd.server.store.Stamped
  saved : ∀ s f m, t.tasks.get? s = some ⟨f, .announce m⟩ → m.said ∈ t.crowd.server.store.sayings m.room

theorem kept_start (settings : ChatSettings) (now : Int) : (start settings now).Kept :=
  ⟨Store.numbered_empty, fun _ h => (List.not_mem_nil h).elim, fun _ _ _ h => by cases h⟩

theorem extended_step (hproper : t.Proper mv) : t.crowd.server.store.Extended (t.step mv).crowd.server.store := by
  have hstore := t.store_step mv
  generalize (t.step mv).crowd.server.store = store at hstore
  cases hstore with
  | same => exact List.prefix_rfl
  | replaced store hmv => exact (hproper.outside store hmv).1
  | saved _ _ _ _ _ _ _ _ _ _ _ _ hsave => exact (Store.logBecomes_of_saveMessage hsave).extended
  | marked _ _ _ _ _ hmark => exact (Store.logBecomes_of_markSeen hmark).extended

theorem Kept.numbered_step (h : t.Kept) (hproper : t.Proper mv) : (t.step mv).crowd.server.store.Numbered := by
  have hstore := t.store_step mv
  generalize (t.step mv).crowd.server.store = store at hstore
  cases hstore with
  | same => exact h.numbered
  | replaced store hmv => exact (hproper.outside store hmv).2.1
  | saved _ _ _ _ _ _ _ _ _ _ _ _ hsave => exact (Store.logBecomes_of_saveMessage hsave).numbered h.numbered
  | marked _ _ _ _ _ hmark => exact (Store.logBecomes_of_markSeen hmark).numbered h.numbered

theorem Kept.stamped_step (h : t.Kept) (hproper : t.Proper mv) : (t.step mv).crowd.server.store.Stamped := by
  have hstore := t.store_step mv
  generalize (t.step mv).crowd.server.store = store at hstore
  cases hstore with
  | same => exact h.stamped
  | replaced store hmv => exact (hproper.outside store hmv).2.2
  | saved _ _ _ _ _ _ _ _ _ _ _ _ hsave => exact h.stamped.save hproper.numbers hproper.clock hsave
  | marked _ _ _ _ _ hmark => exact h.stamped.mark hmark

theorem Kept.step (h : t.Kept) (hproper : t.Proper mv) : (t.step mv).Kept := by
  refine ⟨h.numbered_step hproper, h.stamped_step hproper, fun s f m htask => ?_⟩
  cases task_step htask with
  | stayed htask => exact (extended_step hproper).sayings _ (h.saved s f m htask)
  | takenUp raw r hmv hframe hrouter hrest hstep =>
    rw [hstep]
    have htakes := r.takesUp f t.crowd.server
    show m.said ∈ (r.takeUp f t.crowd.server).server.store.sayings m.room
    generalize r.takeUp f t.crowd.server = u at htakes hrest
    cases htakes with
    | saves room text voice m' store hin hsave =>
      cases hrest
      refine Store.sayings_of_saveMessage (fun p hp => ?_) hsave
      exact Router.resolveReply_fits (fun id m hm _ => h.stamped.preview_fits hm) (ClientFrame.fits_of_decode hframe) hp
    | _ => cases hrest

theorem Kept.run (h : t.Kept) (hproper : Run.Along Traffic.step Proper t moves) :
    (t.run moves).Kept ∧ ∀ room, t.crowd.server.store.sayings room ⊆ (t.run moves).crowd.server.store.sayings room := by
  induction moves generalizing t with
  | nil => exact ⟨h, fun _ => List.Subset.refl _⟩
  | cons mv moves ih =>
    obtain ⟨hkept, hgrown⟩ := ih (h.step hproper.1) hproper.2
    exact ⟨hkept, fun room => List.Subset.trans ((extended_step hproper.1).sayings room) (hgrown room)⟩

/-! ## What is shown of a message -/

/-- A chat that is heard is announced by a router that has it in hand, and is how that router shows it. -/
theorem announced_of_chat (hc : t.crowd.Coupled) {h : Handle} {chat : ChatMessage}
    (hchat : .event (.chat chat) ∈ t.sent mv h) :
    ∃ s f m sender, mv = .finish s ∧ t.crowd.routers.get? s = some sender ∧ t.tasks.get? s = some ⟨f, .announce m⟩ ∧
      chat = sender.chatMessage t.crowd.server m := by
  have hcase := t.step_cases mv
  rw [sent] at hchat
  generalize t.step mv = t' at hcase hchat
  cases hcase with
  | act a hparts => exact (noChat_act hc hparts h _ hchat).elim
  | takeUp s raw f sender => exact (noChat_takeUp sender f t.crowd.server h _ hchat).elim
  | finish s task sender hrouter htask =>
    obtain ⟨f, rest⟩ := task
    by_cases hrest : ∀ m, rest ≠ .announce m
    · exact (noChat_finish sender hrest t.crowd.server h _ hchat).elim
    · simp only [not_forall, not_not] at hrest
      obtain ⟨m, rfl⟩ := hrest
      refine ⟨s, f, m, sender, rfl, hrouter, htask, ?_⟩
      have hadded := sender.waiting_announceChat m t.crowd.server h
      simp only [Crowd.onServer, Router.finish] at hchat
      rw [Mailroom.since_of_append hadded] at hchat
      split at hchat
      · cases (List.mem_replicate.1 hchat).2
        rfl
      · cases hchat
  | idle =>
    rw [(Mailroom.fades_refl _).since] at hchat
    cases hchat

theorem inHand_of_chat (hc : t.crowd.Coupled) {h : Handle} {chat : ChatMessage}
    (hchat : .event (.chat chat) ∈ t.sent mv h) :
    ∃ s f m, t.tasks.get? s = some ⟨f, .announce m⟩ ∧ chat.room = m.room ∧ chat.said = m.said := by
  obtain ⟨s, f, m, sender, -, -, htask, rfl⟩ := announced_of_chat hc hchat
  exact ⟨s, f, m, htask, rfl, rfl⟩

/-- A history is sent to a client by its own router, which shows what it has just read. -/
theorem read_of_history (hc : t.crowd.Coupled) {h : Handle} {room : RoomId} {items : List HistoryItem}
    {other : Option Profile} {ts : Int} (hhistory : .event (.history room items other ts) ∈ t.sent mv h) :
    ∃ s r messages, t.crowd.routers.get? s = some r ∧ r.handle = h ∧
      t.crowd.server.store.recentMessages room t.crowd.server.settings.historyLimit = .ok messages ∧
      items = messages.map (r.historyItem t.crowd.server) := by
  have hcauses := causes_step hc hhistory
  generalize hevent : Event.history room items other ts = e at hcauses
  cases hcauses with
  | answer _ s r task hmv hrouter htask he hhandle =>
    obtain ⟨f, rest⟩ := task
    subst hevent
    cases rest with
    | history shown =>
      simp only [Router.answer?] at he
      split at he
      · rename_i messages hrecent
        cases he
        exact ⟨s, r, messages, hrouter, hhandle, hrecent, rfl⟩
      · cases he
    | _ => cases he
  | word _ he =>
    subst hevent
    exact he.elim
  | news _ _ _ _ he =>
    subst hevent
    cases he
  | joined => cases hevent
  | notified n => cases n <;> cases hevent

/-- Whoever asks for a chat's message finds it with the reply that the chat was sent with. -/
structure ShowsReply (t : Traffic) (chat : ChatMessage) : Prop where
  found : t.crowd.server.store.require [.messages] = .ok () →
    ∃ m, t.crowd.server.store.messageById chat.id = .ok (some m)
  byId : ∀ m, t.crowd.server.store.messageById chat.id = .ok (some m) → m.room = chat.room ∧ m.replyTo = chat.replyTo
  recent : ∀ room limit messages, t.crowd.server.store.recentMessages room limit = .ok messages →
    ∀ m ∈ messages, m.id = chat.id → m.replyTo = chat.replyTo
  history : ∀ mv h room items other ts, .event (.history room items other ts) ∈ t.sent mv h →
    ∀ item ∈ items, item.id = chat.id → item.replyTo = chat.replyTo

theorem Kept.showsReply (h : t.Kept) (hc : t.crowd.Coupled) {chat : ChatMessage}
    (hsaid : chat.said ∈ t.crowd.server.store.sayings chat.room) : t.ShowsReply chat where
  found := Store.exists_messageById hsaid
  byId := fun m hm => by
    obtain ⟨hroom, heq⟩ := h.numbered.said_of_messageById hsaid hm
    exact ⟨hroom, congrArg Said.replyTo heq⟩
  recent := fun room limit messages hrecent m hm hid => by
    obtain ⟨-, heq⟩ := h.numbered.said_of_recentMessages hsaid hrecent hm hid
    exact congrArg Said.replyTo heq
  history := fun mv k room items other ts hsent item hitem hid => by
    obtain ⟨s, r, messages, -, -, hrecent, rfl⟩ := read_of_history hc hsent
    obtain ⟨m, hm, rfl⟩ := List.mem_map.1 hitem
    obtain ⟨-, heq⟩ := h.numbered.said_of_recentMessages hsaid hrecent hm hid
    exact congrArg Said.replyTo heq

/-- **Replies survive.** The stored text of every preview whose numbers fit 64 bits decodes to the preview, and that
is the text that saving a message writes. Whatever text decodes to a preview, what is stored of the preview decodes
to it again. In any run that leaves the messages in the store, every chat that is ever heard by anybody is shown from
then on with the reply that it was sent with: to those who ask for it by number, to those who ask for the last
messages and in the histories that are sent. And a store with arbitrary texts in its reply columns is loaded like any
other; what cannot be read is no reply. -/
theorem replies_survive {settings : ChatSettings} {now : Int} {moves : List Move}
    (hproper : Run.Along step Proper (start settings now) moves) :
    (∀ p : ReplyPreview, p.Fits → ReplyPreview.decode p.encode = some p) ∧
    (∀ (s s' : Store) (m : NewMessage) (saved : Message) (moment : Int), s.saveMessage m moment = .ok (saved, s') →
      ∃ row, s'.messages = s.messages ++ [row] ∧ row.replyText = m.replyTo.map ReplyPreview.encode ∧
        saved.replyTo = m.replyTo) ∧
    (∀ text p, ReplyPreview.decode text = some p → p.Fits ∧ ReplyPreview.decode p.encode = some p) ∧
    (∀ before mv after h chat, moves = before ++ mv :: after →
      .event (.chat chat) ∈ ((start settings now).run before).sent mv h →
        ((start settings now).run moves).ShowsReply chat) ∧
    ∀ (s : Store) (column : StoredMessage → Option String), s.LoadsAnyReply column := by
  refine ⟨fun p => ReplyPreview.decode_encode, fun s s' m saved moment hsave => ?_, fun text p hp => ?_, ?_,
    fun s column => s.loadsAnyReply column⟩
  · obtain ⟨rfl, rfl⟩ := Store.saveMessage_eq_ok hsave
    exact ⟨s.rowOf m moment, rfl, rfl, rfl⟩
  · have hfits := ReplyPreview.fits_of_decode hp
    exact ⟨hfits, ReplyPreview.decode_encode hfits⟩
  · rintro before mv after h chat rfl hchat
    obtain ⟨hbefore, hrest⟩ := Run.along_append.1 hproper
    obtain ⟨hkept, -⟩ := (kept_start settings now).run hbefore
    obtain ⟨s, f, m, htask, hroom, hsaid⟩ := inHand_of_chat (coupled_of_start settings now before) hchat
    have hstored := hkept.saved s f m htask
    obtain ⟨hkeptAfter, hgrown⟩ := hkept.run hrest
    rw [← hroom, ← hsaid] at hstored
    rw [← run_append] at hkeptAfter hgrown
    exact hkeptAfter.showsReply (coupled_of_start settings now _) (hgrown chat.room hstored)

/-- A message with quotes in it is answered by its number, and the copy that the answer is sent with is the one that it
is shown with afterwards. -/
theorem replies_survive_answered :
    let join := "\x7b\"event\":\"join\",\"room\":\"r\"\x7d"
    let first := "\x7b\"event\":\"chat\",\"text\":\"say \\\"hi\\\"\"\x7d"
    let answer := "\x7b\"event\":\"chat\",\"text\":\"hi\",\"reply_to_id\":1\x7d"
    let before : List Move := [.act (.connect 1 10 7 "ann" none), .act (.connect 2 20 8 "bob" none), .takeUp 1 join,
      .finish 1, .takeUp 2 join, .finish 2, .takeUp 1 first, .finish 1, .takeUp 2 answer]
    let after : List Move := [.act (.clock 5), .act (.leave 1)]
    let preview : ReplyPreview := ⟨1, "ann", some "say \"hi\"", none, 0⟩
    Run.Along step Proper (start .default 0) (before ++ .finish 2 :: after) ∧
      ReplyPreview.decode preview.encode = some preview ∧
      ∃ chat, chat.replyTo = some preview ∧ .event (.chat chat) ∈ ((start .default 0).run before).sent (.finish 2) 10 ∧
        ((start .default 0).run (before ++ .finish 2 :: after)).ShowsReply chat := by
  intro join first answer before after preview
  have hproper : Run.Along step Proper (start .default 0) (before ++ .finish 2 :: after) := by
    decide +kernel +zetaReduce
  let chat : ChatMessage := ⟨2, "r", some "hi", none, none, "bob", 0, false, some preview⟩
  have hsent : .event (.chat chat) ∈ ((start .default 0).run before).sent (.finish 2) 10 := by
    decide +kernel +zetaReduce
  obtain ⟨hdecodes, -, -, hshows, -⟩ := replies_survive hproper
  exact ⟨hproper, hdecodes preview ⟨by decide, by decide⟩, chat, rfl, hsent, hshows before _ after 10 chat rfl hsent⟩

end Traffic

end DirectChat
