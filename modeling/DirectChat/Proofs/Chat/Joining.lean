import DirectChat.Proofs.Chat.Causes
/-!
# Joining a room while others write

A join enters the room before it reads the history, and a chat is saved before it is announced. So however
the four steps of any number of joins and chats fall between one another, a message that is announced
before the room is entered was saved before its history is read, and one that is announced later is heard
(`history_or_live`). That a message is in the store from when it was saved until it is announced is the
invariant behind it (`Sound`).
-/

namespace DirectChat

namespace Traffic

variable {t : Traffic} {mv : Move} {moves : List Move} {room : RoomId}

/-! ## Messages that are to be announced are stored -/

/-- The store works after the move, the clock shows a moment of 64 bits, and what is done to the store from
outside leaves what the room's messages say. -/
structure Steady (room : RoomId) (t : Traffic) (mv : Move) : Prop where
  works : (t.step mv).crowd.server.store.Works
  clock : isInt64 t.crowd.server.now = true
  kept : ∀ store, mv = .act (.store store) → t.crowd.server.store.Keeps room store

instance (room : RoomId) (t : Traffic) (mv : Move) : Decidable (t.Steady room mv) :=
  have := mv.decideStore (t.crowd.server.store.Keeps room)
  decidable_of_iff ((t.step mv).crowd.server.store.Works ∧ isInt64 t.crowd.server.now = true ∧
      ∀ store, mv = .act (.store store) → t.crowd.server.store.Keeps room store)
    ⟨fun h => ⟨h.1, h.2.1, h.2.2⟩, fun h => ⟨h.works, h.clock, h.kept⟩⟩

/-- The store works, its messages can be answered, and those of the room that are to be announced are in it. -/
structure Sound (room : RoomId) (t : Traffic) : Prop where
  works : t.crowd.server.store.Works
  fitting : t.crowd.server.store.Fitting room
  saved : ∀ s f m, t.tasks.get? s = some ⟨f, .announce m⟩ → m.room = room → m.said ∈ t.crowd.server.store.sayings room

theorem sound_start (room : RoomId) (settings : ChatSettings) (now : Int) : (start settings now).Sound room :=
  ⟨Store.works_empty, Store.fitting_empty room, fun _ _ _ h => by cases h⟩

/-- What saving a chat in the room adds to what its messages say. -/
theorem Sound.sayings_of_save (h : t.Sound room) {f : ClientFrame} (hf : f.ReplyFits) {r : Router} {saved : RoomId}
    {text voice : Option String} {m : Message} {store : Store}
    (hsave : t.crowd.server.store.saveMessage ⟨saved, r.user, r.username, text, voice,
      Router.resolveReply saved f.replyTo f.replyToId t.crowd.server.store⟩ t.crowd.server.now = .ok (m, store))
    (hroom : saved = room) : store.sayings room = t.crowd.server.store.sayings room ++ [m.said] := by
  refine (Store.saved_of_ok hsave).sayings hroom fun p hp => ?_
  rw [hroom] at hp
  exact Router.resolveReply_fits (fun id n hn => h.fitting.preview_fits h.works hn) hf hp

/-- What a room's messages say only grows. -/
theorem Sound.sayings_step (h : t.Sound room) (hsteady : t.Steady room mv) :
    t.crowd.server.store.sayings room <+: (t.step mv).crowd.server.store.sayings room := by
  have hstore := t.store_step mv
  generalize (t.step mv).crowd.server.store = store at hstore
  cases hstore with
  | same => exact List.prefix_rfl
  | replaced store hmv => exact (hsteady.kept store hmv).sayings ▸ List.prefix_rfl
  | saved s raw f r saved text voice m store hmv hframe hrouter hsave =>
    by_cases hroom : saved = room
    · rw [h.sayings_of_save (ClientFrame.fits_of_decode hframe) hsave hroom]
      exact List.prefix_append ..
    · exact ((Store.saved_of_ok hsave).keeps hroom).sayings ▸ List.prefix_rfl
  | marked _ _ _ _ _ hmark => exact (Store.markSeen_keeps hmark room).sayings ▸ List.prefix_rfl

theorem Sound.fitting_step (h : t.Sound room) (hsteady : t.Steady room mv) :
    (t.step mv).crowd.server.store.Fitting room := by
  have hstore := t.store_step mv
  generalize (t.step mv).crowd.server.store = store at hstore
  cases hstore with
  | same => exact h.fitting
  | replaced store hmv => exact h.fitting.keep (hsteady.kept store hmv)
  | saved s raw f r saved text voice m store hmv hframe hrouter hsave =>
    exact (Store.saved_of_ok hsave).fitting h.fitting hsteady.clock
  | marked _ _ _ _ _ hmark => exact h.fitting.keep (Store.markSeen_keeps hmark room)

theorem Sound.step (h : t.Sound room) (hsteady : t.Steady room mv) : (t.step mv).Sound room := by
  refine ⟨hsteady.works, h.fitting_step hsteady, fun s f m htask hroom => ?_⟩
  cases task_step htask with
  | stayed htask => exact (h.sayings_step hsteady).subset (h.saved s f m htask hroom)
  | takenUp raw r hmv hframe hrouter hrest hstep =>
    rw [hstep]
    have htakes := r.takesUp f t.crowd.server
    show m.said ∈ (r.takeUp f t.crowd.server).server.store.sayings room
    generalize r.takeUp f t.crowd.server = u at htakes hrest
    cases htakes with
    | saves saved text voice m' store hin hsave =>
      cases hrest
      have hsaved : saved = room := (Store.saved_of_ok hsave).room.symm.trans hroom
      rw [h.sayings_of_save (ClientFrame.fits_of_decode hframe) hsave hsaved]
      exact List.mem_append_right _ (List.mem_singleton_self _)
    | _ => cases hrest

theorem Sound.run (h : t.Sound room) (hsteady : Run.Along Traffic.step (Steady room) t moves) :
    (t.run moves).Sound room ∧ t.crowd.server.store.sayings room <+: (t.run moves).crowd.server.store.sayings room := by
  induction moves generalizing t with
  | nil => exact ⟨h, List.prefix_rfl⟩
  | cons mv moves ih =>
    obtain ⟨hsound, hgrown⟩ := ih (h.step hsteady.1) hsteady.2
    exact ⟨hsound, (h.sayings_step hsteady.1).trans hgrown⟩

/-! ## What the two second halves send -/

/-- Finishing a join shows the room's history, which is every message of the room when the limit allows. -/
theorem shows_history (hw : t.crowd.server.store.Works) {s : SessionId} {f : ClientFrame} {r : Router}
    (htask : t.tasks.get? s = some ⟨f, .history room⟩) (hrouter : t.crowd.routers.get? s = some r)
    (hlive : t.crowd.server.mail.isLive r.handle = true) :
    ∃ items other ts, .event (.history room items other ts) ∈ t.sent (.finish s) r.handle ∧
      ((t.crowd.server.store.rows room).length ≤ t.crowd.server.settings.historyLimit →
        ∀ said ∈ t.crowd.server.store.sayings room, said ∈ items.map HistoryItem.said) := by
  obtain ⟨messages, hrecent, hsayings⟩ :=
    Store.exists_recentMessages hw room t.crowd.server.settings.historyLimit
  refine ⟨messages.map (r.historyItem t.crowd.server), r.otherProfile room t.crowd.server.store, t.crowd.server.now, ?_,
    fun hlimit said hsaid => ?_⟩
  · rw [sent, step_finish htask hrouter]
    simp only [Crowd.onServer, Router.finish, Router.sendHistory, hrecent]
    show _ ∈ t.crowd.server.mail.since (t.crowd.server.mail.send r.handle (.event _)).1 r.handle
    rw [Mailroom.since_of_append (t.crowd.server.mail.waiting_send r.handle _ r.handle), if_pos ⟨rfl, hlive⟩]
    exact List.mem_singleton_self _
  · rw [List.map_map]
    exact (hsayings hlimit).mem_iff.2 hsaid

/-- Finishing a chat is heard by every session that listens to its room. -/
theorem hears_chat (hc : t.crowd.Coupled) {s : SessionId} {f : ClientFrame} {m : Message} {sender : Router}
    (htask : t.tasks.get? s = some ⟨f, .announce m⟩) (hrouter : t.crowd.routers.get? s = some sender)
    {s' : SessionId} {entry : SessionEntry} (hentry : t.crowd.server.registry.sessions.get? s' = some entry)
    (hroom : entry.room = some m.room) (hlive : t.crowd.server.mail.isLive entry.handle = true) :
    ∃ chat, .event (.chat chat) ∈ t.sent (.finish s) entry.handle ∧ chat.room = m.room ∧ chat.said = m.said := by
  refine ⟨sender.chatMessage t.crowd.server m, ?_, rfl, rfl⟩
  have hshown : t.crowd.shown? s' = some entry := (hc.shows.entry s').symm.trans hentry
  have hmember : entry.handle ∈ t.crowd.server.registry.roomHandles m.room none := by
    refine List.mem_map.2 ⟨(s', entry), hc.shows.mem_entriesOf.2 ⟨List.mem_filter.2 ⟨?_, by simp⟩, hshown⟩, rfl⟩
    rw [hc.shows.mem_members, hshown]
    exact hroom
  rw [sent, step_finish htask hrouter]
  simp only [Crowd.onServer, Router.finish]
  rw [Mailroom.since_of_append (sender.waiting_announceChat m t.crowd.server entry.handle), if_pos hlive,
    List.mem_replicate]
  exact ⟨Nat.ne_of_gt (List.count_pos_iff.2 hmember), rfl⟩

/-! ## Between the halves of a join -/

/-- A session that takes up a join of the room is in it and in the middle of reading its history. -/
theorem takeUp_join {s : SessionId} {raw : String} {f : ClientFrame} {r : Router}
    (hrouter : t.crowd.routers.get? s = some r) (hidle : t.tasks.get? s = none)
    (hframe : ClientFrame.decode raw = some f) (hevent : f.event = "join") (hroom : f.room = some room)
    (hne : room ≠ "") :
    (t.step (.takeUp s raw)).tasks.get? s = some ⟨f, .history room⟩ ∧
      (t.step (.takeUp s raw)).crowd.routers.get? s = some { r with room := some room } := by
  have hup : r.takeUp f t.crowd.server = ⟨(r.enter room t.crowd.server).1, (r.enter room t.crowd.server).2,
      some (.history room)⟩ := by
    simp only [Router.takeUp, hevent, hroom, Option.getD_some, if_neg hne]
  rw [step_takeUp hidle hrouter hframe, hup, takenUp, r.enter_fst]
  exact ⟨Table.get?_insert_self .., Table.get?_insert_self ..⟩

/-- A join shows, when it is finished, what the room's messages said when it was taken up, if the limit allows. -/
theorem join_shows_history {s : SessionId} {raw : String} {f : ClientFrame} {r : Router} (hsound : t.Sound room)
    (hsteady : Run.Along Traffic.step (Steady room) t (.takeUp s raw :: moves))
    (hrouter : t.crowd.routers.get? s = some r) (hidle : t.tasks.get? s = none)
    (hframe : ClientFrame.decode raw = some f) (hevent : f.event = "join") (hroom : f.room = some room)
    (hne : room ≠ "") (hfirst : .finish s ∉ moves)
    (hlive : ((t.step (.takeUp s raw)).run moves).crowd.server.mail.isLive r.handle = true) :
    ((t.step (.takeUp s raw)).run moves).tasks.get? s = some ⟨f, .history room⟩ ∧
      ∃ items other ts,
        .event (.history room items other ts) ∈ ((t.step (.takeUp s raw)).run moves).sent (.finish s) r.handle ∧
        ((((t.step (.takeUp s raw)).run moves).crowd.server.store.rows room).length ≤
            ((t.step (.takeUp s raw)).run moves).crowd.server.settings.historyLimit →
          ∀ said ∈ t.crowd.server.store.sayings room, said ∈ items.map HistoryItem.said) := by
  obtain ⟨hsoundRead, hgrown⟩ := (hsound.step hsteady.1).run hsteady.2
  obtain ⟨htask, hin⟩ := takeUp_join hrouter hidle hframe hevent hroom hne
  obtain ⟨htaskRead, hrouterRead⟩ := busy_run htask hin hfirst
  obtain ⟨items, other, ts, hsent, hshown⟩ := shows_history hsoundRead.works htaskRead hrouterRead hlive
  refine ⟨htaskRead, items, other, ts, hsent, fun hlimit said hsaid => hshown hlimit said ?_⟩
  exact hgrown.subset ((hsound.sayings_step hsteady.1).subset hsaid)

/-- **No message is lost between entering a room and reading its history.** Take any run in which the store
does not fail, and a session that takes up a join of a room, is in the room from then on with somebody
receiving, and later finishes the join. As long as the limit covers the messages that are in the room when
the history is read, the session is sent one, and every message of the room that is announced at any time
in the run is in that history or among the chats that the session is sent from the join on. -/
theorem history_or_live {settings : ChatSettings} {now : Int} {before between after : List Move} {s : SessionId}
    {raw : String} {f : ClientFrame} {r : Router} {room : RoomId}
    (hsteady : Run.Along step (Steady room) (start settings now)
      (before ++ .takeUp s raw :: (between ++ .finish s :: after)))
    (hrouter : ((start settings now).run before).crowd.routers.get? s = some r)
    (hidle : ((start settings now).run before).tasks.get? s = none) (hframe : ClientFrame.decode raw = some f)
    (hevent : f.event = "join") (hroom : f.room = some room) (hne : room ≠ "") (hfirst : .finish s ∉ between)
    (hstay : Run.Throughout step (fun t => Crowd.Listens r room t.crowd)
      (((start settings now).run before).step (.takeUp s raw)) (between ++ .finish s :: after))
    (hlimit : (((start settings now).run (before ++ .takeUp s raw :: between)).crowd.server.store.rows room).length ≤
      ((start settings now).run (before ++ .takeUp s raw :: between)).crowd.server.settings.historyLimit) :
    ∃ items other ts,
      .event (.history room items other ts) ∈
        ((start settings now).run (before ++ .takeUp s raw :: between)).sent (.finish s) r.handle ∧
      ∀ early s' late f' m,
        before ++ .takeUp s raw :: (between ++ .finish s :: after) = early ++ .finish s' :: late →
        ((start settings now).run early).tasks.get? s' = some ⟨f', .announce m⟩ → m.room = room →
        m.said ∈ items.map HistoryItem.said ∨
        m.said ∈ ((arrivals r.handle (((start settings now).run before).step (.takeUp s raw))
          (between ++ .finish s :: after)).filterMap (Frame.chatIn? room)).map ChatMessage.said := by
  rw [run_append_cons] at hlimit ⊢
  obtain ⟨hsteadyBefore, hsteadyJoin⟩ := Run.along_append.1 hsteady
  rw [← List.cons_append] at hsteadyJoin
  obtain ⟨hsound, -⟩ := (sound_start room settings now).run hsteadyBefore
  obtain ⟨-, items, other, ts, hsent, hshown⟩ := join_shows_history hsound (Run.along_append.1 hsteadyJoin).1 hrouter
    hidle hframe hevent hroom hne hfirst hstay.at.live
  refine ⟨items, other, ts, hsent, fun early s' late f' m hmoves htask' hm => ?_⟩
  rcases List.append_eq_append_iff.1 hmoves with ⟨moved, rfl, htail⟩ | ⟨rest, rfl, -⟩
  · right
    cases moved with
    | nil => cases htail
    | cons mv moved =>
      obtain ⟨rfl, hafter⟩ := List.cons.inj htail
      -- The session is in the room already when the message is announced.
      obtain ⟨sender, hsender⟩ := exists_router_of_task htask'
      rw [run_append_cons] at htask'
      have hlistens :
          Crowd.Listens r room ((((start settings now).run before).step (.takeUp s raw)).run moved).crowd := by
        rw [hafter] at hstay
        exact hstay.at
      have hc := coupled_of_start settings now (before ++ .takeUp s raw :: moved)
      rw [run_append_cons] at hc hsender
      obtain ⟨chat, hchat, hchatRoom, hsaid⟩ :=
        hears_chat hc htask' hsender hlistens.joined (by rw [hm]) hlistens.live
      refine List.mem_map.2 ⟨chat, List.mem_filterMap.2 ⟨.event (.chat chat), ?_, if_pos (hchatRoom.trans hm)⟩, hsaid⟩
      rw [hafter]
      exact Run.mem_output.2 ⟨moved, .finish s', late, rfl, hchat⟩
  · left
    -- The message was in the store when it was announced, and what is there stays there.
    obtain ⟨hsteadyEarly, hsteadyRest⟩ := Run.along_append.1 hsteadyBefore
    obtain ⟨hsoundEarly, -⟩ := (sound_start room settings now).run hsteadyEarly
    obtain ⟨-, hgrownRest⟩ := hsoundEarly.run hsteadyRest
    refine hshown hlimit _ ?_
    rw [run_append]
    exact hgrownRest.subset (hsoundEarly.saved s' f' m htask' hm)

/-- One message is saved before the other session joins and announced before it is shown the history;
another is saved and announced after that. -/
theorem history_or_live_interleaved :
    let join := "\x7b\"event\":\"join\",\"room\":\"r\"\x7d"
    let chat := "\x7b\"event\":\"chat\",\"text\":\"hi\"\x7d"
    let before : List Move := [.act (.connect 1 10 7 "ann" none), .act (.connect 2 20 8 "bob" none), .takeUp 2 join,
      .finish 2, .takeUp 2 chat]
    let after : List Move := [.takeUp 2 chat, .act (.clock 5), .finish 2]
    let m : Int → Message := fun id => ⟨id, "r", 8, "bob", some "hi", none, false, none, 0⟩
    Run.Along step (Steady "r") (start .default 0) (before ++ .takeUp 1 join :: ([.finish 2] ++ .finish 1 :: after)) ∧
      ∃ items other ts, .event (.history "r" items other ts) ∈
          ((start .default 0).run (before ++ .takeUp 1 join :: [.finish 2])).sent (.finish 1) 10 ∧
        ∀ id ∈ [1, 2], (m id).said ∈ items.map HistoryItem.said ∨
          (m id).said ∈ ((arrivals 10 (((start .default 0).run before).step (.takeUp 1 join))
            ([.finish 2] ++ .finish 1 :: after)).filterMap (Frame.chatIn? "r")).map ChatMessage.said := by
  intro join chat before after m
  have hsteady : Run.Along step (Steady "r") (start .default 0)
      (before ++ .takeUp 1 join :: ([.finish 2] ++ .finish 1 :: after)) := by decide +kernel +zetaReduce
  have hrouter : ((start .default 0).run before).crowd.routers.get? 1 = some ⟨1, 7, "ann", 10, none, none, false⟩ := by
    decide +kernel +zetaReduce
  have hidle : ((start .default 0).run before).tasks.get? 1 = none := by decide +kernel +zetaReduce
  have hframe : ClientFrame.decode join = some ⟨"join", some "r", none, none, none, none, none⟩ := by
    decide +kernel +zetaReduce
  have hstay : Run.Throughout step (fun t => Crowd.Listens ⟨1, 7, "ann", 10, none, none, false⟩ "r" t.crowd)
      (((start .default 0).run before).step (.takeUp 1 join)) ([.finish 2] ++ .finish 1 :: after) := by
    decide +kernel +zetaReduce
  have hlimit :
      (((start .default 0).run (before ++ .takeUp 1 join :: [.finish 2])).crowd.server.store.rows "r").length ≤
        ((start .default 0).run (before ++ .takeUp 1 join :: [.finish 2])).crowd.server.settings.historyLimit := by
    decide +kernel +zetaReduce
  obtain ⟨items, other, ts, hsent, hall⟩ :=
    history_or_live hsteady hrouter hidle hframe rfl rfl (by decide) (by simp) hstay hlimit
  let f : ClientFrame := ⟨"chat", none, some "hi", none, none, none, none⟩
  have hfirst : ((start .default 0).run (before ++ [.takeUp 1 join])).tasks.get? 2 = some ⟨f, .announce (m 1)⟩ := by
    decide +kernel +zetaReduce
  have hsecond : ((start .default 0).run (before ++ [.takeUp 1 join, .finish 2, .finish 1, .takeUp 2 chat,
      .act (.clock 5)])).tasks.get? 2 = some ⟨f, .announce (m 2)⟩ := by decide +kernel +zetaReduce
  refine ⟨hsteady, items, other, ts, hsent, fun id hid => ?_⟩
  rcases List.mem_pair.1 hid with rfl | rfl
  · exact hall _ 2 (.finish 1 :: after) f (m 1) (List.append_cons ..) hfirst rfl
  · exact hall _ 2 [] f (m 2) (by simp [after]) hsecond rfl

end Traffic

end DirectChat
