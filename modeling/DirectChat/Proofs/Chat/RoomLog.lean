import DirectChat.Proofs.Chat.Arrivals
/-!
# History and live messages make up the room's log

A run is calm for a room when every text is handled whole, the store works, the clock never goes back and
the room's messages come from chats alone (`Calm`). One calm act tells the room's members what it adds to
the room's messages (`tells_step`), and so does a calm run to a session that listens throughout
(`sayings_run`). With the history of its join, which is the end of the log at that moment, the session
has the end of the log at every later one (`history_then_live`).
-/

namespace DirectChat

/-- An act that is no half of another. -/
def Act.Whole : Act → Prop
  | .enter .. | .sendHistory .. | .announceChat .. | .put .. => False
  | _ => True

instance (a : Act) : Decidable a.Whole := by
  cases a <;> unfold Act.Whole <;> infer_instance

/-- Whether an act that replaces the store has a property of the new one. -/
def Act.decideStore (p : Store → Prop) [DecidablePred p] :
    (a : Act) → Decidable (∀ s, a = .store s → p s)
  | .store s => decidable_of_iff (p s) ⟨fun h _ heq => Act.store.inj heq ▸ h, fun h => h s rfl⟩
  | .connect .. | .welcome .. | .text .. | .enter .. | .sendHistory .. | .announceChat .. | .put .. | .leave ..
  | .close .. | .drop .. | .kill .. | .receive .. | .clock .. | .lookUp .. | .sendOut .. | .giveUp .. =>
    isTrue fun _ h => nomatch h

namespace Crowd

variable {c : Crowd} {room : RoomId}

/-- An act at a moment of 64 bits that is whole, after which the store works, that does not turn the
clock back, and that leaves the messages of the room alone unless it is a text. -/
structure Calm (room : RoomId) (c : Crowd) (a : Act) : Prop where
  whole : a.Whole
  works : (c.step a).server.store.Works
  clock : isInt64 c.server.now = true ∧ c.server.now ≤ (c.step a).server.now
  kept : ∀ store, a = .store store → c.server.store.Keeps room store

instance (room : RoomId) (c : Crowd) (a : Act) : Decidable (Calm room c a) :=
  have := Act.decideStore (c.server.store.Keeps room) a
  decidable_of_iff (a.Whole ∧ (c.step a).server.store.Works ∧
      (isInt64 c.server.now = true ∧ c.server.now ≤ (c.step a).server.now) ∧
      ∀ store, a = .store store → c.server.store.Keeps room store)
    ⟨fun h => ⟨h.1, h.2.1, h.2.2.1, h.2.2.2⟩, fun h => ⟨h.whole, h.works, h.clock, h.kept⟩⟩

/-- The registry has the router's session joined to the room, and someone receives behind its handle. -/
structure Listens (r : Router) (room : RoomId) (c : Crowd) : Prop where
  joined : c.server.registry.sessions.get? r.session = some ⟨r.user, r.username, r.handle, some room⟩
  live : c.server.mail.isLive r.handle = true

instance (r : Router) (room : RoomId) (c : Crowd) : Decidable (Listens r room c) :=
  decidable_of_iff (c.server.registry.sessions.get? r.session = some ⟨r.user, r.username, r.handle, some room⟩ ∧
    c.server.mail.isLive r.handle = true) ⟨fun h => ⟨h.1, h.2⟩, fun h => ⟨h.joined, h.live⟩⟩

/-! ## One act -/

/-- What a router tells, the crowd tells that lets it act. -/
theorem tells_act (ho : c.server.store.Ordered room c.server.now) (s : SessionId)
    {f : Router → Server → Router × Server}
    (hf : ∀ r : Router, ∃ new, c.server.Tells room (f r c.server).2 new) :
    ∃ new, c.server.Tells room (c.act s f).server new :=
  c.act_server s (P := fun sv => ∃ new, c.server.Tells room sv new)
    ⟨[], Server.Quiet.tells (.of_eq rfl rfl rfl) ho⟩ fun r _ => hf r

theorem tells_connect (ho : c.server.store.Ordered room c.server.now) (s : SessionId) (handle : Handle)
    (user : UserId) (username : String) (host : Option String) :
    c.server.Tells room (c.connect s handle user username host).server [] := by
  obtain ⟨pending, hserver⟩ := c.connect_server s handle user username host
  rw [hserver]
  exact Server.tells_of_fades (c.server.mail.fades_openQueue handle) (.refl room _) (Int.le_refl _) ho

theorem tells_lookUp (ho : c.server.store.Ordered room c.server.now) (n : Nat) :
    c.server.Tells room (c.lookUp n).server [] := by
  rw [lookUp_server]
  exact Server.Quiet.tells (.of_eq rfl rfl rfl) ho

theorem tells_sendOut (ho : c.server.store.Ordered room c.server.now) (n : Nat) :
    c.server.Tells room (c.sendOut n).server [] := by
  unfold sendOut
  split
  · exact Server.Quiet.tells (.of_eq rfl rfl rfl) ho
  · rename_i notification users _
    exact (notification.deliver_quiet users c.server room).noChat.tells ho

/-- One calm act tells the members of the room what it adds to the room's messages. -/
theorem tells_step (ho : c.server.store.Ordered room c.server.now) (hw : c.server.store.Works) {a : Act}
    (ha : Calm room c a) : ∃ new, c.server.Tells room (c.step a).server new := by
  have hmail : ∀ {m : Mailroom}, c.server.mail.Fades m → c.server.Tells room { c.server with mail := m } [] :=
    fun hm => Server.tells_of_fades hm (.refl room _) (Int.le_refl _) ho
  cases a with
  | connect s handle user username host => exact ⟨[], tells_connect ho s handle user username host⟩
  | welcome s => exact tells_act ho s fun r => ⟨[], (Server.quiet_send trivial).tells ho⟩
  | text s raw => exact tells_act ho s fun r => r.handleText_tells raw ho hw ha.clock.1
  | enter s entered => exact ha.whole.elim
  | sendHistory s shown => exact ha.whole.elim
  | announceChat s m => exact ha.whole.elim
  | put handles f => exact ha.whole.elim
  | leave s => exact tells_act ho s fun r => ⟨[], (r.leave_quiet c.server room).noChat.tells ho⟩
  | close s => exact tells_act ho s fun r => ⟨[], (r.close_quiet c.server room).noChat.tells ho⟩
  | drop s => exact tells_act ho s fun r => ⟨[], (r.close_quiet c.server room).noChat.tells ho⟩
  | kill handle => exact ⟨[], hmail (c.server.mail.fades_kill handle)⟩
  | receive handle => exact ⟨[], hmail (c.server.mail.fades_drain handle)⟩
  | store store => exact ⟨[], Server.Quiet.tells ⟨.refl _ _, ha.kept store rfl, rfl⟩ ho⟩
  | clock now => exact ⟨[], Server.tells_of_fades (Mailroom.fades_refl _) (.refl room _) ha.clock.2 ho⟩
  | lookUp n => exact ⟨[], tells_lookUp ho n⟩
  | sendOut n => exact ⟨[], tells_sendOut ho n⟩
  | giveUp n => exact ⟨[], Server.Quiet.tells (.of_eq rfl rfl rfl) ho⟩

/-! ## Any number of acts -/

theorem ordered_run (ho : c.server.store.Ordered room c.server.now) (hw : c.server.store.Works) {acts : List Act}
    (hcalm : Run.Along step (Calm room) c acts) :
    (c.run acts).server.store.Ordered room (c.run acts).server.now ∧ (c.run acts).server.store.Works := by
  induction acts generalizing c with
  | nil => exact ⟨ho, hw⟩
  | cons a acts ih =>
    obtain ⟨new, htells⟩ := tells_step ho hw hcalm.1
    exact ih htells.ordered hcalm.1.works hcalm.2

theorem heard_step {r : Router} {a : Act} {new : List Said} (hc : c.Coupled) (hapart : Registry.ApartBy c.shown?)
    (hlistens : c.Listens r room) (htells : c.server.Tells room (c.step a).server new) :
    ((c.sent a r.handle).filterMap (Frame.chatIn? room)).map ChatMessage.said = new := by
  have hentry : c.shown? r.session = some ⟨r.user, r.username, r.handle, some room⟩ := by
    rw [← hc.shows.entry, hlistens.joined]
  exact htells.heard r.handle hlistens.live (hc.shows.count_roomHandles hapart hentry rfl)

/-- What a session hears while it listens is what is added to the messages of its room. -/
theorem sayings_run {settings : ChatSettings} {now : Int} {before acts : List Act} {r : Router}
    (hstart : (start settings now).run before = c) (hhandles : ((before ++ acts).filterMap Act.opens?).Nodup)
    (ho : c.server.store.Ordered room c.server.now) (hw : c.server.store.Works)
    (hcalm : Run.Along step (Calm room) c acts) (hstay : Run.Throughout step (Listens r room) c acts) :
    (c.run acts).server.store.sayings room = c.server.store.sayings room ++
      ((arrivals r.handle c acts).filterMap (Frame.chatIn? room)).map ChatMessage.said := by
  induction acts generalizing before c with
  | nil => exact (List.append_nil _).symm
  | cons a acts ih =>
    obtain ⟨new, htells⟩ := tells_step ho hw hcalm.1
    have hcoupled : c.Coupled := hstart ▸ (coupled_start settings now).run before
    have hbefore : (before.filterMap Act.opens?).Nodup := by
      rw [List.filterMap_append] at hhandles
      exact hhandles.of_append_left
    have hheard := heard_step hcoupled (hstart ▸ apart_run settings now hbefore) hstay.head htells
    have hnext : (start settings now).run (before ++ [a]) = c.step a := by
      rw [run_append, hstart, run_cons, run_nil]
    have hrest := ih hnext (by rwa [List.append_assoc]) htells.ordered hcalm.1.works hcalm.2 hstay.2
    have harrivals : arrivals r.handle c (a :: acts) = c.sent a r.handle ++ arrivals r.handle (c.step a) acts := rfl
    rw [run_cons, hrest, htells.sayings, harrivals, List.filterMap_append, List.map_append, hheard, List.append_assoc]

/-! ## A join and what follows -/

theorem step_text_join {s : SessionId} {r : Router} {raw : String} {f : ClientFrame}
    (hrouter : c.routers.get? s = some r) (hframe : ClientFrame.decode raw = some f) (hjoin : f.event = "join")
    (hroom : f.room = some room) : (c.step (.text s raw)).server = (r.join room c.server).2 := by
  rw [step, c.act_of_some hrouter]
  simp only [Router.handleText, hframe, Router.dispatch, hjoin, hroom, Option.getD_some]

theorem history_of_join {s : SessionId} {r : Router} {raw : String} {f : ClientFrame} (hne : room ≠ "")
    (hrouter : c.routers.get? s = some r) (hframe : ClientFrame.decode raw = some f) (hjoin : f.event = "join")
    (hroom : f.room = some room) (ho : c.server.store.Ordered room c.server.now) (hw : c.server.store.Works)
    (hlive : (c.step (.text s raw)).server.mail.isLive r.handle = true) :
    ∃ items, (c.sent (.text s raw) r.handle).filterMap (Frame.historyIn? room) = [items] ∧
      items.map HistoryItem.said =
        (lastOf c.server.settings.historyLimit (c.server.store.rows room)).map (·.load.said) ∧
      items.map (·.isYours) =
        (lastOf c.server.settings.historyLimit (c.server.store.rows room)).map (·.author == r.user) := by
  have hstep := step_text_join hrouter hframe hjoin hroom
  rw [hstep, r.isLive_join] at hlive
  rw [sent, hstep]
  exact r.join_shows_history hne hw ho hlive

/-- **The history of a join and the chats heard since are the end of the room's log.** Take any run in
which every connection has a queue of its own and which is calm for a room. When a session joins the room
and listens to it from then on, the join sends it one history: the last messages of the log, as many as
the limit says, oldest first, those of its user marked as its own. The chats it is sent for the room up
to any later moment are the messages by which the log has grown, each once and in the order in which they
were saved, so that the two together are a suffix of the log of that moment. -/
theorem history_then_live {settings : ChatSettings} {now : Int} {before after : List Act} {c : Crowd}
    {s : SessionId} {raw : String} {f : ClientFrame} {r : Router} {room : RoomId}
    (hstart : (start settings now).run before = c)
    (hhandles : ((before ++ .text s raw :: after).filterMap Act.opens?).Nodup)
    (hcalm : Run.Along step (Calm room) (start settings now) (before ++ .text s raw :: after))
    (hlimit : c.server.settings.historyLimit < 2 ^ 63)
    (hrouter : c.routers.get? s = some r) (hframe : ClientFrame.decode raw = some f) (hjoin : f.event = "join")
    (hroom : f.room = some room) (hne : room ≠ "")
    (hstay : Run.Throughout step (Listens r room) (c.step (.text s raw)) after) :
    ∃ (items : List HistoryItem) (chats : List ChatMessage) (log log' : List Message),
      (c.step (.text s raw)).server.store.recentMessages room (2 ^ 63) = .ok log ∧
      ((c.step (.text s raw)).run after).server.store.recentMessages room (2 ^ 63) = .ok log' ∧
      (c.sent (.text s raw) r.handle).filterMap (Frame.historyIn? room) = [items] ∧
      (arrivals r.handle (c.step (.text s raw)) after).filterMap (Frame.chatIn? room) = chats ∧
      items.length = min c.server.settings.historyLimit log.length ∧
      items.map HistoryItem.said = (log.drop (log.length - c.server.settings.historyLimit)).map Message.said ∧
      items.map (·.isYours) =
        (log.drop (log.length - c.server.settings.historyLimit)).map (·.author == r.user) ∧
      log.map Message.said = (c.step (.text s raw)).server.store.sayings room ∧
      log'.map Message.said = ((c.step (.text s raw)).run after).server.store.sayings room ∧
      log'.map Message.said = log.map Message.said ++ chats.map ChatMessage.said ∧
      items.map HistoryItem.said ++ chats.map ChatMessage.said <:+ log'.map Message.said := by
  obtain ⟨hcalmBefore, hcalmJoin, hcalmAfter⟩ := Run.along_append.1 hcalm
  obtain ⟨ho, hw⟩ := ordered_run (Store.ordered_empty room now) Store.works_empty hcalmBefore
  rw [hstart] at ho hw
  have hthere : before.foldl step (start settings now) = c := hstart
  rw [hthere] at hcalmJoin hcalmAfter
  obtain ⟨new, htells⟩ := tells_step ho hw hcalmJoin
  have ho' := htells.ordered
  have hw' := hcalmJoin.works
  obtain ⟨ho'', hw''⟩ := ordered_run ho' hw' hcalmAfter
  obtain ⟨items, hitems, hsaid, hyours⟩ :=
    history_of_join hne hrouter hframe hjoin hroom ho hw hstay.head.live
  -- A join leaves the store alone, so that the history is of the log that the join leaves behind.
  have hstore : (c.step (.text s raw)).server.store = c.server.store := by
    rw [step_text_join hrouter hframe hjoin hroom, Router.join_store]
  have hjoined : (start settings now).run (before ++ [.text s raw]) = c.step (.text s raw) := by
    rw [run_append, hstart, run_cons, run_nil]
  have hgrown : ((c.step (.text s raw)).run after).server.store.sayings room =
      (c.step (.text s raw)).server.store.sayings room ++
        ((arrivals r.handle (c.step (.text s raw)) after).filterMap (Frame.chatIn? room)).map ChatMessage.said :=
    sayings_run hjoined (by rwa [List.append_assoc]) ho' hw' hcalmAfter hstay
  have hlog : ∀ {sv : Server}, sv.store.Works → sv.store.Ordered room sv.now →
      sv.store.recentMessages room (2 ^ 63) = .ok ((sv.store.rows room).map StoredMessage.load) := fun hw ho => by
    rw [Store.recentMessages_eq hw ho, Store.lastOf_unlimited]
  have hsayings : ∀ store : Store, ((store.rows room).map StoredMessage.load).map Message.said = store.sayings room :=
    fun store => List.map_map
  rw [Store.lastOf_eq_drop hlimit] at hsaid hyours
  have hlength := congrArg List.length hsaid
  refine ⟨items, _, _, _, hlog hw' ho', hlog hw'' ho'', hitems, rfl, ?_, ?_, ?_, hsayings _, hsayings _, ?_, ?_⟩
  · simp only [List.length_map, List.length_drop] at hlength ⊢
    rw [hstore, hlength]
    omega
  · rw [hstore, hsaid, List.length_map, ← List.map_drop, List.map_map]
    rfl
  · rw [hstore, hyours, List.length_map, ← List.map_drop, List.map_map]
    rfl
  · rw [hsayings, hsayings, hgrown]
  · rw [hsayings, hgrown, hsaid, hstore, Store.sayings, List.map_drop]
    exact List.suffix_append_self_iff.2 (List.drop_suffix ..)

/-- One message before the join, two after it, and the clock moves between them. The history has the first, the chats
are the other two. -/
theorem history_then_live_two_clients :
    let join := "\x7b\"event\":\"join\",\"room\":\"r\"\x7d"
    let chat := "\x7b\"event\":\"chat\",\"text\":\"hi\"\x7d"
    let before : List Act :=
      [.connect 1 10 7 "ann" none, .connect 2 20 8 "bob" none, .text 2 join, .text 2 chat]
    let after : List Act := [.clock 5, .text 2 chat, .receive 10, .text 2 chat]
    let c := (start .default 0).run before
    let items : List HistoryItem := [⟨1, "r", some "hi", none, none, "bob", 0, false, false, none⟩]
    let chats : List ChatMessage :=
      [⟨2, "r", some "hi", none, none, "bob", 5, false, none⟩, ⟨3, "r", some "hi", none, none, "bob", 5, false, none⟩]
    ((before ++ .text 1 join :: after).filterMap Act.opens?).Nodup ∧
    Run.Along step (Calm "r") (start .default 0) (before ++ .text 1 join :: after) ∧
    (c.sent (.text 1 join) 10).filterMap (Frame.historyIn? "r") = [items] ∧
    (arrivals 10 (c.step (.text 1 join)) after).filterMap (Frame.chatIn? "r") = chats ∧
    ∃ log', ((c.step (.text 1 join)).run after).server.store.recentMessages "r" (2 ^ 63) = .ok log' ∧
      log'.length = 3 ∧ items.map HistoryItem.said ++ chats.map ChatMessage.said = log'.map Message.said := by
  intro join chat before after c items chats
  have hhandles : ((before ++ .text 1 join :: after).filterMap Act.opens?).Nodup := by decide +kernel +zetaReduce
  have hcalm : Run.Along step (Calm "r") (start .default 0) (before ++ .text 1 join :: after) := by
    decide +kernel +zetaReduce
  have hrouter : c.routers.get? 1 = some ⟨1, 7, "ann", 10, none, none, false⟩ := by decide +kernel +zetaReduce
  have hframe : ClientFrame.decode join = some ⟨"join", some "r", none, none, none, none, none⟩ := by
    decide +kernel +zetaReduce
  have hstay : Run.Throughout step (Listens ⟨1, 7, "ann", 10, none, none, false⟩ "r") (c.step (.text 1 join))
      after := by
    decide +kernel +zetaReduce
  have hlimit : c.server.settings.historyLimit < 2 ^ 63 := by decide +kernel +zetaReduce
  have hhistory : (c.sent (.text 1 join) 10).filterMap (Frame.historyIn? "r") = [items] := by
    decide +kernel +zetaReduce
  have hlive : (arrivals 10 (c.step (.text 1 join)) after).filterMap (Frame.chatIn? "r") = chats := by
    decide +kernel +zetaReduce
  have hsayings : (((c.step (.text 1 join)).run after).server.store.sayings "r").length = 3 := by
    decide +kernel +zetaReduce
  obtain ⟨items', chats', _, log', -, hlog', hitems, hchats, -, -, -, -, hlogged, -, hsuffix⟩ :=
    history_then_live rfl hhandles hcalm hlimit hrouter hframe rfl rfl (by decide) hstay
  obtain rfl : items' = items := List.singleton_inj.1 (hitems.symm.trans hhistory)
  obtain rfl : chats' = chats := hchats.symm.trans hlive
  have hlength : (log'.map Message.said).length = 3 := by rw [hlogged, hsayings]
  refine ⟨hhandles, hcalm, hhistory, hlive, log', hlog', by rwa [List.length_map] at hlength, ?_⟩
  exact hsuffix.eq_of_length (by rw [hlength]; rfl)

end Crowd

end DirectChat
