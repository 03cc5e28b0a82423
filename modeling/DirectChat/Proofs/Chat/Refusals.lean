import DirectChat.Proofs.Chat.Isolation
/-!
# Frames that come to nothing, and stores that fail

What a router can make nothing of, it passes over: neither it nor the server is changed (`Router.Ignores`,
`handleText_of_ignored`). When the store fails, it is as it was, and what else is done depends on the frame. A chat
is dropped before anybody hears of it; a receipt and a list are answered to their sender alone; a join has
already moved the session to its room, so that all it lacks is the history (`refusals_and_failures`).
-/

namespace DirectChat

/-! ## One frame for one session -/

namespace Server

/-- An event is put into the queue behind a handle, if someone receives there, and nothing else happens. -/
structure Answers (sv sv' : Server) (h : Handle) (e : Event) : Prop where
  rest : sv' = { sv with mail := sv'.mail }
  live : ∀ k, sv'.mail.isLive k = sv.mail.isLive k
  waiting : ∀ k, sv'.mail.waiting k =
    sv.mail.waiting k ++ if k = h ∧ sv.mail.isLive k = true then [.event e] else []

theorem answers_send (sv : Server) (h : Handle) (e : Event) : sv.Answers (sv.send h e) h e where
  rest := rfl
  live := sv.mail.isLive_send h (.event e)
  waiting := sv.mail.waiting_send h (.event e)

end Server

namespace Router

/-- An optional text is not there, or empty. -/
def SaysNothing (text : Option String) : Prop := text = none ∨ text = some ""

instance (text : Option String) : Decidable (SaysNothing text) := inferInstanceAs (Decidable (_ ∨ _))

theorem filter_eq_none_iff {text : Option String} : text.filter (· ≠ "") = none ↔ SaysNothing text := by
  cases text with
  | none => simp [SaysNothing]
  | some t => by_cases ht : t = "" <;> simp [SaysNothing, Option.filter, ht]

/-! ## Frames that are passed over -/

/-- The events that a router knows. -/
def events : List String := ["join", "leave", "chat", "seen", "list"]

/-- The frames that a router passes over where it stands. -/
inductive Ignores (r : Router) (f : ClientFrame) : Prop
  | unknown (hevent : f.event ∉ events)
  | nowhere (hevent : f.event = "join") (hroom : SaysNothing f.room)
  | outside (hevent : f.event = "leave" ∨ f.event = "chat") (hroom : r.room = none)
  | unplaced (hevent : f.event = "seen") (hroom : r.room = none) (hnamed : SaysNothing f.room)
  | undated (hevent : f.event = "seen") (hts : f.timestamp = none ∨ f.timestamp = some 0)

variable {r : Router} {f : ClientFrame} {sv : Server} {raw : String}

theorem handleText_eq (hframe : ClientFrame.decode raw = some f) : r.handleText raw sv = r.dispatch f sv := by
  rw [handleText, hframe]

theorem seenRoom_eq_none (hroom : r.room = none) {named : Option RoomId} (hnamed : SaysNothing named) :
    r.seenRoom named = none := by
  simp only [seenRoom, hroom]
  exact filter_eq_none_iff.2 hnamed

/-- What a router passes over changes nothing. -/
theorem dispatch_of_ignored (h : r.Ignores f) : r.dispatch f sv = (r, sv) := by
  cases h with
  | unknown hevent =>
    simp only [events, List.mem_cons, List.not_mem_nil, or_false, not_or] at hevent
    unfold dispatch
    split <;> simp_all
  | nowhere hevent hroom =>
    have hnone : f.room.getD "" = "" := by rcases hroom with hroom | hroom <;> rw [hroom] <;> rfl
    simp only [dispatch, hevent, join, hnone, if_pos]
  | outside hevent hroom =>
    rcases hevent with hevent | hevent
    · simp only [dispatch, hevent, leave_of_none hroom]
    · simp only [dispatch, hevent, chat, hroom]
  | unplaced hevent hroom hnamed =>
    simp only [dispatch, hevent, seen, seenRoom_eq_none hroom hnamed]
  | undated hevent hts =>
    have hnone : f.timestamp.filter (· ≠ 0) = none := by rcases hts with hts | hts <;> rw [hts] <;> rfl
    simp only [dispatch, hevent, seen, hnone]
    cases r.seenRoom f.room <;> rfl

/-! ## Chats -/

/-- A chat without a text and without a voice note is answered with a complaint. -/
theorem dispatch_of_empty (hevent : f.event = "chat") (hroom : r.room ≠ none) (htext : SaysNothing f.text)
    (hvoice : SaysNothing f.voice) : r.dispatch f sv = (r, r.reply (.error emptyMessageText) sv) := by
  obtain ⟨room, hroom⟩ := Option.ne_none_iff_exists'.1 hroom
  have hempty : (f.text.filter (· ≠ "")).isNone ∧ (f.voice.filter (· ≠ "")).isNone := by
    rw [filter_eq_none_iff.2 htext, filter_eq_none_iff.2 hvoice]
    exact ⟨rfl, rfl⟩
  simp only [dispatch, hevent, chat, hroom, if_pos hempty]

/-- The message that a chat in a room asks the store to save. -/
def messageOf (r : Router) (f : ClientFrame) (room : RoomId) (s : Store) : NewMessage :=
  ⟨room, r.user, r.username, f.text.filter (· ≠ ""), f.voice.filter (· ≠ ""), resolveReply room f.replyTo f.replyToId s⟩

/-- A chat that cannot be saved changes nothing. -/
theorem dispatch_of_unsaved (hevent : f.event = "chat") {room : RoomId} (hroom : r.room = some room)
    (hcontent : ¬ (SaysNothing f.text ∧ SaysNothing f.voice)) {e : StoreError}
    (hsave : sv.store.saveMessage (r.messageOf f room sv.store) sv.now = .error e) : r.dispatch f sv = (r, sv) := by
  have hfull : ¬ ((f.text.filter (· ≠ "")).isNone ∧ (f.voice.filter (· ≠ "")).isNone) := by
    intro hempty
    simp only [Option.isNone_iff_eq_none, filter_eq_none_iff] at hempty
    exact hcontent hempty
  have hfails : r.saveChat room (f.text.filter (· ≠ "")) (f.voice.filter (· ≠ "")) f.replyTo f.replyToId sv = .error e := by
    rw [messageOf] at hsave
    simp only [saveChat, hsave]
    rfl
  simp only [dispatch, hevent, chat, hroom, if_neg hfull, hfails]

/-! ## Receipts and lists -/

/-- A receipt that cannot be recorded is answered with the reason. -/
theorem dispatch_of_unmarked (hevent : f.event = "seen") {room : RoomId} (hroom : r.seenRoom f.room = some room)
    {ts : Int} (hts : f.timestamp = some ts) (hne : ts ≠ 0) {e : StoreError}
    (hmark : sv.store.markSeen room r.user (seenMillis ts) = .error e) :
    r.dispatch f sv = (r, r.reply (.seenFailed room e.message 0 ts) sv) := by
  have hdated : f.timestamp.filter (· ≠ 0) = some ts := by simp [hts, hne]
  simp only [dispatch, hevent, seen, hroom, hdated, hmark]

/-- A list that cannot be looked up is answered as an empty one. -/
theorem dispatch_of_unlisted (hevent : f.event = "list") {e : StoreError} (hlist : sv.store.userRooms r.user = .error e) :
    r.dispatch f sv = (r, r.reply (.list []) sv) := by
  simp only [dispatch, hevent, list, hlist, List.map_nil]

/-! ## Joins -/

variable {room : RoomId}

theorem dispatch_join (hevent : f.event = "join") (hroom : f.room = some room) (hne : room ≠ "") (sv : Server) :
    r.dispatch f sv = ((r.enter room sv).1, (r.enter room sv).1.sendHistory room (r.enter room sv).2) := by
  simp only [dispatch, hevent, hroom, Option.getD_some, join, if_neg hne]

/-- A join whose history cannot be read is a join without the history. -/
theorem dispatch_of_unread (hevent : f.event = "join") (hroom : f.room = some room) (hne : room ≠ "") {e : StoreError}
    (hread : sv.store.recentMessages room sv.settings.historyLimit = .error e) :
    r.dispatch f sv = r.enter room sv := by
  have hsame : (r.enter room sv).2.store.recentMessages room (r.enter room sv).2.settings.historyLimit = .error e := by
    rw [enter_store, enter_settings]
    exact hread
  rw [dispatch_join hevent hroom hne, sendHistory, hsame]

/-- Before a store that gives the history, the same join does the same and shows it. -/
theorem dispatch_of_read (hevent : f.event = "join") (hroom : f.room = some room) (hne : room ≠ "") {store : Store}
    {messages : List Message} (hread : store.recentMessages room sv.settings.historyLimit = .ok messages) :
    (r.dispatch f { sv with store }).1 = (r.enter room sv).1 ∧
      ∃ items other, { (r.enter room sv).2 with store }.Answers (r.dispatch f { sv with store }).2 r.handle
        (.history room items other sv.now) := by
  have hnow : (r.enter room sv).2.now = sv.now := (r.enter_quiet room sv room).now
  have hsame : store.recentMessages room (r.enter room sv).2.settings.historyLimit = .ok messages := by
    rw [enter_settings]
    exact hread
  rw [dispatch_join hevent hroom hne, enter_withStore]
  refine ⟨rfl, messages.map ((r.enter room sv).1.historyItem { (r.enter room sv).2 with store }),
    (r.enter room sv).1.otherProfile room store, ?_⟩
  simp only [sendHistory, hsame, enter_fst, ← hnow]
  exact Server.answers_send _ r.handle _

/-! ## All of it -/

/-- **Refusals and failures.** Let a router handle any text, in any state of the server. A text that is no frame, or a
frame that the router passes over, changes nothing at all; an empty chat is answered with a complaint to its
sender. When the store cannot save a chat, nothing at all is changed; when it cannot mark messages or look up rooms,
the sender gets one failed receipt or one empty list and nothing else happens; when it cannot give a history, the join
does all that it does before any store that can, but for the store and for the one history frame. -/
theorem refusals_and_failures (r : Router) (raw : String) (sv : Server) :
    (ClientFrame.decode raw = none → r.handleText raw sv = (r, sv)) ∧
    ∀ f, ClientFrame.decode raw = some f →
      (r.Ignores f → r.handleText raw sv = (r, sv)) ∧
      (f.event = "chat" → r.room ≠ none → SaysNothing f.text → SaysNothing f.voice →
        (r.handleText raw sv).1 = r ∧ sv.Answers (r.handleText raw sv).2 r.handle (.error emptyMessageText)) ∧
      (∀ room e, f.event = "chat" → r.room = some room → ¬ (SaysNothing f.text ∧ SaysNothing f.voice) →
        sv.store.saveMessage (r.messageOf f room sv.store) sv.now = .error e → r.handleText raw sv = (r, sv)) ∧
      (∀ room ts e, f.event = "seen" → r.seenRoom f.room = some room → f.timestamp = some ts → ts ≠ 0 →
        sv.store.markSeen room r.user (seenMillis ts) = .error e →
        (r.handleText raw sv).1 = r ∧
          sv.Answers (r.handleText raw sv).2 r.handle (.seenFailed room e.message 0 ts)) ∧
      (∀ e, f.event = "list" → sv.store.userRooms r.user = .error e →
        (r.handleText raw sv).1 = r ∧ sv.Answers (r.handleText raw sv).2 r.handle (.list [])) ∧
      ∀ room e, f.event = "join" → f.room = some room → room ≠ "" →
        sv.store.recentMessages room sv.settings.historyLimit = .error e →
        (r.handleText raw sv).2.store = sv.store ∧
        ∀ store messages, store.recentMessages room sv.settings.historyLimit = .ok messages →
          (r.handleText raw { sv with store }).1 = (r.handleText raw sv).1 ∧
            ∃ items other, { (r.handleText raw sv).2 with store }.Answers (r.handleText raw { sv with store }).2 r.handle
              (.history room items other sv.now) := by
  refine ⟨fun hnone => by rw [handleText, hnone], fun f hframe => ?_⟩
  simp only [handleText_eq hframe]
  refine ⟨dispatch_of_ignored, ?_, ?_, ?_, ?_, ?_⟩
  · intro hevent hroom htext hvoice
    rw [dispatch_of_empty hevent hroom htext hvoice]
    exact ⟨rfl, sv.answers_send r.handle _⟩
  · intro room e hevent hroom hcontent hsave
    exact dispatch_of_unsaved hevent hroom hcontent hsave
  · intro room ts e hevent hroom hts hne hmark
    rw [dispatch_of_unmarked hevent hroom hts hne hmark]
    exact ⟨rfl, sv.answers_send r.handle _⟩
  · intro e hevent hlist
    rw [dispatch_of_unlisted hevent hlist]
    exact ⟨rfl, sv.answers_send r.handle _⟩
  · intro room e hevent hroom hne hread
    rw [dispatch_of_unread hevent hroom hne hread]
    exact ⟨r.enter_store room sv, fun store messages hgives => dispatch_of_read hevent hroom hne hgives⟩

/-- A client in a room before a locked store: it writes, says what it has seen, asks for its rooms, and goes to another
room, of which a store that works would show it the one message. -/
theorem refusals_and_failures_locked :
    let connected := connect 1 10 7 "ann" none { Server.start .default 5 with mail := Mailroom.openQueue .empty 10 }
    let entered := connected.1.enter "q" connected.2
    let r := entered.1
    let sv := { entered.2 with store := entered.2.store.poison }
    let chat := "\x7b\"event\":\"chat\",\"text\":\"hi\",\"reply_to_id\":4\x7d"
    let seen := "\x7b\"event\":\"seen\",\"timestamp\":3\x7d"
    let list := "\x7b\"event\":\"list\"\x7d"
    let join := "\x7b\"event\":\"join\",\"room\":\"r\"\x7d"
    let store := { Store.empty with messages := [⟨1, "r", 8, "bob", some "hello", none, false, none, 4⟩], lastMessage := 1 }
    r.handleText "hi" sv = (r, sv) ∧ r.handleText chat sv = (r, sv) ∧
      sv.Answers (r.handleText seen sv).2 10 (.seenFailed "q" "database lock poisoned" 0 3) ∧
      sv.Answers (r.handleText list sv).2 10 (.list []) ∧
      (r.handleText join { sv with store }).1 = (r.handleText join sv).1 ∧
      ∃ items other, { (r.handleText join sv).2 with store }.Answers (r.handleText join { sv with store }).2 10
        (.history "r" items other 5) := by
  intro connected entered r sv chat seen list join store
  have hhandle : r.handle = 10 := rfl
  obtain ⟨-, hchat⟩ := refusals_and_failures r chat sv
  obtain ⟨-, hseen⟩ := refusals_and_failures r seen sv
  obtain ⟨-, hlist⟩ := refusals_and_failures r list sv
  obtain ⟨-, hjoin⟩ := refusals_and_failures r join sv
  obtain ⟨-, -, hunsaved, -⟩ := hchat ⟨"chat", none, some "hi", none, none, some 4, none⟩ (by decide +kernel +zetaReduce)
  obtain ⟨-, -, -, hunmarked, -⟩ := hseen ⟨"seen", none, none, none, none, none, some 3⟩ (by decide +kernel +zetaReduce)
  obtain ⟨-, -, -, -, hunlisted, -⟩ := hlist ⟨"list", none, none, none, none, none, none⟩ (by decide +kernel +zetaReduce)
  obtain ⟨-, -, -, -, -, hunread⟩ := hjoin ⟨"join", some "r", none, none, none, none, none⟩ (by decide +kernel +zetaReduce)
  obtain ⟨-, hread⟩ := hunread "r" .lockPoisoned rfl rfl (by decide) rfl
  refine ⟨(refusals_and_failures r "hi" sv).1 (by decide +kernel), ?_, ?_, ?_, hread store _ rfl⟩
  · exact hunsaved "q" .lockPoisoned rfl rfl (by decide) rfl
  · exact (hunmarked "q" 3 .lockPoisoned rfl rfl rfl (by decide) rfl).2
  · exact (hunlisted .lockPoisoned rfl rfl).2

end Router

end DirectChat
