import DirectChat.Proofs.Chat.Replies
/-!
# Where voice notes are fetched from

The address of a voice note is made when a message is shown, from the settings and the host that some connection asked
for. A history is made for one client, and by that client's own router; a chat is made once, by the router of the
sender, for everybody in the room. So the two agree for a receiver when the server has a public address, and else only
for those who asked for the same host as the sender (`voice_addresses`): one client's host decides from where the others
fetch (`fetches_where_the_sender_says`).
-/

namespace DirectChat

/-! ## Addresses -/

/-- Without a public address, an empty host is as good as none. -/
theorem voiceUrl_without_base {file : String} (hfile : file ≠ "") (host : Option String) :
    voiceUrl none host file =
      some ((if host.getD "" = "" then "" else "http://" ++ host.getD "") ++ ("/uploads/voices/" ++ file)) := by
  unfold voiceUrl
  rw [if_neg hfile, ← String.append_assoc]
  cases host with
  | none => rfl
  | some host => rfl

theorem voiceUrl_eq_iff {file : String} (hfile : file ≠ "") (base host host' : Option String) :
    voiceUrl base host file = voiceUrl base host' file ↔ base ≠ none ∨ host.getD "" = host'.getD "" := by
  cases base with
  | some base => simp [voiceUrl]
  | none =>
    rw [voiceUrl_without_base hfile, voiceUrl_without_base hfile, Option.some_inj]
    simp only [ne_eq, not_true_eq_false, false_or]
    constructor
    · intro h
      have hsite := (String.append_left_inj _).1 h
      by_cases hhost : host.getD "" = "" <;> by_cases hhost' : host'.getD "" = ""
      · rw [hhost, hhost']
      · simp [hhost, hhost'] at hsite
      · simp [hhost, hhost'] at hsite
      · rw [if_neg hhost, if_neg hhost'] at hsite
        exact (String.append_right_inj _).1 hsite
    · intro h
      rw [h]

theorem bind_voiceUrl_eq_iff (voice base host host' : Option String) :
    voice.bind (voiceUrl base host) = voice.bind (voiceUrl base host') ↔
      voice.bind (voiceUrl base host') = none ∨ base ≠ none ∨ host.getD "" = host'.getD "" := by
  cases voice with
  | none => simp
  | some file =>
    rw [Option.bind_some, Option.bind_some]
    by_cases hfile : file = ""
    · simp [voiceUrl, hfile]
    · rw [voiceUrl_eq_iff hfile]
      have hthere : voiceUrl base host' file ≠ none := by simp [voiceUrl, hfile]
      exact (or_iff_right hthere).symm

/-! ## Settings -/

namespace Router

theorem close_settings (r : Router) (sv : Server) : (r.close sv).2.settings = sv.settings := by
  unfold close
  split
  · rfl
  · dsimp only
    split <;> exact leave_settings _ sv

theorem finish_settings (r : Router) (rest : Rest) (sv : Server) : (r.finish rest sv).settings = sv.settings := by
  cases rest with
  | history room =>
    unfold finish sendHistory
    dsimp only
    split <;> rfl
  | _ => rfl

theorem takeUp_settings (r : Router) (f : ClientFrame) (sv : Server) :
    (r.takeUp f sv).server.settings = sv.settings := by
  have htakes := r.takesUp f sv
  generalize r.takeUp f sv = u at htakes
  cases htakes with
  | enters room => exact r.enter_settings room sv
  | leaves => exact r.leave_settings sv
  | _ => rfl

end Router

theorem Crowd.settings_act {c : Crowd} {a : Act} (hparts : ¬ a.InParts) :
    (c.step a).server.settings = c.server.settings := by
  have hact : ∀ (s : SessionId) {f : Router → Server → Router × Server},
      (∀ r : Router, (f r c.server).2.settings = c.server.settings) →
        (c.act s f).server.settings = c.server.settings :=
    fun s f hf => c.act_server s (P := fun sv => sv.settings = c.server.settings) rfl fun r _ => hf r
  cases a with
  | text | enter | sendHistory | announceChat | put => exact absurd trivial hparts
  | connect s handle user username host =>
    obtain ⟨pending, hserver⟩ := c.connect_server s handle user username host
    rw [Crowd.step, hserver]
  | welcome s => exact hact s fun _ => rfl
  | leave s => exact hact s fun r => r.leave_settings _
  | close s | drop s => exact hact s fun r => r.close_settings _
  | store | kill | receive | clock | giveUp => rfl
  | lookUp n => rw [Crowd.step, Crowd.lookUp_server]
  | sendOut n =>
    rw [Crowd.step, Crowd.sendOut]
    split <;> rfl

namespace Traffic

theorem settings_step (t : Traffic) (mv : Move) : (t.step mv).crowd.server.settings = t.crowd.server.settings := by
  have hcase := t.step_cases mv
  generalize t.step mv = t' at hcase
  cases hcase with
  | act a hparts => exact Crowd.settings_act hparts
  | takeUp s raw f r => exact r.takeUp_settings f t.crowd.server
  | finish s task r => exact r.finish_settings task.rest t.crowd.server
  | idle => rfl

/-- A server keeps the settings that it was started with. -/
theorem settings_run (t : Traffic) (moves : List Move) : (t.run moves).crowd.server.settings = t.crowd.server.settings := by
  induction moves using List.reverseRecOn with
  | nil => rfl
  | append_singleton moves mv ih => rw [run_snoc, settings_step, ih]

/-! ## The same note, live and in the history -/

variable {settings : ChatSettings} {now : Int}

/-- A chat has the address that the router of its sender gives it, whoever receives it. -/
theorem address_of_chat {before : List Move} {mv : Move} {h : Handle} {chat : ChatMessage}
    (hchat : .event (.chat chat) ∈ ((start settings now).run before).sent mv h) :
    ∃ s sender, mv = .finish s ∧ ((start settings now).run before).crowd.routers.get? s = some sender ∧
      .act (.connect s sender.handle sender.user sender.username sender.host) ∈ before ∧
      chat.voiceUrl = chat.voice.bind (voiceUrl settings.baseUrl sender.host) := by
  obtain ⟨s, f, m, sender, hmv, hrouter, -, rfl⟩ := announced_of_chat (coupled_of_start settings now before) hchat
  refine ⟨s, sender, hmv, hrouter, connect_of_router hrouter, ?_⟩
  have hsettings := (start settings now).settings_run before
  show m.voice.bind (voiceUrl ((start settings now).run before).crowd.server.settings.baseUrl sender.host) = _
  rw [hsettings]
  rfl

/-- An item of a history has the address that the receiver's own host gives it. -/
theorem address_of_item {before after : List Move} {mv : Move} {s : SessionId} {h : Handle} {user : UserId}
    {username : String} {host : Option String} {room : RoomId} {items : List HistoryItem} {other : Option Profile}
    {ts : Int} {item : HistoryItem} (hhandles : ((before ++ after).filterMap Move.opens?).Nodup)
    (hconnect : .act (.connect s h user username host) ∈ before ++ after)
    (hhistory : .event (.history room items other ts) ∈ ((start settings now).run before).sent mv h)
    (hitem : item ∈ items) : item.voiceUrl = item.voice.bind (voiceUrl settings.baseUrl host) := by
  obtain ⟨s', r, messages, hrouter, hhandle, -, rfl⟩ := read_of_history (coupled_of_start settings now before) hhistory
  obtain ⟨m, -, rfl⟩ := List.mem_map.1 hitem
  obtain ⟨-, -, rfl⟩ := router_of_handle hhandles hconnect hrouter hhandle
  have hsettings := (start settings now).settings_run before
  show m.voice.bind (voiceUrl ((start settings now).run before).crowd.server.settings.baseUrl r.host) = _
  rw [hsettings]
  rfl

/-- A message that was heard as a chat is shown in later histories with the same voice note. -/
theorem voice_of_item {before between : List Move} {mv mv' : Move} {h h' : Handle} {chat : ChatMessage} {room : RoomId}
    {items : List HistoryItem} {other : Option Profile} {ts : Int} {item : HistoryItem}
    (hproper : Run.Along step Proper (start settings now) (before ++ mv :: between))
    (hchat : .event (.chat chat) ∈ ((start settings now).run before).sent mv h)
    (hhistory : .event (.history room items other ts) ∈ ((start settings now).run (before ++ mv :: between)).sent mv' h')
    (hitem : item ∈ items) (hid : item.id = chat.id) : item.voice = chat.voice := by
  obtain ⟨hbefore, hbetween⟩ := Run.along_append.1 hproper
  obtain ⟨hkept, -⟩ := (kept_start settings now).run hbefore
  obtain ⟨s, f, m, htask, hroom, hsaid⟩ := inHand_of_chat (coupled_of_start settings now before) hchat
  -- The message is in the store when it is announced, and what the store says of it stays until the history is read.
  have hstored := hkept.saved s f m htask
  rw [← hroom, ← hsaid] at hstored
  obtain ⟨hkept', hgrown⟩ := hkept.run hbetween
  rw [← run_append] at hkept' hgrown
  obtain ⟨s', r, messages, -, -, hrecent, rfl⟩ := read_of_history (coupled_of_start settings now _) hhistory
  obtain ⟨m', hm', rfl⟩ := List.mem_map.1 hitem
  obtain ⟨-, heq⟩ := hkept'.numbered.said_of_recentMessages (hgrown chat.room hstored) hrecent hm' hid
  exact congrArg Said.voice heq

/-- **The address of a voice note is the receiver's in the history, and the sender's live.** Take any run in which every
connection has a queue of its own and the messages stay in the store, a connection, a chat that is put into its queue
and an item of a later history there that shows the same message. The item has the chat's voice note, under the public
address of the server, else under the host that this connection asked for, else under none. The chat has it under the
public address, else under the host that the connection of its sender asked for. So the two addresses are the same if
and only if there is none, the server has a public address, or both connections asked for the same host. -/
theorem voice_addresses {moves : List Move} (hhandles : (moves.filterMap Move.opens?).Nodup)
    (hproper : Run.Along step Proper (start settings now) moves) {s : SessionId} {h : Handle} {user : UserId}
    {username : String} {host : Option String} (hconnect : .act (.connect s h user username host) ∈ moves)
    {before between after : List Move} {mv mv' : Move} (hmoves : moves = before ++ mv :: (between ++ mv' :: after))
    {chat : ChatMessage} (hchat : .event (.chat chat) ∈ ((start settings now).run before).sent mv h)
    {room : RoomId} {items : List HistoryItem} {other : Option Profile} {ts : Int} {item : HistoryItem}
    (hhistory : .event (.history room items other ts) ∈ ((start settings now).run (before ++ mv :: between)).sent mv' h)
    (hitem : item ∈ items) (hid : item.id = chat.id) :
    item.voice = chat.voice ∧ item.voiceUrl = chat.voice.bind (voiceUrl settings.baseUrl host) ∧
      ∃ s' sender, mv = .finish s' ∧ ((start settings now).run before).crowd.routers.get? s' = some sender ∧
        .act (.connect s' sender.handle sender.user sender.username sender.host) ∈ before ∧
        chat.voiceUrl = chat.voice.bind (voiceUrl settings.baseUrl sender.host) ∧
        (item.voiceUrl = chat.voiceUrl ↔
          chat.voiceUrl = none ∨ settings.baseUrl ≠ none ∨ host.getD "" = sender.host.getD "") := by
  have hsplit : moves = (before ++ mv :: between) ++ mv' :: after := by
    rw [hmoves, List.append_assoc, List.cons_append]
  rw [hsplit] at hhandles hproper hconnect
  have hvoice := voice_of_item (Run.along_append.1 hproper).1 hchat hhistory hitem hid
  have haddress := address_of_item hhandles hconnect hhistory hitem
  rw [hvoice] at haddress
  obtain ⟨s', sender, hmv, hrouter, hsender, hlive⟩ := address_of_chat hchat
  refine ⟨hvoice, haddress, s', sender, hmv, hrouter, hsender, hlive, ?_⟩
  rw [haddress, hlive]
  exact bind_voiceUrl_eq_iff chat.voice settings.baseUrl host sender.host

/-- Ann and Bob ask for different hosts and join a room; Ann sends a voice note, and Bob joins again. -/
def twoHosts : List Move :=
  let join := "\x7b\"event\":\"join\",\"room\":\"r\"\x7d"
  let note := "\x7b\"event\":\"chat\",\"voice\":\"a.ogg\"\x7d"
  [.act (.connect 1 10 7 "ann" (some "localhost:3001")), .act (.connect 2 20 8 "bob" (some "chat.example.com")),
    .takeUp 1 join, .finish 1, .takeUp 2 join, .finish 2, .takeUp 1 note, .finish 1, .takeUp 2 join, .finish 2]

/-- With a public address, Bob is given the same address twice. -/
theorem voice_addresses_public :
    let settings : ChatSettings := ⟨some "https://chat.example.com", 50, 5, "./uploads"⟩
    let chat : ChatMessage :=
      ⟨1, "r", none, some "a.ogg", some "https://chat.example.com/uploads/voices/a.ogg", "ann", 0, false, none⟩
    let item : HistoryItem :=
      ⟨1, "r", none, some "a.ogg", some "https://chat.example.com/uploads/voices/a.ogg", "ann", 0, false, false, none⟩
    (twoHosts.filterMap Move.opens?).Nodup ∧ Run.Along step Proper (start settings 0) twoHosts ∧
      .act (.connect 2 20 8 "bob" (some "chat.example.com")) ∈ twoHosts ∧
      .event (.chat chat) ∈ ((start settings 0).run (twoHosts.take 7)).sent (.finish 1) 20 ∧
      .event (.history "r" [item] none 0) ∈ ((start settings 0).run (twoHosts.take 9)).sent (.finish 2) 20 ∧
      item.id = chat.id ∧ item.voiceUrl = chat.voiceUrl := by
  intro settings chat item
  have hhandles : (twoHosts.filterMap Move.opens?).Nodup := by decide +kernel +zetaReduce
  have hproper : Run.Along step Proper (start settings 0) twoHosts := by decide +kernel +zetaReduce
  have hconnect : .act (.connect 2 20 8 "bob" (some "chat.example.com")) ∈ twoHosts := by simp [twoHosts]
  have hmoves : twoHosts = twoHosts.take 7 ++ .finish 1 :: ((twoHosts.take 9).drop 8 ++ .finish 2 :: []) := rfl
  have hchat : .event (.chat chat) ∈ ((start settings 0).run (twoHosts.take 7)).sent (.finish 1) 20 := by
    decide +kernel +zetaReduce
  have hhistory :
      .event (.history "r" [item] none 0) ∈ ((start settings 0).run (twoHosts.take 9)).sent (.finish 2) 20 := by
    decide +kernel +zetaReduce
  obtain ⟨-, -, s', sender, -, -, -, -, hsame⟩ :=
    voice_addresses hhandles hproper hconnect hmoves hchat hhistory (List.mem_singleton_self item) rfl
  exact ⟨hhandles, hproper, hconnect, hchat, hhistory, rfl, hsame.2 (.inr (.inl (by simp [settings])))⟩

/-- Without one, Bob is told to fetch the note from the host that Ann asked for, and from his own when he asks again. -/
theorem fetches_where_the_sender_says :
    let chat : ChatMessage :=
      ⟨1, "r", none, some "a.ogg", some "http://localhost:3001/uploads/voices/a.ogg", "ann", 0, false, none⟩
    let item : HistoryItem :=
      ⟨1, "r", none, some "a.ogg", some "http://chat.example.com/uploads/voices/a.ogg", "ann", 0, false, false, none⟩
    .act (.connect 2 20 8 "bob" (some "chat.example.com")) ∈ twoHosts ∧
      .event (.chat chat) ∈ ((start .default 0).run (twoHosts.take 7)).sent (.finish 1) 20 ∧
      .event (.history "r" [item] none 0) ∈ ((start .default 0).run (twoHosts.take 9)).sent (.finish 2) 20 ∧
      item.id = chat.id ∧ item.voice = chat.voice ∧
      item.voiceUrl = item.voice.bind (voiceUrl ChatSettings.default.baseUrl (some "chat.example.com")) ∧
      chat.voiceUrl ≠ chat.voice.bind (voiceUrl ChatSettings.default.baseUrl (some "chat.example.com")) ∧
      item.voiceUrl ≠ chat.voiceUrl := by
  intro chat item
  refine ⟨by simp [twoHosts], ?_, ?_, rfl, rfl, ?_, ?_, ?_⟩ <;> decide +kernel +zetaReduce

end Traffic

end DirectChat
