import DirectChat.Proofs.Chat.Traffic
/-!
# Why an event is sent

Events leave the server in few ways: as a word to one client, as news to the sessions in a room, as the
answer to a frame, and as a notification. `Causes` lists them with all that is so when a move sends an
event in that way, and every event that a move puts into a queue has one of these causes (`causes_step`). What an
act that is done whole can send at all is said once before that (`Crowd.sends_act`).
-/

namespace DirectChat

/-- The room that an event is news of. -/
def Event.newsOf? : Event → Option RoomId
  | .join room .. | .leave room .. | .messagesSeen room .. => some room
  | .chat m => some m.room
  | _ => none

/-- A word of the server about nobody and no room. -/
def Event.IsWord : Event → Prop
  | .connected _ | .error _ => True
  | _ => False

/-- News of a room for a session in it, not from that session itself. -/
def Told (f : SessionId → Option SessionEntry) (sender : Option SessionId) (h : Handle) (fr : Frame) : Prop :=
  ∃ e room s entry, fr = .event e ∧ e.newsOf? = some room ∧ some s ≠ sender ∧ f s = some entry ∧
    entry.room = some room ∧ entry.handle = h

variable {f : SessionId → Option SessionEntry} {sv : Server}

theorem Told.of_update {s : SessionId} {entry : Option SessionEntry} {h : Handle} {fr : Frame}
    (ht : Told (Function.update f s entry) (some s) h fr) : Told f (some s) h fr := by
  obtain ⟨e, room, s', entry', he, hnews, hs, hentry, hrest⟩ := ht
  rw [Function.update_of_ne fun h => hs (congrArg some h)] at hentry
  exact ⟨e, room, s', entry', he, hnews, hs, hentry, hrest⟩

/-- What is announced in a room is told the sessions in it. -/
theorem Server.announce_grows (sv : Server) (hf : sv.registry.Shows f) {room : RoomId} {e : Event}
    (he : e.newsOf? = some room) (exclude : Option SessionId) :
    sv.mail.Grows (Told f exclude) (sv.announce room e exclude).mail := by
  refine sv.mail.grows_sendAll fun h hh => ?_
  obtain ⟨⟨s, entry⟩, hin, rfl⟩ := List.mem_map.1 hh
  obtain ⟨hs, hentry⟩ := hf.mem_entriesOf.1 hin
  obtain ⟨hmember, hne⟩ := List.mem_filter.1 hs
  rw [hf.mem_members, hentry] at hmember
  exact ⟨e, room, s, entry, rfl, he, of_decide_eq_true hne, hentry, hmember, rfl⟩

namespace Router

/-! ## What a router sends -/

theorem leave_grows (hf : sv.registry.Shows f) (r : Router) :
    sv.mail.Grows (Told f (some r.session)) (r.leave sv).2.mail := by
  cases hroom : r.room with
  | none =>
    rw [leave_of_none hroom]
    exact .refl _ _
  | some room =>
    have hleft := hf.leave room r.session
    rw [leave, hroom]
    refine (Server.announce_grows { sv with registry := sv.registry.leave room r.session } hleft rfl _).mono
      fun h fr => Told.of_update

theorem close_grows (hf : sv.registry.Shows f) (r : Router) :
    sv.mail.Grows (Told f (some r.session)) (r.close sv).2.mail := by
  have hmail : (r.close sv).2.mail = sv.mail ∨ (r.close sv).2.mail = ({ r with closed := true }.leave sv).2.mail := by
    unfold close
    split
    · exact .inl rfl
    · dsimp only
      split <;> exact .inr rfl
  rcases hmail with h | h
  · rw [h]
    exact .refl _ _
  · rw [h]
    exact leave_grows hf { r with closed := true }

/-- What a session is told when a router enters a room. -/
def TellsOfEntry (r : Router) (f : SessionId → Option SessionEntry) (room : RoomId) (h : Handle) (fr : Frame) : Prop :=
  Told f (some r.session) h fr ∨ h = r.handle ∧ ∃ ts, fr = .event (.joined room r.username ts)

theorem enter_grows (hf : sv.registry.Shows f) (r : Router) (room : RoomId) :
    sv.mail.Grows (r.TellsOfEntry f room) (r.enter room sv).2.mail := by
  obtain ⟨entry, hleft⟩ := leave_shows hf r
  have hjoined := hleft.join room r.session
  rw [Function.update_idem] at hjoined
  let joined : Event := .joined room r.username (r.leave sv).2.now
  let inside : Server := { (r.leave sv).2 with
    registry := (r.leave sv).2.registry.join room r.session
    mail := ((r.leave sv).2.mail.send r.handle (.event joined)).1 }
  have hgone : sv.mail.Grows (r.TellsOfEntry f room) (r.leave sv).2.mail := (r.leave_grows hf).mono fun h fr => .inl
  have hreplied : (r.leave sv).2.mail.Grows (r.TellsOfEntry f room) inside.mail :=
    Mailroom.grows_send _ (.inr ⟨rfl, _, rfl⟩)
  have hnews : inside.mail.Grows (Told _ (some r.session))
      (inside.announce room (.join room r.username (r.leave sv).2.now) (some r.session)).mail :=
    inside.announce_grows hjoined rfl _
  simp only [enter, leave_fst]
  exact hgone.trans (hreplied.trans (hnews.mono fun h fr ht => .inl ht.of_update))

/-- What a router answers its client when it finishes a frame. -/
def answer? (r : Router) (sv : Server) : Rest → Option Event
  | .history room =>
    match sv.store.recentMessages room sv.settings.historyLimit with
    | .ok messages =>
      some (.history room (messages.map (r.historyItem sv)) (r.otherProfile room sv.store) sv.now)
    | .error _ => none
  | .announce _ => none
  | .seen room ts _ => some (.seenSuccessful room r.username ts)
  | .unseen room ts e => some (.seenFailed room e.message 0 ts)
  | .list rooms => some (.list (rooms.map (r.present sv)))

/-- What a session is told when a router finishes a frame. -/
def TellsOfEnd (r : Router) (f : SessionId → Option SessionEntry) (sv : Server) (rest : Rest) (h : Handle)
    (fr : Frame) : Prop :=
  Told f none h fr ∨ h = r.handle ∧ ∃ e, r.answer? sv rest = some e ∧ fr = .event e

theorem finish_grows (hf : sv.registry.Shows f) (r : Router) (rest : Rest) :
    sv.mail.Grows (r.TellsOfEnd f sv rest) (r.finish rest sv).mail := by
  cases rest with
  | history room =>
    show sv.mail.Grows _ (r.sendHistory room sv).mail
    unfold sendHistory
    cases hrecent : sv.store.recentMessages room sv.settings.historyLimit with
    | error e => exact .refl _ _
    | ok messages => exact Mailroom.grows_send _ (.inr ⟨rfl, _, by rw [answer?, hrecent], rfl⟩)
  | announce m =>
    have hnews : sv.mail.Grows (Told f none) (sv.announce m.room (.chat (r.chatMessage sv m)) none).mail :=
      sv.announce_grows hf rfl none
    exact hnews.mono fun h fr => .inl
  | seen room ts count =>
    have hanswer : sv.mail.Grows (r.TellsOfEnd f sv (.seen room ts count))
        (r.reply (.seenSuccessful room r.username ts) sv).mail := Mailroom.grows_send _ (.inr ⟨rfl, _, rfl, rfl⟩)
    let answered : Server := r.reply (.seenSuccessful room r.username ts) sv
    have hnews : answered.mail.Grows (Told f none)
        (answered.announce room (.messagesSeen room r.user r.username ts count) none).mail :=
      answered.announce_grows hf rfl none
    exact hanswer.trans (hnews.mono fun h fr => .inl)
  | unseen room ts e => exact Mailroom.grows_send _ (.inr ⟨rfl, _, rfl, rfl⟩)
  | list rooms => exact Mailroom.grows_send _ (.inr ⟨rfl, _, rfl, rfl⟩)

end Router

/-! ## What an act sends -/

namespace Crowd

/-- What an act that is done whole can put into a queue. -/
inductive Sends (c : Crowd) (a : Act) (h : Handle) : Frame → Prop
  | welcome : Sends c a h (.event (.connected welcomeText))
  /-- The others in a room are told that whoever acts has left it. -/
  | told (s : SessionId) (fr : Frame) (hactor : a.actor? = some s) (htold : Told c.shown? (some s) h fr)
      (hsilent : fr.NoMessage) : Sends c a h fr
  | notified (k : Nat) (n : Notification) (users : List UserId) (ha : a = .sendOut k)
      (hunderway : c.underway[k]? = some (n, users))
      (hh : h ∈ c.server.registry.userHandles (n.recipients users c.server.registry)) :
    Sends c a h (.event (n.event c.server.now))

variable {c : Crowd} {h : Handle} {fr : Frame}

theorem sends_leaving (hc : c.Coupled) {a : Act} {s : SessionId} (hactor : a.actor? = some s)
    {step : Router → Server → Router × Server}
    (htold : ∀ r : Router, c.server.mail.Grows (Told c.shown? (some r.session)) (step r c.server).2.mail)
    (hsilent : ∀ r : Router, c.server.Quiet (fun _ => Frame.NoMessage) "" (step r c.server).2)
    (hfr : fr ∈ c.server.mail.since (c.act s step).server.mail h) : c.Sends a h fr := by
  have hmail : c.server.mail.Grows (fun h fr => Told c.shown? (some s) h fr ∧ fr.NoMessage)
      (c.act s step).server.mail := by
    refine c.act_server s (P := fun sv => c.server.mail.Grows _ sv.mail) (.refl _ _) ?_
    intro r hr
    rw [← hc.session s r hr]
    exact (htold r).and (hsilent r).mail
  obtain ⟨ht, hno⟩ := hmail.since h fr hfr
  exact .told s fr hactor ht hno

theorem sends_sendOut {k : Nat} (hfr : fr ∈ c.server.mail.since (c.sendOut k).server.mail h) :
    c.Sends (.sendOut k) h fr := by
  unfold sendOut at hfr
  split at hfr
  · rw [(Mailroom.fades_refl _).since] at hfr
    cases hfr
  · rename_i n users hunderway
    have hgrows : c.server.mail.Grows (fun h fr => fr = .event (n.event c.server.now) ∧
        h ∈ c.server.registry.userHandles (n.recipients users c.server.registry))
        (n.deliver users c.server).1.mail := Mailroom.grows_sendAll _ fun h hh => ⟨rfl, hh⟩
    obtain ⟨rfl, hh⟩ := hgrows.since h _ hfr
    exact .notified k n users rfl hunderway hh

theorem sends_act (hc : c.Coupled) {a : Act} (hparts : ¬ a.InParts)
    (hfr : fr ∈ c.server.mail.since (c.step a).server.mail h) : c.Sends a h fr := by
  have hfades : c.server.mail.Fades (c.step a).server.mail → c.Sends a h fr := by
    intro hm
    rw [hm.since h] at hfr
    cases hfr
  cases a with
  | text | enter | sendHistory | announceChat | put => exact absurd trivial hparts
  | connect s handle user username host =>
    obtain ⟨pending, hserver⟩ := c.connect_server s handle user username host
    apply hfades
    rw [step, hserver]
    exact c.server.mail.fades_openQueue handle
  | welcome s =>
    have hword : c.server.mail.Grows (fun _ fr => fr = .event (.connected welcomeText))
        (c.step (.welcome s)).server.mail :=
      c.act_server s (P := fun sv => c.server.mail.Grows _ sv.mail) (.refl _ _) fun r _ =>
        Mailroom.grows_send _ rfl
    obtain rfl := hword.since h _ hfr
    exact .welcome
  | leave s =>
    exact sends_leaving hc rfl (fun r => r.leave_grows hc.shows) (fun r => r.leave_quiet c.server "") hfr
  | close s | drop s =>
    exact sends_leaving hc rfl (fun r => r.close_grows hc.shows) (fun r => r.close_quiet c.server "") hfr
  | kill handle => exact hfades (c.server.mail.fades_kill handle)
  | receive handle => exact hfades (c.server.mail.fades_drain handle)
  | store | clock | giveUp => exact hfades (Mailroom.fades_refl _)
  | lookUp n =>
    apply hfades
    rw [step, lookUp_server]
    exact Mailroom.fades_refl _
  | sendOut k => exact sends_sendOut hfr

end Crowd

/-! ## What a move sends -/

namespace Traffic

/-- Why a move puts an event into a queue. -/
inductive Causes (t : Traffic) (mv : Move) (h : Handle) : Event → Prop
  | word (e : Event) (he : e.IsWord) : Causes t mv h e
  /-- It is news of a room, for a session that is in it before the move and after it. -/
  | news (e : Event) (room : RoomId) (s : SessionId) (entry : SessionEntry) (he : e.newsOf? = some room)
      (hbefore : t.crowd.shown? s = some entry) (hafter : (t.step mv).crowd.shown? s = some entry)
      (hroom : entry.room = some room) (hhandle : entry.handle = h) : Causes t mv h e
  | joined (s : SessionId) (raw : String) (f : ClientFrame) (r : Router) (room : RoomId) (ts : Int)
      (hmv : mv = .takeUp s raw) (hframe : ClientFrame.decode raw = some f) (hevent : f.event = "join")
      (hroom : f.room = some room) (hrouter : t.crowd.routers.get? s = some r) (hhandle : r.handle = h) :
    Causes t mv h (.joined room r.username ts)
  /-- It answers a frame that is finished. -/
  | answer (e : Event) (s : SessionId) (r : Router) (task : Task) (hmv : mv = .finish s)
      (hrouter : t.crowd.routers.get? s = some r) (htask : t.tasks.get? s = some task)
      (he : r.answer? t.crowd.server task.rest = some e) (hhandle : r.handle = h) : Causes t mv h e
  /-- It is what a notification says, for a session of someone whom it concerns. -/
  | notified (n : Notification) (k : Nat) (users : List UserId) (s : SessionId) (entry : SessionEntry)
      (hmv : mv = .act (.sendOut k)) (hunderway : t.crowd.underway[k]? = some (n, users))
      (huser : entry.user ∈ n.recipients users t.crowd.server.registry) (hentry : t.crowd.shown? s = some entry)
      (hhandle : entry.handle = h) : Causes t mv h (n.event t.crowd.server.now)

variable {t : Traffic}

theorem causes_of_told {mv : Move} {sender : Option SessionId} {h : Handle} {e : Event}
    (ht : Told t.crowd.shown? sender h (.event e))
    (hother : ∀ s, some s ≠ sender → (t.step mv).crowd.shown? s = t.crowd.shown? s) : t.Causes mv h e := by
  obtain ⟨e', room, s, entry, he, hnews, hs, hentry, hroom, hhandle⟩ := ht
  cases he
  exact .news e room s entry hnews hentry ((hother s hs).trans hentry) hroom hhandle

theorem causes_act (hc : t.crowd.Coupled) {a : Act} (hparts : ¬ a.InParts)
    (hstep : t.step (.act a) = { t with crowd := t.crowd.step a }) {h : Handle} {e : Event}
    (he : .event e ∈ t.sent (.act a) h) : t.Causes (.act a) h e := by
  rw [sent, hstep] at he
  have hsends := Crowd.sends_act hc hparts he
  generalize hfr : Frame.event e = fr at hsends
  cases hsends with
  | welcome =>
    cases hfr
    exact .word _ trivial
  | told s fr hactor htold =>
    subst hfr
    refine causes_of_told htold fun s' hs => ?_
    rw [hstep, Crowd.shown?, Crowd.shown?, t.crowd.router_of_ne fun h => hs (by rw [← h, hactor])]
  | notified k n users ha hunderway hh =>
    cases hfr
    obtain ⟨user, huser, hin⟩ := List.mem_flatMap.1 hh
    obtain ⟨⟨s, entry⟩, hentry, rfl⟩ := List.mem_map.1 hin
    obtain ⟨hs, hshown⟩ := hc.shows.mem_entriesOf.1 hentry
    rw [hc.shows.mem_sessionsOfUser, hshown] at hs
    cases hs
    exact .notified n k users s entry (congrArg Move.act ha) hunderway huser hshown rfl

theorem causes_takeUp (hc : t.crowd.Coupled) {s : SessionId} {raw : String} {f : ClientFrame} {r : Router}
    (hframe : ClientFrame.decode raw = some f) (hrouter : t.crowd.routers.get? s = some r)
    (hidle : t.tasks.get? s = none) {h : Handle} {e : Event} (he : .event e ∈ t.sent (.takeUp s raw) h) :
    t.Causes (.takeUp s raw) h e := by
  have hs : r.session = s := hc.session s r hrouter
  rw [sent, step_takeUp hidle hrouter hframe] at he
  have hother : ∀ s', some s' ≠ some r.session →
      (t.step (.takeUp s raw)).crowd.shown? s' = t.crowd.shown? s' := fun s' hs' => by
    rw [step_takeUp hidle hrouter hframe, takenUp, Crowd.shown?_insert, hs.symm,
      Function.update_of_ne fun h => hs' (congrArg some h)]
  have htakes := r.takesUp f t.crowd.server
  simp only [takenUp] at he
  generalize r.takeUp f t.crowd.server = u at htakes he
  cases htakes with
  | enters room hevent hroom =>
    rcases (r.enter_grows hc.shows room).since h _ he with ht | ⟨rfl, ts, heq⟩
    · exact causes_of_told ht hother
    · cases heq
      exact .joined s raw f r room ts rfl hframe hevent hroom hrouter rfl
  | leaves => exact causes_of_told ((r.leave_grows hc.shows).since h _ he) hother
  | complains =>
    have hword := t.crowd.server.mail.grows_send (p := fun _ fr => fr = .event (.error emptyMessageText))
      (h := r.handle) rfl
    cases hword.since h _ he
    exact .word _ trivial
  | _ =>
    rw [(Mailroom.fades_refl _).since] at he
    cases he

/-- Every event that a move puts into a queue has one of the causes. -/
theorem causes_step (hc : t.crowd.Coupled) {mv : Move} {h : Handle} {e : Event} (he : .event e ∈ t.sent mv h) :
    t.Causes mv h e := by
  have hcase := t.step_cases mv
  generalize ht' : t.step mv = t' at hcase
  cases hcase with
  | act a hparts => exact causes_act hc hparts ht' he
  | takeUp s raw f r hframe hrouter hidle => exact causes_takeUp hc hframe hrouter hidle he
  | finish s task r hrouter htask =>
    rw [sent, ht'] at he
    rcases (r.finish_grows hc.shows task.rest).since h _ he with ht | ⟨rfl, e', hanswer, heq⟩
    · refine causes_of_told ht fun s' _ => ?_
      rw [ht']
      rfl
    · cases heq
      exact .answer e s r task rfl hrouter htask hanswer rfl
  | idle =>
    rw [sent, ht', (Mailroom.fades_refl _).since] at he
    cases he

/-! ## Who goes on receiving -/

theorem isLive_step (hc : t.crowd.Coupled) {mv : Move} {h : Handle} (hlive : t.crowd.server.mail.isLive h = true)
    (hmv : mv ≠ .act (.kill h)) : (t.step mv).crowd.server.mail.isLive h = true := by
  have hcase := t.step_cases mv
  generalize t.step mv = t' at hcase
  cases hcase with
  | act a => exact t.crowd.isLive_step hlive fun ha => hmv (by rw [ha])
  | takeUp s raw f r hframe hrouter =>
    have htakes := r.takesUp f t.crowd.server
    show (r.takeUp f t.crowd.server).server.mail.isLive h = true
    generalize r.takeUp f t.crowd.server = u at htakes
    cases htakes with
    | enters room => exact ((r.enter_grows hc.shows room).live h).trans hlive
    | leaves => exact ((r.leave_grows hc.shows).live h).trans hlive
    | complains => exact (Mailroom.isLive_send ..).trans hlive
    | _ => exact hlive
  | finish s task r => exact ((r.finish_grows hc.shows task.rest).live h).trans hlive
  | idle => exact hlive

theorem isLive_run (hc : t.crowd.Coupled) {moves : List Move} {h : Handle} (hlive : t.crowd.server.mail.isLive h = true)
    (hmoves : .act (.kill h) ∉ moves) : (t.run moves).crowd.server.mail.isLive h = true := by
  induction moves generalizing t with
  | nil => exact hlive
  | cons mv moves ih =>
    rw [List.mem_cons, not_or] at hmoves
    exact ih (coupled_step hc mv) (isLive_step hc hlive (Ne.symm hmoves.1)) hmoves.2

end Traffic

end DirectChat
