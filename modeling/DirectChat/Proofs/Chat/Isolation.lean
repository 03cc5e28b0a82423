import DirectChat.Proofs.Chat.Traffic
import DirectChat.Proofs.Store.Alike
/-!
# Rooms do not interfere

Messages of all rooms share one table and one sequence of numbers. Yet what routers do while they say nothing of
other rooms depends on the messages of their own room alone: put another store in the place of the one that is
there, alike for the room, and every function of a router gives the same and leaves stores that are alike
(`Router.takeUp_withStore`, `Router.finish_withStore`). What other sessions and notifications do reads no messages at
all (`Crowd.step_withStore`). So two runs from such stores are the same throughout (`rooms_do_not_interfere`).
-/

namespace DirectChat

variable {room : RoomId}

/-- A frame that says nothing of other rooms, handled by a router that is in no other. -/
structure Router.KeepsTo (room : RoomId) (r : Router) (f : ClientFrame) : Prop where
  current : ∀ q ∈ r.room, q = room
  named : ∀ q ∈ f.room, q ≠ "" → q = room
  event : f.event ≠ "list"

instance (room : RoomId) (r : Router) (f : ClientFrame) : Decidable (r.KeepsTo room f) :=
  decidable_of_iff ((∀ q ∈ r.room, q = room) ∧ (∀ q ∈ f.room, q ≠ "" → q = room) ∧ f.event ≠ "list")
    ⟨fun h => ⟨h.1, h.2.1, h.2.2⟩, fun h => ⟨h.current, h.named, h.event⟩⟩

theorem Router.KeepsTo.seenRoom {r : Router} {f : ClientFrame} (h : r.KeepsTo room f) {q : RoomId}
    (hq : r.seenRoom f.room = some q) : q = room := by
  rcases Router.seenRoom_eq_some_iff.1 hq with hcurrent | ⟨-, hnamed, hne⟩
  · exact h.current q hcurrent
  · exact h.named q hnamed hne

namespace Router

/-! ## A router before one store and another -/

variable (r : Router) (sv : Server) (store : Store)

theorem leave_withStore :
    r.leave { sv with store } = ((r.leave sv).1, { (r.leave sv).2 with store }) := by
  unfold leave
  cases r.room <;> rfl

theorem enter_withStore (entered : RoomId) :
    r.enter entered { sv with store } = ((r.enter entered sv).1, { (r.enter entered sv).2 with store }) := by
  simp only [enter, leave_withStore, leave_fst]
  rfl

theorem close_withStore : r.close { sv with store } = ((r.close sv).1, { (r.close sv).2 with store }) := by
  unfold close
  split
  · rfl
  · simp only [leave_withStore, leave_fst]
    split <;> rfl

theorem connect_withStore (s : SessionId) (handle : Handle) (user : UserId) (username : String) (host : Option String) :
    connect s handle user username host { sv with store } =
      ((connect s handle user username host sv).1, { (connect s handle user username host sv).2 with store }) := by
  unfold connect
  by_cases hfirst : (sv.registry.register s user username handle).2 = true <;> simp [hfirst, Server.notifyLater]

variable {r sv store}

/-- What is left of a frame is finished alike before stores that are alike, if it shows no other room's history. -/
theorem finish_withStore (h : sv.store.Alike room store) {rest : Rest} (hreads : ∀ q, rest = .history q → q = room) :
    r.finish rest { sv with store } = { r.finish rest sv with store } := by
  cases rest with
  | history q =>
    obtain rfl := hreads q rfl
    have hrecent := h.recentMessages sv.settings.historyLimit
    have hother := h.otherProfile r q
    simp only [finish, sendHistory]
    rw [hrecent, hother]
    cases sv.store.recentMessages q sv.settings.historyLimit <;> rfl
  | _ => rfl

theorem takeUpChat_withStore (h : sv.store.Alike room store) {f : ClientFrame} (hkeeps : r.KeepsTo room f) :
    ∃ store', r.takeUpChat f { sv with store } =
        { r.takeUpChat f sv with server := { (r.takeUpChat f sv).server with store := store' } } ∧
      (r.takeUpChat f sv).server.store.Alike room store' := by
  unfold takeUpChat
  cases hroom : r.room with
  | none => exact ⟨store, rfl, h⟩
  | some q =>
    obtain rfl := hkeeps.current q hroom
    dsimp only
    split
    · exact ⟨store, rfl, h⟩
    · unfold saveChat
      dsimp only
      rw [h.resolveReply]
      have hsave := h.saveMessage (m := ⟨q, r.user, r.username, f.text.filter (· ≠ ""), f.voice.filter (· ≠ ""),
        resolveReply q f.replyTo f.replyToId sv.store⟩) sv.now
      generalize sv.store.saveMessage _ sv.now = x at hsave
      generalize store.saveMessage _ sv.now = y at hsave
      cases hsave with
      | failed e => exact ⟨store, rfl, h⟩
      | answered saved hafter => exact ⟨_, rfl, hafter⟩

theorem takeUpSeen_withStore (h : sv.store.Alike room store) {f : ClientFrame} (hkeeps : r.KeepsTo room f) :
    ∃ store', r.takeUpSeen f { sv with store } =
        { r.takeUpSeen f sv with server := { (r.takeUpSeen f sv).server with store := store' } } ∧
      (r.takeUpSeen f sv).server.store.Alike room store' := by
  unfold takeUpSeen
  cases hroom : r.seenRoom f.room with
  | none => exact ⟨store, rfl, h⟩
  | some q =>
    obtain rfl := hkeeps.seenRoom hroom
    cases hts : f.timestamp.filter (· ≠ 0) with
    | none => exact ⟨store, rfl, h⟩
    | some ts =>
      dsimp only
      have hmark := h.markSeen r.user (seenMillis ts)
      generalize sv.store.markSeen q r.user (seenMillis ts) = x at hmark
      generalize store.markSeen q r.user (seenMillis ts) = y at hmark
      cases hmark with
      | failed e => exact ⟨store, rfl, h⟩
      | answered count hafter => exact ⟨_, rfl, hafter⟩

/-- A frame that keeps to the room is taken up alike before stores that are alike, and leaves them alike. -/
theorem takeUp_withStore (h : sv.store.Alike room store) {f : ClientFrame} (hkeeps : r.KeepsTo room f) :
    ∃ store', r.takeUp f { sv with store } =
        { r.takeUp f sv with server := { (r.takeUp f sv).server with store := store' } } ∧
      (r.takeUp f sv).server.store.Alike room store' := by
  unfold takeUp
  split
  · dsimp only
    split
    · exact ⟨store, rfl, h⟩
    · rw [enter_withStore]
      exact ⟨store, rfl, (r.enter_store _ sv).symm ▸ h⟩
  · rw [leave_withStore]
    exact ⟨store, rfl, (r.leave_store sv).symm ▸ h⟩
  · exact takeUpChat_withStore h hkeeps
  · exact takeUpSeen_withStore h hkeeps
  · exact absurd ‹_› hkeeps.event
  · exact ⟨store, rfl, h⟩

/-- A reply by number to a message of another room is handled as if it were none, and nothing is copied. -/
theorem takeUp_of_elsewhere (hs : sv.store.Numbered) {f : ClientFrame} {m : StoredMessage}
    (hid : f.replyToId = some m.id) (hm : m ∈ sv.store.messages) (helse : r.room ≠ some m.room) :
    r.takeUp f sv = r.takeUp { f with replyToId := none } sv ∧
      ∀ saved, (r.takeUp f sv).rest = some (.announce saved) → saved.replyTo = f.replyTo := by
  have hreply : ∀ q, r.room = some q → resolveReply q f.replyTo f.replyToId sv.store = f.replyTo := by
    intro q hroom
    rw [hid]
    exact Store.resolveReply_of_elsewhere hs hm (fun heq => helse (by rw [hroom, heq])) f.replyTo
  constructor
  · have hchat : r.takeUpChat f sv = r.takeUpChat { f with replyToId := none } sv := by
      unfold takeUpChat
      cases hroom : r.room with
      | none => rfl
      | some q =>
        have hnone : resolveReply q f.replyTo none sv.store = f.replyTo := by cases f.replyTo <;> rfl
        simp only [saveChat, hreply q hroom, hnone]
    unfold takeUp
    dsimp only
    split
    · rfl
    · rfl
    · exact hchat
    · rfl
    · rfl
    · rfl
  · intro saved hrest
    have htakes := r.takesUp f sv
    generalize r.takeUp f sv = u at htakes hrest
    cases htakes with
    | saves q text voice m' store hroom hsave =>
      cases hrest
      rw [hreply q hroom] at hsave
      exact Store.replyTo_of_saveMessage hsave
    | _ => cases hrest

end Router

namespace Crowd

/-- The crowd with another store. -/
def withStore (c : Crowd) (store : Store) : Crowd := c.onServer fun sv => { sv with store }

variable (c : Crowd) (store : Store)

theorem act_withStore (s : SessionId) {f : Router → Server → Router × Server}
    (hf : ∀ r : Router, f r { c.server with store } = ((f r c.server).1, { (f r c.server).2 with store })) :
    (c.withStore store).act s f = (c.act s f).withStore store := by
  cases hr : c.routers.get? s with
  | none =>
    have hr' : (c.withStore store).routers.get? s = none := hr
    rw [act_of_none _ hr, act_of_none _ hr']
  | some r =>
    have hr' : (c.withStore store).routers.get? s = some r := hr
    rw [act_of_some _ hr, act_of_some _ hr', withStore, onServer, hf]
    rfl

variable {c store}

/-- What does not replace the store is done alike before stores that are alike. -/
theorem step_withStore (h : c.server.store.Alike room store) {a : Act} (hparts : ¬ a.InParts)
    (ha : ∀ other, a ≠ .store other) : (c.withStore store).step a = (c.step a).withStore store := by
  cases a with
  | text | enter | sendHistory | announceChat | put => exact absurd trivial hparts
  | connect s handle user username host =>
    have hconnect := Router.connect_withStore { c.server with mail := c.server.mail.openQueue handle } store s handle
      user username host
    simp only [step, connect, withStore, onServer]
    rw [hconnect]
  | welcome s => exact c.act_withStore store s (f := fun r sv => (r, r.welcome sv)) fun _ => rfl
  | leave s => exact c.act_withStore store s fun r => r.leave_withStore c.server store
  | close s => exact c.act_withStore store s fun r => r.close_withStore c.server store
  | drop s =>
    rw [step, step, c.act_withStore store s fun r => r.close_withStore c.server store]
    rfl
  | kill | receive | clock | giveUp => rfl
  | store other => exact absurd rfl (ha other)
  | lookUp n =>
    simp only [step, lookUp, withStore, onServer]
    cases c.server.pending[n]? with
    | none => rfl
    | some notification =>
      simp only [h.concerned]
      cases notification.concerned c.server.store <;> rfl
  | sendOut n =>
    simp only [step, sendOut, withStore, onServer]
    split <;> rfl

end Crowd

namespace Traffic

/-- The traffic with another store. -/
def withStore (t : Traffic) (store : Store) : Traffic := ⟨t.crowd.withStore store, t.tasks⟩

/-- No router is in the middle of showing another room's history. -/
def Reads (room : RoomId) (t : Traffic) : Prop :=
  ∀ s f q, t.tasks.get? s = some ⟨f, .history q⟩ → q = room

/-- A move by which nobody says anything of other rooms, and that leaves the store to the routers. -/
def KeepsTo (room : RoomId) (t : Traffic) : Move → Prop
  | .act a => ∀ store, a ≠ .store store
  | .takeUp s raw => ∀ r ∈ t.crowd.routers.get? s, ∀ f ∈ ClientFrame.decode raw, r.KeepsTo room f
  | .finish _ => True

instance (room : RoomId) (t : Traffic) : (mv : Move) → Decidable (t.KeepsTo room mv)
  | .act a => a.decideStore fun _ => False
  | .takeUp s raw =>
    inferInstanceAs (Decidable (∀ r ∈ t.crowd.routers.get? s, ∀ f ∈ ClientFrame.decode raw, r.KeepsTo room f))
  | .finish _ => isTrue trivial

variable {t : Traffic} {store : Store} {mv : Move} {moves : List Move}

/-! ## One move, and any number of them -/

theorem reads_step (hreads : t.Reads room) (hkeeps : t.KeepsTo room mv) : (t.step mv).Reads room := by
  intro s f q htask
  cases task_step htask with
  | stayed htask => exact hreads s f q htask
  | takenUp raw r hmv hframe hrouter hrest =>
    subst hmv
    have hkept := hkeeps r hrouter f hframe
    have htakes := r.takesUp f t.crowd.server
    generalize r.takeUp f t.crowd.server = u at htakes hrest
    cases htakes with
    | enters entered hevent hroom hne =>
      cases hrest
      exact hkept.named q hroom hne
    | _ => cases hrest

theorem step_withStore (h : t.crowd.server.store.Alike room store) (hreads : t.Reads room)
    (hkeeps : t.KeepsTo room mv) :
    ∃ store', (t.withStore store).step mv = (t.step mv).withStore store' ∧
      (t.step mv).crowd.server.store.Alike room store' := by
  cases mv with
  | act a =>
    by_cases hallows : t.Allows a
    · have hallows' : (t.withStore store).Allows a := hallows
      have hstore : (t.crowd.step a).server.store = t.crowd.server.store :=
        (store_act hallows.1).resolve_right (hkeeps _)
      refine ⟨store, ?_, ?_⟩
      · rw [step, if_pos hallows', step, if_pos hallows]
        exact congrArg (Traffic.mk · t.tasks) (Crowd.step_withStore h hallows.1 hkeeps)
      · rw [step, if_pos hallows, hstore]
        exact h
    · have hallows' : ¬ (t.withStore store).Allows a := hallows
      rw [step, if_neg hallows', step, if_neg hallows]
      exact ⟨store, rfl, h⟩
  | takeUp s raw =>
    by_cases hgoes : ∃ r f, t.tasks.get? s = none ∧ t.crowd.routers.get? s = some r ∧ ClientFrame.decode raw = some f
    · obtain ⟨r, f, hidle, hrouter, hframe⟩ := hgoes
      obtain ⟨store', htake, halike⟩ := Router.takeUp_withStore h (hkeeps r hrouter f hframe)
      have hstep : (t.withStore store).step (.takeUp s raw) =
          (t.withStore store).takenUp s f (r.takeUp f { t.crowd.server with store }) :=
        step_takeUp (t := t.withStore store) hidle hrouter hframe
      refine ⟨store', ?_, ?_⟩
      · rw [hstep, htake, step_takeUp hidle hrouter hframe]
        rfl
      · rw [step_takeUp hidle hrouter hframe]
        exact halike
    · have hnot : ∀ r f, t.tasks.get? s = none → t.crowd.routers.get? s = some r → ClientFrame.decode raw ≠ some f :=
        fun r f hidle hrouter hframe => hgoes ⟨r, f, hidle, hrouter, hframe⟩
      have hstill : (t.withStore store).step (.takeUp s raw) = t.withStore store :=
        step_takeUp_of_not (t := t.withStore store) hnot
      rw [hstill, step_takeUp_of_not hnot]
      exact ⟨store, rfl, h⟩
  | finish s =>
    by_cases hgoes : ∃ task r, t.tasks.get? s = some task ∧ t.crowd.routers.get? s = some r
    · obtain ⟨⟨f, rest⟩, r, htask, hrouter⟩ := hgoes
      have hshown : ∀ q, rest = .history q → q = room := fun q hrest => hreads s f q (by rw [htask, hrest])
      have hfinish := Router.finish_withStore (r := r) h hshown
      have hstep : (t.withStore store).step (.finish s) =
          ⟨(t.withStore store).crowd.onServer (r.finish rest), t.tasks.erase s⟩ :=
        step_finish (t := t.withStore store) htask hrouter
      refine ⟨store, ?_, ?_⟩
      · rw [hstep, step_finish htask hrouter]
        show Traffic.mk ⟨r.finish rest { t.crowd.server with store }, _, _⟩ _ = _
        rw [hfinish]
        rfl
      · rw [step_finish htask hrouter]
        exact (r.finish_store rest t.crowd.server).symm ▸ h
    · have hnot : ∀ task r, t.tasks.get? s = some task → t.crowd.routers.get? s ≠ some r :=
        fun task r htask hrouter => hgoes ⟨task, r, htask, hrouter⟩
      have hstill : (t.withStore store).step (.finish s) = t.withStore store :=
        step_finish_of_not (t := t.withStore store) hnot
      rw [hstill, step_finish_of_not hnot]
      exact ⟨store, rfl, h⟩

theorem run_withStore (h : t.crowd.server.store.Alike room store) (hreads : t.Reads room)
    (hkeeps : Run.Along step (KeepsTo room) t moves) :
    ∃ store', (t.withStore store).run moves = (t.run moves).withStore store' ∧
      (t.run moves).crowd.server.store.Alike room store' := by
  induction moves generalizing t store with
  | nil => exact ⟨store, rfl, h⟩
  | cons mv moves ih =>
    obtain ⟨store', hstep, halike⟩ := step_withStore h hreads hkeeps.1
    obtain ⟨store'', hrun, halike'⟩ := ih halike (reads_step hreads hkeeps.1) hkeeps.2
    exact ⟨store'', (congrArg (·.run moves) hstep).trans hrun, halike'⟩

theorem arrivals_withStore (h : t.crowd.server.store.Alike room store) (hreads : t.Reads room)
    (hkeeps : Run.Along step (KeepsTo room) t moves) (handle : Handle) :
    arrivals handle (t.withStore store) moves = arrivals handle t moves := by
  induction moves generalizing t store with
  | nil => rfl
  | cons mv moves ih =>
    obtain ⟨store', hstep, halike⟩ := step_withStore h hreads hkeeps.1
    have hrest := ih halike (reads_step hreads hkeeps.1) hkeeps.2
    have hsent : (t.withStore store).sent mv handle = t.sent mv handle := by
      rw [sent, sent, hstep]
      rfl
    show (t.withStore store).sent mv handle ++ arrivals handle ((t.withStore store).step mv) moves = _
    rw [hsent, hstep, hrest]
    rfl

/-- **Rooms do not interfere.** Take any traffic, and the same traffic before a store that differs in the messages of
other rooms only. Let the same moves be made of both, by which nobody says anything of other rooms. Then at every
moment the two are the same again but for such messages: the same queues, the same notifications, and the
same messages of the room; and every queue is sent the same. A reply by number to a message of another
room is handled as if it named none, and the message that is saved carries no copy but what the client sent. -/
theorem rooms_do_not_interfere {t : Traffic} {store : Store} {room : RoomId} {moves : List Move}
    (halike : t.crowd.server.store.Alike room store) (hreads : t.Reads room)
    (hkeeps : Run.Along step (KeepsTo room) t moves) :
    (∀ before after, moves = before ++ after → ∃ store',
      (t.withStore store).run before = (t.run before).withStore store' ∧
        (t.run before).crowd.server.store.Alike room store') ∧
    (∀ handle, arrivals handle (t.withStore store) moves = arrivals handle t moves) ∧
    ∀ before s raw after r f m, moves = before ++ .takeUp s raw :: after →
      (t.run before).crowd.routers.get? s = some r → ClientFrame.decode raw = some f → f.replyToId = some m.id →
      m ∈ (t.run before).crowd.server.store.messages → m.room ≠ room →
      r.takeUp f (t.run before).crowd.server = r.takeUp { f with replyToId := none } (t.run before).crowd.server ∧
        ∀ saved, (r.takeUp f (t.run before).crowd.server).rest = some (.announce saved) → saved.replyTo = f.replyTo := by
  have heach : ∀ before after, moves = before ++ after → ∃ store',
      (t.withStore store).run before = (t.run before).withStore store' ∧
        (t.run before).crowd.server.store.Alike room store' := by
    rintro before after rfl
    exact run_withStore halike hreads (Run.along_append.1 hkeeps).1
  refine ⟨heach, arrivals_withStore halike hreads hkeeps, ?_⟩
  intro before s raw after r f m hmoves hrouter hframe hid hm helse
  obtain ⟨store', -, halike'⟩ := heach before _ hmoves
  rw [hmoves] at hkeeps
  have hkept : r.KeepsTo room f := hkeeps.at r hrouter f hframe
  exact Router.takeUp_of_elsewhere halike'.numbered hid hm fun hroom => helse (hkept.current _ hroom)

/-- One session writes to a room, in answer to the number of a message elsewhere, another comes and sees it; the message
elsewhere is one thing in one store and another in the other. -/
theorem rooms_do_not_interfere_elsewhere :
    let joinElsewhere := "\x7b\"event\":\"join\",\"room\":\"q\"\x7d"
    let chat := "\x7b\"event\":\"chat\",\"text\":\"hi\"\x7d"
    let join := "\x7b\"event\":\"join\",\"room\":\"r\"\x7d"
    let reply := "\x7b\"event\":\"chat\",\"text\":\"yes\",\"reply_to_id\":1\x7d"
    let seen := "\x7b\"event\":\"seen\",\"timestamp\":5\x7d"
    let before : List Move := [.act (.connect 1 10 7 "ann" none), .act (.connect 2 20 8 "bob" none),
      .takeUp 1 joinElsewhere, .finish 1, .takeUp 1 chat, .finish 1]
    let moves : List Move := [.takeUp 2 join, .finish 2, .takeUp 2 reply, .act (.connect 3 30 9 "cat" none), .takeUp 3 join,
      .finish 2, .finish 3, .takeUp 3 seen, .finish 3, .act (.close 3)]
    let other : StoredMessage := ⟨1, "q", 9, "cat", some "no", none, true, none, 4⟩
    let store : Store := { ((start .default 0).run before).crowd.server.store with messages := [other] }
    Run.Along step (KeepsTo "r") ((start .default 0).run before) moves ∧
      store.rows "q" ≠ ((start .default 0).run before).crowd.server.store.rows "q" ∧
      arrivals 30 ((start .default 0).run before) moves ≠ [] ∧
      ∀ handle, arrivals handle (((start .default 0).run before).withStore store) moves =
        arrivals handle ((start .default 0).run before) moves := by
  intro joinElsewhere chat join reply seen before moves other store
  have halike : ((start .default 0).run before).crowd.server.store.Alike "r" store := by
    refine ⟨⟨_, rfl⟩, ?_, ⟨?_, ?_⟩, ⟨?_, ?_⟩⟩ <;> decide +kernel +zetaReduce
  have hnone : ((start .default 0).run before).tasks.entries = [] := by decide +kernel +zetaReduce
  have hreads : ((start .default 0).run before).Reads "r" := by
    intro s f q htask
    rw [Table.get?_eq_some_iff, hnone] at htask
    cases htask
  have hkeeps : Run.Along step (KeepsTo "r") ((start .default 0).run before) moves := by decide +kernel +zetaReduce
  obtain ⟨-, harrivals, -⟩ := rooms_do_not_interfere halike hreads hkeeps
  refine ⟨hkeeps, ?_, ?_, harrivals⟩ <;> decide +kernel +zetaReduce

end Traffic

end DirectChat
