import DirectChat.Proofs.Chat.Convergence
import DirectChat.Proofs.Chat.Joining
/-!
# Messages and those who are online

A chat goes to the sessions that are in its room when it is announced. Its hint is sent later, to those who
have no session in the room then. Somebody who was not in the room at the first moment and is at the second
has joined in between; they are sent no hint, but the history that they were shown was read after the
message was saved (`never_missed`).
-/

namespace DirectChat

theorem Registry.Shows.isInRoom_iff {r : Registry} {f : SessionId → Option SessionEntry} (h : r.Shows f) {user : UserId}
    {room : RoomId} :
    r.isInRoom user room = true ↔ ∃ s entry, f s = some entry ∧ entry.user = user ∧ entry.room = some room := by
  simp only [Registry.isInRoom, List.any_eq_true, List.contains_iff_mem, h.mem_sessionsOfUser, h.mem_members]
  refine exists_congr fun s => ?_
  cases f s <;> simp

namespace Traffic

variable {t : Traffic} {moves : List Move} {room : RoomId}

/-- Somebody receives behind every open session of the user. -/
def Receives (user : UserId) (t : Traffic) : Prop :=
  ∀ h ∈ t.crowd.server.registry.handlesOf user, t.crowd.server.mail.isLive h = true

instance (user : UserId) (t : Traffic) : Decidable (t.Receives user) :=
  inferInstanceAs (Decidable (∀ h ∈ t.crowd.server.registry.handlesOf user, t.crowd.server.mail.isLive h = true))

theorem Receives.live {user : UserId} (h : t.Receives user) (hc : t.crowd.Coupled) {s : SessionId}
    {entry : SessionEntry} (hentry : t.crowd.shown? s = some entry) (huser : entry.user = user) :
    t.crowd.server.mail.isLive entry.handle = true :=
  h _ (hc.shows.mem_handlesOf.2 ⟨s, entry, hentry, huser, rfl⟩)

/-! ## The three ways to learn of a message -/

/-- The move sends a session of the user the chat. -/
def Hears (t : Traffic) (mv : Move) (user : UserId) (m : Message) : Prop :=
  ∃ s entry chat, t.crowd.server.registry.sessions.get? s = some entry ∧ entry.user = user ∧
    .event (.chat chat) ∈ t.sent mv entry.handle ∧ chat.room = m.room ∧ chat.said = m.said

/-- The user has an open session, and the move sends each of them the hint. -/
structure IsHinted (t : Traffic) (mv : Move) (user : UserId) (m : Message) : Prop where
  online : t.crowd.server.registry.isOnline user = true
  hint : ∀ s entry, t.crowd.server.registry.sessions.get? s = some entry → entry.user = user →
    .event (.newMessage m.room m.author m.username (if m.voice.isSome then .voice else .text) m.createdAt) ∈
      t.sent mv entry.handle

/-- A session of the user takes a join of the message's room up in the first of the moves, and finishes it in any of
them. The history that it is sent then contains the message, provided that the limit covers the room. -/
def CatchesUp (t : Traffic) (moves more : List Move) (user : UserId) (m : Message) : Prop :=
  ∃ s raw f r early late reading rest t', moves = early ++ .takeUp s raw :: late ∧
    late ++ more = reading ++ .finish s :: rest ∧ ((t.run early).step (.takeUp s raw)).run reading = t' ∧
    ClientFrame.decode raw = some f ∧ f.event = "join" ∧ f.room = some m.room ∧
    (t.run early).crowd.routers.get? s = some r ∧ r.user = user ∧ t'.tasks.get? s = some ⟨f, .history m.room⟩ ∧
    ∃ items other ts, .event (.history m.room items other ts) ∈ t'.sent (.finish s) r.handle ∧
      ((t'.crowd.server.store.rows m.room).length ≤ t'.crowd.server.settings.historyLimit →
        m.said ∈ items.map HistoryItem.said)

/-! ## Who is in the room -/

/-- A router that is in a room after some moves is as it was before them, or has joined the room in one of them. -/
theorem joined_of_room {s : SessionId} {r : Router} (h : (t.run moves).crowd.routers.get? s = some r)
    (hroom : r.room = some room) :
    t.crowd.routers.get? s = some r ∨
      ∃ early raw f late r₀, moves = early ++ .takeUp s raw :: late ∧ ClientFrame.decode raw = some f ∧
        f.event = "join" ∧ f.room = some room ∧ room ≠ "" ∧ (t.run early).crowd.routers.get? s = some r₀ ∧
        (t.run early).tasks.get? s = none ∧ r = { r₀ with room := some room } := by
  induction moves using List.reverseRecOn with
  | nil => exact .inl h
  | append_singleton moves mv ih =>
    rw [run_snoc] at h
    cases router_step h with
    | stayed hrouter =>
      refine (ih hrouter).imp_right ?_
      rintro ⟨early, raw, f, late, r₀, rfl, hrest⟩
      exact ⟨early, raw, f, late ++ [mv], r₀, by rw [List.append_assoc, List.cons_append], hrest⟩
    | connected handle user username host hmv hr =>
      subst hr
      cases hroom
    | left r₀ closed _ _ _ hr =>
      subst hr
      cases hroom
    | entered r₀ raw f room' hrouter hidle hmv hframe hevent hfroom hne hr =>
      subst hr hmv
      cases hroom
      exact .inr ⟨moves, raw, f, [], r₀, rfl, hframe, hevent, hfroom, hne, hrouter, hidle, rfl⟩

/-! ## The hint underway -/

theorem pending_of_announce {s : SessionId} {f : ClientFrame} {m : Message} {sender : Router}
    (htask : t.tasks.get? s = some ⟨f, .announce m⟩) (hrouter : t.crowd.routers.get? s = some sender) :
    (t.step (.finish s)).crowd.server.pending = t.crowd.server.pending ++ [.hint (Router.hintOf m)] := by
  rw [step_finish htask hrouter]
  rfl

/-- When a hint is underway, it is so to everybody who had a place in the room when it was left. -/
theorem hint_underway (user : UserId) (hint : MessageHint) {w : Whereabouts} {k : Nat} (hc : t.crowd.Coupled)
    (hfresh : Run.Along step Fresh t moves) (hspares : Run.Along step SparesPlaces t moves)
    (hw : w.Holds t (.hint hint) (user ∈ ·)) (hplace : t.crowd.server.store.hasPlace hint.room user = true)
    (hasked : w.after t moves = .asked k) :
    ∃ users, (t.run moves).crowd.underway[k]? = some (.hint hint, users) ∧ user ∈ users := by
  have hholds := Whereabouts.holds_after hc hfresh hw (Run.along_of_forall fun before mv after hmoves users hok => ?_)
  · rwa [hasked] at hholds
  · subst hmoves
    have hkept := keepsPlaces_run (Run.along_append.1 hspares).1
    exact (Store.mem_roomParticipants hok).2 (hkept.hasPlace hplace)

/-- A hint that is sent while the user is online and nowhere in the room reaches each session of the user. -/
theorem isHinted_of_absent (hc : t.crowd.Coupled) {k : Nat} {m : Message} {users : List UserId} {user : UserId}
    (hunderway : t.crowd.underway[k]? = some (.hint (Router.hintOf m), users)) (huser : user ∈ users)
    (hother : user ≠ m.author) (honline : t.crowd.server.registry.isOnline user = true)
    (hroom : t.crowd.server.registry.isInRoom user m.room = false) (hreceives : t.Receives user) :
    t.IsHinted (.act (.sendOut k)) user m := by
  refine ⟨honline, fun s entry hentry howner => ?_⟩
  refine mem_sent_sendOut hc hunderway hentry ?_ (hreceives.live hc ((hc.shows.entry s).symm.trans hentry) howner)
  refine List.mem_filter.2 ⟨howner ▸ huser, ?_⟩
  rw [howner]
  simp [Router.hintOf, hother, honline, hroom]

/-! ## Nobody who is online misses a message -/

/-- Whoever is in the room after the moves, and was not before them, catches up. -/
theorem catchesUp_of_entered {m : Message} {more : List Move} (hsound : t.Sound m.room)
    (hsteady : Run.Along step (Steady m.room) t (moves ++ more)) (hsaved : m.said ∈ t.crowd.server.store.sayings m.room)
    {user : UserId} (hc : t.crowd.Coupled) (hreceives : Run.Throughout step (Receives user) t (moves ++ more))
    {s : SessionId} {r : Router} (hrouter : (t.run moves).crowd.routers.get? s = some r) (hopen : r.closed = false)
    (hroom : r.room = some m.room) (huser : r.user = user) (hnew : t.crowd.routers.get? s ≠ some r)
    (hdone : ∀ f, (t.run (moves ++ more)).crowd.routers.get? s = some r →
      (t.run (moves ++ more)).tasks.get? s ≠ some ⟨f, .history m.room⟩) :
    t.CatchesUp moves more user m := by
  obtain ⟨early, raw, f, late, r₀, rfl, hframe, hevent, hfroom, hne, hr₀, hidle, rfl⟩ :=
    (joined_of_room hrouter hroom).resolve_left hnew
  obtain ⟨htask, hin⟩ := takeUp_join hr₀ hidle hframe hevent hfroom hne
  rw [List.append_assoc, List.cons_append] at hsteady hreceives hdone
  have hfinishes : .finish s ∈ late ++ more := by
    by_contra hnever
    obtain ⟨htaskEnd, hrouterEnd⟩ := busy_run htask hin hnever
    rw [run_append_cons] at hdone
    exact hdone f hrouterEnd htaskEnd
  obtain ⟨reading, rest, hsplit, hfirst⟩ := List.eq_append_cons_of_mem hfinishes
  rw [hsplit] at hsteady hreceives
  have hlive : (((t.run early).step (.takeUp s raw)).run reading).crowd.server.mail.isLive r₀.handle = true := by
    have hcRead := coupled_run (coupled_step (coupled_run hc early) (.takeUp s raw)) reading
    have hreceivesRead : (((t.run early).step (.takeUp s raw)).run reading).Receives user :=
      (Run.throughout_append.1 hreceives).2.at
    obtain ⟨-, hrouterRead⟩ := busy_run htask hin hfirst
    exact hreceivesRead.live hcRead (Crowd.shown?_eq_some_iff.2 ⟨_, hrouterRead, hopen, rfl⟩) huser
  obtain ⟨hsteadyEarly, hsteadyJoin⟩ := Run.along_append.1 hsteady
  rw [← List.cons_append] at hsteadyJoin
  obtain ⟨hsoundEarly, hgrown⟩ := hsound.run hsteadyEarly
  obtain ⟨htaskRead, items, other, ts, hsent, hshown⟩ := join_shows_history hsoundEarly
    (Run.along_append.1 hsteadyJoin).1 hr₀ hidle hframe hevent hfroom hne hfirst hlive
  exact ⟨s, raw, f, r₀, early, late, reading, rest, _, rfl, hsplit, rfl, hframe, hevent, hfroom, hr₀, huser,
    htaskRead, items, other, ts, hsent, fun hlimit => hshown hlimit _ (hgrown.subset hsaved)⟩

/-- **Whoever is online and has a place in the room learns of a message.** Take any run in which the store does not
fail for the room, and in it a chat that is announced, and later the sending of the hint that was left of it. Anything
may happen in between, and after that, as long as the user's joins of the room are finished in the end. A user other
than the author who has a place in the room, is online all along and has somebody receiving behind each open session
either is sent the chat by the announcement, in one session; or is sent the hint, in every session that is open then;
or has a session that joined the room in between, which is sent a history with the message, provided that the limit
covers the room then. -/
theorem never_missed {settings : ChatSettings} {now : Int} {before between late : List Move} {s : SessionId} {k : Nat}
    {t t' : Traffic} {user : UserId} {f : ClientFrame} {m : Message} (ht : (start settings now).run before = t)
    (ht' : (t.step (.finish s)).run between = t')
    (hsessions : ((before ++ .finish s :: (between ++ .act (.sendOut k) :: late)).filterMap Move.connects?).Nodup)
    (hsteady : Run.Along step (Steady m.room) (start settings now)
      (before ++ .finish s :: (between ++ .act (.sendOut k) :: late)))
    (hspares : Run.Along step SparesPlaces t (.finish s :: between))
    (htask : t.tasks.get? s = some ⟨f, .announce m⟩)
    (hasked : (Whereabouts.waiting t.crowd.server.pending.length).after (t.step (.finish s)) between = .asked k)
    (hplace : t.crowd.server.store.hasPlace m.room user = true) (hother : user ≠ m.author)
    (honline : Run.Throughout step (fun t => t.crowd.server.registry.isOnline user = true) t (.finish s :: between))
    (hreceives : Run.Throughout step (Receives user) t (.finish s :: (between ++ .act (.sendOut k) :: late)))
    (hdone : ∀ s' r f, (t'.run (.act (.sendOut k) :: late)).crowd.routers.get? s' = some r → r.user = user →
      (t'.run (.act (.sendOut k) :: late)).tasks.get? s' ≠ some ⟨f, .history m.room⟩) :
    t.Hears (.finish s) user m ∨ t'.IsHinted (.act (.sendOut k)) user m ∨
      (t.step (.finish s)).CatchesUp between (.act (.sendOut k) :: late) user m := by
  subst ht ht'
  have hc := coupled_of_start settings now before
  have hc' := coupled_run (coupled_step hc (.finish s)) between
  obtain ⟨sender, hsender⟩ := exists_router_of_task htask
  obtain ⟨hsteadyBefore, hsteadyFinish, hsteadyAfter⟩ := Run.along_append.1 hsteady
  obtain ⟨hsound, -⟩ := (sound_start m.room settings now).run hsteadyBefore
  by_cases hinside : ∃ s' entry, ((start settings now).run before).crowd.server.registry.sessions.get? s' = some entry ∧
      entry.user = user ∧ entry.room = some m.room
  · obtain ⟨s', entry, hentry, huser, hroom⟩ := hinside
    have hlive := hreceives.head.live hc ((hc.shows.entry s').symm.trans hentry) huser
    obtain ⟨chat, hchat⟩ := hears_chat hc htask hsender hentry hroom hlive
    exact .inl ⟨s', entry, chat, hentry, huser, hchat⟩
  right
  cases hin : ((((start settings now).run before).step (.finish s)).run between
      ).crowd.server.registry.isInRoom user m.room with
  | false =>
    left
    have hfresh := (Run.along_append.1 (fresh_of_nodup settings now hsessions)).2.2
    have hleft := pending_of_announce htask hsender
    obtain ⟨users, hunderway, huser⟩ := hint_underway user (Router.hintOf m) (coupled_step hc _)
      (Run.along_append.1 hfresh).1 hspares.2 (by rw [Whereabouts.Holds, hleft, List.getElem?_concat_length])
      ((keepsPlaces_step hspares.1).hasPlace hplace) hasked
    exact isHinted_of_absent hc' hunderway huser hother honline.2.last hin hreceives.2.at
  | true =>
    right
    obtain ⟨s', entry, hentry, huser, hroom⟩ := hc'.shows.isInRoom_iff.1 hin
    obtain ⟨r, hr, hopen, rfl⟩ := Crowd.shown?_eq_some_iff.1 hentry
    have hsaved := (hsound.sayings_step hsteadyFinish).subset (hsound.saved s f m htask rfl)
    refine catchesUp_of_entered (hsound.step hsteadyFinish) hsteadyAfter hsaved (coupled_step hc _) hreceives.2 hr hopen
      hroom huser (fun hwas => hinside ⟨s', _, ?_, huser, hroom⟩) fun f' hend => ?_
    · -- The announcement has moved nobody.
      rw [step_finish htask hsender] at hwas
      exact (hc.shows.entry s').trans (Crowd.shown?_eq_some_iff.2 ⟨r, hwas, hopen, rfl⟩)
    · rw [run_append] at hend ⊢
      exact hdone s' r f' hend huser

/-- Somebody takes a join up between the announcement of a message and the sending of its hint, and finishes it later:
they are sent neither the chat nor the hint, and catch up. -/
theorem never_missed_while_joining :
    let join := "\x7b\"event\":\"join\",\"room\":\"r\"\x7d"
    let chat := "\x7b\"event\":\"chat\",\"text\":\"hi\"\x7d"
    let before : List Move := [.act (.store { Store.empty with participants := [⟨"r", 8⟩] }),
      .act (.connect 1 10 7 "ann" none), .act (.connect 2 20 8 "bob" none), .takeUp 1 join, .finish 1, .takeUp 1 chat]
    let between : List Move := [.act (.lookUp 2), .takeUp 2 join]
    let late : List Move := [.finish 2]
    let t := (start .default 0).run before
    let m : Message := ⟨1, "r", 7, "ann", some "hi", none, false, none, 0⟩
    Run.Along step (Steady "r") (start .default 0) (before ++ .finish 1 :: (between ++ .act (.sendOut 0) :: late)) ∧
      t.tasks.get? 1 = some ⟨⟨"chat", none, some "hi", none, none, none, none⟩, .announce m⟩ ∧
      (t.step (.finish 1)).CatchesUp between (.act (.sendOut 0) :: late) 8 m := by
  intro join chat before between late t m
  let t' := (t.step (.finish 1)).run between
  have ht : (start .default 0).run before = t := rfl
  have ht' : (t.step (.finish 1)).run between = t' := rfl
  have hsessions : ((before ++ .finish 1 :: (between ++ .act (.sendOut 0) :: late)).filterMap
      Move.connects?).Nodup := by decide +kernel +zetaReduce
  have hsteady : Run.Along step (Steady "r") (start .default 0)
      (before ++ .finish 1 :: (between ++ .act (.sendOut 0) :: late)) := by decide +kernel +zetaReduce
  have hspares : Run.Along step SparesPlaces t (.finish 1 :: between) := by decide +kernel +zetaReduce
  have htask : t.tasks.get? 1 = some ⟨⟨"chat", none, some "hi", none, none, none, none⟩, .announce m⟩ := by
    decide +kernel +zetaReduce
  have hasked : (Whereabouts.waiting t.crowd.server.pending.length).after (t.step (.finish 1)) between = .asked 0 := by
    decide +kernel +zetaReduce
  have hplace : t.crowd.server.store.hasPlace "r" 8 = true := by decide +kernel +zetaReduce
  have honline : Run.Throughout step (fun t => t.crowd.server.registry.isOnline 8 = true) t (.finish 1 :: between) := by
    decide +kernel +zetaReduce
  have hreceives : Run.Throughout step (Receives 8) t (.finish 1 :: (between ++ .act (.sendOut 0) :: late)) := by
    decide +kernel +zetaReduce
  have hdone : (t'.run (.act (.sendOut 0) :: late)).tasks.entries = [] := by decide +kernel +zetaReduce
  have hhandle : ∀ e ∈ t.crowd.server.registry.sessions.entries, e.2.user = 8 → e.2.handle = 20 := by
    decide +kernel +zetaReduce
  have hentry : t'.crowd.server.registry.sessions.get? 2 = some ⟨8, "bob", 20, some "r"⟩ := by
    decide +kernel +zetaReduce
  have hnoChat : t.sent (.finish 1) 20 = [] := by decide +kernel +zetaReduce
  have hnoHint : t'.sent (.act (.sendOut 0)) 20 = [] := by decide +kernel +zetaReduce
  clear_value t t'
  have hknown := never_missed ht ht' hsessions hsteady hspares htask hasked hplace (by decide) honline hreceives
    fun s' r f' _ _ hjoining => by
      rw [Table.get?_eq_some_iff, hdone] at hjoining
      cases hjoining
  refine ⟨hsteady, htask, (hknown.resolve_left ?_).resolve_left ?_⟩
  · rintro ⟨s', entry, heard, hin, huser, hsent, -⟩
    rw [hhandle _ ((Table.get?_eq_some_iff _).1 hin) huser, hnoChat] at hsent
    cases hsent
  · intro hhinted
    have hsent := hhinted.hint 2 _ hentry rfl
    rw [hnoHint] at hsent
    cases hsent

end Traffic

end DirectChat
