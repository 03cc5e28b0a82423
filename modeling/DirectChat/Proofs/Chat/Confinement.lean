import DirectChat.Proofs.Chat.Causes
import DirectChat.Proofs.Chat.Whereabouts
/-!
# What a session hears of a room

Whoever is sent an event that names a room is in that room, has asked for it, or has a place in it. The
causes of a move's events rest on what the frames in hand and the notifications underway hold, and all
that they hold was asked for or looked up before (`Grounded`). From that follows what has to be so at the
moment an event is sent (`Confines`) and that a session without a place in a room, whose client never
names it, never hears of it (`room_confinement`).
-/

namespace DirectChat

/-- The rooms that an event names. -/
def Event.rooms : Event → List RoomId
  | .connected _ | .error _ | .userStatus .. => []
  | .joined room .. | .join room .. | .leave room .. | .seenSuccessful room .. | .seenFailed room ..
  | .messagesSeen room .. | .newMessage room .. => [room]
  | .history room items .. => room :: items.map (·.room)
  | .chat m => [m.room]
  | .list rooms => rooms.map (·.room)

theorem Event.rooms_of_isWord {e : Event} (h : e.IsWord) : e.rooms = [] := by
  cases e <;> first | rfl | exact h.elim

theorem Event.rooms_of_newsOf? {e : Event} {room : RoomId} (h : e.newsOf? = some room) : e.rooms = [room] := by
  cases e <;> cases h <;> rfl

/-- The frame that a move brings from the client of a session. -/
def Move.frameOf? (s : SessionId) : Move → Option ClientFrame
  | .takeUp s' raw => if s' = s then ClientFrame.decode raw else none
  | .act _ | .finish _ => none

/-- The frames that the client of a session sends. -/
def framesOf (s : SessionId) (moves : List Move) : List ClientFrame := moves.filterMap (Move.frameOf? s)

/-- By the store, a notification concerns all of the users. -/
def Notification.Concerns (n : Notification) (users : List UserId) (store : Store) : Prop :=
  match n with
  | .presence user _ _ => users.Nodup ∧ ∀ other ∈ users, store.SharesRoom user other
  | .hint h => ∀ user ∈ users, store.hasPlace h.room user = true

theorem Notification.concerns_of_ok {n : Notification} {users : List UserId} {store : Store}
    (h : n.concerned store = .ok users) : n.Concerns users store := by
  cases n with
  | presence user username online =>
    exact ⟨Store.nodup_usersSharingRoomWith h, fun other ho => (Store.mem_usersSharingRoomWith h).1 ho⟩
  | hint hint => exact fun user hu => (Store.mem_roomParticipants h).1 hu

theorem Notification.Concerns.keep {n : Notification} {users : List UserId} {store store' : Store}
    (h : n.Concerns users store) (hk : store.KeepsPlaces store') : n.Concerns users store' := by
  cases n with
  | presence => exact ⟨h.1, fun other ho => hk.sharesRoom (h.2 other ho)⟩
  | hint => exact fun user hu => hk.hasPlace (h user hu)

/-- What is left of a frame is what the frame asked of the router. -/
def Task.Follows (r : Router) (store : Store) (task : Task) : Prop :=
  match task.rest with
  | .history room => task.frame.event = "join" ∧ task.frame.room = some room
  | .announce _ => True
  | .seen room .. | .unseen room .. =>
    task.frame.event = "seen" ∧ (r.room = some room ∨ task.frame.room = some room)
  | .list rooms => ∀ x ∈ rooms, store.hasPlace x.room r.user = true

theorem Router.follows_takeUp (r : Router) (f : ClientFrame) (sv : Server) {rest : Rest}
    (h : (r.takeUp f sv).rest = some rest) :
    Task.Follows (r.takeUp f sv).router (r.takeUp f sv).server.store ⟨f, rest⟩ := by
  have htakes := r.takesUp f sv
  generalize r.takeUp f sv = u at htakes h
  cases htakes with
  | nothing | leaves | complains => cases h
  | enters room hevent hroom =>
    cases h
    exact ⟨hevent, hroom⟩
  | saves =>
    cases h
    trivial
  | marks room ts count store hevent hroom | failsToMark room ts e hevent hroom =>
    cases h
    exact ⟨hevent, (seenRoom_eq_some_iff.1 hroom).imp_right fun h => h.2.1⟩
  | lists =>
    cases h
    intro x hx
    unfold foundRooms at hx
    split at hx
    · rename_i rooms hrooms
      exact Store.hasPlace_of_mem_userRooms hrooms hx
    · cases hx

theorem Task.Follows.keep {r : Router} {store store' : Store} {task : Task} (h : task.Follows r store)
    (hk : store.KeepsPlaces store') : task.Follows r store' := by
  obtain ⟨f, rest⟩ := task
  cases rest with
  | list rooms => exact fun x hx => hk.hasPlace (h x hx)
  | _ => exact h

namespace Traffic

variable {t : Traffic} {moves : List Move} {mv : Move}

/-! ## What is in hand and underway -/

/-- What is in hand and underway was asked for, or looked up, in the moves so far. -/
structure Grounded (moves : List Move) (t : Traffic) : Prop where
  task : ∀ s task, t.tasks.get? s = some task → task.frame ∈ framesOf s moves ∧
    ∃ r, t.crowd.routers.get? s = some r ∧ task.Follows r t.crowd.server.store
  room : ∀ s r room, t.crowd.routers.get? s = some r → r.room = some room →
    ∃ f ∈ framesOf s moves, f.room = some room
  underway : ∀ n users, (n, users) ∈ t.crowd.underway → n.Concerns users t.crowd.server.store

theorem framesOf_append (s : SessionId) (moves more : List Move) :
    framesOf s (moves ++ more) = framesOf s moves ++ framesOf s more := List.filterMap_append

theorem mem_framesOf_takeUp {s : SessionId} {raw : String} {f : ClientFrame} (moves : List Move)
    (hframe : ClientFrame.decode raw = some f) : f ∈ framesOf s (moves ++ [.takeUp s raw]) := by
  rw [framesOf_append]
  refine List.mem_append_right _ ?_
  simp [framesOf, Move.frameOf?, hframe]

/-- What is underway after a move was underway before, or was just looked up. -/
theorem mem_underway_step {n : Notification} {users : List UserId} (h : (n, users) ∈ (t.step mv).crowd.underway) :
    (n, users) ∈ t.crowd.underway ∨ n.concerned t.crowd.server.store = .ok users := by
  have hunderway := t.underway_step mv
  generalize (t.step mv).crowd.underway = underway at hunderway h
  cases hunderway with
  | same => exact .inl h
  | asked k n' users' hmv hn hok =>
    rcases List.mem_append.1 h with h | h
    · exact .inl h
    · cases List.mem_singleton.1 h
      exact .inr hok
  | sent k => exact .inl (List.mem_of_mem_eraseIdx h)

theorem Grounded.step (h : t.Grounded moves) (hspares : t.SparesPlaces mv) : (t.step mv).Grounded (moves ++ [mv]) := by
  have hk := keepsPlaces_step hspares
  have hold : ∀ {s f}, f ∈ framesOf s moves → f ∈ framesOf s (moves ++ [mv]) := fun hf => by
    rw [framesOf_append]
    exact List.mem_append_left _ hf
  refine ⟨fun s task htask => ?_, fun s r room hrouter hroom => ?_, fun n users hin => ?_⟩
  · cases task_step htask with
    | stayed htask hrouter =>
      obtain ⟨hframe, r, hr, hfollows⟩ := h.task s task htask
      exact ⟨hold hframe, r, hrouter.trans hr, hfollows.keep hk⟩
    | takenUp raw r hmv hframe hrouter hrest hstep =>
      subst hmv
      refine ⟨mem_framesOf_takeUp moves hframe, (r.takeUp task.frame t.crowd.server).router, ?_, ?_⟩
      · rw [hstep]
        exact Table.get?_insert_self ..
      · rw [hstep]
        exact r.follows_takeUp task.frame t.crowd.server hrest
  · cases router_step hrouter with
    | stayed hrouter =>
      obtain ⟨f, hf, hfroom⟩ := h.room s r room hrouter hroom
      exact ⟨f, hold hf, hfroom⟩
    | connected handle user username host hmv hr =>
      subst hr
      cases hroom
    | left r₀ closed hrouter _ _ hr =>
      subst hr
      cases hroom
    | entered r₀ raw f entered hrouter _ hmv hframe _ hfroom _ hr =>
      subst hr hmv
      cases hroom
      exact ⟨f, mem_framesOf_takeUp moves hframe, hfroom⟩
  · rcases mem_underway_step hin with hin | hok
    · exact (h.underway n users hin).keep hk
    · exact (Notification.concerns_of_ok hok).keep hk

theorem grounded_run {settings : ChatSettings} {now : Int}
    (h : Run.Along Traffic.step SparesPlaces (start settings now) moves) :
    ((start settings now).run moves).Grounded moves := by
  induction moves using List.reverseRecOn with
  | nil =>
    refine ⟨fun s task htask => ?_, fun s r room hrouter => ?_, fun n users hin => ?_⟩
    · cases htask
    · cases hrouter
    · cases hin
  | append_singleton moves mv ih =>
    obtain ⟨hbefore, hmv⟩ := Run.along_snoc.1 h
    rw [run_append]
    exact (ih hbefore).step hmv

/-! ## What has to be so -/

/-- The move takes up or finishes a frame of the session. -/
def Handles (t : Traffic) (mv : Move) (s : SessionId) (f : ClientFrame) : Prop :=
  (∃ raw, mv = .takeUp s raw ∧ ClientFrame.decode raw = some f) ∨
    mv = .finish s ∧ ∃ rest, t.tasks.get? s = some ⟨f, rest⟩

theorem Grounded.handles (h : t.Grounded moves) {s : SessionId} {f : ClientFrame} (hf : t.Handles mv s f) :
    f ∈ framesOf s (moves ++ [mv]) := by
  rcases hf with ⟨raw, rfl, hframe⟩ | ⟨rfl, rest, htask⟩
  · exact mem_framesOf_takeUp moves hframe
  · rw [framesOf_append]
    exact List.mem_append_left _ (h.task s _ htask).1

/-- What has to be so when a move sends a session of a user an event that names a room. -/
def Confines (t : Traffic) (mv : Move) (s : SessionId) (user : UserId) (room : RoomId) : Event → Prop
  | .join .. | .leave .. | .chat _ | .messagesSeen .. =>
    t.crowd.server.registry.roomOf s = some room ∧ (t.step mv).crowd.server.registry.roomOf s = some room
  | .joined .. | .history .. => ∃ f, t.Handles mv s f ∧ f.event = "join" ∧ f.room = some room
  | .seenSuccessful .. | .seenFailed .. =>
    ∃ f r, t.Handles mv s f ∧ f.event = "seen" ∧ t.crowd.routers.get? s = some r ∧
      (r.room = some room ∨ f.room = some room)
  | .list _ | .newMessage .. => t.crowd.server.store.hasPlace room user = true
  | .connected _ | .error _ | .userStatus .. => False

theorem confines_news (hc : t.crowd.Coupled) {s : SessionId} {user : UserId} {room : RoomId} {e : Event}
    {entry : SessionEntry} (he : e.newsOf? = some room) (hbefore : t.crowd.shown? s = some entry)
    (hafter : (t.step mv).crowd.shown? s = some entry) (hroom : entry.room = some room) :
    t.Confines mv s user room e := by
  have hin : t.crowd.server.registry.roomOf s = some room ∧ (t.step mv).crowd.server.registry.roomOf s = some room := by
    rw [Registry.roomOf, Registry.roomOf, hc.shows.entry, (coupled_step hc mv).shows.entry, hbefore, hafter]
    exact ⟨hroom, hroom⟩
  cases e <;> first | exact hin | cases he

theorem confines_answer {s : SessionId} {r : Router} {task : Task} {room : RoomId} {e : Event}
    (hrouter : t.crowd.routers.get? s = some r) (htask : t.tasks.get? s = some task)
    (hfollows : task.Follows r t.crowd.server.store) (he : r.answer? t.crowd.server task.rest = some e)
    (hroom : room ∈ e.rooms) : t.Confines (.finish s) s r.user room e := by
  obtain ⟨f, rest⟩ := task
  have hhandles : t.Handles (.finish s) s f := .inr ⟨rfl, rest, htask⟩
  cases rest with
  | history shown =>
    simp only [Router.answer?] at he
    split at he
    · rename_i messages hrecent
      cases he
      have hshown : room = shown := by
        rcases List.mem_cons.1 hroom with h | h
        · exact h
        · obtain ⟨item, hitem, rfl⟩ := List.mem_map.1 h
          obtain ⟨m, hm, rfl⟩ := List.mem_map.1 hitem
          exact Store.room_of_mem_recentMessages hrecent hm
      rw [hshown]
      exact ⟨f, hhandles, hfollows⟩
    · cases he
  | announce m => cases he
  | seen shown ts count | unseen shown ts reason =>
    cases he
    cases List.mem_singleton.1 hroom
    exact ⟨f, r, hhandles, hfollows.1, hrouter, hfollows.2⟩
  | list rooms =>
    cases he
    obtain ⟨x, hx, rfl⟩ := List.mem_map.1 hroom
    obtain ⟨y, hy, rfl⟩ := List.mem_map.1 hx
    exact hfollows y hy

theorem confines_notified {n : Notification} {users : List UserId} {s : SessionId} {user : UserId} {room : RoomId}
    (hconcerns : n.Concerns users t.crowd.server.store)
    (huser : user ∈ n.recipients users t.crowd.server.registry) (hroom : room ∈ (n.event t.crowd.server.now).rooms) :
    t.Confines mv s user room (n.event t.crowd.server.now) := by
  cases n with
  | presence => cases hroom
  | hint hint =>
    cases List.mem_singleton.1 hroom
    exact hconcerns user (List.mem_filter.1 huser).1

/-- Whoever hears of a room has a place in it, or its client has named it. -/
theorem Grounded.named_or_placed (hg : t.Grounded moves) (hc : t.crowd.Coupled) {s : SessionId} {user : UserId}
    {room : RoomId} {e : Event} (h : t.Confines mv s user room e) :
    (∃ f ∈ framesOf s (moves ++ [mv]), f.room = some room) ∨ t.crowd.server.store.hasPlace room user = true := by
  have hlooking : ∀ {r}, t.crowd.routers.get? s = some r → r.room = some room →
      ∃ f ∈ framesOf s (moves ++ [mv]), f.room = some room := fun hr hroom => by
    obtain ⟨f, hf, hfroom⟩ := hg.room s _ room hr hroom
    rw [framesOf_append]
    exact ⟨f, List.mem_append_left _ hf, hfroom⟩
  cases e with
  | join | leave | chat | messagesSeen =>
    left
    obtain ⟨entry, hentry, hroom⟩ := Option.bind_eq_some_iff.1 h.1
    rw [hc.shows.entry] at hentry
    obtain ⟨r, hr, -, rfl⟩ := Crowd.shown?_eq_some_iff.1 hentry
    exact hlooking hr hroom
  | joined | history =>
    obtain ⟨f, hf, -, hroom⟩ := h
    exact .inl ⟨f, hg.handles hf, hroom⟩
  | seenSuccessful | seenFailed =>
    obtain ⟨f, r, hf, -, hr, hroom⟩ := h
    rcases hroom with hroom | hroom
    · exact .inl (hlooking hr hroom)
    · exact .inl ⟨f, hg.handles hf, hroom⟩
  | list | newMessage => exact .inr h
  | connected | error | userStatus => exact h.elim

/-- **Nobody hears of a room from outside.** Take any run in which every connection has a queue of its own
and nobody's place in a room is taken away, and any session of it. Whatever event naming a room is put into
its queue: a join, a leave, a chat or a receipt, when the registry has the session in the room; the answer
to a join, when its client asked to join that room; the answer to a receipt, when its client sent one while
it was in the room or named it; an entry of a list or a hint of a message, when its user has a place in the
room. So a session whose user has no place in a room, and whose client never names the room, is never sent
an event that names it. -/
theorem room_confinement {settings : ChatSettings} {now : Int} {moves : List Move} {s : SessionId} {h : Handle}
    {user : UserId} {username : String} {host : Option String}
    (hhandles : (moves.filterMap Move.opens?).Nodup)
    (hspares : Run.Along step SparesPlaces (start settings now) moves)
    (hconnect : .act (.connect s h user username host) ∈ moves) :
    (∀ before mv after e room, moves = before ++ mv :: after →
      .event e ∈ ((start settings now).run before).sent mv h → room ∈ e.rooms →
      ((start settings now).run before).Confines mv s user room e ∧
      ∀ f, ((start settings now).run before).Handles mv s f → f ∈ framesOf s (before ++ [mv])) ∧
    ∀ room, ((start settings now).run moves).crowd.server.store.hasPlace room user = false →
      (∀ f ∈ framesOf s moves, f.room ≠ some room) →
      ∀ e, .event e ∈ arrivals h (start settings now) moves → room ∉ e.rooms := by
  have hconfines : ∀ before mv after e room, moves = before ++ mv :: after →
      .event e ∈ ((start settings now).run before).sent mv h → room ∈ e.rooms →
      ((start settings now).run before).Confines mv s user room e := by
    rintro before mv after e room rfl he hroom
    have hc := coupled_of_start settings now before
    have hg := grounded_run (Run.along_append.1 hspares).1
    have howner : ∀ {s' r}, ((start settings now).run before).crowd.routers.get? s' = some r → r.handle = h →
        s' = s ∧ r.user = user := fun hrouter hhandle =>
      (router_of_handle hhandles hconnect hrouter hhandle).imp_right And.left
    have hmember : ∀ {s' entry}, ((start settings now).run before).crowd.shown? s' = some entry → entry.handle = h →
        s' = s ∧ entry.user = user := by
      intro s' entry hentry hhandle
      obtain ⟨r, hr, -, rfl⟩ := Crowd.shown?_eq_some_iff.1 hentry
      exact howner hr hhandle
    cases causes_step hc he with
    | word e hword =>
      rw [Event.rooms_of_isWord hword] at hroom
      cases hroom
    | news e room' s' entry hnews hbefore hafter hin hhandle =>
      rw [Event.rooms_of_newsOf? hnews, List.mem_singleton] at hroom
      subst hroom
      obtain ⟨rfl, -⟩ := hmember hbefore hhandle
      exact confines_news hc hnews hbefore hafter hin
    | joined s' raw f r room' ts hmv hframe hevent hfroom hrouter hhandle =>
      obtain ⟨rfl, -⟩ := howner hrouter hhandle
      cases List.mem_singleton.1 hroom
      exact ⟨f, .inl ⟨raw, hmv, hframe⟩, hevent, hfroom⟩
    | answer e s' r task hmv hrouter htask hanswer hhandle =>
      obtain ⟨rfl, rfl⟩ := howner hrouter hhandle
      obtain ⟨r', hr', hfollows⟩ := (hg.task s' task htask).2
      cases hrouter.symm.trans hr'
      subst hmv
      exact confines_answer hrouter htask hfollows hanswer hroom
    | notified n k users s' entry hmv hunderway huser hentry hhandle =>
      obtain ⟨rfl, rfl⟩ := hmember hentry hhandle
      exact confines_notified (hg.underway n users (List.mem_of_getElem? hunderway)) huser hroom
  refine ⟨fun before mv after e room hmoves he hroom => ⟨hconfines before mv after e room hmoves he hroom, ?_⟩, ?_⟩
  · subst hmoves
    exact fun f hf => (grounded_run (Run.along_append.1 hspares).1).handles hf
  · intro room hplace hnames e he hroom
    obtain ⟨before, mv, after, rfl, hsent⟩ := Run.mem_output.1 he
    obtain ⟨hspared, hsparesAfter⟩ := Run.along_append.1 hspares
    have hg := grounded_run hspared
    rcases hg.named_or_placed (coupled_of_start settings now before)
        (hconfines before mv after e room rfl hsent hroom) with
      ⟨f, hf, hnamed⟩ | hplaced
    · refine hnames f ?_ hnamed
      rw [List.append_cons, framesOf_append]
      exact List.mem_append_left _ hf
    · have hkept : (((start settings now).run before).run (mv :: after)).crowd.server.store.hasPlace room user = true :=
        (keepsPlaces_run hsparesAfter).hasPlace hplaced
      rw [← run_append, hplace] at hkept
      cases hkept

/-- Two of three sessions meet in a room and one of them writes; the third, with a place in another room,
is sent its list and nothing else. -/
theorem room_confinement_outsider :
    let join := "\x7b\"event\":\"join\",\"room\":\"r\"\x7d"
    let chat := "\x7b\"event\":\"chat\",\"text\":\"hi\"\x7d"
    let list := "\x7b\"event\":\"list\"\x7d"
    let moves : List Move := [.act (.store { Store.empty with participants := [⟨"r", 7⟩, ⟨"q", 9⟩] }),
      .act (.connect 3 30 9 "cat" none), .act (.connect 1 10 7 "ann" none), .act (.connect 2 20 8 "bob" none),
      .takeUp 2 join, .finish 2, .takeUp 3 list, .takeUp 1 join, .finish 1, .takeUp 2 chat, .finish 3, .finish 2,
      .act (.leave 1), .act (.lookUp 3), .act (.sendOut 0)]
    (moves.filterMap Move.opens?).Nodup ∧ Run.Along step SparesPlaces (start .default 0) moves ∧
      (arrivals 10 (start .default 0) moves).length = 4 ∧
      arrivals 30 (start .default 0) moves = [.event (.list [])] ∧
      ∀ e, .event e ∈ arrivals 30 (start .default 0) moves → "r" ∉ e.rooms := by
  intro join chat list moves
  have hhandles : (moves.filterMap Move.opens?).Nodup := by decide +kernel +zetaReduce
  have hspares : Run.Along step SparesPlaces (start .default 0) moves := by decide +kernel +zetaReduce
  have hconnect : .act (.connect 3 30 9 "cat" none) ∈ moves := List.mem_cons_of_mem _ (List.mem_cons_self ..)
  have hconfined := (room_confinement hhandles hspares hconnect).2 "r" (by decide +kernel +zetaReduce)
    (by decide +kernel +zetaReduce)
  exact ⟨hhandles, hspares, by decide +kernel +zetaReduce, by decide +kernel +zetaReduce, hconfined⟩

end Traffic

end DirectChat
