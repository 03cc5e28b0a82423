import DirectChat.Proofs.Chat.Crowd
import DirectChat.Proofs.Session.Refinement
/-!
# Routers and the registry

The room of a session is kept twice, by its router and by the registry, and a router goes on handling
texts after it was closed. `Couples` says of one step of a router that a registry which showed the
router's entry before shows it afterwards: an open router's entry names its room, a closed one has none.
Every step couples (`couples_handleText`, `couples_close`), so in every run the registry shows exactly
the open routers (`Coupled`, `Coupled.run`).
-/

namespace DirectChat

/-! ## Steps of a router -/

namespace Router

/-- What the registry has to say of a router: nothing once it is closed. -/
def shown? (r : Router) : Option SessionEntry :=
  if r.closed then none else some ⟨r.user, r.username, r.handle, r.room⟩

/-- A step of a router that keeps what the registry says of it. -/
structure Couples (r : Router) (sv : Server) (next : Router × Server) : Prop where
  session : next.1.session = r.session
  shows : ∀ f, sv.registry.Shows f → f r.session = r.shown? →
    next.2.registry.Shows (Function.update f r.session next.1.shown?)

variable {r r' : Router} {sv sv' : Server} {next : Router × Server}

theorem Couples.trans (h : r.Couples sv (r', sv')) (h' : r'.Couples sv' next) : r.Couples sv next where
  session := h'.session.trans h.session
  shows f hf hr := by
    have hmid := h.shows f hf hr
    have hend := h'.shows _ hmid (by rw [show r'.session = r.session from h.session, Function.update_self])
    rwa [show r'.session = r.session from h.session, Function.update_idem] at hend

theorem couples_of_registry_eq (h : sv'.registry = sv.registry) : r.Couples sv (r, sv') where
  session := rfl
  shows f hf hr := by rwa [h, ← hr, Function.update_eq_self]

theorem leave_fst (r : Router) (sv : Server) : (r.leave sv).1 = { r with room := none } := by
  unfold leave
  split
  · rename_i h
    rw [← h]
  · rfl

theorem leave_of_none (hroom : r.room = none) (sv : Server) : r.leave sv = (r, sv) := by
  rw [leave, hroom]

theorem leave_registry {room : RoomId} (hroom : r.room = some room) (sv : Server) :
    (r.leave sv).2.registry = sv.registry.leave room r.session := by
  rw [leave, hroom]
  rfl

theorem couples_leave (r : Router) (sv : Server) : r.Couples sv (r.leave sv) := by
  cases hroom : r.room with
  | none =>
    rw [leave_of_none hroom]
    exact couples_of_registry_eq rfl
  | some room =>
    refine ⟨by rw [leave_fst], fun f hf hr => ?_⟩
    have hleft := hf.leave room r.session
    have hentry : (f r.session).map (·.left room) = ({ r with room := none } : Router).shown? := by
      rw [hr]
      cases hc : r.closed <;> simp [shown?, hc, hroom, SessionEntry.left]
    rwa [leave_fst, ← hentry, leave_registry hroom]

/-- Whatever the registry showed of a router's session, leaving changes it there only. -/
theorem leave_shows {f : SessionId → Option SessionEntry} (hf : sv.registry.Shows f) (r : Router) :
    ∃ e, (r.leave sv).2.registry.Shows (Function.update f r.session e) := by
  cases hroom : r.room with
  | none => exact ⟨f r.session, by rwa [leave_of_none hroom, Function.update_eq_self]⟩
  | some room => exact ⟨_, by rw [leave_registry hroom]; exact hf.leave room r.session⟩

theorem enter_fst (r : Router) (room : RoomId) (sv : Server) :
    (r.enter room sv).1 = { r with room := some room } := by
  simp only [enter, leave_fst]

theorem enter_registry (r : Router) (room : RoomId) (sv : Server) :
    (r.enter room sv).2.registry = (r.leave sv).2.registry.join room r.session := by
  simp only [enter, leave_fst]
  rfl

theorem couples_enter (r : Router) (room : RoomId) (sv : Server) : r.Couples sv (r.enter room sv) := by
  refine ⟨by rw [enter_fst], fun f hf hr => ?_⟩
  have hleft := (couples_leave r sv).shows f hf hr
  have hjoined := hleft.join room r.session
  have hentry : (Function.update f r.session (r.leave sv).1.shown? r.session).map (·.joined room) =
      ({ r with room := some room } : Router).shown? := by
    rw [Function.update_self, leave_fst]
    cases r.closed <;> simp [shown?, SessionEntry.joined]
  rwa [hentry, Function.update_idem, ← enter_registry, ← enter_fst r room sv] at hjoined

theorem sendHistory_registry (r : Router) (room : RoomId) (sv : Server) :
    (r.sendHistory room sv).registry = sv.registry := by
  unfold sendHistory
  split <;> rfl

theorem join_fst (r : Router) (room : RoomId) (sv : Server) :
    (r.join room sv).1 = if room = "" then r else { r with room := some room } := by
  unfold join
  split
  · rfl
  · exact enter_fst r room sv

theorem couples_join (r : Router) (room : RoomId) (sv : Server) : r.Couples sv (r.join room sv) := by
  unfold join
  split
  · exact couples_of_registry_eq rfl
  · exact (couples_enter r room sv).trans (couples_of_registry_eq (sendHistory_registry _ room _))

/-- A message is saved by a change of the store alone. -/
theorem saveChat_eq_ok {room : RoomId} {text voice : Option String} {inline : Option ReplyPreview} {id : Option Int}
    {m : Message} (h : r.saveChat room text voice inline id sv = .ok (m, sv')) :
    ∃ store, sv.store.saveMessage
        ⟨room, r.user, r.username, text, voice, resolveReply room inline id sv.store⟩ sv.now = .ok (m, store) ∧
      sv' = { sv with store } := by
  unfold saveChat at h
  cases hs : sv.store.saveMessage
      ⟨room, r.user, r.username, text, voice, resolveReply room inline id sv.store⟩ sv.now with
  | error e => simp [hs, bind, Except.bind] at h
  | ok saved =>
    simp only [hs, bind, Except.bind, pure, Except.pure, Except.ok.injEq, Prod.mk.injEq] at h
    obtain ⟨rfl, rfl⟩ := h
    exact ⟨saved.2, rfl, rfl⟩

theorem chat_registry (r : Router) (f : ClientFrame) (sv : Server) : (r.chat f sv).registry = sv.registry := by
  unfold chat
  split
  · rfl
  · dsimp only
    split
    · rfl
    · split
      · rfl
      · rename_i hsave
        obtain ⟨store, -, rfl⟩ := saveChat_eq_ok hsave
        rfl

theorem seen_registry (r : Router) (timestamp : Option Int) (named : Option RoomId) (sv : Server) :
    (r.seen timestamp named sv).registry = sv.registry := by
  unfold seen
  split
  · split <;> rfl
  · rfl

theorem couples_dispatch (r : Router) (f : ClientFrame) (sv : Server) : r.Couples sv (r.dispatch f sv) := by
  unfold dispatch
  split
  · exact couples_join r _ sv
  · exact couples_leave r sv
  · exact couples_of_registry_eq (chat_registry r f sv)
  · exact couples_of_registry_eq (seen_registry r _ _ sv)
  · exact couples_of_registry_eq rfl
  · exact couples_of_registry_eq rfl

theorem couples_handleText (r : Router) (raw : String) (sv : Server) : r.Couples sv (r.handleText raw sv) := by
  unfold handleText
  split
  · exact couples_dispatch r _ sv
  · exact couples_of_registry_eq rfl

theorem handleText_fst (r : Router) (raw : String) (sv : Server) :
    ∃ room, (r.handleText raw sv).1 = { r with room } := by
  have hself : ∃ room, r = { r with room } := ⟨r.room, rfl⟩
  unfold handleText dispatch
  split
  · split
    · rw [join_fst]
      split
      · exact hself
      · exact ⟨_, rfl⟩
    · exact ⟨none, leave_fst r sv⟩
    all_goals exact hself
  · exact hself

theorem close_fst (r : Router) (sv : Server) :
    (r.close sv).1 = if r.closed then r else { r with closed := true, room := none } := by
  unfold close
  split
  · rfl
  · exact leave_fst _ sv

theorem close_closed (r : Router) (sv : Server) : (r.close sv).1.closed = true := by
  rw [close_fst]
  split
  · assumption
  · rfl

theorem couples_close (r : Router) (sv : Server) : r.Couples sv (r.close sv) := by
  by_cases hc : r.closed = true
  · rw [close, if_pos hc]
    exact couples_of_registry_eq rfl
  · have hnone : (r.close sv).1.shown? = none := by rw [shown?, close_closed, if_pos rfl]
    refine ⟨by rw [close_fst, if_neg hc], fun f hf _ => ?_⟩
    -- The router counts as closed from here on, so what it leaves is no matter of its own entry.
    obtain ⟨e, hleft⟩ := leave_shows hf { r with closed := true }
    have hend := hleft.unregister r.session
    rw [hnone]
    simp only [Function.update_idem] at hend
    rw [close, if_neg hc]
    simp only [leave_fst]
    split <;> exact hend

end Router

/-! ## All routers together -/

namespace Crowd

variable {c : Crowd}

/-- What the registry has to say of a session: its router's entry, if there is one. -/
def shown? (c : Crowd) (s : SessionId) : Option SessionEntry := (c.routers.get? s).bind Router.shown?

/-- The registry shows exactly the open routers. -/
structure Coupled (c : Crowd) : Prop where
  shows : c.server.registry.Shows c.shown?
  session : ∀ s r, c.routers.get? s = some r → r.session = s

theorem shown?_eq_some_iff {c : Crowd} {s : SessionId} {entry : SessionEntry} :
    c.shown? s = some entry ↔
      ∃ r, c.routers.get? s = some r ∧ r.closed = false ∧ ⟨r.user, r.username, r.handle, r.room⟩ = entry := by
  rw [shown?, Option.bind_eq_some_iff]
  refine exists_congr fun r => and_congr_right fun _ => ?_
  cases hc : r.closed <;> simp [Router.shown?, hc]

theorem shown?_insert (c : Crowd) (sv : Server) (s : SessionId) (r : Router) :
    shown? { c with server := sv, routers := c.routers.insert s r } = Function.update c.shown? s r.shown? :=
  funext fun s' => by
    rw [shown?, Table.get?_insert, Function.update_apply]
    split <;> rfl

theorem coupled_start (settings : ChatSettings) (now : Int) : (start settings now).Coupled :=
  ⟨Registry.shows_empty, fun _ _ h => by cases h⟩

theorem Coupled.of_eq {c' : Crowd} (h : c.Coupled) (hregistry : c'.server.registry = c.server.registry)
    (hrouters : c'.routers = c.routers) : c'.Coupled where
  shows := by
    rw [hregistry, show c'.shown? = c.shown? from funext fun s => by rw [shown?, hrouters, shown?]]
    exact h.shows
  session := by
    rw [hrouters]
    exact h.session

theorem Coupled.act (h : c.Coupled) (s : SessionId) {f : Router → Server → Router × Server}
    (hf : ∀ (r : Router) (sv : Server), r.Couples sv (f r sv)) : (c.act s f).Coupled := by
  cases hr : c.routers.get? s with
  | none => rwa [c.act_of_none hr]
  | some r =>
    have hs : r.session = s := h.session s r hr
    have hknown : c.shown? r.session = r.shown? := by rw [hs, shown?, hr, Option.bind_some]
    have hstep := hf r c.server
    rw [c.act_of_some hr]
    refine ⟨?_, fun s' r' hr' => ?_⟩
    · rw [shown?_insert]
      exact hs ▸ hstep.shows c.shown? h.shows hknown
    · rw [Table.get?_insert] at hr'
      split at hr'
      · cases hr'
        rw [hstep.session, hs]
        exact Eq.symm ‹_›
      · exact h.session s' r' hr'

theorem Coupled.connect (h : c.Coupled) (s : SessionId) (handle : Handle) (user : UserId) (username : String)
    (host : Option String) : (c.connect s handle user username host).Coupled := by
  have hshows := h.shows.register s user username handle
  have hregistry : (c.connect s handle user username host).server.registry =
      (c.server.registry.register s user username handle).1 := by
    obtain ⟨pending, hserver⟩ := c.connect_server s handle user username host
    rw [hserver]
  refine ⟨?_, fun s' r' hr' => ?_⟩
  · rw [hregistry, Crowd.connect, shown?_insert]
    exact hshows
  · rw [Crowd.connect, Table.get?_insert] at hr'
    split at hr'
    · cases hr'
      exact Eq.symm ‹_›
    · exact h.session s' r' hr'

theorem shown?_close (c : Crowd) (s : SessionId) : (c.act s Router.close).shown? s = none := by
  cases hr : c.routers.get? s with
  | none => rw [c.act_of_none hr, shown?, hr, Option.bind_none]
  | some r => rw [c.act_of_some hr, shown?_insert, Function.update_self, Router.shown?, Router.close_closed, if_pos rfl]

/-- Forgetting a router of which the registry has nothing to say. -/
theorem Coupled.forget (h : c.Coupled) {s : SessionId} (hs : c.shown? s = none) :
    Coupled { c with routers := c.routers.erase s } := by
  have hentry : ({ c with routers := c.routers.erase s } : Crowd).shown? = c.shown? := funext fun s' => by
    rw [shown?, Table.get?_erase]
    split
    · rename_i hs'
      rw [hs', hs, Option.bind_none]
    · rfl
  refine ⟨by rw [hentry]; exact h.shows, fun s' r hr => ?_⟩
  rw [Table.get?_erase] at hr
  split at hr
  · cases hr
  · exact h.session s' r hr

theorem lookUp_coupled (h : c.Coupled) (n : Nat) : (c.lookUp n).Coupled := by
  unfold lookUp
  split
  · exact h
  · dsimp only
    split <;> exact h.of_eq rfl rfl

theorem sendOut_coupled (h : c.Coupled) (n : Nat) : (c.sendOut n).Coupled := by
  unfold sendOut
  split
  · exact h
  · exact h.of_eq rfl rfl

/-- No act lets routers and registry drift apart. -/
theorem Coupled.step (h : c.Coupled) (a : Act) : (c.step a).Coupled := by
  cases a with
  | connect s handle user username host => exact h.connect s handle user username host
  | welcome s =>
    exact h.act s fun r sv => Router.couples_of_registry_eq (show (r.welcome sv).registry = sv.registry from rfl)
  | text s raw => exact h.act s fun r sv => Router.couples_handleText r raw sv
  | enter s room => exact h.act s fun r sv => Router.couples_enter r room sv
  | sendHistory s room =>
    exact h.act s fun r sv => Router.couples_of_registry_eq (Router.sendHistory_registry r room sv)
  | announceChat s m =>
    exact h.act s fun r sv => Router.couples_of_registry_eq (show (r.announceChat m sv).registry = sv.registry from rfl)
  | put handles f => exact h.of_eq rfl rfl
  | leave s => exact h.act s Router.couples_leave
  | close s => exact h.act s Router.couples_close
  | drop s => exact (h.act s Router.couples_close).forget (c.shown?_close s)
  | kill handle => exact h.of_eq rfl rfl
  | receive handle => exact h.of_eq rfl rfl
  | store store => exact h.of_eq rfl rfl
  | clock now => exact h.of_eq rfl rfl
  | lookUp n => exact lookUp_coupled h n
  | sendOut n => exact sendOut_coupled h n
  | giveUp n => exact h.of_eq rfl rfl

theorem Coupled.run (h : c.Coupled) (acts : List Act) : (c.run acts).Coupled := by
  induction acts generalizing c with
  | nil => exact h
  | cons a acts ih => exact ih (h.step a)

end Crowd

end DirectChat
