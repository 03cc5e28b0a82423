import DirectChat.Proofs.Chat.Coupling
/-!
# Nothing is left of a session that ended

Which sessions are open is a matter of the acts alone: connecting opens one, closing and dropping end it
(`openSessions`). The routers that are not closed are those of the open sessions (`openSessions_run`),
and the registry shows them (`Coupled.run`); so an ended session is in none of its tables
(`registry_follows_routers`), however many texts its router handles afterwards.
-/

namespace DirectChat

/-- Whom a session serves, and where it is reached. -/
structure Client where
  user : UserId
  username : String
  handle : Handle
deriving DecidableEq, Repr

def SessionEntry.client (e : SessionEntry) : Client := ⟨e.user, e.username, e.handle⟩

def Router.client (r : Router) : Client := ⟨r.user, r.username, r.handle⟩

/-- The client of a router that is not closed. -/
def Router.client? (r : Router) : Option Client := if r.closed then none else some r.client

/-- What an act does to the open sessions. -/
def Act.enroll (sessions : Table SessionId Client) : Act → Table SessionId Client
  | .connect s handle user username _ => sessions.insert s ⟨user, username, handle⟩
  | .close s | .drop s => sessions.erase s
  | _ => sessions

/-- The sessions that were connected and neither closed nor dropped, each with its client. -/
def openSessions (acts : List Act) : Table SessionId Client := acts.foldl Act.enroll .empty

theorem Router.map_client_shown? (r : Router) : r.shown?.map SessionEntry.client = r.client? := by
  unfold shown? client?
  split <;> rfl

theorem Router.client?_handleText (r : Router) (raw : String) (sv : Server) :
    (r.handleText raw sv).1.client? = r.client? := by
  obtain ⟨room, h⟩ := r.handleText_fst raw sv
  rw [h]
  rfl

theorem Router.client?_close (r : Router) (sv : Server) : (r.close sv).1.client? = none := by
  rw [client?, close_closed, if_pos rfl]

namespace Crowd

variable {c : Crowd} {t : Table SessionId Client}

/-! ## The open sessions are those of the open routers -/

/-- The client of a session whose router is not closed. -/
def client? (c : Crowd) (s : SessionId) : Option Client := (c.routers.get? s).bind Router.client?

theorem client?_act (c : Crowd) (s : SessionId) {f : Router → Server → Router × Server}
    (hf : ∀ (r : Router) (sv : Server), (f r sv).1.client? = r.client?) : (c.act s f).client? = c.client? := by
  funext s'
  cases hr : c.routers.get? s with
  | none => rw [c.act_of_none hr]
  | some r =>
    rw [c.act_of_some hr, client?, client?, Table.get?_insert]
    split
    · rename_i hs
      rw [hs, hr, Option.bind_some, Option.bind_some, hf]
    · rfl

theorem client?_close (c : Crowd) (s s' : SessionId) :
    (c.act s Router.close).client? s' = if s' = s then none else c.client? s' := by
  cases hr : c.routers.get? s with
  | none =>
    rw [c.act_of_none hr]
    split
    · rename_i hs
      rw [client?, hs, hr, Option.bind_none]
    · rfl
  | some r =>
    rw [c.act_of_some hr, client?, Table.get?_insert]
    split
    · exact Router.client?_close r c.server
    · rfl

theorem client?_drop (c : Crowd) (s s' : SessionId) :
    (c.step (.drop s)).client? s' = if s' = s then none else c.client? s' := by
  show (((c.act s Router.close).routers.erase s).get? s').bind Router.client? = _
  rw [Table.get?_erase]
  split
  · rfl
  · rename_i hs
    exact (c.client?_close s s').trans (if_neg hs)

theorem client?_of_routers {c' : Crowd} (h : c'.routers = c.routers) : c'.client? = c.client? :=
  funext fun s => by rw [client?, h, client?]

theorem lookUp_routers (c : Crowd) (n : Nat) : (c.lookUp n).routers = c.routers := by
  unfold lookUp
  split
  · rfl
  · dsimp only
    split <;> rfl

theorem sendOut_routers (c : Crowd) (n : Nat) : (c.sendOut n).routers = c.routers := by
  unfold sendOut
  split <;> rfl

/-- One act opens and ends the same sessions in the record of them as among the routers. -/
theorem enroll_step (h : ∀ s, t.get? s = c.client? s) (a : Act) (s : SessionId) :
    (a.enroll t).get? s = (c.step a).client? s := by
  have hsame : (c.step a).client? = c.client? → t.get? s = (c.step a).client? s := fun he => by rw [he, h]
  cases a with
  | connect s' handle user username host =>
    rw [Act.enroll, step, connect, client?, Table.get?_insert, Table.get?_insert]
    split
    · rfl
    · exact h s
  | text s' raw => exact hsame (c.client?_act s' fun r sv => r.client?_handleText raw sv)
  | enter s' room => exact hsame (c.client?_act s' fun r sv => by rw [Router.enter_fst]; rfl)
  | leave s' => exact hsame (c.client?_act s' fun r sv => by rw [Router.leave_fst]; rfl)
  | welcome s' => exact hsame (c.client?_act s' fun _ _ => rfl)
  | sendHistory s' room => exact hsame (c.client?_act s' fun _ _ => rfl)
  | announceChat s' m => exact hsame (c.client?_act s' fun _ _ => rfl)
  | put handles f => exact hsame rfl
  | close s' => rw [Act.enroll, Table.get?_erase, step, client?_close, h]
  | drop s' => rw [Act.enroll, Table.get?_erase, client?_drop, h]
  | kill handle => exact hsame rfl
  | receive handle => exact hsame rfl
  | store store => exact hsame rfl
  | clock now => exact hsame rfl
  | lookUp n => exact hsame (client?_of_routers (c.lookUp_routers n))
  | sendOut n => exact hsame (client?_of_routers (c.sendOut_routers n))
  | giveUp n => exact hsame rfl

theorem enroll_run (h : ∀ s, t.get? s = c.client? s) (acts : List Act) (s : SessionId) :
    (acts.foldl Act.enroll t).get? s = (c.run acts).client? s := by
  induction acts generalizing c t with
  | nil => exact h s
  | cons a acts ih => exact ih (enroll_step h a)

theorem openSessions_run (settings : ChatSettings) (now : Int) (acts : List Act) (s : SessionId) :
    (openSessions acts).get? s = ((start settings now).run acts).client? s :=
  enroll_run (fun _ => rfl) acts s

/-! ## An ended session stays ended -/

theorem enroll_none {s : SessionId} (h : t.get? s = none) {a : Act} (ha : a.connects? ≠ some s) :
    (a.enroll t).get? s = none := by
  cases a with
  | connect s' handle user username host =>
    have hs : s ≠ s' := fun hs => ha (by rw [hs, Act.connects?])
    rw [Act.enroll, Table.get?_insert, if_neg hs, h]
  | close s' => rw [Act.enroll, Table.get?_erase, h, ite_self]
  | drop s' => rw [Act.enroll, Table.get?_erase, h, ite_self]
  | _ => exact h

theorem foldl_enroll_none {s : SessionId} (h : t.get? s = none) {acts : List Act}
    (ha : s ∉ acts.filterMap Act.connects?) : (acts.foldl Act.enroll t).get? s = none := by
  induction acts generalizing t with
  | nil => exact h
  | cons a acts ih =>
    rw [List.mem_filterMap, not_exists] at ha
    refine ih (enroll_none h fun hs => ha a ⟨List.mem_cons_self .., hs⟩) fun hs => ?_
    obtain ⟨b, hb, hbs⟩ := List.mem_filterMap.1 hs
    exact ha b ⟨List.mem_cons_of_mem _ hb, hbs⟩

theorem openSessions_ended {before after : List Act} {a : Act} {s : SessionId} (ha : a.Ends s)
    (hafter : s ∉ after.filterMap Act.connects?) : (openSessions (before ++ a :: after)).get? s = none := by
  rw [openSessions, List.foldl_append, List.foldl_cons]
  refine foldl_enroll_none ?_ hafter
  rcases ha with rfl | rfl <;> exact Table.get?_erase_self ..

theorem not_connected_again {before after : List Act} {a : Act} {s : SessionId}
    (hfresh : ((before ++ a :: after).filterMap Act.connects?).Nodup) (hs : s ∈ before.filterMap Act.connects?) :
    s ∉ after.filterMap Act.connects? := fun hagain => by
  rw [List.filterMap_append] at hfresh
  refine List.disjoint_of_nodup_append hfresh hs ?_
  rw [List.filterMap_cons]
  split
  · exact hagain
  · exact List.mem_cons_of_mem _ hagain

/-! ## What the registry shows -/

theorem Coupled.client (h : c.Coupled) (s : SessionId) :
    (c.server.registry.sessions.get? s).map SessionEntry.client = c.client? s := by
  rw [h.shows.entry, shown?, client?, Option.map_bind]
  exact congrArg _ (funext fun r => r.map_client_shown?)

theorem Coupled.roomOf (h : c.Coupled) {s : SessionId} {r : Router} (hr : c.routers.get? s = some r)
    (hopen : r.closed = false) : c.server.registry.roomOf s = r.room := by
  rw [Registry.roomOf, h.shows.entry, shown?, hr, Option.bind_some, Router.shown?, hopen]
  rfl

theorem Coupled.absent (h : c.Coupled) {s : SessionId} (hs : c.client? s = none) :
    c.server.registry.sessions.get? s = none ∧ (∀ room, s ∉ c.server.registry.members room) ∧
      ∀ user, s ∉ c.server.registry.sessionsOfUser user := by
  have hnone : c.shown? s = none := by
    rw [← h.client, Option.map_eq_none_iff, h.shows.entry] at hs
    exact hs
  refine ⟨(h.shows.entry s).trans hnone, fun room hm => ?_, fun user hm => ?_⟩
  · rw [h.shows.mem_members, hnone] at hm
    cases hm
  · rw [h.shows.mem_sessionsOfUser, hnone] at hm
    cases hm

theorem Coupled.empty (h : c.Coupled) (hnone : ∀ s, c.client? s = none) :
    c.server.registry.sessionCount = 0 ∧ c.server.registry.roomCount = 0 ∧
      ∀ user, c.server.registry.isOnline user = false := by
  refine ⟨Table.size_eq_zero_of_get? fun s => (h.absent (hnone s)).1, Table.size_eq_zero_of_get? fun room => ?_,
    fun user => ?_⟩
  · rw [← Option.not_isSome_iff_eq_none, h.shows.rooms.isSome_iff]
    rintro ⟨s, hs⟩
    rw [← h.shows.mem_members] at hs
    exact (h.absent (hnone s)).2.1 room hs
  · rw [← Bool.not_eq_true, h.shows.isOnline_iff]
    rintro ⟨s, hs⟩
    rw [← h.shows.mem_sessionsOfUser] at hs
    exact (h.absent (hnone s)).2.2 user hs

/-- **The registry follows the routers, and nothing of an ended session is left in it.** In every run in
which no session identifier is connected twice, the live sessions are those that were connected and
neither closed nor dropped, each with its client; the registry joins such a session to the room that its
router looks at; from the act that ends a session on, its identifier is in none of the three tables; and
once all sessions are ended, there is no session, no room and nobody online. -/
theorem registry_follows_routers (settings : ChatSettings) (now : Int) (acts : List Act)
    (hfresh : (acts.filterMap Act.connects?).Nodup) :
    let c := (start settings now).run acts
    (∀ s, (c.server.registry.sessions.get? s).map SessionEntry.client = (openSessions acts).get? s) ∧
    (∀ s client, (openSessions acts).get? s = some client ↔
      ∃ r, c.routers.get? s = some r ∧ r.closed = false ∧ r.session = s ∧ r.client = client) ∧
    (∀ s r, c.routers.get? s = some r → r.closed = false → c.server.registry.roomOf s = r.room) ∧
    (∀ before a after s, acts = before ++ a :: after → s ∈ before.filterMap Act.connects? → a.Ends s →
      c.server.registry.sessions.get? s = none ∧ (∀ room, s ∉ c.server.registry.members room) ∧
        ∀ user, s ∉ c.server.registry.sessionsOfUser user) ∧
    ((∀ s, (openSessions acts).get? s = none) →
      c.server.registry.sessionCount = 0 ∧ c.server.registry.roomCount = 0 ∧
        ∀ user, c.server.registry.isOnline user = false) := by
  intro c
  have hc : c.Coupled := (coupled_start settings now).run acts
  have hopen : ∀ s, (openSessions acts).get? s = c.client? s := openSessions_run settings now acts
  refine ⟨fun s => by rw [hc.client, hopen], fun s client => ?_, fun s r hr => hc.roomOf hr, ?_, fun hnone => ?_⟩
  · rw [hopen, client?, Option.bind_eq_some_iff]
    refine exists_congr fun r => and_congr_right fun hr => ?_
    have hs : r.session = s := hc.session s r hr
    cases hclosed : r.closed <;> simp [Router.client?, hclosed, hs]
  · intro before a after s hacts hs ha
    subst hacts
    refine hc.absent ?_
    rw [← hopen]
    exact openSessions_ended ha (not_connected_again hfresh hs)
  · exact hc.empty fun s => by rw [← hopen, hnone]

/-- A router that joins a room after it was closed, while another session comes and goes. -/
theorem registry_follows_routers_late_join :
    let acts := [.connect 1 10 7 "ann" none, .text 1 "\x7b\"event\":\"join\",\"room\":\"r\"\x7d", .kill 10,
      .connect 2 20 8 "bob" none, .close 1, .enter 2 "r", .text 1 "\x7b\"event\":\"join\",\"room\":\"r\"\x7d",
      .drop 2]
    (acts.filterMap Act.connects?).Nodup ∧ (∀ s, (openSessions acts).get? s = none) ∧
      ((start .default 0).run acts).server.registry.sessionCount = 0 ∧
      ((start .default 0).run acts).server.registry.roomCount = 0 ∧
      ∀ user, ((start .default 0).run acts).server.registry.isOnline user = false := by
  intro acts
  have hfresh : (acts.filterMap Act.connects?).Nodup := by decide
  have hended : ∀ s, (openSessions acts).get? s = none := fun _ => rfl
  exact ⟨hfresh, hended, (registry_follows_routers .default 0 acts hfresh).2.2.2.2 hended⟩

end Crowd

end DirectChat
