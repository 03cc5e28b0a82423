import DirectChat.Proofs.Chat.Traffic
/-!
# Edges and the notifications they leave

A user comes online or goes offline when a move turns what the registry says of them (`Traffic.Turns`). In
a run that connects no session twice, such a move leaves one notification about it behind those that wait,
and no other move leaves any about somebody's presence (`announces_step`).
-/

namespace DirectChat

/-! ## Ending a session -/

theorem Registry.Shows.unregister_live {r : Registry} {f : SessionId → Option SessionEntry} (h : r.Shows f)
    {s : SessionId} {e : SessionEntry} (hs : f s = some e) :
    (r.unregister s).2 = !(r.unregister s).1.isOnline e.user := by
  have hremoved := (h.remove s).2
  rw [hs] at hremoved
  unfold Registry.unregister
  split
  · rename_i r' user heq
    rw [heq] at hremoved
    cases hremoved
    rfl
  · rename_i heq
    rw [heq] at hremoved
    cases hremoved

namespace Router

theorem leave_pending (r : Router) (sv : Server) : (r.leave sv).2.pending = sv.pending := by
  unfold leave
  split <;> rfl

/-- Leaving a room changes nothing about whose the session is. -/
theorem leave_shows_user {f : SessionId → Option SessionEntry} {sv : Server} (hf : sv.registry.Shows f) (r : Router) :
    ∃ e, (r.leave sv).2.registry.Shows (Function.update f r.session e) ∧
      e.map (·.user) = (f r.session).map (·.user) := by
  cases hroom : r.room with
  | none => exact ⟨f r.session, by rwa [leave_of_none hroom, Function.update_eq_self], rfl⟩
  | some room =>
    refine ⟨_, by rw [leave_registry hroom]; exact hf.leave room r.session, ?_⟩
    rw [Option.map_map]
    congr 1
    funext e
    simp only [Function.comp, SessionEntry.left]
    split <;> rfl

/-- Closing an open router leaves a notification when its user has no other session. -/
theorem close_pending {f : SessionId → Option SessionEntry} {sv : Server} (hf : sv.registry.Shows f) {r : Router}
    (hopen : r.closed = false) (hshown : f r.session = r.shown?) :
    (r.close sv).2.pending = sv.pending ++
      if (r.close sv).2.registry.isOnline r.user = true then [] else [.presence r.user r.username false] := by
  obtain ⟨e, hleft, huser⟩ := leave_shows_user hf { r with closed := true }
  have hentry : e.map (·.user) = some r.user := by
    rw [huser]
    simp [hshown, shown?, hopen]
  obtain ⟨entry, rfl, hu⟩ := Option.map_eq_some_iff.1 hentry
  have hlast := hleft.unregister_live (s := r.session) (Function.update_self ..)
  have hpending := leave_pending { r with closed := true } sv
  rw [close, if_neg (by simp [hopen])]
  simp only [leave_fst]
  rw [hu] at hlast
  rw [hlast]
  cases honline : (({ r with closed := true }.leave sv).2.registry.unregister r.session).1.isOnline r.user
  · simp [Server.notifyLater, hpending, honline]
  · simp [hpending, honline]

theorem client?_takeUp (r : Router) (f : ClientFrame) (sv : Server) : (r.takeUp f sv).router.client? = r.client? := by
  have htakes := r.takesUp f sv
  generalize r.takeUp f sv = u at htakes
  cases htakes with
  | enters room => rw [r.enter_fst]; rfl
  | leaves => rw [r.leave_fst]; rfl
  | _ => rfl

theorem takeUp_pending (r : Router) (f : ClientFrame) (sv : Server) :
    (r.takeUp f sv).server.pending = sv.pending := by
  have htakes := r.takesUp f sv
  generalize r.takeUp f sv = u at htakes
  cases htakes with
  | enters room =>
    simp only [enter, leave_fst]
    exact r.leave_pending sv
  | leaves => exact r.leave_pending sv
  | _ => rfl

theorem finish_pending (r : Router) (rest : Rest) (sv : Server) :
    (r.finish rest sv).pending = sv.pending ∨ ∃ h, (r.finish rest sv).pending = sv.pending ++ [.hint h] := by
  cases rest with
  | history room =>
    left
    unfold finish sendHistory
    dsimp only
    split <;> rfl
  | announce m => exact .inr ⟨_, rfl⟩
  | _ => exact .inl rfl

end Router

namespace Crowd

variable {c : Crowd}

/-- A user is online when one of the open routers is theirs. -/
theorem Coupled.isOnline_iff (h : c.Coupled) (user : UserId) :
    c.server.registry.isOnline user = true ↔ ∃ s, (c.client? s).map Client.user = some user := by
  rw [h.shows.isOnline_iff]
  refine exists_congr fun s => ?_
  rw [← h.client, ← h.shows.entry, Option.map_map]
  rfl

theorem Coupled.isOnline_eq {c' : Crowd} (h : c.Coupled) (h' : c'.Coupled) (hclient : c'.client? = c.client?)
    (user : UserId) : c'.server.registry.isOnline user = c.server.registry.isOnline user := by
  rw [Bool.eq_iff_iff, h'.isOnline_iff, h.isOnline_iff, hclient]

theorem connect_pending (h : c.Coupled) {s : SessionId} (hfresh : c.routers.get? s = none) (handle : Handle)
    (user : UserId) (username : String) (host : Option String) :
    (c.connect s handle user username host).server.pending = c.server.pending ++
      if c.server.registry.isOnline user = true then [] else [.presence user username true] := by
  have hnone : c.shown? s = none := by rw [shown?, hfresh, Option.bind_none]
  have hfirst : (c.server.registry.register s user username handle).2 = !c.server.registry.isOnline user := by
    rw [Bool.eq_iff_iff, h.shows.register_snd, Bool.not_eq_true', ← Bool.not_eq_true, h.shows.isOnline_iff, not_exists]
    refine forall_congr' fun s' => ?_
    by_cases hs : s' = s
    · simp [hs, hnone]
    · simp [hs]
  have hpending : (c.connect s handle user username host).server.pending =
      if (c.server.registry.register s user username handle).2 = true then
        c.server.pending ++ [.presence user username true] else c.server.pending := by
    simp only [connect, Router.connect]
    split <;> rfl
  rw [hpending, hfirst]
  cases c.server.registry.isOnline user <;> simp

end Crowd

/-! ## Edges -/

namespace Traffic

variable {t : Traffic} {mv : Move}

/-- The move makes the user come online, or go offline. -/
structure Turns (t : Traffic) (mv : Move) (user : UserId) (online : Bool) : Prop where
  before : t.crowd.server.registry.isOnline user = !online
  after : (t.step mv).crowd.server.registry.isOnline user = online

/-- The move connects no session that has a router already. -/
def Fresh (t : Traffic) (mv : Move) : Prop := ∀ s, mv.connects? = some s → t.crowd.routers.get? s = none

theorem fresh_of_nodup (settings : ChatSettings) (now : Int) {moves : List Move}
    (hsessions : (moves.filterMap Move.connects?).Nodup) : Run.Along step Fresh (start settings now) moves := by
  refine Run.along_of_forall fun before mv after hmoves s hs => ?_
  subst hmoves
  rw [← Option.not_isSome_iff_eq_none, Option.isSome_iff_exists]
  rintro ⟨r, hr⟩
  have hin := connect_of_router hr
  have hsession := (coupled_of_start settings now before).session s r hr
  rw [List.filterMap_append] at hsessions
  refine List.disjoint_of_nodup_append hsessions (List.mem_filterMap.2 ⟨_, hin, rfl⟩) ?_
  exact List.mem_filterMap.2 ⟨mv, List.mem_cons_self .., hs⟩

/-- What a move does to the notifications that wait, and with that to who is online. -/
inductive Announces (t : Traffic) (mv : Move) : List Notification → Prop
  | turned (user : UserId) (username : String) (online : Bool) (hturns : t.Turns mv user online)
      (hmv : ∀ k, mv ≠ .act (.lookUp k) ∧ mv ≠ .act (.giveUp k))
      (hothers : ∀ other ≠ user,
        (t.step mv).crowd.server.registry.isOnline other = t.crowd.server.registry.isOnline other) :
    Announces t mv (t.crowd.server.pending ++ [.presence user username online])
  | hinted (h : MessageHint) (hmv : ∀ k, mv ≠ .act (.lookUp k) ∧ mv ≠ .act (.giveUp k))
      (hsame : ∀ user, (t.step mv).crowd.server.registry.isOnline user = t.crowd.server.registry.isOnline user) :
    Announces t mv (t.crowd.server.pending ++ [.hint h])
  | taken (k : Nat) (hmv : mv = .act (.lookUp k) ∨ mv = .act (.giveUp k))
      (hsame : ∀ user, (t.step mv).crowd.server.registry.isOnline user = t.crowd.server.registry.isOnline user) :
    Announces t mv (t.crowd.server.pending.eraseIdx k)
  | still (hmv : ∀ k, mv ≠ .act (.lookUp k) ∧ mv ≠ .act (.giveUp k))
      (hsame : ∀ user, (t.step mv).crowd.server.registry.isOnline user = t.crowd.server.registry.isOnline user) :
    Announces t mv t.crowd.server.pending

theorem announces_connect (hc : t.crowd.Coupled) {s : SessionId} {handle : Handle} {user : UserId} {username : String}
    {host : Option String} (hfresh : t.crowd.routers.get? s = none)
    (hstep : t.step (.act (.connect s handle user username host)) =
      { t with crowd := t.crowd.connect s handle user username host }) :
    t.Announces (.act (.connect s handle user username host))
      (t.crowd.connect s handle user username host).server.pending := by
  have hc' : (t.crowd.connect s handle user username host).Coupled := hc.connect s handle user username host
  have hclient : ∀ s', (t.crowd.connect s handle user username host).client? s' =
      if s' = s then some ⟨user, username, handle⟩ else t.crowd.client? s' := fun s' => by
    rw [Crowd.client?, Crowd.connect, Table.get?_insert]
    split <;> rfl
  have hnone : t.crowd.client? s = none := by rw [Crowd.client?, hfresh, Option.bind_none]
  have honline : ∀ u, (t.crowd.connect s handle user username host).server.registry.isOnline u = true ↔
      u = user ∨ t.crowd.server.registry.isOnline u = true := by
    intro u
    rw [hc'.isOnline_iff, hc.isOnline_iff]
    constructor
    · rintro ⟨s', hs'⟩
      rw [hclient] at hs'
      split at hs'
      · cases hs'
        exact .inl rfl
      · exact .inr ⟨s', hs'⟩
    · rintro (rfl | ⟨s', hs'⟩)
      · exact ⟨s, by rw [hclient, if_pos rfl]; rfl⟩
      · have hne : s' ≠ s := fun h => by rw [h, hnone] at hs'; cases hs'
        exact ⟨s', by rw [hclient, if_neg hne, hs']⟩
  rw [Crowd.connect_pending hc hfresh]
  split
  · rename_i hwas
    rw [List.append_nil]
    refine .still (fun k => by simp) fun u => ?_
    rw [hstep, Bool.eq_iff_iff, honline]
    exact ⟨fun h => h.elim (fun h => h ▸ hwas) id, .inr⟩
  · rename_i hwas
    refine .turned user username true ⟨?_, ?_⟩ (fun k => by simp) fun u hu => ?_
    · simpa using hwas
    · rw [hstep]
      exact (honline user).2 (.inl rfl)
    · rw [hstep, Bool.eq_iff_iff, honline]
      exact ⟨fun h => h.resolve_left hu, .inr⟩

theorem announces_end (hc : t.crowd.Coupled) {s : SessionId} {c' : Crowd} (hc' : c'.Coupled)
    (hserver : c'.server = (t.crowd.act s Router.close).server)
    (hclient : ∀ s', c'.client? s' = if s' = s then none else t.crowd.client? s')
    (hstep : (t.step mv).crowd = c') (hmv : ∀ k, mv ≠ .act (.lookUp k) ∧ mv ≠ .act (.giveUp k)) :
    t.Announces mv c'.server.pending := by
  have hothers : ∀ u, (t.crowd.client? s).map Client.user ≠ some u →
      c'.server.registry.isOnline u = t.crowd.server.registry.isOnline u := by
    intro u hu
    rw [Bool.eq_iff_iff, hc'.isOnline_iff, hc.isOnline_iff]
    refine exists_congr fun s' => ?_
    rw [hclient]
    split
    · rename_i hs
      rw [hs]
      simp [hu]
    · exact Iff.rfl
  -- Without an open router there is nothing to end.
  have hstill : t.crowd.client? s = none → c'.server.pending = t.crowd.server.pending →
      t.Announces mv c'.server.pending := fun hnone hpending => by
    rw [hpending]
    exact .still hmv fun u => by rw [hstep, hothers u (by simp [hnone])]
  cases hr : t.crowd.routers.get? s with
  | none => exact hstill (by rw [Crowd.client?, hr, Option.bind_none]) (by rw [hserver, t.crowd.act_of_none hr])
  | some r =>
    rw [t.crowd.act_of_some hr] at hserver
    cases hopen : r.closed with
    | true =>
      refine hstill (by simp [Crowd.client?, hr, Router.client?, hopen]) ?_
      rw [hserver, Router.close, if_pos hopen]
    | false =>
      have hs : r.session = s := hc.session s r hr
      have howner : t.crowd.client? s = some r.client := by simp [Crowd.client?, hr, Router.client?, hopen]
      have hwas : t.crowd.server.registry.isOnline r.user = true := by
        rw [hc.isOnline_iff]
        exact ⟨s, by rw [howner]; rfl⟩
      have hpending : c'.server.pending = t.crowd.server.pending ++
          if c'.server.registry.isOnline r.user = true then [] else [.presence r.user r.username false] := by
        rw [hserver]
        exact Router.close_pending hc.shows hopen (by rw [hs, Crowd.shown?, hr, Option.bind_some])
      rw [hpending]
      split
      · rename_i hstays
        rw [List.append_nil]
        refine .still hmv fun u => ?_
        by_cases hu : u = r.user
        · rw [hstep, hu, hstays, hwas]
        · rw [hstep, hothers u (by rw [howner]; exact fun h => hu (Option.some.inj h).symm)]
      · rename_i hgone
        refine .turned r.user r.username false ⟨hwas, ?_⟩ hmv fun u hu => ?_
        · rw [hstep]
          simpa using hgone
        · rw [hstep, hothers u (by rw [howner]; exact fun h => hu (Option.some.inj h).symm)]

theorem announces_act (hc : t.crowd.Coupled) {a : Act} (hparts : ¬ a.InParts) (hfresh : t.Fresh (.act a))
    (hstep : t.step (.act a) = { t with crowd := t.crowd.step a }) :
    t.Announces (.act a) (t.crowd.step a).server.pending := by
  have hc' : (t.crowd.step a).Coupled := hc.step a
  have hstill : (∀ k, Move.act a ≠ .act (.lookUp k) ∧ Move.act a ≠ .act (.giveUp k)) →
      (t.crowd.step a).client? = t.crowd.client? → (t.crowd.step a).server.pending = t.crowd.server.pending →
      t.Announces (.act a) (t.crowd.step a).server.pending := fun hmv hclient hpending => by
    rw [hpending]
    refine .still hmv fun u => ?_
    rw [hstep]
    exact hc.isOnline_eq hc' hclient u
  have hact : ∀ (s : SessionId) {f : Router → Server → Router × Server},
      (∀ r : Router, (f r t.crowd.server).2.pending = t.crowd.server.pending) →
      (t.crowd.act s f).server.pending = t.crowd.server.pending :=
    fun s f hf => t.crowd.act_server s (P := fun sv => sv.pending = t.crowd.server.pending) rfl fun r _ => hf r
  cases a with
  | text | enter | sendHistory | announceChat | put => exact absurd trivial hparts
  | connect s handle user username host => exact announces_connect hc (hfresh s rfl) hstep
  | welcome s =>
    exact hstill (fun k => by simp) (t.crowd.client?_act s fun _ _ => rfl) (hact s fun _ => rfl)
  | leave s =>
    exact hstill (fun k => by simp) (t.crowd.client?_act s fun r sv => by rw [r.leave_fst]; rfl)
      (hact s fun r => r.leave_pending _)
  | close s =>
    exact announces_end hc hc' rfl (t.crowd.client?_close s) (by rw [hstep]) fun k => by simp
  | drop s =>
    exact announces_end hc hc' rfl (t.crowd.client?_drop s) (by rw [hstep]) fun k => by simp
  | kill | receive | store | clock => exact hstill (fun k => by simp) rfl rfl
  | lookUp k =>
    have hclient := Crowd.client?_of_routers (t.crowd.lookUp_routers k)
    rw [Crowd.step, Crowd.lookUp_server]
    exact .taken k (.inl rfl) fun u => by rw [hstep]; exact hc.isOnline_eq hc' hclient u
  | sendOut k =>
    refine hstill (fun k => by simp) (Crowd.client?_of_routers (t.crowd.sendOut_routers k)) ?_
    rw [Crowd.step, Crowd.sendOut]
    split <;> rfl
  | giveUp k => exact .taken k (.inr rfl) fun u => by rw [hstep]; exact hc.isOnline_eq hc' rfl u

/-- A move that turns somebody's presence leaves a notification of that, and others leave none. -/
theorem announces_step (hc : t.crowd.Coupled) (hfresh : t.Fresh mv) :
    t.Announces mv (t.step mv).crowd.server.pending := by
  have hc' := coupled_step hc mv
  have hcase := t.step_cases mv
  generalize ht' : t.step mv = t' at hcase hc'
  cases hcase with
  | act a hparts hidle => exact announces_act hc hparts hfresh ht'
  | takeUp s raw f r hframe hrouter hidle =>
    have hpending : (t.takenUp s f (r.takeUp f t.crowd.server)).crowd.server.pending = t.crowd.server.pending :=
      r.takeUp_pending f t.crowd.server
    have hclient : (t.takenUp s f (r.takeUp f t.crowd.server)).crowd.client? = t.crowd.client? := funext fun s' => by
      rw [Crowd.client?, takenUp, Table.get?_insert]
      split
      · rename_i hs
        rw [Option.bind_some, r.client?_takeUp, hs, Crowd.client?, hrouter, Option.bind_some]
      · rfl
    rw [hpending]
    exact .still (fun k => by simp) fun u => by rw [ht']; exact hc.isOnline_eq hc' hclient u
  | finish s task r hrouter htask =>
    have hsame : ∀ u, (t.step (.finish s)).crowd.server.registry.isOnline u = t.crowd.server.registry.isOnline u :=
      fun u => by rw [ht']; exact hc.isOnline_eq hc' rfl u
    rcases r.finish_pending task.rest t.crowd.server with hpending | ⟨h, hpending⟩
    · exact hpending ▸ .still (fun k => by simp) hsame
    · exact hpending ▸ .hinted h (fun k => by simp) hsame
  | idle _ hact =>
    refine .still (fun k => ⟨fun h => ?_, fun h => ?_⟩) fun u => by rw [ht']
    · exact hact _ h (t.allows_of_no_actor id rfl)
    · exact hact _ h (t.allows_of_no_actor id rfl)

end Traffic

end DirectChat
