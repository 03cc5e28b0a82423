import DirectChat.Proofs.Chat.Confinement
/-!
# What others are told of a user's presence

Notifications of presence may overtake one another, and what they say may be outdated when they are sent.
Still nobody is told what is not so at that moment (`status_sent`), as the registry is asked once more. And
since every edge leaves a notification of its own, the one that the last edge left is sent after that edge
and says what remains so (`presence_converges`).
-/

namespace DirectChat

/-- What a frame says of a user's presence. -/
def Frame.statusOf? (user : UserId) : Frame → Option Bool
  | .event (.userStatus u _ online _) => if u = user then some online else none
  | _ => none

/-! ## One notification, one queue -/

namespace Registry

variable {r : Registry} {f : SessionId → Option SessionEntry}

theorem Shows.mem_handlesOf (h : r.Shows f) {user : UserId} {handle : Handle} :
    handle ∈ r.handlesOf user ↔ ∃ s e, f s = some e ∧ e.user = user ∧ e.handle = handle := by
  rw [Registry.handlesOf, List.mem_map]
  constructor
  · rintro ⟨⟨s, e⟩, hin, rfl⟩
    obtain ⟨hs, he⟩ := h.mem_entriesOf.1 hin
    rw [h.mem_sessionsOfUser, he] at hs
    exact ⟨s, e, he, Option.some.inj hs, rfl⟩
  · rintro ⟨s, e, he, rfl, rfl⟩
    exact ⟨(s, e), h.mem_entriesOf.2 ⟨by rw [h.mem_sessionsOfUser, he]; rfl, he⟩, rfl⟩

theorem Shows.nodup_handlesOf (h : r.Shows f) (hapart : ApartBy f) (user : UserId) : (r.handlesOf user).Nodup := by
  refine (h.nodup_entriesOf (h.users.nodup user)).map_on fun a ha b hb heq => ?_
  obtain ⟨s, e⟩ := a
  obtain ⟨s', e'⟩ := b
  have he := (h.mem_entriesOf.1 ha).2
  have he' := (h.mem_entriesOf.1 hb).2
  obtain rfl := hapart s s' e e' he he' heq
  rw [he] at he'
  cases he'
  rfl

/-- When no user is listed twice, no queue is. -/
theorem Shows.nodup_userHandles (h : r.Shows f) (hapart : ApartBy f) {users : List UserId} (husers : users.Nodup) :
    (r.userHandles users).Nodup := by
  refine List.nodup_flatMap.2 ⟨fun user _ => h.nodup_handlesOf hapart user, husers.imp fun {u v} huv => ?_⟩
  intro handle hu hv
  obtain ⟨s, e, he, rfl, hhandle⟩ := h.mem_handlesOf.1 hu
  obtain ⟨s', e', he', rfl, hhandle'⟩ := h.mem_handlesOf.1 hv
  obtain rfl := hapart s s' e e' he he' (hhandle.trans hhandle'.symm)
  rw [he] at he'
  cases he'
  exact huv rfl

end Registry

namespace Traffic

variable {t : Traffic} {k : Nat} {n : Notification} {users : List UserId}

/-- What is sent of a notification. -/
theorem sent_sendOut (h : t.crowd.underway[k]? = some (n, users)) (handle : Handle) :
    t.sent (.act (.sendOut k)) handle =
      if t.crowd.server.mail.isLive handle = true then
        List.replicate ((t.crowd.server.registry.userHandles (n.recipients users t.crowd.server.registry)).count handle)
          (.event (n.event t.crowd.server.now))
      else [] := by
  rw [sent, step_sendOut]
  refine Mailroom.since_of_append ?_
  simp only [Crowd.sendOut, h]
  exact t.crowd.server.mail.waiting_sendAll _ _ handle

theorem mem_sent_sendOut (hc : t.crowd.Coupled) (h : t.crowd.underway[k]? = some (n, users)) {s : SessionId}
    {entry : SessionEntry} (hentry : t.crowd.server.registry.sessions.get? s = some entry)
    (huser : entry.user ∈ n.recipients users t.crowd.server.registry)
    (hlive : t.crowd.server.mail.isLive entry.handle = true) :
    .event (n.event t.crowd.server.now) ∈ t.sent (.act (.sendOut k)) entry.handle := by
  rw [sent_sendOut h, if_pos hlive, List.mem_replicate]
  refine ⟨?_, rfl⟩
  rw [Ne, List.count_eq_zero, not_not]
  exact List.mem_flatMap.2 ⟨entry.user, huser,
    hc.shows.mem_handlesOf.2 ⟨s, entry, by rw [← hc.shows.entry, hentry], rfl, rfl⟩⟩

theorem length_sent_sendOut (hc : t.crowd.Coupled) (hapart : Registry.ApartBy t.crowd.shown?) {user : UserId}
    {username : String} {online : Bool} (h : t.crowd.underway[k]? = some (.presence user username online, users))
    (hconcerns : Notification.Concerns (.presence user username online) users t.crowd.server.store) (handle : Handle) :
    (t.sent (.act (.sendOut k)) handle).length ≤ 1 := by
  rw [sent_sendOut h]
  split
  · rw [List.length_replicate]
    refine List.nodup_iff_count_le_one.1 (hc.shows.nodup_userHandles hapart ?_) handle
    show (if t.crowd.server.registry.isOnline user = online then users else []).Nodup
    split
    · exact hconcerns.1
    · exact List.nodup_nil
  · exact Nat.zero_le _

theorem statusOf?_answer? {r : Router} {sv : Server} {rest : Rest} {user : UserId} {username : String} {online : Bool}
    {ts : Int} : r.answer? sv rest ≠ some (.userStatus user username online ts) := by
  cases rest with
  | history room =>
    unfold Router.answer?
    dsimp only
    split <;> exact nofun
  | _ => exact nofun

/-! ## Nobody is told what is not so -/

/-- A status is sent by a notification underway that the registry agrees with, to a session of somebody
with whom the user shares a room. -/
theorem status_sent {moves : List Move} (hc : t.crowd.Coupled) (hg : t.Grounded moves) {mv : Move} {h : Handle}
    {user : UserId} {username : String} {online : Bool} {ts : Int}
    (he : .event (.userStatus user username online ts) ∈ t.sent mv h) :
    t.crowd.server.registry.isOnline user = online ∧
      (∃ s entry, t.crowd.server.registry.sessions.get? s = some entry ∧ entry.handle = h ∧
        t.crowd.server.store.SharesRoom user entry.user) ∧
      ∃ k users, mv = .act (.sendOut k) ∧ t.crowd.underway[k]? = some (.presence user username online, users) := by
  have hcause := causes_step hc he
  generalize hevent : Event.userStatus user username online ts = e at hcause
  cases hcause with
  | word e hword =>
    subst hevent
    exact hword.elim
  | news e room s entry hnews =>
    subst hevent
    cases hnews
  | joined => cases hevent
  | answer e s r task hmv hrouter htask hanswer =>
    subst hevent
    exact absurd hanswer statusOf?_answer?
  | notified n k users s entry hmv hunderway huser hentry hhandle =>
    cases n with
    | hint hint => cases hevent
    | presence user' username' online' =>
      cases hevent
      have hagrees : t.crowd.server.registry.isOnline user = online ∧ entry.user ∈ users := by
        simp only [Notification.recipients] at huser
        split at huser
        · exact ⟨‹_›, huser⟩
        · cases huser
      have hconcerns := hg.underway _ _ (List.mem_of_getElem? hunderway)
      exact ⟨hagrees.1, ⟨s, entry, (hc.shows.entry s).trans hentry, hhandle, hconcerns.2 _ hagrees.2⟩,
        k, users, hmv, hunderway⟩

/-! ## Every notification stems from an edge -/

/-- The notification at the place was left by an edge of the user in the moves. -/
def LeftByEdge (settings : ChatSettings) (now : Int) (moves : List Move) (user : UserId) (online : Bool)
    (w : Whereabouts) : Prop :=
  ∃ before mv after, moves = before ++ mv :: after ∧ ((start settings now).run before).Turns mv user online ∧
    (Whereabouts.waiting ((start settings now).run before).crowd.server.pending.length).after
      (((start settings now).run before).step mv) after = w

theorem LeftByEdge.next {settings : ChatSettings} {now : Int} {moves : List Move} {user : UserId} {online : Bool}
    {w : Whereabouts} (h : LeftByEdge settings now moves user online w) (mv : Move) :
    LeftByEdge settings now (moves ++ [mv]) user online (w.next ((start settings now).run moves) mv) := by
  obtain ⟨before, mv', after, rfl, hturns, hw⟩ := h
  refine ⟨before, mv', after ++ [mv], by rw [List.append_assoc, List.cons_append], hturns, ?_⟩
  rw [Whereabouts.after_append, hw, run_append]
  rfl

/-- What waits and what is underway of a user's presence was left by an edge. -/
structure Traced (settings : ChatSettings) (now : Int) (moves : List Move) : Prop where
  pending : ∀ i user username online,
    ((start settings now).run moves).crowd.server.pending[i]? = some (.presence user username online) →
    LeftByEdge settings now moves user online (.waiting i)
  underway : ∀ i user username online users,
    ((start settings now).run moves).crowd.underway[i]? = some (.presence user username online, users) →
    LeftByEdge settings now moves user online (.asked i)

theorem exists_placeAfter {α : Type} {l : List α} {k j : Nat} {a : α} (h : (l.eraseIdx k)[j]? = some a) :
    ∃ i, i ≠ k ∧ placeAfter k i = j ∧ l[i]? = some a := by
  rw [List.getElem?_eraseIdx] at h
  unfold placeAfter
  split at h
  · exact ⟨j, by omega, by rw [if_neg (by omega)], h⟩
  · exact ⟨j + 1, by omega, by rw [if_pos (by omega)]; rfl, h⟩

theorem getElem?_concat_cases {α : Type} {l : List α} {i : Nat} {a b : α} (h : (l ++ [b])[i]? = some a) :
    l[i]? = some a ∨ i = l.length ∧ b = a := by
  rcases Nat.lt_trichotomy i l.length with hlt | heq | hgt
  · exact .inl (by rwa [List.getElem?_append_left hlt] at h)
  · subst heq
    exact .inr ⟨rfl, by simpa using h⟩
  · rw [List.getElem?_eq_none (by simp; omega)] at h
    cases h

theorem traced_of_nodup {settings : ChatSettings} {now : Int} {moves : List Move}
    (hsessions : (moves.filterMap Move.connects?).Nodup) : Traced settings now moves := by
  induction moves using List.reverseRecOn with
  | nil =>
    refine ⟨fun i user username online h => ?_, fun i user username online users h => ?_⟩
    · cases h
    · cases h
  | append_singleton moves mv ih =>
    have hbefore : (moves.filterMap Move.connects?).Nodup := by
      rw [List.filterMap_append] at hsessions
      exact hsessions.of_append_left
    obtain ⟨hpending, hunderway⟩ := ih hbefore
    have hfresh := (Run.along_snoc.1 (fresh_of_nodup settings now hsessions)).2
    have hannounces := announces_step (coupled_of_start settings now moves) hfresh
    have hbecame := ((start settings now).run moves).underway_step mv
    rw [← run_snoc] at hannounces hbecame
    -- What stood in the queue before the move is followed to where it stands after it.
    have hold : ∀ {i j user username online}, ((start settings now).run moves).crowd.server.pending[i]? =
        some (.presence user username online) →
        Whereabouts.next ((start settings now).run moves) mv (.waiting i) = .waiting j →
        LeftByEdge settings now (moves ++ [mv]) user online (.waiting j) :=
      fun h hnext => hnext ▸ (hpending _ _ _ _ h).next mv
    refine ⟨fun i user username online h => ?_, fun i user username online users h => ?_⟩
    · generalize ((start settings now).run (moves ++ [mv])).crowd.server.pending = pending at hannounces h
      cases hannounces with
      | turned user' username' online' hturns hmv =>
        rcases getElem?_concat_cases h with h | ⟨rfl, hnew⟩
        · exact hold h (Whereabouts.next_waiting_of_ne _ _ hmv)
        · cases hnew
          exact ⟨moves, mv, [], rfl, hturns, rfl⟩
      | hinted hint hmv =>
        rcases getElem?_concat_cases h with h | ⟨rfl, hnew⟩
        · exact hold h (Whereabouts.next_waiting_of_ne _ _ hmv)
        · cases hnew
      | taken k hmv =>
        obtain ⟨j, hj, rfl, hin⟩ := exists_placeAfter h
        refine hold hin ?_
        rcases hmv with rfl | rfl <;> rw [Whereabouts.next, if_neg hj]
      | still hmv => exact hold h (Whereabouts.next_waiting_of_ne _ _ hmv)
    · generalize ((start settings now).run (moves ++ [mv])).crowd.underway = underway at hbecame h
      cases hbecame with
      | same hmv => exact Whereabouts.next_asked_of_ne _ i hmv ▸ (hunderway i user username online users h).next mv
      | asked k n users' hmv hn hok =>
        subst hmv
        rcases getElem?_concat_cases h with h | ⟨rfl, hnew⟩
        · exact (hunderway i user username online users h).next (.act (.lookUp k))
        · cases hnew
          have hnext : Whereabouts.next ((start settings now).run moves) (.act (.lookUp k)) (.waiting k) =
              .asked ((start settings now).run moves).crowd.underway.length := by
            simp only [Whereabouts.next, if_pos, hn, hok]
          exact hnext ▸ (hpending k user username online hn).next _
      | sent k hmv =>
        subst hmv
        obtain ⟨j, hj, rfl, hin⟩ := exists_placeAfter h
        have hnext : Whereabouts.next ((start settings now).run moves) (.act (.sendOut k)) (.asked j) =
            .asked (placeAfter k j) := by rw [Whereabouts.next, if_neg hj]
        exact hnext ▸ (hunderway j user username online users hin).next _

/-! ## What one edge can send -/

/-- What the move that sends a notification puts into a queue. -/
def issues (h : Handle) : Whereabouts → Traffic → List Move → List Frame
  | _, _, [] => []
  | w, t, mv :: moves =>
    (if w.next t mv = .sent ∧ w ≠ .sent then t.sent mv h else []) ++ issues h (w.next t mv) (t.step mv) moves

theorem issues_of_sent (h : Handle) (t : Traffic) (moves : List Move) : issues h .sent t moves = [] := by
  induction moves generalizing t with
  | nil => rfl
  | cons mv moves ih =>
    simp only [issues, Whereabouts.next_sent, ih, ne_eq, not_true, and_false, if_false, List.append_nil]

theorem length_issues {settings : ChatSettings} {now : Int} {before moves : List Move}
    (hsessions : ((before ++ moves).filterMap Move.connects?).Nodup)
    (hhandles : ((before ++ moves).filterMap Move.opens?).Nodup)
    (hspares : Run.Along step SparesPlaces (start settings now) (before ++ moves)) {user : UserId} {username : String}
    {online : Bool} {w : Whereabouts}
    (hw : w.Holds ((start settings now).run before) (.presence user username online) fun _ => True) (h : Handle) :
    (issues h w ((start settings now).run before) moves).length ≤ 1 := by
  induction moves generalizing before w with
  | nil => exact Nat.zero_le _
  | cons mv moves ih =>
    have hc := coupled_of_start settings now before
    have hfresh := (Run.along_append.1 (fresh_of_nodup settings now hsessions)).2.1
    have hnext := Whereabouts.holds_next hc hfresh hw fun _ _ => trivial
    rw [← run_snoc] at hnext
    rw [List.append_cons] at hsessions hhandles hspares
    have hrest := ih hsessions hhandles hspares hnext
    rw [run_snoc] at hrest
    rw [issues]
    split
    · rename_i hsent
      obtain ⟨hsent, hne⟩ := hsent
      rw [hsent, issues_of_sent, List.append_nil]
      -- Only what is underway can become sent, and it is sent in this move.
      cases w with
      | waiting i =>
        rcases Whereabouts.next_waiting_cases ((start settings now).run before) mv i with ⟨j, hj⟩ | hj | ⟨-, hj⟩ <;>
          rw [hj] at hsent <;> cases hsent
      | asked i =>
        obtain ⟨users, hin, -⟩ := hw
        rcases Whereabouts.asked_next mv hin with ⟨-, rfl⟩ | ⟨j, hj, -⟩
        · rw [List.append_assoc] at hspares hhandles
          have hapart := apart_of_start settings now
            (by rw [List.filterMap_append] at hhandles; exact hhandles.of_append_left)
          have hg := grounded_run (Run.along_append.1 hspares).1
          exact length_sent_sendOut hc hapart hin (hg.underway _ _ (List.mem_of_getElem? hin)) h
        · rw [hj] at hsent
          cases hsent
      | sent => exact absurd rfl hne
      | lost =>
        rw [Whereabouts.next_lost] at hsent
        cases hsent
    · exact hrest

/-! ## The last edge -/

theorem pending_of_turns (hc : t.crowd.Coupled) {mv : Move} (hfresh : t.Fresh mv) {user : UserId} {online : Bool}
    (hturns : t.Turns mv user online) :
    ∃ username, (t.step mv).crowd.server.pending = t.crowd.server.pending ++ [.presence user username online] := by
  have hannounces := announces_step hc hfresh
  have hchanged : (t.step mv).crowd.server.registry.isOnline user ≠ t.crowd.server.registry.isOnline user := by
    rw [hturns.before, hturns.after]
    simp
  generalize (t.step mv).crowd.server.pending = pending at hannounces
  cases hannounces with
  | turned user' username online' hturns' hmv hothers =>
    by_cases huser : user = user'
    · subst huser
      obtain rfl : online = online' := hturns.after.symm.trans hturns'.after
      exact ⟨username, rfl⟩
    · exact absurd (hothers user huser) hchanged
  | hinted _ _ hsame | taken _ _ hsame | still _ hsame => exact absurd (hsame user) hchanged

theorem isOnline_of_connect {settings : ChatSettings} {now : Int} {before : List Move} {s : SessionId} {h : Handle}
    {user : UserId} {username : String} {host : Option String}
    (hfresh : ((start settings now).run before).Fresh (.act (.connect s h user username host))) :
    ((start settings now).run (before ++ [.act (.connect s h user username host)])).crowd.server.registry.isOnline
      user = true := by
  have hnone := hfresh s rfl
  have hidle : ((start settings now).run before).tasks.get? s = none := by
    rw [← Option.not_isSome_iff_eq_none, Option.isSome_iff_exists]
    rintro ⟨task, htask⟩
    obtain ⟨r, hr⟩ := exists_router_of_task htask
    rw [hnone] at hr
    cases hr
  have hstep : (start settings now).run (before ++ [.act (.connect s h user username host)]) =
      { (start settings now).run before with
        crowd := ((start settings now).run before).crowd.connect s h user username host } := by
    rw [run_snoc, step_of_idle _ id rfl hidle]
    rfl
  have hc := coupled_of_start settings now (before ++ [.act (.connect s h user username host)])
  rw [hc.isOnline_iff, hstep]
  refine ⟨s, ?_⟩
  simp [Crowd.client?, Crowd.connect, Router.connect, Router.client?, Router.client]

/-- The last edge of a user in a run, with what became of the notification that it left: the moves up to
which it waited, those up to which it was underway, and the rest. -/
structure LastEdge (t : Traffic) (user : UserId) (online : Bool) (before : List Move) (mv : Move)
    (waiting : List Move) (k : Nat) (underway : List Move) (j : Nat) (rest : List Move) : Prop where
  turns : (t.run before).Turns mv user online
  lasts : Run.Throughout step (fun t => t.crowd.server.registry.isOnline user = online) ((t.run before).step mv)
    (waiting ++ .act (.lookUp k) :: (underway ++ .act (.sendOut j) :: rest))
  waits : (Whereabouts.waiting (t.run before).crowd.server.pending.length).after ((t.run before).step mv) waiting =
    .waiting k
  lookedUp : (Whereabouts.asked (t.run (before ++ mv :: waiting)).crowd.underway.length).after
    ((t.run (before ++ mv :: waiting)).step (.act (.lookUp k))) underway = .asked j

/-- When every notification was delivered, the one that a user's last edge left was looked up and sent. -/
theorem exists_lastEdge {settings : ChatSettings} {now : Int} {moves : List Move} {s : SessionId} {h : Handle}
    {user : UserId} {username : String} {host : Option String}
    (hsessions : (moves.filterMap Move.connects?).Nodup)
    (hdelivers : Run.Along step Whereabouts.Delivers (start settings now) moves)
    (hpending : ((start settings now).run moves).crowd.server.pending = [])
    (hunderway : ((start settings now).run moves).crowd.underway = [])
    (hconnect : .act (.connect s h user username host) ∈ moves) :
    ∃ online before mv waiting k underway j rest users username,
      moves = before ++ mv :: (waiting ++ .act (.lookUp k) :: (underway ++ .act (.sendOut j) :: rest)) ∧
      LastEdge (start settings now) user online before mv waiting k underway j rest ∧
      Notification.concerned (.presence user username online)
        ((start settings now).run (before ++ mv :: waiting)).crowd.server.store = .ok users ∧
      ((start settings now).run (before ++ mv :: (waiting ++ .act (.lookUp k) :: underway))).crowd.underway[j]? =
        some (.presence user username online, users) := by
  have hfresh := fresh_of_nodup settings now hsessions
  rcases Run.exists_last_change step (fun t => t.crowd.server.registry.isOnline user) (start settings now) moves with
    hnever | ⟨before, mv, after, rfl, hchange, hlasts⟩
  · -- The user was online right after the connection.
    obtain ⟨before, after, rfl⟩ := List.append_of_mem hconnect
    have hcame := isOnline_of_connect hfresh.at
    rw [List.append_cons] at hnever
    exact absurd (hcame.symm.trans hnever.at) nofun
  · have hc := coupled_of_start settings now before
    have hturns : ((start settings now).run before).Turns mv user
        ((((start settings now).run before).step mv).crowd.server.registry.isOnline user) := ⟨hchange, rfl⟩
    have hstays : Run.Throughout step (fun t => t.crowd.server.registry.isOnline user =
        (((start settings now).run before).step mv).crowd.server.registry.isOnline user)
        (((start settings now).run before).step mv) after := hlasts
    generalize (((start settings now).run before).step mv).crowd.server.registry.isOnline user = online
      at hturns hstays
    obtain ⟨username, hleft⟩ := pending_of_turns hc hfresh.at hturns
    have hwaits : (((start settings now).run before).step mv).crowd.server.pending[
        ((start settings now).run before).crowd.server.pending.length]? = some (.presence user username online) := by
      rw [hleft]
      exact List.getElem?_concat_length
    obtain ⟨waiting, k, underway, j, rest, users, rfl, hwaiting, hok, hunderway', hj⟩ :=
      Whereabouts.delivered_of_settled (coupled_step hc mv) (Run.along_append.1 hfresh).2.2
        (Run.along_append.1 hdelivers).2.2 hwaits (by rw [← run_append_cons, hpending]; exact List.not_mem_nil)
        fun users => by rw [← run_append_cons, hunderway]; exact List.not_mem_nil
    rw [← run_append_cons] at hok hunderway' hj
    refine ⟨online, before, mv, waiting, k, underway, j, rest, users, username, rfl,
      ⟨hturns, hstays, hwaiting, hunderway'⟩, hok, ?_⟩
    rw [← hj, ← run_snoc, ← run_append]
    simp only [List.append_assoc, List.cons_append, List.nil_append]

theorem status_of_sent {moves : List Move} (hc : t.crowd.Coupled) (hg : t.Grounded moves) {mv : Move} {h : Handle}
    {user : UserId} {online : Bool} (hin : online ∈ (t.sent mv h).filterMap (Frame.statusOf? user)) :
    t.crowd.server.registry.isOnline user = online := by
  obtain ⟨f, hf, hstatus⟩ := List.mem_filterMap.1 hin
  unfold Frame.statusOf? at hstatus
  split at hstatus
  · split at hstatus
    · rename_i huser
      cases hstatus
      exact huser ▸ (status_sent hc hg hf).1
    · cases hstatus
  · cases hstatus

/-- As long as a user stays what they are, nobody is told otherwise. -/
theorem status_of_steady {settings : ChatSettings} {now : Int} {before moves : List Move}
    (hspares : Run.Along step SparesPlaces (start settings now) (before ++ moves)) {user : UserId} {online : Bool}
    (hsteady : Run.Throughout step (fun t => t.crowd.server.registry.isOnline user = online)
      ((start settings now).run before) moves) (h : Handle) :
    ∀ b ∈ (arrivals h ((start settings now).run before) moves).filterMap (Frame.statusOf? user), b = online := by
  intro b hb
  obtain ⟨f, hf, hstatus⟩ := List.mem_filterMap.1 hb
  obtain ⟨early, mv, late, rfl, hsent⟩ := Run.mem_output.1 hf
  have hthen : (start settings now).run (before ++ early) = ((start settings now).run before).run early := run_append ..
  rw [← List.append_assoc] at hspares
  have hagrees : ((start settings now).run (before ++ early)).crowd.server.registry.isOnline user = b := by
    have hsent : f ∈ ((start settings now).run (before ++ early)).sent mv h := hthen ▸ hsent
    exact status_of_sent (coupled_of_start settings now (before ++ early))
      (grounded_run (Run.along_append.1 hspares).1) (List.mem_filterMap.2 ⟨f, hsent, hstatus⟩)
  rw [← hagrees, hthen]
  exact hsteady.at

theorem getLast?_append_of_all {α : Type} {l l' : List α} {a : α} (hne : l' ≠ []) (hall : ∀ x ∈ l', x = a) :
    (l ++ l').getLast? = some a := by
  rw [List.getLast?_append_of_ne_nil l hne, List.getLast?_eq_some_getLast hne, hall _ (List.getLast_mem hne)]

/-- Whoever shared a room with the user when the notification of the last edge was looked up is sent it, and
after it nothing else. -/
theorem LastEdge.last_status {settings : ChatSettings} {now : Int} {user : UserId} {online : Bool}
    {before waiting underway rest early more : List Move} {mv : Move} {k j : Nat} {users : List UserId}
    {username : String}
    (hlast : LastEdge (start settings now) user online before mv waiting k underway j rest)
    (hspares : Run.Along step SparesPlaces (start settings now)
      (before ++ mv :: (waiting ++ .act (.lookUp k) :: (underway ++ .act (.sendOut j) :: rest))))
    (hok : Notification.concerned (.presence user username online)
      ((start settings now).run (before ++ mv :: waiting)).crowd.server.store = .ok users)
    (hj : ((start settings now).run (before ++ mv :: (waiting ++ .act (.lookUp k) :: underway))).crowd.underway[j]? =
      some (.presence user username online, users))
    (hearly : early ++ more = before ++ mv :: waiting) {s : SessionId} {entry : SessionEntry}
    (hshares : ((start settings now).run early).crowd.server.store.SharesRoom user entry.user)
    (hentry : ((start settings now).run (before ++ mv :: (waiting ++ .act (.lookUp k) :: underway))
      ).crowd.server.registry.sessions.get? s = some entry)
    (hlive : ((start settings now).run (before ++ mv :: (waiting ++ .act (.lookUp k) :: underway))
      ).crowd.server.mail.isLive entry.handle = true) :
    ((arrivals entry.handle (start settings now)
      (before ++ mv :: (waiting ++ .act (.lookUp k) :: (underway ++ .act (.sendOut j) :: rest)))).filterMap
        (Frame.statusOf? user)).getLast? = some online := by
  have hconcerned : entry.user ∈ users := by
    refine (Store.mem_usersSharingRoomWith hok).2 ?_
    have hsplit : before ++ mv :: (waiting ++ .act (.lookUp k) :: (underway ++ .act (.sendOut j) :: rest)) =
        early ++ (more ++ .act (.lookUp k) :: (underway ++ .act (.sendOut j) :: rest)) := by
      rw [← List.append_assoc, hearly, List.append_assoc, List.cons_append]
    rw [hsplit] at hspares
    rw [← hearly, run_append]
    exact (keepsPlaces_run (Run.along_append.1 (Run.along_append.1 hspares).2).1).sharesRoom hshares
  have hsplit : before ++ mv :: (waiting ++ .act (.lookUp k) :: (underway ++ .act (.sendOut j) :: rest)) =
      before ++ mv :: (waiting ++ .act (.lookUp k) :: underway) ++ .act (.sendOut j) :: rest := by simp
  have hsteady : Run.Throughout step (fun t => t.crowd.server.registry.isOnline user = online)
      ((start settings now).run (before ++ mv :: (waiting ++ .act (.lookUp k) :: underway)))
      (.act (.sendOut j) :: rest) := by
    have hlasts := hlast.lasts
    rw [← List.cons_append, ← List.append_assoc] at hlasts
    rw [run_append]
    exact hlasts.drop
  have hc := coupled_of_start settings now (before ++ mv :: (waiting ++ .act (.lookUp k) :: underway))
  have hin := mem_sent_sendOut hc hj hentry
    (by rw [Notification.recipients, if_pos hsteady.head]; exact hconcerned) hlive
  rw [hsplit] at hspares ⊢
  rw [arrivals, Run.output_append, List.filterMap_append]
  refine getLast?_append_of_all (List.ne_nil_of_mem (a := online) ?_) (status_of_steady hspares hsteady entry.handle)
  refine List.mem_filterMap.2 ⟨_, List.mem_append_left _ hin, ?_⟩
  exact if_pos rfl

/-- **News of presence converge and never lie.** Take any run in which every connection is a session of its
own with a queue of its own, and nobody's place in a room is taken away; notifications may overtake one
another, and anything may happen while one is underway.

Whenever a user's status is sent, the registry agrees with it, the receiver is a session of somebody else
with whom the user shares a room, and the notification that is sent stems from an edge of the user; and one
edge has at most one frame put into any queue.

If no notification is given up or fails and none is left in the end, then the last edge of every user who
ever connected left a notification that was looked up and sent, and every session that was open and received
at that moment, of anybody who shared a room with the user by the time of the look-up, was sent the user's
status, the last time the one that the user has in the end. -/
theorem presence_converges {settings : ChatSettings} {now : Int} {moves : List Move}
    (hsessions : (moves.filterMap Move.connects?).Nodup) (hhandles : (moves.filterMap Move.opens?).Nodup)
    (hspares : Run.Along step SparesPlaces (start settings now) moves) :
    (∀ before mv after h user username online ts, moves = before ++ mv :: after →
      .event (.userStatus user username online ts) ∈ ((start settings now).run before).sent mv h →
      ((start settings now).run before).crowd.server.registry.isOnline user = online ∧
      (∃ s entry, ((start settings now).run before).crowd.server.registry.sessions.get? s = some entry ∧
        entry.handle = h ∧ ((start settings now).run before).crowd.server.store.SharesRoom user entry.user) ∧
      ∃ k, mv = .act (.sendOut k) ∧ LeftByEdge settings now before user online (.asked k)) ∧
    (∀ before mv after user online h, moves = before ++ mv :: after →
      ((start settings now).run before).Turns mv user online →
      (issues h (.waiting ((start settings now).run before).crowd.server.pending.length)
        (((start settings now).run before).step mv) after).length ≤ 1) ∧
    (Run.Along step Whereabouts.Delivers (start settings now) moves →
      ((start settings now).run moves).crowd.server.pending = [] →
      ((start settings now).run moves).crowd.underway = [] →
      ∀ s h user username host, .act (.connect s h user username host) ∈ moves →
      ∃ online before mv waiting k underway j rest,
        moves = before ++ mv :: (waiting ++ .act (.lookUp k) :: (underway ++ .act (.sendOut j) :: rest)) ∧
        LastEdge (start settings now) user online before mv waiting k underway j rest ∧
        ((start settings now).run moves).crowd.server.registry.isOnline user = online ∧
        ∀ early other, early <+: before ++ mv :: waiting →
          ((start settings now).run early).crowd.server.store.SharesRoom user other →
          ∀ s' entry, ((start settings now).run (before ++ mv :: (waiting ++ .act (.lookUp k) :: underway))
              ).crowd.server.registry.sessions.get? s' = some entry → entry.user = other →
            ((start settings now).run (before ++ mv :: (waiting ++ .act (.lookUp k) :: underway))
              ).crowd.server.mail.isLive entry.handle = true →
            ((arrivals entry.handle (start settings now) moves).filterMap (Frame.statusOf? user)).getLast? =
              some online) := by
  refine ⟨?_, ?_, ?_⟩
  · rintro before mv after h user username online ts rfl he
    rw [List.filterMap_append] at hsessions
    obtain ⟨hagrees, hreceiver, k, users, rfl, hunderway⟩ := status_sent (coupled_of_start settings now before)
      (grounded_run (Run.along_append.1 hspares).1) he
    exact ⟨hagrees, hreceiver, k, rfl,
      (traced_of_nodup hsessions.of_append_left).underway k user username online users hunderway⟩
  · rintro before mv after user online h rfl hturns
    have hfresh := fresh_of_nodup settings now hsessions
    obtain ⟨username, hleft⟩ := pending_of_turns (coupled_of_start settings now before) hfresh.at hturns
    rw [List.append_cons] at hsessions hhandles hspares
    have hw : Whereabouts.Holds ((start settings now).run (before ++ [mv])) (.presence user username online)
        (fun _ => True) (.waiting ((start settings now).run before).crowd.server.pending.length) := by
      show ((start settings now).run (before ++ [mv])).crowd.server.pending[_]? = _
      rw [run_snoc, hleft]
      exact List.getElem?_concat_length
    have hle := length_issues hsessions hhandles hspares hw h
    rwa [run_snoc] at hle
  · intro hdelivers hpending hunderway s h user username host hconnect
    obtain ⟨online, before, mv, waiting, k, underway, j, rest, users, username', hmoves, hlast, hok, hj⟩ :=
      exists_lastEdge hsessions hdelivers hpending hunderway hconnect
    refine ⟨online, before, mv, waiting, k, underway, j, rest, hmoves, hlast, ?_, ?_⟩
    · have hend := hlast.lasts.last
      rw [hmoves, run_append]
      exact hend
    · rintro early other ⟨more, hearly⟩ hshares s' entry hentry rfl hlive
      subst hmoves
      exact hlast.last_status hspares hok hj hearly hshares hentry hlive

/-- Somebody comes, goes and comes back, and the three notifications of that arrive in another order. -/
theorem presence_converges_overtaking :
    let first : List Move := [.act (.store { Store.empty with participants := [⟨"r", 7⟩, ⟨"r", 8⟩] }),
      .act (.connect 1 10 7 "ann" none)]
    let later : List Move := [.act (.connect 2 20 8 "bob" none), .act (.lookUp 1), .act (.close 2),
      .act (.connect 3 30 8 "bob" none), .act (.lookUp 2), .act (.sendOut 1), .act (.lookUp 1), .act (.sendOut 1),
      .act (.sendOut 0), .act (.lookUp 0), .act (.sendOut 0)]
    ((first ++ later).filterMap Move.connects?).Nodup ∧ ((first ++ later).filterMap Move.opens?).Nodup ∧
      Run.Along step SparesPlaces (start .default 0) (first ++ later) ∧
      Run.Along step Whereabouts.Delivers (start .default 0) (first ++ later) ∧
      ((arrivals 10 (start .default 0) (first ++ later)).filterMap (Frame.statusOf? 8)).getLast? = some true := by
  intro first later
  have hsessions : ((first ++ later).filterMap Move.connects?).Nodup := by decide +kernel +zetaReduce
  have hhandles : ((first ++ later).filterMap Move.opens?).Nodup := by decide +kernel +zetaReduce
  have hspares : Run.Along step SparesPlaces (start .default 0) (first ++ later) := by decide +kernel +zetaReduce
  have hdelivers : Run.Along step Whereabouts.Delivers (start .default 0) (first ++ later) := by
    decide +kernel +zetaReduce
  have hpending : ((start .default 0).run (first ++ later)).crowd.server.pending = [] := by decide +kernel +zetaReduce
  have hunderway : ((start .default 0).run (first ++ later)).crowd.underway = [] := by decide +kernel +zetaReduce
  have hopen : Run.Throughout step (fun t => t.crowd.server.registry.sessions.get? 1 = some ⟨7, "ann", 10, none⟩)
      ((start .default 0).run first) later := by decide +kernel +zetaReduce
  have hconnect : .act (.connect 3 30 8 "bob" none) ∈ first ++ later := by simp [first, later]
  obtain ⟨online, before, mv, waiting, k, underway, j, rest, hmoves, -, honline, hstatus⟩ :=
    (presence_converges hsessions hhandles hspares).2.2 hdelivers hpending hunderway 3 30 8 "bob" none hconnect
  have hends : ((start .default 0).run (first ++ later)).crowd.server.registry.isOnline 8 = true := by
    decide +kernel +zetaReduce
  obtain rfl : online = true := honline.symm.trans hends
  -- Whatever the last edge is, the room was there before its notification was looked up, and ann before it was sent.
  have hroom : first.take 1 <+: before ++ mv :: waiting := by
    refine List.prefix_of_prefix_length_le ((List.take_prefix 1 first).trans (List.prefix_append first later)) ?_
      (by simp [first]; omega)
    exact ⟨_, by rw [hmoves, List.append_assoc, List.cons_append]⟩
  have hann : first <+: before ++ mv :: (waiting ++ .act (.lookUp k) :: underway) := by
    refine List.prefix_of_prefix_length_le (List.prefix_append first later) ?_ (by simp [first]; omega)
    exact ⟨.act (.sendOut j) :: rest, by rw [hmoves]; simp⟩
  obtain ⟨still, hstill⟩ := hann
  have hlater : later = still ++ .act (.sendOut j) :: rest := by
    refine (List.append_right_inj first).1 ?_
    rw [← List.append_assoc, hstill, hmoves]
    simp
  have hlive : (((start .default 0).run first).run still).crowd.server.mail.isLive 10 = true := by
    refine isLive_run (coupled_of_start .default 0 first) (by decide +kernel +zetaReduce) fun hkill => ?_
    have hin : .act (.kill 10) ∈ later := hlater ▸ List.mem_append_left _ hkill
    simp [later] at hin
  have hshares : ((start .default 0).run (first.take 1)).crowd.server.store.SharesRoom 8 7 :=
    ⟨by decide, "r", by decide +kernel +zetaReduce, by decide +kernel +zetaReduce⟩
  have hthen := hstatus (first.take 1) 7 hroom hshares 1 ⟨7, "ann", 10, none⟩
  rw [← hstill, run_append] at hthen
  rw [hlater] at hopen
  exact ⟨hsessions, hhandles, hspares, hdelivers, hthen hopen.at rfl hlive⟩

end Traffic

end DirectChat
