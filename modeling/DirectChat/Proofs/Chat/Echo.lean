import DirectChat.Proofs.Chat.Traffic
/-!
# What routers do to queues

All that routers and notifications do to queues is to send events. So a relation between the queues of two servers that
are otherwise the same lasts, whatever both do, if it lasts when both send an event (`Router.takeUp_like`,
`Router.finish_like`, `Router.close_like`); and so does a property of the queues of one (`Router.takeUp_mail`,
`Router.finish_mail`).

The relation that matters here is that the queues hold the same events. Pings, pongs and closes go through the same
queues, and nobody but the two ends of a connection looks at them: a server is echoed by another that is the same but
for the control frames in its queues (`Server.EchoedBy`), and each queue of both is sent the same events
(`Mailroom.EchoedBy.since`).
-/

namespace DirectChat

/-- Whether a frame carries an event. All others are between the two ends of a connection. -/
def Frame.isEvent : Frame → Bool
  | .event _ => true
  | .ping _ | .pong _ | .close .. => false

namespace Mailroom

/-- A relation between queues that lasts when both are sent the same event. -/
def Lasting (R : Mailroom → Mailroom → Prop) : Prop :=
  ∀ m n, R m n → ∀ k e, R (m.send k (.event e)).1 (n.send k (.event e)).1

theorem Lasting.sendAll {R : Mailroom → Mailroom → Prop} (hR : Lasting R) {m n : Mailroom} (h : R m n)
    (ks : List Handle) (e : Event) : R (m.sendAll ks (.event e)).1 (n.sendAll ks (.event e)).1 := by
  rw [sendAll_eq, sendAll_eq]
  induction ks generalizing m n with
  | nil => exact h
  | cons k ks ih => exact ih (hR m n h k e)

/-- A property of queues that lasts when an event is sent. -/
theorem lasting_self {P : Mailroom → Prop} (hP : ∀ m, P m → ∀ k e, P (m.send k (.event e)).1) :
    Lasting fun m n => n = m ∧ P m := by
  rintro m n ⟨rfl, h⟩ k e
  exact ⟨rfl, hP n h k e⟩

/-- The same queues without their control frames. -/
structure EchoedBy (m n : Mailroom) : Prop where
  live : ∀ h, n.isLive h = m.isLive h
  waiting : ∀ h, n.waiting h = (m.waiting h).filter Frame.isEvent

variable {m n m' n' : Mailroom}

theorem lasting_echoedBy : Lasting EchoedBy := fun m n h k e =>
  { live := fun j => by rw [isLive_send, isLive_send, h.live]
    waiting := fun j => by
      rw [waiting_send, waiting_send, h.live, h.waiting, List.filter_append]
      split <;> rfl }

/-- A control frame is not echoed. -/
theorem EchoedBy.control (h : m.EchoedBy n) (k : Handle) {f : Frame} (hf : f.isEvent = false) :
    (m.send k f).1.EchoedBy n where
  live j := by rw [isLive_send, h.live]
  waiting j := by
    rw [waiting_send, h.waiting, List.filter_append]
    split <;> simp [hf]

theorem EchoedBy.openQueue (h : m.EchoedBy n) (k : Handle) : (m.openQueue k).EchoedBy (n.openQueue k) where
  live j := by rw [isLive_openQueue, isLive_openQueue, h.live]
  waiting j := by
    rw [waiting_openQueue, waiting_openQueue, h.waiting]
    split <;> rfl

theorem EchoedBy.kill (h : m.EchoedBy n) (k : Handle) : (m.kill k).EchoedBy (n.kill k) where
  live j := by rw [isLive_kill, isLive_kill, h.live]
  waiting j := by
    rw [waiting_kill, waiting_kill, h.waiting]
    split <;> rfl

theorem EchoedBy.drain (h : m.EchoedBy n) (k : Handle) : (m.drain k).1.EchoedBy (n.drain k).1 where
  live j := by rw [isLive_drain, isLive_drain, h.live]
  waiting j := by
    rw [waiting_drain, waiting_drain, h.waiting]
    split <;> rfl

/-- When frames are added to the queues, the same events are added to those that echo them. -/
theorem EchoedBy.since (h : m.EchoedBy n) (h' : m'.EchoedBy n') {p : Handle → Frame → Prop} (hgrows : m.Grows p m')
    (k : Handle) : n.since n' k = (m.since m' k).filter Frame.isEvent := by
  obtain ⟨fs, hfs, -⟩ := hgrows.added k
  have hechoed : n'.waiting k = n.waiting k ++ fs.filter Frame.isEvent := by
    rw [h'.waiting, hfs, List.filter_append, h.waiting]
  rw [since_of_append hfs, since_of_append hechoed]

theorem Grows.event (h : m.Grows (fun _ f => f.isEvent = true) m') (k : Handle) (e : Event) :
    m.Grows (fun _ f => f.isEvent = true) (m'.send k (.event e)).1 := h.trans (m'.grows_send rfl)

/-- A queue that is emptied is sent nothing, and neither is its echo. -/
theorem EchoedBy.fades (h : m.EchoedBy n) (h' : m'.EchoedBy n') (hfades : m.Fades m') : n.Fades n' := by
  intro k
  rw [h'.waiting, h.waiting]
  rcases hfades k with hsame | hnone
  · exact .inl (by rw [hsame])
  · exact .inr (by rw [hnone]; rfl)

end Mailroom

variable {R : Mailroom → Mailroom → Prop} {P : Mailroom → Prop} {sv sv' : Server}

/-- The same server with other queues, which are in a relation to its own. -/
def Server.Like (R : Mailroom → Mailroom → Prop) (sv sv' : Server) : Prop :=
  ∃ mail, R sv.mail mail ∧ sv' = { sv with mail }

/-- The same server without the control frames in its queues. -/
abbrev Server.EchoedBy (sv sv' : Server) : Prop := sv.Like Mailroom.EchoedBy sv'

theorem Server.Like.mail (h : sv.Like R sv') : R sv.mail sv'.mail := by
  obtain ⟨mail, hmail, rfl⟩ := h
  exact hmail

theorem Server.Like.registry (h : sv.Like R sv') : sv'.registry = sv.registry := by
  obtain ⟨mail, -, rfl⟩ := h
  rfl

theorem Server.like_self (h : P sv.mail) : sv.Like (fun m n => n = m ∧ P m) sv := ⟨sv.mail, ⟨rfl, h⟩, rfl⟩

/-! ## Routers -/

namespace Router

variable (r : Router)

section
variable (hR : Mailroom.Lasting R) (h : sv.Like R sv')
include hR h

theorem reply_like (e : Event) : (r.reply e sv).Like R (r.reply e sv') := by
  obtain ⟨mail, hmail, rfl⟩ := h
  exact ⟨_, hR _ _ hmail r.handle e, rfl⟩

theorem leave_like : (r.leave sv').1 = (r.leave sv).1 ∧ (r.leave sv).2.Like R (r.leave sv').2 := by
  obtain ⟨mail, hmail, rfl⟩ := h
  unfold leave
  cases r.room with
  | none => exact ⟨rfl, mail, hmail, rfl⟩
  | some room => exact ⟨rfl, _, hR.sendAll hmail _ _, rfl⟩

theorem enter_like (room : RoomId) :
    (r.enter room sv').1 = (r.enter room sv).1 ∧ (r.enter room sv).2.Like R (r.enter room sv').2 := by
  obtain ⟨-, mail, hmail, hleft⟩ := r.leave_like hR h
  simp only [enter, leave_fst, hleft, true_and]
  exact ⟨_, hR.sendAll (hR _ _ hmail r.handle _) _ _, rfl⟩

theorem close_like : (r.close sv').1 = (r.close sv).1 ∧ (r.close sv).2.Like R (r.close sv').2 := by
  obtain ⟨-, mail, hmail, hleft⟩ := ({ r with closed := true } : Router).leave_like hR h
  unfold close
  split
  · exact ⟨rfl, h⟩
  · simp only [leave_fst, hleft, true_and]
    split <;> exact ⟨mail, hmail, rfl⟩

theorem takeUpChat_like (f : ClientFrame) :
    (r.takeUpChat f sv').router = (r.takeUpChat f sv).router ∧ (r.takeUpChat f sv').rest = (r.takeUpChat f sv).rest ∧
      (r.takeUpChat f sv).server.Like R (r.takeUpChat f sv').server := by
  obtain ⟨mail, hmail, rfl⟩ := h
  unfold takeUpChat
  cases r.room with
  | none => exact ⟨rfl, rfl, mail, hmail, rfl⟩
  | some room =>
    dsimp only
    split
    · exact ⟨rfl, rfl, _, hR _ _ hmail r.handle _, rfl⟩
    · simp only [saveChat]
      cases sv.store.saveMessage _ sv.now with
      | error e => exact ⟨rfl, rfl, mail, hmail, rfl⟩
      | ok saved => exact ⟨rfl, rfl, mail, hmail, rfl⟩

theorem takeUp_like (f : ClientFrame) :
    (r.takeUp f sv').router = (r.takeUp f sv).router ∧ (r.takeUp f sv').rest = (r.takeUp f sv).rest ∧
      (r.takeUp f sv).server.Like R (r.takeUp f sv').server := by
  unfold takeUp
  split
  · obtain ⟨hrouter, hserver⟩ := r.enter_like hR h (f.room.getD "")
    dsimp only
    split
    · exact ⟨rfl, rfl, h⟩
    · exact ⟨hrouter, rfl, hserver⟩
  · obtain ⟨hrouter, hserver⟩ := r.leave_like hR h
    exact ⟨hrouter, rfl, hserver⟩
  · exact r.takeUpChat_like hR h f
  · obtain ⟨mail, hmail, rfl⟩ := h
    unfold takeUpSeen
    split
    · dsimp only
      split <;> exact ⟨rfl, rfl, mail, hmail, rfl⟩
    · exact ⟨rfl, rfl, mail, hmail, rfl⟩
  · obtain ⟨mail, hmail, rfl⟩ := h
    exact ⟨rfl, rfl, mail, hmail, rfl⟩
  · exact ⟨rfl, rfl, h⟩

theorem finish_like (rest : Rest) : (r.finish rest sv).Like R (r.finish rest sv') := by
  obtain ⟨mail, hmail, rfl⟩ := h
  cases rest with
  | history room =>
    unfold finish sendHistory
    dsimp only
    split
    · exact ⟨mail, hmail, rfl⟩
    · exact ⟨_, hR _ _ hmail r.handle _, rfl⟩
  | announce m => exact ⟨_, hR.sendAll hmail _ _, rfl⟩
  | seen room ts count => exact ⟨_, hR.sendAll (hR _ _ hmail r.handle _) _ _, rfl⟩
  | unseen room ts e => exact ⟨_, hR _ _ hmail r.handle _, rfl⟩
  | list rooms => exact ⟨_, hR _ _ hmail r.handle _, rfl⟩

end

theorem connect_like (h : sv.Like R sv') (s : SessionId) (handle : Handle) (user : UserId) (username : String)
    (host : Option String) :
    (connect s handle user username host sv').1 = (connect s handle user username host sv).1 ∧
      (connect s handle user username host sv).2.Like R (connect s handle user username host sv').2 := by
  obtain ⟨mail, hmail, rfl⟩ := h
  unfold connect
  dsimp only
  split <;> exact ⟨rfl, mail, hmail, rfl⟩

/-! ## The queues of one server -/

section
variable (hP : ∀ m, P m → ∀ k e, P (m.send k (.event e)).1) (h : P sv.mail)
include hP h

theorem close_mail : P (r.close sv).2.mail :=
  (r.close_like (Mailroom.lasting_self hP) (Server.like_self h)).2.mail.2

theorem takeUp_mail (f : ClientFrame) : P (r.takeUp f sv).server.mail :=
  (r.takeUp_like (Mailroom.lasting_self hP) (Server.like_self h) f).2.2.mail.2

theorem finish_mail (rest : Rest) : P (r.finish rest sv).mail :=
  (r.finish_like (Mailroom.lasting_self hP) (Server.like_self h) rest).mail.2

end

theorem close_events (sv : Server) : sv.mail.Grows (fun _ f => f.isEvent = true) (r.close sv).2.mail :=
  r.close_mail (fun _ h k e => h.event k e) (.refl _ _)

theorem takeUp_events (f : ClientFrame) (sv : Server) :
    sv.mail.Grows (fun _ f => f.isEvent = true) (r.takeUp f sv).server.mail :=
  r.takeUp_mail (fun _ h k e => h.event k e) (.refl _ _) f

theorem finish_events (rest : Rest) (sv : Server) :
    sv.mail.Grows (fun _ f => f.isEvent = true) (r.finish rest sv).mail :=
  r.finish_mail (fun _ h k e => h.event k e) (.refl _ _) rest

end Router

/-! ## What no router does -/

/-- An act of nobody's router that is done whole. -/
def Act.Elsewhere (a : Act) : Prop := a.actor? = none ∧ ¬ a.InParts

instance (a : Act) : Decidable a.Elsewhere := inferInstanceAs (Decidable (_ ∧ _))

namespace Crowd

variable {c c' : Crowd}

/-- What happens elsewhere goes on alike, whatever routers there are. -/
theorem step_echo {a : Act} (ha : a.Elsewhere) (h : c.server.EchoedBy c'.server)
    (hunderway : c'.underway = c.underway) :
    (c.step a).server.EchoedBy (c'.step a).server ∧ (c'.step a).underway = (c.step a).underway := by
  obtain ⟨sv, routers, underway⟩ := c
  obtain ⟨sv', routers', underway'⟩ := c'
  obtain ⟨mail, hmail, rfl⟩ := h
  obtain rfl : underway' = underway := hunderway
  cases a with
  | text | enter | sendHistory | announceChat | put => exact absurd trivial ha.2
  | connect | welcome | leave | close | drop => cases ha.1
  | kill handle => exact ⟨⟨_, hmail.kill handle, rfl⟩, rfl⟩
  | receive handle => exact ⟨⟨_, hmail.drain handle, rfl⟩, rfl⟩
  | store | clock | giveUp => exact ⟨⟨mail, hmail, rfl⟩, rfl⟩
  | lookUp n =>
    simp only [step, lookUp, onServer]
    cases sv.pending[n]? with
    | none => exact ⟨⟨mail, hmail, rfl⟩, rfl⟩
    | some notification =>
      dsimp only
      cases notification.concerned sv.store <;> exact ⟨⟨mail, hmail, rfl⟩, rfl⟩
  | sendOut n =>
    simp only [step, sendOut]
    split
    · exact ⟨⟨mail, hmail, rfl⟩, rfl⟩
    · exact ⟨⟨_, Mailroom.lasting_echoedBy.sendAll hmail _ _, rfl⟩, rfl⟩

/-- What happens elsewhere sends events, or empties a queue. -/
theorem step_elsewhere {a : Act} (ha : a.Elsewhere) :
    (∃ ks e, (c.step a).server.mail = (c.server.mail.sendAll ks (.event e)).1) ∨
      (c.step a).server.mail = c.server.mail ∨
      (∃ k, a = .kill k ∧ (c.step a).server.mail = c.server.mail.kill k) ∨
      ∃ k, (c.step a).server.mail = (c.server.mail.drain k).1 := by
  cases a with
  | text | enter | sendHistory | announceChat | put => exact absurd trivial ha.2
  | connect | welcome | leave | close | drop => cases ha.1
  | kill handle => exact .inr (.inr (.inl ⟨handle, rfl, rfl⟩))
  | receive handle => exact .inr (.inr (.inr ⟨handle, rfl⟩))
  | store | clock | giveUp => exact .inr (.inl rfl)
  | lookUp n =>
    right
    left
    rw [step, lookUp_server]
  | sendOut n =>
    simp only [step, sendOut]
    split
    · exact .inr (.inl rfl)
    · exact .inl ⟨_, _, rfl⟩

end Crowd

end DirectChat
