import DirectChat.Proofs.Chat.Live
import DirectChat.Proofs.Chat.Teardown
import DirectChat.Proofs.Run
import Mathlib.Data.List.Induction
/-!
# What runs put into queues

An act puts frames behind those that wait in a queue, or it empties the queue and puts in nothing
(`waiting_step`), so that what a run puts in is what its acts do, one after the other (`arrivals`). When
every connection opens a queue of its own, no two sessions of a run share one (`apart_run`).
-/

namespace DirectChat

/-- An act that empties a queue. -/
def Act.Empties : Act → Prop
  | .connect .. | .kill _ | .receive _ => True
  | _ => False

namespace Crowd

variable {c : Crowd}

/-- What an act puts into a queue. -/
def sent (c : Crowd) (a : Act) (h : Handle) : List Frame := c.server.mail.since (c.step a).server.mail h

/-- What a sequence of acts puts into a queue, in order. -/
def arrivals (h : Handle) (c : Crowd) (acts : List Act) : List Frame := Run.output step (fun c a => c.sent a h) c acts

/-! ## Queues grow or fade -/

theorem grows_act (c : Crowd) (s : SessionId) {f : Router → Server → Router × Server}
    (hf : ∀ r : Router, c.server.mail.Grows (fun _ _ => True) (f r c.server).2.mail) :
    c.server.mail.Grows (fun _ _ => True) (c.act s f).server.mail :=
  c.act_server s (P := fun sv => c.server.mail.Grows (fun _ _ => True) sv.mail) (.refl _ _) fun r _ => hf r

theorem grows_handleText (r : Router) (raw : String) (sv : Server) :
    sv.mail.Grows (fun _ _ => True) (r.handleText raw sv).2.mail := by
  unfold Router.handleText
  split
  · rename_i f _
    by_cases hchat : f.event = "chat"
    · rw [r.dispatch_chat hchat]
      rcases r.chat_cases f sv with h | h | ⟨room, text, voice, m, store, -, -, h⟩
      · rw [h]
        exact .refl _ _
      · rw [h]
        exact Mailroom.grows_send _ trivial
      · rw [h]
        exact Mailroom.grows_sendAll _ fun _ _ => trivial
    · exact (r.dispatch_quiet hchat sv "").grows
  · exact .refl _ _

theorem grows_step (c : Crowd) {a : Act} (ha : ¬ a.Empties) :
    c.server.mail.Grows (fun _ _ => True) (c.step a).server.mail := by
  cases a with
  | connect | kill | receive => exact absurd trivial ha
  | welcome s => exact c.grows_act s fun r => Mailroom.grows_send _ trivial
  | text s raw => exact c.grows_act s fun r => grows_handleText r raw c.server
  | enter s room => exact c.grows_act s fun r => (r.enter_quiet room _ "").grows
  | sendHistory s room => exact c.grows_act s fun r => (r.sendHistory_quiet room _ "").grows
  | announceChat s m => exact c.grows_act s fun r => Mailroom.grows_sendAll _ fun _ _ => trivial
  | put handles f => exact Mailroom.grows_sendAll _ fun _ _ => trivial
  | leave s => exact c.grows_act s fun r => (r.leave_quiet _ "").grows
  | close s => exact c.grows_act s fun r => (r.close_quiet _ "").grows
  | drop s => exact c.grows_act s fun r => (r.close_quiet _ "").grows
  | store store => exact .refl _ _
  | clock now => exact .refl _ _
  | lookUp n =>
    rw [step, lookUp_server]
    exact .refl _ _
  | sendOut n =>
    rw [step, sendOut]
    split
    · exact .refl _ _
    · exact (Notification.deliver_quiet _ _ _ "").grows
  | giveUp n => exact .refl _ _

theorem mail_step (c : Crowd) (a : Act) :
    c.server.mail.Grows (fun _ _ => True) (c.step a).server.mail ∨ c.server.mail.Fades (c.step a).server.mail := by
  by_cases ha : a.Empties
  · right
    cases a with
    | connect s handle user username host =>
      obtain ⟨pending, hserver⟩ := c.connect_server s handle user username host
      rw [step, hserver]
      exact c.server.mail.fades_openQueue handle
    | kill handle => exact c.server.mail.fades_kill handle
    | receive handle => exact c.server.mail.fades_drain handle
    | _ => exact ha.elim
  · exact .inl (c.grows_step ha)

/-- Nobody stops receiving but by an act that says so. -/
theorem isLive_step (c : Crowd) {a : Act} {h : Handle} (hlive : c.server.mail.isLive h = true) (ha : a ≠ .kill h) :
    (c.step a).server.mail.isLive h = true := by
  by_cases hempties : a.Empties
  · cases a with
    | connect s handle user username host =>
      obtain ⟨pending, hserver⟩ := c.connect_server s handle user username host
      rw [step, hserver]
      show Mailroom.isLive (c.server.mail.openQueue handle) h = true
      rw [Mailroom.isLive_openQueue, hlive, ite_self]
    | kill handle =>
      show Mailroom.isLive (c.server.mail.kill handle) h = true
      rw [Mailroom.isLive_kill, if_neg fun hh => ha (by rw [hh]), hlive]
    | receive handle =>
      show Mailroom.isLive (c.server.mail.drain handle).1 h = true
      rw [Mailroom.isLive_drain, hlive]
    | _ => exact hempties.elim
  · exact ((c.grows_step hempties).live h).trans hlive

/-- What an act puts into a queue stands behind what waits there, unless the act empties the queue and
puts in nothing. -/
theorem waiting_step (c : Crowd) (a : Act) (h : Handle) :
    (c.step a).server.mail.waiting h = c.server.mail.waiting h ++ c.sent a h ∨
      (c.step a).server.mail.waiting h = [] ∧ c.sent a h = [] := by
  rcases c.mail_step a with hgrows | hfades
  · obtain ⟨fs, hfs, -⟩ := hgrows.added h
    left
    rw [sent, Mailroom.since_of_append hfs, hfs]
  · have hnothing : c.sent a h = [] := hfades.since h
    rcases hfades h with hsame | hempty
    · exact .inl (by rw [hsame, hnothing, List.append_nil])
    · exact .inr ⟨hempty, hnothing⟩

/-! ## No two sessions share a queue -/

theorem openSessions_snoc (acts : List Act) (a : Act) : openSessions (acts ++ [a]) = a.enroll (openSessions acts) := by
  rw [openSessions, List.foldl_append]
  rfl

theorem enroll_cases {t : Table SessionId Client} {a : Act} {s : SessionId} {client : Client}
    (h : (a.enroll t).get? s = some client) :
    t.get? s = some client ∨ a.connects? = some s ∧ a.opens? = some client.handle := by
  cases a with
  | connect s' handle user username host =>
    rw [Act.enroll, Table.get?_insert] at h
    split at h
    · rename_i hs
      cases h
      exact .inr ⟨by rw [hs, Act.connects?], rfl⟩
    · exact .inl h
  | close s' | drop s' =>
    rw [Act.enroll, Table.get?_erase] at h
    split at h
    · cases h
    · exact .inl h
  | _ => exact .inl h

theorem openSessions_handle {acts : List Act} {s : SessionId} {client : Client}
    (h : (openSessions acts).get? s = some client) : client.handle ∈ acts.filterMap Act.opens? := by
  induction acts using List.reverseRecOn generalizing s client with
  | nil => cases h
  | append_singleton acts a ih =>
    rw [openSessions_snoc] at h
    rw [List.filterMap_append, List.mem_append]
    rcases enroll_cases h with h | ⟨-, hopens⟩
    · exact .inl (ih h)
    · exact .inr (List.mem_filterMap.2 ⟨a, List.mem_singleton_self a, hopens⟩)

theorem openSessions_apart {acts : List Act} (hhandles : (acts.filterMap Act.opens?).Nodup) {s s' : SessionId}
    {client client' : Client} (h : (openSessions acts).get? s = some client)
    (h' : (openSessions acts).get? s' = some client') (heq : client.handle = client'.handle) : s = s' := by
  induction acts using List.reverseRecOn generalizing s s' client client' with
  | nil => cases h
  | append_singleton acts a ih =>
    rw [List.filterMap_append] at hhandles
    have hnew : ∀ handle, a.opens? = some handle → handle ∉ acts.filterMap Act.opens? := fun handle hopens hold =>
      List.disjoint_of_nodup_append hhandles hold (List.mem_filterMap.2 ⟨a, List.mem_singleton_self a, hopens⟩)
    rw [openSessions_snoc] at h h'
    rcases enroll_cases h with h | ⟨hs, hopens⟩ <;> rcases enroll_cases h' with h' | ⟨hs', hopens'⟩
    · exact ih hhandles.of_append_left h h' heq
    · exact absurd (heq ▸ openSessions_handle h) (hnew _ hopens')
    · exact absurd (heq ▸ openSessions_handle h') (hnew _ hopens)
    · exact Option.some.inj (hs.symm.trans hs')

theorem apart_run (settings : ChatSettings) (now : Int) {acts : List Act}
    (hhandles : (acts.filterMap Act.opens?).Nodup) : Registry.ApartBy ((start settings now).run acts).shown? := by
  intro s s' e e' he he' heq
  have hopen : ∀ {s e}, ((start settings now).run acts).shown? s = some e →
      (openSessions acts).get? s = some e.client := by
    intro s e he
    have hc : ((start settings now).run acts).Coupled := (coupled_start settings now).run acts
    rw [openSessions_run, ← hc.client, hc.shows.entry, he, Option.map_some]
  exact openSessions_apart hhandles (hopen he) (hopen he') heq

end Crowd

end DirectChat
