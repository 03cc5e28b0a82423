import DirectChat.Proofs.Chat.Causes
import Mathlib.Data.List.Perm.Subperm
import Mathlib.Data.List.Sort
/-!
# In what order a room hears its chats

A chat gets its number when it is saved, and is announced later on, so that another session's chat may be
saved and announced in between. Everybody in the room then hears the two in one order, and a history lists
them in the other (`overtaken_on_the_way`). This is the only way in which it comes about: of two chats that
a session hears, the one with the greater number comes first only if the other was in its sender's hands at
that moment (`chats_in_order`). The invariant is that the messages in hand are stored under numbers of their own
(`Lined`), and what is announced later was in hand already or has a number that was still to be given out
(`inHand_run`).
-/

namespace DirectChat

namespace Traffic

variable {t : Traffic} {mv : Move} {moves : List Move} {room : RoomId} {s s' : SessionId} {m : Message}

/-- The message that a session has saved and has yet to announce. -/
def inHand (t : Traffic) (s : SessionId) : Option Message :=
  match t.tasks.get? s with
  | some ⟨_, .announce m⟩ => some m
  | _ => none

/-- The clock shows a moment of 64 bits and is not turned back, and what is done to the store from outside
leaves the messages of the room. -/
structure Onward (room : RoomId) (t : Traffic) (mv : Move) : Prop where
  clock : isInt64 t.crowd.server.now = true ∧ t.crowd.server.now ≤ (t.step mv).crowd.server.now
  kept : ∀ store, mv = .act (.store store) → t.crowd.server.store.Keeps room store

instance (room : RoomId) (t : Traffic) (mv : Move) : Decidable (t.Onward room mv) :=
  have := mv.decideStore (t.crowd.server.store.Keeps room)
  decidable_of_iff ((isInt64 t.crowd.server.now = true ∧ t.crowd.server.now ≤ (t.step mv).crowd.server.now) ∧
      ∀ store, mv = .act (.store store) → t.crowd.server.store.Keeps room store)
    ⟨fun h => ⟨h.1, h.2⟩, fun h => ⟨h.clock, h.kept⟩⟩

/-- A session announces a message of the room while another has one in hand that was saved before it. -/
def Overtakes (room : RoomId) (t : Traffic) (mv : Move) (later earlier : Int) : Prop :=
  ∃ s s' m m', mv = .finish s ∧ s' ≠ s ∧ t.inHand s = some m ∧ t.inHand s' = some m' ∧ m.room = room ∧
    m'.room = room ∧ m.id = later ∧ m'.id = earlier ∧ earlier < later

/-! ## What is in hand -/

theorem inHand_eq_some : t.inHand s = some m ↔ ∃ f, t.tasks.get? s = some ⟨f, .announce m⟩ := by
  constructor
  · intro h
    unfold inHand at h
    split at h
    · rename_i f m' htask
      cases h
      exact ⟨f, htask⟩
    · cases h
  · rintro ⟨f, htask⟩
    rw [inHand, htask]

/-- What is in hand after a move was in hand before, or was saved by it. -/
theorem inHand_step (h : (t.step mv).inHand s = some m) :
    t.inHand s = some m ∨ ∃ raw new, mv = .takeUp s raw ∧
      t.crowd.server.store.saveMessage new t.crowd.server.now = .ok (m, (t.step mv).crowd.server.store) := by
  obtain ⟨f, htask⟩ := inHand_eq_some.1 h
  cases task_step htask with
  | stayed htask => exact .inl (inHand_eq_some.2 ⟨f, htask⟩)
  | takenUp raw r hmv hframe hrouter hrest hstep =>
    right
    rw [hstep]
    have htakes := r.takesUp f t.crowd.server
    show ∃ raw new, mv = .takeUp s raw ∧
      t.crowd.server.store.saveMessage new t.crowd.server.now = .ok (m, (r.takeUp f t.crowd.server).server.store)
    generalize r.takeUp f t.crowd.server = u at htakes hrest
    cases htakes with
    | saves saved text voice m' store hroom hsave =>
      cases hrest
      exact ⟨raw, _, hmv, hsave⟩
    | _ => cases hrest

/-! ## The store goes on -/

theorem lastMessage_step (h : t.Onward room mv) :
    t.crowd.server.store.lastMessage ≤ (t.step mv).crowd.server.store.lastMessage := by
  have hstore := t.store_step mv
  generalize (t.step mv).crowd.server.store = store at hstore
  cases hstore with
  | same => omega
  | replaced store hmv => exact (h.kept store hmv).numbers
  | saved s raw f r saved text voice m store hmv hframe hrouter hsave =>
    have hnumbers := (Store.saved_of_ok hsave).numbers
    omega
  | marked _ _ _ _ _ hmark => exact (Store.markSeen_keeps hmark room).numbers

theorem ids_step (h : t.Onward room mv) :
    (t.crowd.server.store.rows room).map (·.id) <+: ((t.step mv).crowd.server.store.rows room).map (·.id) := by
  have hstore := t.store_step mv
  generalize (t.step mv).crowd.server.store = store at hstore
  cases hstore with
  | same => exact List.prefix_rfl
  | replaced store hmv => exact (h.kept store hmv).ids ▸ List.prefix_rfl
  | saved s raw f r saved text voice m store hmv hframe hrouter hsave =>
    obtain ⟨row, hrows, -⟩ := (Store.saved_of_ok hsave).row
    rw [Store.rows_append hrows, List.map_append]
    exact List.prefix_append ..
  | marked _ _ _ _ _ hmark => exact (Store.markSeen_keeps hmark room).ids ▸ List.prefix_rfl

theorem ordered_step (ho : t.crowd.server.store.Ordered room t.crowd.server.now) (h : t.Onward room mv) :
    (t.step mv).crowd.server.store.Ordered room (t.step mv).crowd.server.now := by
  have hstore := t.store_step mv
  have hforward := h.clock.2
  generalize (t.step mv).crowd.server.now = now at hforward
  generalize (t.step mv).crowd.server.store = store at hstore
  cases hstore with
  | same => exact ho.keep (.refl room _) hforward
  | replaced store hmv => exact ho.keep (h.kept store hmv) hforward
  | saved s raw f r saved text voice m store hmv hframe hrouter hsave =>
    exact ((Store.saved_of_ok hsave).ordered ho h.clock.1).keep (.refl room _) hforward
  | marked _ _ _ _ _ hmark => exact ho.keep (Store.markSeen_keeps hmark room) hforward

theorem lastMessage_run (h : Run.Along step (Onward room) t moves) :
    t.crowd.server.store.lastMessage ≤ (t.run moves).crowd.server.store.lastMessage := by
  induction moves generalizing t with
  | nil => exact Nat.le_refl _
  | cons mv moves ih => exact Nat.le_trans (lastMessage_step h.1) (ih h.2)

theorem ids_run (h : Run.Along step (Onward room) t moves) :
    (t.crowd.server.store.rows room).map (·.id) <+: ((t.run moves).crowd.server.store.rows room).map (·.id) := by
  induction moves generalizing t with
  | nil => exact List.prefix_rfl
  | cons mv moves ih => exact (ids_step h.1).trans (ih h.2)

/-- What is in hand at the end was in hand at first, or has a number that was still to be given out then. -/
theorem inHand_run (h : Run.Along step (Onward room) t moves) (hin : (t.run moves).inHand s = some m) :
    t.inHand s = some m ∨ (t.crowd.server.store.lastMessage : Int) < m.id := by
  induction moves using List.reverseRecOn with
  | nil => exact .inl hin
  | append_singleton moves mv ih =>
    obtain ⟨hbefore, -⟩ := Run.along_snoc.1 h
    rw [run_snoc] at hin
    rcases inHand_step hin with hin | ⟨raw, new, -, hsave⟩
    · exact ih hbefore hin
    · right
      have hid := Store.id_of_saveMessage hsave
      have hgrown := lastMessage_run hbefore
      omega

/-! ## Messages in hand have numbers of their own -/

/-- The messages of the room are in the order of time, and those in hand are among them, each in the hands of one
session. -/
structure Lined (room : RoomId) (t : Traffic) : Prop where
  ordered : t.crowd.server.store.Ordered room t.crowd.server.now
  stored : ∀ s m, t.inHand s = some m → m.room = room → m.id ∈ (t.crowd.server.store.rows room).map (·.id)
  apart : ∀ s s' m m', t.inHand s = some m → t.inHand s' = some m' → m.room = room → m'.room = room →
    m.id = m'.id → s = s'

theorem lined_start (room : RoomId) (settings : ChatSettings) (now : Int) : (start settings now).Lined room := by
  refine ⟨Store.ordered_empty room now, ?_, ?_⟩
  · intro s m h
    cases h
  · intro s s' m m' h
    cases h

theorem Lined.id_le (h : t.Lined room) (hin : t.inHand s = some m) (hroom : m.room = room) :
    m.id ≤ t.crowd.server.store.lastMessage := by
  obtain ⟨row, hrow, hid⟩ := List.mem_map.1 (h.stored s m hin hroom)
  rw [← hid]
  exact (h.ordered.upTo row hrow).2

theorem Lined.step (h : t.Lined room) (honward : t.Onward room mv) : (t.step mv).Lined room := by
  refine ⟨ordered_step h.ordered honward, ?_, ?_⟩
  · intro s m hin hroom
    rcases inHand_step hin with hold | ⟨raw, new, hmv, hsave⟩
    · exact (ids_step honward).subset (h.stored s m hold hroom)
    · obtain ⟨row, hrows, hrowRoom, hid, -⟩ := (Store.saved_of_ok hsave).row
      have hnew : row.room = room := by rw [hrowRoom, ← (Store.saved_of_ok hsave).room, hroom]
      rw [Store.rows_append hrows, if_pos hnew, Store.id_of_saveMessage hsave, ← hid]
      simp
  · intro s s' m m' hin hin' hroom hroom' heq
    rcases inHand_step hin with hold | ⟨raw, new, hmv, hsave⟩ <;>
      rcases inHand_step hin' with hold' | ⟨raw', new', hmv', hsave'⟩
    · exact h.apart s s' m m' hold hold' hroom hroom' heq
    · have hle := h.id_le hold hroom
      have hid := Store.id_of_saveMessage hsave'
      omega
    · have hle := h.id_le hold' hroom'
      have hid := Store.id_of_saveMessage hsave
      omega
    · rw [hmv] at hmv'
      exact (Move.takeUp.inj hmv').1

theorem lined_run {settings : ChatSettings} {now : Int}
    (h : Run.Along Traffic.step (Onward room) (start settings now) moves) :
    ((start settings now).run moves).Lined room := by
  induction moves using List.reverseRecOn with
  | nil => exact lined_start room settings now
  | append_singleton moves mv ih =>
    obtain ⟨hbefore, hlast⟩ := Run.along_snoc.1 h
    rw [run_snoc]
    exact (ih hbefore).step hlast

/-! ## What a session hears of the room's chats -/

theorem noChat_act {c : Crowd} (hc : c.Coupled) {a : Act} (hparts : ¬ a.InParts) (h : Handle) :
    ∀ fr ∈ c.server.mail.since (c.step a).server.mail h, fr.NoChat := by
  intro fr hfr
  cases Crowd.sends_act hc hparts hfr with
  | welcome => trivial
  | told s fr hactor htold hsilent => exact hsilent.noChat
  | notified k n => cases n <;> trivial

theorem noChat_takeUp (r : Router) (f : ClientFrame) (sv : Server) (h : Handle) :
    ∀ fr ∈ sv.mail.since (r.takeUp f sv).server.mail h, fr.NoChat := by
  have htakes := r.takesUp f sv
  generalize r.takeUp f sv = u at htakes
  cases htakes with
  | enters room => exact (r.enter_quiet room sv "").noChat.mail.since h
  | leaves => exact (r.leave_quiet sv "").noChat.mail.since h
  | complains =>
    have hcomplains : sv.Quiet (fun _ => Frame.NoChat) "" (r.reply (.error emptyMessageText) sv) :=
      Server.quiet_send trivial
    exact hcomplains.mail.since h
  | _ =>
    rw [(Mailroom.fades_refl _).since]
    simp

theorem noChat_finish (r : Router) {rest : Rest} (hrest : ∀ m, rest ≠ .announce m) (sv : Server) (h : Handle) :
    ∀ fr ∈ sv.mail.since (r.finish rest sv).mail h, fr.NoChat := by
  have hquiet : sv.Quiet (fun _ => Frame.NoChat) "" (r.finish rest sv) := by
    cases rest with
    | history shown => exact r.sendHistory_quiet shown sv ""
    | announce m => exact absurd rfl (hrest m)
    | seen shown ts count =>
      have hanswered : sv.Quiet (fun _ => Frame.NoChat) "" (r.reply (.seenSuccessful shown r.username ts) sv) :=
        Server.quiet_send trivial
      exact hanswered.trans (Server.quiet_announce fun _ => trivial)
    | unseen shown ts reason => exact Server.quiet_send trivial
    | list rooms => exact Server.quiet_send trivial
  exact hquiet.mail.since h

/-- A session listens to the room, its queue is its own, and the messages of the room are lined up. -/
structure Attends (room : RoomId) (r : Router) (t : Traffic) : Prop where
  lined : t.Lined room
  coupled : t.crowd.Coupled
  apart : Registry.ApartBy t.crowd.shown?
  listens : t.crowd.Listens r room

variable {r : Router}

/-- A session that listens to a room is sent what is announced there, once, and nothing of what is announced
elsewhere. -/
theorem Attends.chats_announced (h : t.Attends room r) (sender : Router) (m : Message) :
    (t.crowd.server.mail.since (sender.announceChat m t.crowd.server).mail r.handle).filterMap (Frame.chatIn? room) =
      if m.room = room then [sender.chatMessage t.crowd.server m] else [] := by
  have hentry : t.crowd.shown? r.session = some ⟨r.user, r.username, r.handle, some room⟩ := by
    rw [← h.coupled.shows.entry, h.listens.joined]
  have hadded := sender.waiting_announceChat m t.crowd.server r.handle
  rw [if_pos h.listens.live, h.coupled.shows.count_roomHandles_eq h.apart hentry] at hadded
  rw [Mailroom.since_of_append hadded]
  by_cases hroom : m.room = room
  · have hin : Frame.chatIn? room (.event (.chat (sender.chatMessage t.crowd.server m))) =
        some (sender.chatMessage t.crowd.server m) := if_pos hroom
    simp [hroom, hin]
  · simp [hroom, Ne.symm hroom]

/-- A session that listens to a room hears of its chats when a message of the room that somebody has in hand is
announced, and then of that message, once. -/
theorem Attends.chats_step (h : t.Attends room r) (mv : Move) :
    (t.sent mv r.handle).filterMap (Frame.chatIn? room) = [] ∨
      ∃ s m chat, mv = .finish s ∧ t.inHand s = some m ∧ m.room = room ∧ (t.step mv).inHand s = none ∧
        (t.sent mv r.handle).filterMap (Frame.chatIn? room) = [chat] ∧ chat.id = m.id := by
  have hnone : (∀ fr ∈ t.sent mv r.handle, fr.NoChat) → (t.sent mv r.handle).filterMap (Frame.chatIn? room) = [] :=
    fun h => Frame.filterMap_chatIn? h room
  have hcase := t.step_cases mv
  rw [sent] at hnone ⊢
  generalize t.step mv = t' at hcase hnone
  cases hcase with
  | act a hparts => exact .inl (hnone (noChat_act h.coupled hparts r.handle))
  | takeUp s raw f sender => exact .inl (hnone (noChat_takeUp sender f t.crowd.server r.handle))
  | finish s task sender hrouter htask =>
    obtain ⟨f, rest⟩ := task
    by_cases hrest : ∀ m, rest ≠ .announce m
    · exact .inl (hnone (noChat_finish sender hrest t.crowd.server r.handle))
    · simp only [not_forall, not_not] at hrest
      obtain ⟨m, rfl⟩ := hrest
      have hannounced := h.chats_announced sender m
      by_cases hroom : m.room = room
      · right
        rw [if_pos hroom] at hannounced
        refine ⟨s, m, _, rfl, inHand_eq_some.2 ⟨f, htask⟩, hroom, ?_, hannounced, rfl⟩
        rw [inHand, Table.get?_erase_self]
      · left
        rw [if_neg hroom] at hannounced
        exact hannounced
  | idle =>
    left
    apply hnone
    rw [(Mailroom.fades_refl _).since]
    simp

/-! ## The order of two chats -/

/-- Of two messages of the room the one that is announced first has the smaller number, or it overtakes the other. -/
theorem Lined.in_order (h : t.Lined room) (honward : Run.Along Traffic.step (Onward room) t (mv :: moves))
    (hmv : mv = .finish s) (hin : t.inHand s = some m) (hroom : m.room = room)
    (hgone : (t.step mv).inHand s = none) {m' : Message}
    (hin' : ((t.step mv).run moves).inHand s' = some m') (hroom' : m'.room = room) :
    m.id < m'.id ∨ t.Overtakes room mv m.id m'.id := by
  rcases inHand_run honward.2 hin' with hstayed | hnew
  · have hother : s' ≠ s := by
      intro hs
      rw [hs, hgone] at hstayed
      cases hstayed
    rcases inHand_step hstayed with hheld | ⟨raw, new, htakeUp, -⟩
    · rcases Int.lt_trichotomy m.id m'.id with hlt | heq | hgt
      · exact .inl hlt
      · exact absurd (h.apart s s' m m' hin hheld hroom hroom' heq).symm hother
      · exact .inr ⟨s, s', m, m', hmv, hother, hin, hheld, hroom, hroom', rfl, rfl, hgt⟩
    · rw [hmv] at htakeUp
      cases htakeUp
  · left
    have hle := h.id_le hin hroom
    have hgrown := lastMessage_step honward.1
    omega

variable {later : List Move}

/-- The chats that a session hears while it listens are in the order of their numbers, but for those that overtake. -/
theorem pairwise_chats (hattends : Run.Throughout step (Attends room r) t moves)
    (honward : Run.Along step (Onward room) t moves) :
    ((arrivals r.handle t moves).filterMap (Frame.chatIn? room)).Pairwise (fun chat chat' => chat.id < chat'.id ∨
      ∃ first mv rest, moves = first ++ mv :: rest ∧ (t.run first).Overtakes room mv chat.id chat'.id) := by
  rw [arrivals, Run.filterMap_output]
  apply Run.pairwise_output
  · rintro before mv after rfl
    have hhere : (t.run before).Attends room r := hattends.at
    show (((t.run before).sent mv r.handle).filterMap (Frame.chatIn? room)).Pairwise _
    rcases hhere.chats_step mv with hnone | ⟨s, m, one, -, -, -, -, hone, -⟩
    · rw [hnone]
      exact .nil
    · rw [hone]
      exact List.pairwise_singleton ..
  · rintro before mv between mv' after rfl chat hchat chat' hchat'
    have hhere : (t.run before).Attends room r := hattends.at
    have hthere : (((t.run before).step mv).run between).Attends room r := by
      rw [← run_append_cons]
      rw [← List.cons_append, ← List.append_assoc] at hattends
      exact hattends.at
    have hbetween : Run.Along step (Onward room) (t.run before) (mv :: between) := by
      rw [← List.cons_append] at honward
      exact (Run.along_append.1 (Run.along_append.1 honward).2).1
    change chat ∈ ((t.run before).sent mv r.handle).filterMap (Frame.chatIn? room) at hchat
    change chat' ∈ ((t.run (before ++ mv :: between)).sent mv' r.handle).filterMap (Frame.chatIn? room) at hchat'
    rw [run_append_cons] at hchat'
    rcases hhere.chats_step mv with hnone | ⟨s, m, one, hmv, hin, hroom, hgone, hone, hid⟩
    · rw [hnone] at hchat
      cases hchat
    rcases hthere.chats_step mv' with hnone | ⟨s', m', one', hmv', hin', hroom', hgone', hone', hid'⟩
    · rw [hnone] at hchat'
      cases hchat'
    rw [hone, List.mem_singleton] at hchat
    rw [hone', List.mem_singleton] at hchat'
    subst hchat hchat'
    rw [hid, hid']
    rcases hhere.lined.in_order hbetween hmv hin hroom hgone hin' hroom' with hlt | hovertakes
    · exact .inl hlt
    · exact .inr ⟨before, mv, between ++ mv' :: after, rfl, hovertakes⟩

/-- What a session has heard of the room's chats is in the store. -/
theorem ids_of_chats (hattends : Run.Throughout step (Attends room r) t moves)
    (honward : Run.Along step (Onward room) t (moves ++ later)) :
    ((arrivals r.handle t moves).filterMap (Frame.chatIn? room)).map (·.id) ⊆
      ((t.run (moves ++ later)).crowd.server.store.rows room).map (·.id) := by
  intro id hid
  obtain ⟨chat, hchat, rfl⟩ := List.mem_map.1 hid
  rw [arrivals, Run.filterMap_output] at hchat
  obtain ⟨before, mv, after, rfl, hheard⟩ := Run.mem_output.1 hchat
  have hhere : (t.run before).Attends room r := hattends.at
  change chat ∈ ((t.run before).sent mv r.handle).filterMap (Frame.chatIn? room) at hheard
  rcases hhere.chats_step mv with hnone | ⟨s, m, one, -, hin, hroom, -, hone, hid⟩
  · rw [hnone] at hheard
    cases hheard
  · rw [hone, List.mem_singleton] at hheard
    subst hheard
    rw [List.append_assoc] at honward ⊢
    rw [hid, run_append]
    exact (ids_run (Run.along_append.1 honward).2).subset (hhere.lined.stored s m hin hroom)

/-- **A chat is heard after those that were saved before it, unless it overtakes them.** Take any run in which
every connection has a queue of its own, the clock does not go back and the room's messages come from chats
alone, and a session that stays in the room for a while with somebody receiving. Of any two chats that it
hears in that time, the first has the smaller number, or it was announced while another session had the
second in hand, which was saved before it. Whatever is read of the room later on is in the order of the
numbers; so as long as no chat overtakes another, the session hears them in the order in which the room's
history lists them. -/
theorem chats_in_order {settings : ChatSettings} {now : Int} {before moves later : List Move} {t : Traffic} {r : Router}
    {room : RoomId} {chats : List ChatMessage} (hstart : (start settings now).run before = t)
    (hhandles : ((before ++ moves).filterMap Move.opens?).Nodup)
    (honward : Run.Along step (Onward room) (start settings now) (before ++ (moves ++ later)))
    (hstay : Run.Throughout step (fun t => Crowd.Listens r room t.crowd) t moves)
    (hchats : (arrivals r.handle t moves).filterMap (Frame.chatIn? room) = chats) :
    chats.Pairwise (fun chat chat' => chat.id < chat'.id ∨
      ∃ first mv rest, moves = first ++ mv :: rest ∧ (t.run first).Overtakes room mv chat.id chat'.id) ∧
    (∀ limit history, (t.run (moves ++ later)).crowd.server.store.recentMessages room limit = .ok history →
      history.Pairwise (·.id < ·.id)) ∧
    ∀ history, (t.run (moves ++ later)).crowd.server.store.recentMessages room (2 ^ 63) = .ok history →
      chats.Pairwise (·.id < ·.id) → List.Sublist (chats.map (·.id)) (history.map (·.id)) := by
  subst hstart hchats
  obtain ⟨-, honwardAfter⟩ := Run.along_append.1 honward
  have hattends : Run.Throughout step (Attends room r) ((start settings now).run before) moves := by
    apply Run.throughout_of_forall
    rintro first rest rfl
    show (((start settings now).run before).run first).Attends room r
    have hlistens : Crowd.Listens r room (((start settings now).run before).run first).crowd := hstay.at
    rw [← run_append] at hlistens ⊢
    rw [List.append_assoc first, ← List.append_assoc before] at honward
    rw [← List.append_assoc, List.filterMap_append] at hhandles
    exact ⟨lined_run (Run.along_append.1 honward).1, coupled_of_start settings now _,
      apart_of_start settings now hhandles.of_append_left, hlistens⟩
  have hlast : (((start settings now).run before).run (moves ++ later)).Lined room := by
    rw [← run_append]
    exact lined_run honward
  refine ⟨pairwise_chats hattends (Run.along_append.1 honwardAfter).1, ?_, ?_⟩
  · intro limit history hhistory
    exact hlast.ordered.recent_sorted hhistory
  · intro history hhistory hinOrder
    have hids : history.map (·.id) =
        ((((start settings now).run before).run (moves ++ later)).crowd.server.store.rows room).map (·.id) := by
      rw [hlast.ordered.recent_eq hhistory, Store.lastOf_unlimited, List.map_map]
      rfl
    have hheard := List.pairwise_map.2 hinOrder
    have hlisted := List.pairwise_map.2 (hlast.ordered.recent_sorted hhistory)
    have hsubset := ids_of_chats hattends honwardAfter
    rw [← hids] at hsubset
    have hnodup : (((arrivals r.handle ((start settings now).run before) moves).filterMap
        (Frame.chatIn? room)).map (·.id)).Nodup := hheard.imp Int.ne_of_lt
    exact List.sublist_of_subperm_of_pairwise (hnodup.subperm hsubset) hheard hlisted

/-- Each of two sessions has a message in hand, and the one that was saved last is announced first; a third message
follows. Those who listen hear the first two out of order. -/
theorem chats_in_order_overtaking :
    let join := "\x7b\"event\":\"join\",\"room\":\"r\"\x7d"
    let chat := "\x7b\"event\":\"chat\",\"text\":\"hi\"\x7d"
    let before : List Move := [.act (.connect 1 10 7 "ann" none), .act (.connect 2 20 8 "bob" none), .takeUp 1 join,
      .finish 1, .takeUp 2 join, .finish 2]
    let moves : List Move := [.takeUp 1 chat, .act (.clock 5), .takeUp 2 chat, .finish 2, .finish 1, .takeUp 2 chat,
      .finish 2]
    let later : List Move := [.act (.leave 1)]
    Run.Along step (Onward "r") (start .default 0) (before ++ (moves ++ later)) ∧
      ∃ chats, (arrivals 10 ((start .default 0).run before) moves).filterMap (Frame.chatIn? "r") = chats ∧
        chats.map (·.id) = [2, 1, 3] ∧
        chats.Pairwise (fun chat chat' => chat.id < chat'.id ∨ ∃ first mv rest, moves = first ++ mv :: rest ∧
          (((start .default 0).run before).run first).Overtakes "r" mv chat.id chat'.id) ∧
        ∀ limit history,
          (((start .default 0).run before).run (moves ++ later)).crowd.server.store.recentMessages "r" limit =
              .ok history →
            history.Pairwise (·.id < ·.id) := by
  intro join chat before moves later
  have hhandles : ((before ++ moves).filterMap Move.opens?).Nodup := by decide +kernel +zetaReduce
  have honward : Run.Along step (Onward "r") (start .default 0) (before ++ (moves ++ later)) := by
    decide +kernel +zetaReduce
  have hstay : Run.Throughout step (fun t => Crowd.Listens ⟨1, 7, "ann", 10, none, none, false⟩ "r" t.crowd)
      ((start .default 0).run before) moves := by decide +kernel +zetaReduce
  have hids : ((arrivals 10 ((start .default 0).run before) moves).filterMap (Frame.chatIn? "r")).map (·.id) =
      [2, 1, 3] := by decide +kernel +zetaReduce
  obtain ⟨hpairwise, hhistory, -⟩ := chats_in_order rfl hhandles honward hstay rfl
  exact ⟨honward, _, rfl, hids, hpairwise, hhistory⟩

/-- Two sessions write to a room at once. The message that was saved last is announced first, and so the room hears
the two in one order and finds them in the history in the other. -/
theorem overtaken_on_the_way :
    let join := "\x7b\"event\":\"join\",\"room\":\"r\"\x7d"
    let chat := "\x7b\"event\":\"chat\",\"text\":\"hi\"\x7d"
    let before : List Move := [.act (.connect 1 10 7 "ann" none), .act (.connect 2 20 8 "bob" none),
      .act (.connect 3 30 9 "cat" none), .takeUp 1 join, .finish 1, .takeUp 2 join, .finish 2, .takeUp 3 join,
      .finish 3]
    let moves : List Move := [.takeUp 1 chat, .act (.clock 5), .takeUp 2 chat, .finish 2, .finish 1]
    ((before ++ moves).filterMap Move.opens?).Nodup ∧
      Run.Along step (Onward "r") (start .default 0) (before ++ moves) ∧
      Run.Throughout step (fun t => Crowd.Listens ⟨3, 9, "cat", 30, none, none, false⟩ "r" t.crowd)
        ((start .default 0).run before) moves ∧
      ((arrivals 30 ((start .default 0).run before) moves).filterMap (Frame.chatIn? "r")).map (·.id) = [2, 1] ∧
      (((start .default 0).run (before ++ moves)).crowd.server.store.recentMessages "r" 50).toOption.map
        (List.map (·.id)) = some [1, 2] := by
  intro join chat before moves
  have honward : Run.Along step (Onward "r") (start .default 0) (before ++ moves) := by decide +kernel +zetaReduce
  have hworks : ((start .default 0).run (before ++ moves)).crowd.server.store.Works := by decide +kernel +zetaReduce
  refine ⟨?_, honward, ?_, ?_, ?_⟩
  · decide +kernel +zetaReduce
  · decide +kernel +zetaReduce
  · decide +kernel +zetaReduce
  · -- The messages are stored in order, so that nothing has to be sorted to read them.
    rw [Store.recentMessages_eq hworks (lined_run honward).ordered]
    show some (((lastOf 50 (((start .default 0).run (before ++ moves)).crowd.server.store.rows "r")).map
      StoredMessage.load).map (·.id)) = some [1, 2]
    decide +kernel +zetaReduce

end Traffic

end DirectChat
