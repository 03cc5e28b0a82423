import DirectChat.Proofs.Chat.Live
import DirectChat.Proofs.Session.FanOut
import DirectChat.Proofs.Store.Reached
/-!
# Who is told that there is a message

A hint about a message is for the users who take part in the room, did not write the message and have no session that
looks at the room (`Roster.IsAway`); each of their sessions gets it once. The store knows the first, the registry the
last, and what both say together is one set of sessions (`Shows.userHandles_recipients`). So after a chat a user who
takes part in its room has got the chat or the hint, never both (`hints_reach_who_is_away`).
-/

namespace DirectChat

/-! ## Whom a hint is for -/

namespace Roster

variable {t : Roster} {user : UserId} {room : RoomId}

theorem isOnline_iff : t.isOnline user = true ↔ ∃ s e, t.get? s = some e ∧ e.user = user := by
  simp only [isOnline, Table.values, List.any_map, List.any_eq_true, Function.comp_apply, decide_eq_true_eq]
  constructor
  · rintro ⟨x, hx, huser⟩
    exact ⟨x.1, x.2, t.get?_of_mem hx, huser⟩
  · rintro ⟨s, e, he, huser⟩
    exact ⟨(s, e), t.get?_eq_some_iff.1 he, huser⟩

theorem isInRoom_iff :
    t.isInRoom user room = true ↔ ∃ s e, t.get? s = some e ∧ e.user = user ∧ e.room = some room := by
  simp only [isInRoom, Table.values, List.any_map, List.any_eq_true, Function.comp_apply, decide_eq_true_eq]
  constructor
  · rintro ⟨x, hx, hin⟩
    exact ⟨x.1, x.2, t.get?_of_mem hx, hin⟩
  · rintro ⟨s, e, he, hin⟩
    exact ⟨(s, e), t.get?_eq_some_iff.1 he, hin⟩

/-- The sessions of users of whom none is listed twice, in the order of the roster. -/
theorem ofUsers_perm {users : List UserId} (h : users.Nodup) :
    (users.flatMap t.ofUser).Perm (t.entries.filter fun x => x.2.user ∈ users) := by
  have hnodup : (users.flatMap t.ofUser).Nodup := by
    refine List.nodup_flatMap.2 ⟨fun user _ => t.nodup_entries.filter _, h.imp fun {u v} huv => ?_⟩
    intro x hu hv
    have hxu : x.2.user = u := by simpa using (List.mem_filter.1 hu).2
    have hxv : x.2.user = v := by simpa using (List.mem_filter.1 hv).2
    exact huv (hxu.symm.trans hxv)
  refine (List.perm_ext_iff_of_nodup hnodup (t.nodup_entries.filter _)).2 fun x => ?_
  simp only [List.mem_flatMap, ofUser, List.mem_filter, decide_eq_true_eq]
  constructor
  · rintro ⟨user, huser, hx, rfl⟩
    exact ⟨hx, huser⟩
  · rintro ⟨hx, huser⟩
    exact ⟨_, huser, hx, rfl⟩

/-- A user who takes part in a room, but did not write the message and has no session there. -/
def IsAway (t : Roster) (s : Store) (room : RoomId) (author user : UserId) : Prop :=
  s.hasPlace room user = true ∧ user ≠ author ∧ t.isInRoom user room = false

instance (t : Roster) (s : Store) (room : RoomId) (author user : UserId) : Decidable (t.IsAway s room author user) :=
  inferInstanceAs (Decidable (_ ∧ _ ∧ _))

/-- The sessions of the users who are away. -/
def away (t : Roster) (s : Store) (room : RoomId) (author : UserId) : List (SessionId × SessionEntry) :=
  t.entries.filter fun x => t.IsAway s room author x.2.user

theorem count_away {s : SessionId} {e : SessionEntry} (he : t.get? s = some e) (store : Store) (room : RoomId)
    (author : UserId) :
    (t.away store room author).count (s, e) = if t.IsAway store room author e.user then 1 else 0 := by
  rw [away]
  split
  · rename_i haway
    rw [List.count_filter (by simpa using haway), count_entries he]
  · rename_i haway
    refine List.count_eq_zero.2 fun hin => haway ?_
    simpa using (List.mem_filter.1 hin).2

end Roster

namespace Registry

variable {r : Registry} {t : Roster} {cs : List SessionChange} {store : Store} {hint : MessageHint}
  {users : List UserId}

/-- Those concerned whom the registry confirms are the users who are away. -/
theorem Shows.userHandles_recipients (h : r.Shows t.get?) (hs : store.Reached)
    (hconcerned : (Notification.hint hint).concerned store = .ok users) :
    (r.userHandles ((Notification.hint hint).recipients users r)).Perm
      ((t.away store hint.room hint.sender).map fun x => x.2.handle) := by
  have hnodup : users.Nodup := by
    have husers : store.roomParticipants hint.room = .ok users := hconcerned
    unfold Store.roomParticipants at husers
    cases Store.eq_ok_of_require husers
    exact hs.nodup_usersIn hint.room
  refine (h.userHandles_perm _).trans ?_
  have hsessions := t.ofUsers_perm (hnodup.filter fun u => u ≠ hint.sender ∧ r.isOnline u ∧ ¬ r.isInRoom u hint.room)
  refine (hsessions.map _).trans (.of_eq (congrArg _ (List.filter_congr fun x hx => ?_)))
  -- The user of a session is online.
  have honline : t.isOnline x.2.user = true := Roster.isOnline_iff.2 ⟨x.1, x.2, t.get?_of_mem hx, rfl⟩
  rw [decide_eq_decide, List.mem_filter, Store.mem_roomParticipants hconcerned, h.isOnline, h.isInRoom, honline,
    Roster.IsAway, decide_eq_true_iff, Bool.not_eq_true]
  simp only [true_and]

theorem fansOut_hint (hr : (after cs).Rearranges r) (hs : store.Reached)
    (hconcerned : (Notification.hint hint).concerned store = .ok users) (e : Event) :
    FansOut (Roster.after cs) ((Roster.after cs).away store hint.room hint.sender) e
      (sendToUsers r ((Notification.hint hint).recipients users r) e) where
  meant _ hx := (List.mem_filter.1 hx).1
  reaches m := m.reaches_sendAll _ (((shows_after cs).rearrange hr).userHandles_recipients hs hconcerned)

end Registry

/-! ## One notification, and all that are pending -/

theorem Notification.run_eq {n : Notification} {sv : Server} {users : List UserId}
    (h : n.concerned sv.store = .ok users) : n.run sv = .ok (n.deliver users sv) := by
  unfold Notification.run
  rw [h]
  rfl

/-- What a notification puts into a queue when it is sent. -/
def Notification.sends (n : Notification) (sv : Server) (h : Handle) : List Frame :=
  match n.concerned sv.store with
  | .error _ => []
  | .ok users => if sv.mail.isLive h = true then
      List.replicate ((sv.registry.userHandles (n.recipients users sv.registry)).count h) (.event (n.event sv.now))
    else []

namespace Server

/-- A server to which the background sends what it would send to the other. -/
structure SendsAlike (sv sv' : Server) : Prop where
  concerned : ∀ n : Notification, n.concerned sv'.store = n.concerned sv.store
  registry : sv'.registry = sv.registry
  live : ∀ h, sv'.mail.isLive h = sv.mail.isLive h
  now : sv'.now = sv.now

theorem SendsAlike.sends {sv sv' : Server} (h : sv.SendsAlike sv') (n : Notification) (handle : Handle) :
    n.sends sv' handle = n.sends sv handle := by
  simp only [Notification.sends, h.concerned, h.registry, h.live, h.now]

theorem sendsAlike_notify (sv : Server) (n : Notification) : sv.SendsAlike (sv.notify n) := by
  unfold notify
  split
  · rename_i sv' count hrun
    unfold Notification.run at hrun
    cases hconcerned : n.concerned sv.store with
    | error e => simp [hconcerned, bind, Except.bind] at hrun
    | ok users =>
      rw [hconcerned] at hrun
      cases hrun
      exact ⟨fun _ => rfl, rfl, sv.mail.isLive_sendAll _ _, rfl⟩
  · exact ⟨fun _ => rfl, rfl, fun _ => rfl, rfl⟩

theorem waiting_notify (sv : Server) (n : Notification) (h : Handle) :
    (sv.notify n).mail.waiting h = sv.mail.waiting h ++ n.sends sv h := by
  unfold notify Notification.sends Notification.run
  cases n.concerned sv.store with
  | error e => exact (List.append_nil _).symm
  | ok users => exact sv.mail.waiting_sendAll _ _ h

theorem waiting_notifyAll (sv : Server) (ns : List Notification) (h : Handle) :
    (ns.foldl notify sv).mail.waiting h = sv.mail.waiting h ++ ns.flatMap fun n => n.sends sv h := by
  induction ns generalizing sv with
  | nil => exact (List.append_nil _).symm
  | cons n ns ih =>
    rw [List.foldl_cons, ih, waiting_notify, List.flatMap_cons, List.append_assoc]
    congr 2
    exact List.flatMap_congr fun n' _ => (sv.sendsAlike_notify n).sends n' h

/-- Settling sends what is pending, in order. -/
theorem waiting_settle (sv : Server) (h : Handle) :
    sv.settle.mail.waiting h = sv.mail.waiting h ++ sv.pending.flatMap fun n => n.sends sv h :=
  waiting_notifyAll { sv with pending := [] } sv.pending h

end Server

/-- What nobody receives is sent nothing. -/
theorem Notification.sends_of_not_live {sv : Server} {h : Handle} (hdead : sv.mail.isLive h = false)
    (n : Notification) : n.sends sv h = [] := by
  unfold sends
  split
  · rfl
  · rw [if_neg (by simp [hdead])]

/-! ## A chat, settled -/

/-- The frames that settling puts into a queue when nothing is added to what is pending, put between certain others. -/
def Server.GetsAround (sv sv' : Server) (h : Handle) (first last : List Frame) : Prop :=
  ∃ earlier, sv.settle.mail.waiting h = sv.mail.waiting h ++ earlier ∧ (sv.pending = [] → earlier = []) ∧
    sv'.mail.waiting h = sv.mail.waiting h ++ (first ++ earlier ++ last)

/-- What a chat comes to when it and everything else that is pending is sent. -/
structure Server.ChatSettles (t : Roster) (room : RoomId) (author : UserId) (chat hint : Frame) (sv settled : Server) :
    Prop where
  /-- Another user who takes part in the room and is there gets the chat in each session that is there, and no hint. -/
  present : ∀ user, sv.store.hasPlace room user = true → user ≠ author → t.isInRoom user room = true →
    ∀ s entry, t.get? s = some entry → entry.user = user → sv.mail.isLive entry.handle = true →
      sv.GetsAround settled entry.handle (if entry.room = some room then [chat] else []) []
  /-- Another user who takes part in the room and is not there gets one hint in every session, and no chat. -/
  away : ∀ user, sv.store.hasPlace room user = true → user ≠ author → t.isInRoom user room = false →
    ∀ s entry, t.get? s = some entry → entry.user = user → sv.mail.isLive entry.handle = true →
      sv.GetsAround settled entry.handle [] [hint]
  /-- The author, and who does not take part in the room, gets no hint. -/
  others : ∀ s entry, t.get? s = some entry → entry.user = author ∨ sv.store.hasPlace room entry.user = false →
    sv.mail.isLive entry.handle = true →
      sv.GetsAround settled entry.handle (if entry.room = some room then [chat] else []) []
  /-- What nobody receives gets nothing. -/
  unheard : ∀ handle, sv.mail.isLive handle = false → settled.mail.waiting handle = sv.mail.waiting handle

section

variable {cs : List SessionChange} {sv : Server}

theorem Store.exists_concerned {store : Store} (h : store.require [.participants] = .ok ()) (hint : MessageHint) :
    ∃ users, (Notification.hint hint).concerned store = .ok users :=
  ⟨store.usersIn hint.room, by simp only [Notification.concerned, roomParticipants, h]; rfl⟩

/-- A session with a queue of its own gets a hint if its user is away. -/
theorem Notification.sends_hint (hr : (Registry.after cs).Rearranges sv.registry) (hs : sv.store.Reached)
    (hready : sv.store.require [.participants] = .ok ()) (hapart : Registry.ApartBy (Roster.after cs).get?)
    {s : SessionId} {entry : SessionEntry} (hentry : (Roster.after cs).get? s = some entry) (hint : MessageHint) :
    (Notification.hint hint).sends sv entry.handle =
      if sv.mail.isLive entry.handle = true ∧ (Roster.after cs).IsAway sv.store hint.room hint.sender entry.user then
        [.event ((Notification.hint hint).event sv.now)]
      else [] := by
  obtain ⟨users, hconcerned⟩ := Store.exists_concerned hready hint
  have hsent := sv.waiting_notify (.hint hint) entry.handle
  have hreached := (Registry.fansOut_hint hr hs hconcerned ((Notification.hint hint).event sv.now)).waiting_own hapart
    hentry sv.mail
  simp only [Server.notify, Notification.run_eq hconcerned] at hsent
  rw [List.append_cancel_left (hsent.symm.trans hreached), Roster.count_away hentry]
  by_cases hlive : sv.mail.isLive entry.handle = true
  · by_cases haway : (Roster.after cs).IsAway sv.store hint.room hint.sender entry.user
    · simp [hlive, haway]
    · simp [hlive, haway]
  · simp [hlive]

end

namespace Router

variable {rt : Router} {f : ClientFrame} {room : RoomId} {text voice : Option String} {m : Message}
  {sv sv' : Server}

/-- What has neither text nor voice is not saved. -/
theorem some_of_saved {inline : Option ReplyPreview} {id : Option Int}
    (hsave : rt.saveChat room text voice inline id sv = .ok (m, sv')) : ¬ (text.isNone ∧ voice.isNone) := by
  intro hnone
  obtain ⟨store, hstore, rfl⟩ := saveChat_eq_ok hsave
  unfold Store.saveMessage Store.insertMessage at hstore
  dsimp only at hstore
  rw [if_pos hnone] at hstore
  cases hready : sv.store.require [.messages] with
  | error e =>
    rw [hready] at hstore
    cases hstore
  | ok u =>
    rw [hready] at hstore
    cases hstore

theorem chat_of_saved (hroom : rt.room = some room)
    (hsave : rt.saveChat room (f.text.filter (· ≠ "")) (f.voice.filter (· ≠ "")) f.replyTo f.replyToId sv =
      .ok (m, sv')) : rt.chat f sv = rt.announceChat m sv' := by
  simp only [chat, hroom]
  rw [if_neg (some_of_saved hsave), hsave]

/-- What a chat that was saved is, and what it changes before it is announced. -/
theorem hintOf_of_saved {inline : Option ReplyPreview} {id : Option Int}
    (hsave : rt.saveChat room text voice inline id sv = .ok (m, sv')) :
    hintOf m = ⟨room, rt.user, rt.username, if m.voice.isSome then .voice else .text, m.createdAt⟩ ∧
      sv'.mail = sv.mail ∧ sv'.pending = sv.pending ∧ sv.SendsAlike sv' := by
  obtain ⟨store, hstore, rfl⟩ := saveChat_eq_ok hsave
  obtain ⟨rfl, rfl⟩ := Store.saveMessage_eq_ok hstore
  refine ⟨rfl, rfl, rfl, fun n => ?_, rfl, fun _ => rfl, rfl⟩
  cases n <;> rfl

theorem sendsAlike_announceChat (rt : Router) (m : Message) (sv : Server) : sv.SendsAlike (rt.announceChat m sv) :=
  ⟨fun _ => rfl, rfl, sv.mail.isLive_sendAll _ _, rfl⟩

/-- When a chat is settled, a queue gets the chat, then what was pending, and then the hint. -/
theorem waiting_settle_announceChat (rt : Router) (m : Message) (sv : Server) (h : Handle) :
    (rt.announceChat m sv).settle.mail.waiting h = (rt.announceChat m sv).mail.waiting h ++
      ((sv.pending.flatMap fun n => n.sends sv h) ++ (Notification.hint (hintOf m)).sends sv h) := by
  have hsends : (fun n : Notification => n.sends (rt.announceChat m sv) h) = fun n => n.sends sv h :=
    funext fun n => (sendsAlike_announceChat rt m sv).sends n h
  rw [Server.waiting_settle, hsends]
  show _ ++ (sv.pending ++ [Notification.hint (hintOf m)]).flatMap _ = _
  rw [List.flatMap_append, List.flatMap_singleton]

/-- What a session with a queue of its own gets when a chat is settled. -/
theorem getsAround_chat {cs : List SessionChange} (hr : (Registry.after cs).Rearranges sv.registry)
    (hs : sv.store.Reached) (hready : sv.store.require [.participants] = .ok ())
    (hapart : Registry.ApartBy (Roster.after cs).get?) {inline : Option ReplyPreview} {id : Option Int}
    (hsave : rt.saveChat room text voice inline id sv = .ok (m, sv')) {s : SessionId} {entry : SessionEntry}
    (hentry : (Roster.after cs).get? s = some entry) (hlive : sv.mail.isLive entry.handle = true) :
    sv.GetsAround (rt.announceChat m sv').settle entry.handle
      (if entry.room = some room then [.event (.chat (rt.chatMessage sv' m))] else [])
      (if (Roster.after cs).IsAway sv.store room rt.user entry.user then
        [.event ((Notification.hint (hintOf m)).event sv.now)]
      else []) := by
  obtain ⟨hhint, hmail, hpending, halike⟩ := hintOf_of_saved hsave
  have hroom : m.room = room := congrArg MessageHint.room hhint
  have hannounced : (rt.announceChat m sv').mail.waiting entry.handle = sv.mail.waiting entry.handle ++
      if entry.room = some room then [.event (.chat (rt.chatMessage sv' m))] else [] := by
    show (broadcast sv'.registry m.room (.chat (rt.chatMessage sv' m)) none sv'.mail).1.waiting entry.handle = _
    rw [halike.registry, hmail, hroom, Registry.waiting_broadcast hr hapart hentry]
    simp [hlive]
  have hhinted := Notification.sends_hint hr hs hready hapart hentry (hintOf m)
  simp only [hlive, true_and, congrArg MessageHint.sender hhint, congrArg MessageHint.room hhint] at hhinted
  refine ⟨sv.pending.flatMap fun n => n.sends sv entry.handle, sv.waiting_settle _, fun h => by rw [h]; rfl, ?_⟩
  have hsends : (fun n : Notification => n.sends sv' entry.handle) = fun n => n.sends sv entry.handle :=
    funext fun n => halike.sends n entry.handle
  rw [waiting_settle_announceChat, hannounced, hpending, hsends, halike.sends, hhinted]
  simp only [List.append_assoc]

theorem chatSettles {cs : List SessionChange} (hr : (Registry.after cs).Rearranges sv.registry)
    (hs : sv.store.Reached) (hready : sv.store.require [.participants] = .ok ())
    (hapart : Registry.ApartBy (Roster.after cs).get?) {inline : Option ReplyPreview} {id : Option Int}
    (hsave : rt.saveChat room text voice inline id sv = .ok (m, sv')) :
    Server.ChatSettles (Roster.after cs) room rt.user (.event (.chat (rt.chatMessage sv' m)))
      (.event ((Notification.hint (hintOf m)).event sv.now)) sv (rt.announceChat m sv').settle where
  present user hplace hother hin s entry hentry huser hlive := by
    have hgets := getsAround_chat hr hs hready hapart hsave hentry hlive
    have hnot : ¬ (Roster.after cs).IsAway sv.store room rt.user user := fun haway => by
      rw [haway.2.2] at hin
      cases hin
    rwa [huser, if_neg hnot] at hgets
  away user hplace hother hout s entry hentry huser hlive := by
    have hgets := getsAround_chat hr hs hready hapart hsave hentry hlive
    have hroom : entry.room ≠ some room := fun hroom => by
      rw [Roster.isInRoom_iff.2 ⟨s, entry, hentry, huser, hroom⟩] at hout
      cases hout
    have haway : (Roster.after cs).IsAway sv.store room rt.user user := ⟨hplace, hother, hout⟩
    rwa [huser, if_pos haway, if_neg hroom] at hgets
  others s entry hentry hwho hlive := by
    have hgets := getsAround_chat hr hs hready hapart hsave hentry hlive
    have hnot : ¬ (Roster.after cs).IsAway sv.store room rt.user entry.user := fun haway => by
      rcases hwho with hauthor | hplace
      · exact haway.2.1 hauthor
      · rw [haway.1] at hplace
        cases hplace
    rwa [if_neg hnot] at hgets
  unheard handle hdead := by
    obtain ⟨-, hmail, -, halike⟩ := hintOf_of_saved hsave
    have hdead' : sv'.mail.isLive handle = false := (halike.live handle).trans hdead
    have hnone : (fun n : Notification => n.sends sv' handle) = fun _ => [] :=
      funext fun n => n.sends_of_not_live hdead'
    rw [waiting_settle_announceChat, hnone, Notification.sends_of_not_live hdead', waiting_announceChat,
      if_neg (by simp [hdead']), hmail]
    simp

end Router

/-- **A hint reaches who is away, and nobody else.** Take the registry after any changes, with its sets listed in any
order, a store that can be reached, and any queues. A hint about a message to a room is put once into the queue of each
session that is received and whose user takes part in the room, is not the sender, and has no session at all in the room;
into no other queue; and the answer tells how many these were. When the store cannot tell who takes part, nothing is sent.
So when a chat is saved and settled at once, every other user who takes part in its room has the chat in the sessions
that are there, if any is, and no hint; and else the hint in all sessions, once, and no chat. The author, and those who
do not take part, get no hint. What was pending before is sent in between. -/
theorem hints_reach_who_is_away {cs : List SessionChange} {sv : Server}
    (hr : (Registry.after cs).Rearranges sv.registry) (hs : sv.store.Reached) :
    (∀ hint : MessageHint,
      (∀ e, sv.store.require [.participants] = .error e → (Notification.hint hint).run sv = .error e) ∧
      (sv.store.require [.participants] = .ok () → ∃ mail count,
        (Notification.hint hint).run sv = .ok ({ sv with mail }, count) ∧
        sv.mail.Reaches ((Roster.after cs).away sv.store hint.room hint.sender)
          (.event (.newMessage hint.room hint.sender hint.senderName hint.kind hint.timestamp)) (mail, count) ∧
        (∀ handle, (∀ s entry, (Roster.after cs).get? s = some entry → entry.handle ≠ handle) →
          mail.waiting handle = sv.mail.waiting handle) ∧
        (Registry.ApartBy (Roster.after cs).get? → ∀ s entry, (Roster.after cs).get? s = some entry →
          mail.waiting entry.handle = sv.mail.waiting entry.handle ++
            if sv.mail.isLive entry.handle = true ∧
              (Roster.after cs).IsAway sv.store hint.room hint.sender entry.user then
              [.event (.newMessage hint.room hint.sender hint.senderName hint.kind hint.timestamp)]
            else []))) ∧
    (Registry.ApartBy (Roster.after cs).get? → sv.store.require [.participants] = .ok () →
      ∀ (rt : Router) (f : ClientFrame) (room : RoomId) (m : Message) (sv' : Server), rt.room = some room →
        rt.saveChat room (f.text.filter (· ≠ "")) (f.voice.filter (· ≠ "")) f.replyTo f.replyToId sv = .ok (m, sv') →
        Server.ChatSettles (Roster.after cs) room rt.user (.event (.chat (rt.chatMessage sv' m)))
          (.event (.newMessage room rt.user rt.username (if m.voice.isSome then .voice else .text) m.createdAt)) sv
          (rt.chat f sv).settle) := by
  refine ⟨fun hint => ⟨fun e hfails => ?_, fun hready => ?_⟩, ?_⟩
  · simp only [Notification.run, Notification.concerned, Store.roomParticipants, hfails]
    rfl
  · obtain ⟨users, hconcerned⟩ := Store.exists_concerned hready hint
    have hfan := Registry.fansOut_hint hr hs hconcerned ((Notification.hint hint).event sv.now)
    refine ⟨_, _, Notification.run_eq hconcerned, hfan.reaches sv.mail, fun handle hnobody => ?_,
      fun hapart s entry hentry => ?_⟩
    · exact hfan.waiting_other hnobody sv.mail
    · have hsent := sv.waiting_notify (.hint hint) entry.handle
      simp only [Server.notify, Notification.run_eq hconcerned] at hsent
      exact hsent.trans (congrArg _ (Notification.sends_hint hr hs hready hapart hentry hint))
  · intro hapart hready rt f room m sv' hroom hsave
    have hsettles := Router.chatSettles hr hs hready hapart hsave
    obtain ⟨hhint, -⟩ := Router.hintOf_of_saved hsave
    rw [hhint, ← Router.chat_of_saved hroom hsave] at hsettles
    exact hsettles

/-- Ann and Bob look at a room in one of their two sessions each, Cyd, who takes part as well, in none of hers, of which
one is no longer received, and Dan does not take part. With all sets listed backwards, when Ann writes, the two sessions
that are there get the chat, Cyd's that is received gets the hint, and nobody else gets anything. -/
theorem hints_reach_who_is_away_seven_sessions :
    let cs : List SessionChange := [.register 1 1 "ann" 10, .register 2 1 "ann" 20, .register 3 2 "bob" 30,
      .register 4 2 "bob" 40, .register 5 3 "cyd" 50, .register 6 3 "cyd" 60, .register 7 4 "dan" 70, .join "r" 1,
      .join "r" 3, .join "s" 5]
    let store : Store := { Store.empty with
      users := [⟨1, "ann", "", 0⟩, ⟨2, "bob", "", 0⟩, ⟨3, "cyd", "", 0⟩]
      rooms := [⟨"r", "group", 0⟩]
      participants := [⟨"r", 1⟩, ⟨"r", 2⟩, ⟨"r", 3⟩]
      lastUser := 3 }
    let sv : Server := { Server.start .default 5 with
      store
      registry := { Registry.after cs with
        rooms := (Registry.after cs).rooms.mapValues fun _ ids => ids.reverse
        users := (Registry.after cs).users.mapValues fun _ ids => ids.reverse }
      mail := ([10, 20, 30, 40, 50, 60, 70].foldl Mailroom.openQueue .empty).kill 60 }
    let rt : Router := ⟨1, 1, "ann", 10, none, some "r", false⟩
    let f : ClientFrame := ⟨"chat", none, some "hi", none, none, none, none⟩
    let chat : Frame := .event (.chat ⟨1, "r", some "hi", none, none, "ann", 5, false, none⟩)
    let hint : Frame := .event (.newMessage "r" 1 "ann" .text 5)
    [10, 20, 30, 40, 50, 60, 70].map (rt.chat f sv).settle.mail.waiting = [[chat], [], [chat], [], [hint], [], []] := by
  intro cs store sv rt f chat hint
  have hstore : store.Reached := by
    have hann : Store.Reached _ := .step .empty (.createUser "ann" "" 0 ⟨1, "ann", 0⟩ _ rfl)
    have hbob : Store.Reached _ := .step hann (.createUser "bob" "" 0 ⟨2, "bob", 0⟩ _ rfl)
    have hcyd : Store.Reached _ := .step hbob (.createUser "cyd" "" 0 ⟨3, "cyd", 0⟩ _ rfl)
    exact .step hcyd (.insertRoom ⟨"r", "group", 0⟩ [1, 2, 3] store rfl)
  have hqueues : ∀ x ∈ (Roster.after cs).entries, ∀ y ∈ (Roster.after cs).entries,
      x.2.handle = y.2.handle → x.1 = y.1 := by decide +kernel
  have hapart : Registry.ApartBy (Roster.after cs).get? := fun s s' entry entry' hs hs' hsame =>
    hqueues _ ((Table.get?_eq_some_iff _).1 hs) _ ((Table.get?_eq_some_iff _).1 hs') hsame
  have hr : (Registry.after cs).Rearranges sv.registry := Registry.rearranges_reverse (Registry.after cs)
  obtain ⟨-, hsettles⟩ := hints_reach_who_is_away hr hstore
  have hchat := hsettles hapart rfl rt f "r" ⟨1, "r", 1, "ann", some "hi", none, false, none, 5⟩ _ rfl rfl
  have hgot : ∀ h first last, sv.GetsAround (rt.chat f sv).settle h first last → sv.mail.waiting h = [] →
      (rt.chat f sv).settle.mail.waiting h = first ++ last := by
    rintro h first last ⟨earlier, -, hnone, hwaiting⟩ hempty
    rw [hwaiting, hempty, hnone rfl, List.append_nil, List.nil_append]
  -- In the order of the queues: two sessions of the author, two of who is there, two of who is away, and a stranger's.
  have h10 := hgot 10 _ _ (hchat.others 1 ⟨1, "ann", 10, some "r"⟩ (by decide +kernel) (.inl rfl) (by decide +kernel))
    (by decide +kernel)
  have h20 := hgot 20 _ _ (hchat.others 2 ⟨1, "ann", 20, none⟩ (by decide +kernel) (.inl rfl) (by decide +kernel))
    (by decide +kernel)
  have h30 := hgot 30 _ _ (hchat.present 2 (by decide +kernel) (by decide) (by decide +kernel) 3
    ⟨2, "bob", 30, some "r"⟩ (by decide +kernel) rfl (by decide +kernel)) (by decide +kernel)
  have h40 := hgot 40 _ _ (hchat.present 2 (by decide +kernel) (by decide) (by decide +kernel) 4
    ⟨2, "bob", 40, none⟩ (by decide +kernel) rfl (by decide +kernel)) (by decide +kernel)
  have h50 := hgot 50 _ _ (hchat.away 3 (by decide +kernel) (by decide) (by decide +kernel) 5
    ⟨3, "cyd", 50, some "s"⟩ (by decide +kernel) rfl (by decide +kernel)) (by decide +kernel)
  have h60 := (hchat.unheard 60 (by decide +kernel)).trans (by decide +kernel : sv.mail.waiting 60 = [])
  have h70 := hgot 70 _ _ (hchat.others 7 ⟨4, "dan", 70, none⟩ (by decide +kernel) (.inr (by decide +kernel))
    (by decide +kernel)) (by decide +kernel)
  simp only [List.map_cons, List.map_nil, h10, h20, h30, h40, h50, h60, h70]
  rfl

end DirectChat
