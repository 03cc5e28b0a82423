import DirectChat.Proofs.Session.Delivery
import DirectChat.Proofs.Session.Refinement
import DirectChat.Chat.Notification
import Mathlib.Algebra.GroupWithZero.Nat
import Mathlib.Data.List.Perm.Basic
/-!
# Who is sent what

An event for a room, or for some users, is one frame for each session that it is meant for, in that session's queue.
The sessions are found in sets whose order means nothing (`Registry.Rearranges`), and a queue that nobody receives is
passed over. So what a queue gets depends on the sessions and on that queue alone (`Mailroom.Reaches`,
`fan_out_exact`).
-/

namespace DirectChat

/-! ## Sets in another order -/

/-- A set that is listed in another order is the same set; the sets of the same keys are there. -/
theorem Indexes.rearrange {κ : Type} [DecidableEq κ] {sets sets' : Table κ (List SessionId)} {f : SessionId → Option κ}
    (h : Indexes sets f) (hsets : ∀ k, Option.Rel List.Perm (sets'.get? k) (sets.get? k)) : Indexes sets' f where
  mem_iff k s := by
    have hk := hsets k
    rw [← h.mem_iff k s]
    generalize sets.get? k = ids, sets'.get? k = ids' at hk ⊢
    cases hk with
    | none => rfl
    | some hperm => exact hperm.mem_iff
  proper k ids' hids' := by
    have hk := hsets k
    rw [hids'] at hk
    cases hget : sets.get? k <;> rw [hget] at hk <;> cases hk
    rename_i ids hperm
    obtain ⟨hne, hnodup⟩ := h.proper k ids hget
    refine ⟨fun hnil => hne ?_, hperm.nodup_iff.2 hnodup⟩
    rw [hnil] at hperm
    exact hperm.symm.eq_nil

namespace Registry

/-- The second registry has the same sessions, by room and by user in the same sets, each of them listed in any
order. -/
structure Rearranges (r r' : Registry) : Prop where
  sessions : ∀ s, r'.sessions.get? s = r.sessions.get? s
  rooms : ∀ room, Option.Rel List.Perm (r'.rooms.get? room) (r.rooms.get? room)
  users : ∀ user, Option.Rel List.Perm (r'.users.get? user) (r.users.get? user)

theorem Shows.rearrange {r r' : Registry} {f : SessionId → Option SessionEntry} (h : r.Shows f)
    (hr : r.Rearranges r') : r'.Shows f where
  entry s := (hr.sessions s).trans (h.entry s)
  rooms := h.rooms.rearrange hr.rooms
  users := h.users.rearrange hr.users

theorem rearranges_reverse (r : Registry) :
    r.Rearranges { r with
      rooms := r.rooms.mapValues fun _ ids => ids.reverse
      users := r.users.mapValues fun _ ids => ids.reverse } where
  sessions _ := rfl
  rooms room := by
    rw [Table.get?_mapValues]
    cases r.rooms.get? room with
    | none => exact .none
    | some ids => exact .some ids.reverse_perm
  users user := by
    rw [Table.get?_mapValues]
    cases r.users.get? user with
    | none => exact .none
    | some ids => exact .some ids.reverse_perm

/-! ## The sessions behind the queues -/

variable {r : Registry} {t : Roster}

theorem Shows.roomHandles_perm (h : r.Shows t.get?) (room : RoomId) (exclude : Option SessionId) :
    (r.roomHandles room exclude).Perm ((t.inRoom room exclude).map fun x => x.2.handle) :=
  (h.inRoom room exclude).map _

theorem Shows.userHandles_perm (h : r.Shows t.get?) (users : List UserId) :
    (r.userHandles users).Perm ((users.flatMap t.ofUser).map fun x => x.2.handle) := by
  rw [List.map_flatMap]
  exact List.Perm.flatMap_left _ fun user _ => (h.ofUser user).map _

end Registry

namespace Roster

variable {t : Roster}

/-- The one session with its queue is met in a list of entries as often as it is in it. -/
theorem countP_handle (hapart : Registry.ApartBy t.get?) {s : SessionId} {e : SessionEntry} (he : t.get? s = some e)
    {xs : List (SessionId × SessionEntry)} (hxs : ∀ x ∈ xs, x ∈ t.entries) :
    (xs.countP fun x => x.2.handle = e.handle) = xs.count (s, e) := by
  refine List.countP_congr fun x hx => ?_
  have hentry := t.get?_of_mem (hxs x hx)
  constructor
  · intro hsame
    have hs : x.1 = s := hapart x.1 s x.2 e hentry he (by simpa using hsame)
    rw [hs, he] at hentry
    have hx : x = (s, e) := Prod.ext hs (Option.some.inj hentry).symm
    simp [hx]
  · intro hsame
    have hx : x = (s, e) := by simpa using hsame
    simp [hx]

theorem count_entries {s : SessionId} {e : SessionEntry} (he : t.get? s = some e) : t.entries.count (s, e) = 1 :=
  List.count_eq_one_of_mem t.nodup_entries (t.get?_eq_some_iff.1 he)

/-- A session is in one room at most, and there once. -/
theorem count_inRoom {s : SessionId} {e : SessionEntry} (he : t.get? s = some e) (room : RoomId)
    (exclude : Option SessionId) :
    (t.inRoom room exclude).count (s, e) = if e.room = some room ∧ some s ≠ exclude then 1 else 0 := by
  rw [inRoom]
  split
  · rename_i h
    rw [List.count_filter (by simpa using h), count_entries he]
  · rename_i h
    refine List.count_eq_zero.2 fun hin => h ?_
    simpa using (List.mem_filter.1 hin).2

theorem count_ofUser {s : SessionId} {e : SessionEntry} (he : t.get? s = some e) (user : UserId) :
    (t.ofUser user).count (s, e) = if user = e.user then 1 else 0 := by
  rw [ofUser]
  split
  · rename_i h
    rw [List.count_filter (by simpa using h.symm), count_entries he]
  · rename_i h
    refine List.count_eq_zero.2 fun hin => h ?_
    simpa [eq_comm] using (List.mem_filter.1 hin).2

/-- Among the sessions of several users, a session is as often as its user is listed. -/
theorem count_ofUsers {s : SessionId} {e : SessionEntry} (he : t.get? s = some e) (users : List UserId) :
    (users.flatMap t.ofUser).count (s, e) = users.count e.user := by
  induction users with
  | nil => rfl
  | cons user users ih =>
    rw [List.flatMap_cons, List.count_append, ih, count_ofUser he, List.count_cons, Nat.add_comm]
    simp

end Roster

/-! ## What becomes of the queues -/

namespace Mailroom

/-- How many frames wait in all queues. -/
def total (m : Mailroom) : Nat := (m.values.map fun q => q.frames.length).sum

theorem total_insert {m : Mailroom} {h : Handle} {q : Queue} (hq : m.get? h = some q) (f : Frame) :
    total (m.insert h { q with frames := q.frames ++ [f] }) = m.total + 1 := by
  have hbefore := ((m.entries_perm_insert hq).map fun e => e.2.frames.length).sum_nat
  simp only [total, Table.values, List.map_map, Function.comp_def] at hbefore ⊢
  rw [hbefore, Table.insert]
  simp only [List.map_cons, List.sum_cons, List.length_append, List.length_singleton]
  omega

theorem total_send (m : Mailroom) (h : Handle) (f : Frame) :
    (m.send h f).1.total = m.total + if m.isLive h = true then 1 else 0 := by
  unfold send isLive
  cases hq : m.get? h with
  | none => simp
  | some q =>
    cases hlive : q.live
    · simp [hlive]
    · simpa [hlive] using total_insert hq f

/-- What was sent to a list of queues is told. -/
theorem sendAll_snd (m : Mailroom) (hs : List Handle) (f : Frame) : (m.sendAll hs f).2 = hs.countP m.isLive := by
  have key : ∀ (m' : Mailroom) (n : Nat), (∀ h, m'.isLive h = m.isLive h) →
      (hs.foldl (fun acc h => ((acc.1.send h f).1, if (acc.1.send h f).2 then acc.2 + 1 else acc.2)) (m', n)).2 =
        n + hs.countP m.isLive := by
    induction hs with
    | nil => exact fun _ _ _ => rfl
    | cons h hs ih =>
      intro m' n hm'
      have hnext : ∀ h', (m'.send h f).1.isLive h' = m.isLive h' := fun h' => (m'.isLive_send h f h').trans (hm' h')
      rw [List.foldl_cons, ih _ _ hnext, send_snd, hm', List.countP_cons]
      by_cases hlive : m.isLive h = true <;> simp [hlive]
      omega
  exact (key m 0 fun _ => rfl).trans (Nat.zero_add _)

theorem total_sendAll (m : Mailroom) (hs : List Handle) (f : Frame) :
    (m.sendAll hs f).1.total = m.total + (m.sendAll hs f).2 := by
  rw [sendAll_snd, sendAll_eq]
  induction hs generalizing m with
  | nil => rfl
  | cons h hs ih =>
    have hlive : (m.send h f).1.isLive = m.isLive := funext (m.isLive_send h f)
    rw [List.foldl_cons, ih, total_send, hlive, List.countP_cons]
    omega

/-- A frame was put into the queue of every one of the sessions behind which somebody receives, once for each time the
session is listed, and nothing else was done; how often it was put into any queue was told. -/
structure Reaches (sessions : List (SessionId × SessionEntry)) (f : Frame) (m : Mailroom) (result : Mailroom × Nat) :
    Prop where
  live : ∀ h, result.1.isLive h = m.isLive h
  waiting : ∀ h, result.1.waiting h = m.waiting h ++
    if m.isLive h = true then List.replicate (sessions.countP fun x => x.2.handle = h) f else []
  count : result.2 = sessions.countP fun x => m.isLive x.2.handle
  total : result.1.total = m.total + result.2

theorem reaches_sendAll (m : Mailroom) {hs : List Handle} {sessions : List (SessionId × SessionEntry)} (f : Frame)
    (h : hs.Perm (sessions.map fun x => x.2.handle)) : m.Reaches sessions f (m.sendAll hs f) where
  live := m.isLive_sendAll hs f
  waiting handle := by
    rw [waiting_sendAll, h.count_eq, List.count, List.countP_map]
    rfl
  count := by
    rw [sendAll_snd, h.countP_eq, List.countP_map]
    rfl
  total := m.total_sendAll hs f

variable {sessions : List (SessionId × SessionEntry)} {f : Frame} {m m' : Mailroom}

/-- What a queue gets does not depend on the other queues. -/
theorem Reaches.isolated {result result' : Mailroom × Nat} (h : m.Reaches sessions f result)
    (h' : m'.Reaches sessions f result') {handle : Handle} (hsame : m'.get? handle = m.get? handle) :
    result'.1.waiting handle = result.1.waiting handle := by
  have hwaiting : m'.waiting handle = m.waiting handle := by simp only [Mailroom.waiting, hsame]
  have hlive : m'.isLive handle = m.isLive handle := by simp only [Mailroom.isLive, hsame]
  rw [h.waiting, h'.waiting, hwaiting, hlive]

theorem Reaches.unchanged {result : Mailroom × Nat} (h : m.Reaches sessions f result) {handle : Handle}
    (hnobody : ∀ x ∈ sessions, x.2.handle ≠ handle) : result.1.waiting handle = m.waiting handle := by
  have hnone : (sessions.countP fun x => x.2.handle = handle) = 0 := by
    rw [List.countP_eq_zero]
    intro x hx
    simpa using hnobody x hx
  simp [h.waiting, hnone]

end Mailroom

namespace Registry

variable {r : Registry} {t : Roster} {cs : List SessionChange} {e : Event}

/-- A way of sending that is meant for certain live sessions: whatever the queues are, it reaches those, and its answer
is how often. -/
structure FansOut (t : Roster) (sessions : List (SessionId × SessionEntry)) (e : Event)
    (send : Mailroom → Mailroom × Nat) : Prop where
  meant : ∀ x ∈ sessions, x ∈ t.entries
  reaches : ∀ m : Mailroom, m.Reaches sessions (.event e) (send m)

theorem fansOut_broadcast (hr : (after cs).Rearranges r) (room : RoomId) (e : Event) (exclude : Option SessionId) :
    FansOut (Roster.after cs) ((Roster.after cs).inRoom room exclude) e (broadcast r room e exclude) where
  meant _ hx := (List.mem_filter.1 hx).1
  reaches m := m.reaches_sendAll _ (((shows_after cs).rearrange hr).roomHandles_perm room exclude)

theorem fansOut_sendToUsers (hr : (after cs).Rearranges r) (users : List UserId) (e : Event) :
    FansOut (Roster.after cs) (users.flatMap (Roster.after cs).ofUser) e (sendToUsers r users e) where
  meant x hx := by
    obtain ⟨user, -, hin⟩ := List.mem_flatMap.1 hx
    exact (List.mem_filter.1 hin).1
  reaches m := m.reaches_sendAll _ (((shows_after cs).rearrange hr).userHandles_perm users)

namespace FansOut

variable {sessions : List (SessionId × SessionEntry)} {send : Mailroom → Mailroom × Nat}

/-- A queue of its own gets the event as often as its session is meant. -/
theorem waiting_own (h : FansOut t sessions e send) (hapart : ApartBy t.get?) {s : SessionId} {entry : SessionEntry}
    (hentry : t.get? s = some entry) (m : Mailroom) :
    (send m).1.waiting entry.handle = m.waiting entry.handle ++
      if m.isLive entry.handle = true then List.replicate (sessions.count (s, entry)) (.event e) else [] := by
  rw [(h.reaches m).waiting, Roster.countP_handle hapart hentry h.meant]

/-- A queue of no live session gets nothing. -/
theorem waiting_other (h : FansOut t sessions e send) {handle : Handle}
    (hnobody : ∀ s entry, t.get? s = some entry → entry.handle ≠ handle) (m : Mailroom) :
    (send m).1.waiting handle = m.waiting handle :=
  (h.reaches m).unchanged fun x hx => hnobody x.1 x.2 (t.get?_of_mem (h.meant x hx))

/-- What a queue gets does not depend on the others. -/
theorem isolated (h : FansOut t sessions e send) {m m' : Mailroom} {handle : Handle}
    (hsame : m'.get? handle = m.get? handle) : (send m').1.waiting handle = (send m).1.waiting handle :=
  (h.reaches m).isolated (h.reaches m') hsame

end FansOut

/-- A session with a queue of its own gets an event for a room if it is joined to it, unless it is left out. -/
theorem waiting_broadcast (hr : (after cs).Rearranges r) (hapart : ApartBy (Roster.after cs).get?) {s : SessionId}
    {entry : SessionEntry} (hentry : (Roster.after cs).get? s = some entry) (room : RoomId) (e : Event)
    (exclude : Option SessionId) (m : Mailroom) :
    (broadcast r room e exclude m).1.waiting entry.handle = m.waiting entry.handle ++
      if m.isLive entry.handle = true ∧ entry.room = some room ∧ some s ≠ exclude then [.event e] else [] := by
  rw [(fansOut_broadcast hr room e exclude).waiting_own hapart hentry, Roster.count_inRoom hentry]
  by_cases hlive : m.isLive entry.handle = true <;> by_cases hin : entry.room = some room ∧ some s ≠ exclude <;>
    simp [hlive, hin]

/-- **An event goes once to each session that it is meant for, and to nobody else.** Take the registry after any changes,
with its sets listed in any order, and any queues, of which any may have lost their receivers. An event for a room is
meant for the sessions joined to it but the one that is left out, an event for a list of users for their sessions, for
those of a user as often as the user is listed. It is put into the queues of these sessions behind which somebody
receives, once for each time a session is meant; the answer tells how many frames that were, and they are all that the
queues have more. So a session with a queue of its own gets it once, or as often as its user is listed, a queue of
nobody never, and what one queue gets is the same whatever the others are. The registry is only read. -/
theorem fan_out_exact (hr : (after cs).Rearranges r) (e : Event) (m : Mailroom) :
    (∀ room exclude, FansOut (Roster.after cs) ((Roster.after cs).inRoom room exclude) e (broadcast r room e exclude)) ∧
    (∀ users, FansOut (Roster.after cs) (users.flatMap (Roster.after cs).ofUser) e (sendToUsers r users e)) ∧
    (ApartBy (Roster.after cs).get? → ∀ s entry, (Roster.after cs).get? s = some entry →
      (∀ room exclude, (broadcast r room e exclude m).1.waiting entry.handle = m.waiting entry.handle ++
        if m.isLive entry.handle = true ∧ entry.room = some room ∧ some s ≠ exclude then [.event e] else []) ∧
      ∀ users, (sendToUsers r users e m).1.waiting entry.handle = m.waiting entry.handle ++
        if m.isLive entry.handle = true then List.replicate (users.count entry.user) (.event e) else []) ∧
    (∀ handle, (∀ s entry, (Roster.after cs).get? s = some entry → entry.handle ≠ handle) →
      (∀ room exclude, (broadcast r room e exclude m).1.waiting handle = m.waiting handle) ∧
      ∀ users, (sendToUsers r users e m).1.waiting handle = m.waiting handle) ∧
    (∀ (m' : Mailroom) handle, m'.get? handle = m.get? handle →
      (∀ room exclude, (broadcast r room e exclude m').1.waiting handle = (broadcast r room e exclude m).1.waiting handle) ∧
      ∀ users, (sendToUsers r users e m').1.waiting handle = (sendToUsers r users e m).1.waiting handle) ∧
    ∀ sv : Server, sv.registry = r → (∀ room exclude, (sv.announce room e exclude).registry = r) ∧
      ∀ (n : Notification) users, (n.deliver users sv).1.registry = r := by
  have hroom := fun room exclude => fansOut_broadcast hr room e exclude
  have husers := fun users => fansOut_sendToUsers hr users e
  refine ⟨hroom, husers, fun hapart s entry hentry => ⟨fun room exclude => ?_, fun users => ?_⟩,
    fun handle hnobody => ⟨fun room exclude => ?_, fun users => ?_⟩,
    fun m' handle hsame => ⟨fun room exclude => ?_, fun users => ?_⟩, fun sv hsv => ?_⟩
  · exact waiting_broadcast hr hapart hentry room e exclude m
  · rw [(husers users).waiting_own hapart hentry, Roster.count_ofUsers hentry]
  · exact (hroom room exclude).waiting_other hnobody m
  · exact (husers users).waiting_other hnobody m
  · exact (hroom room exclude).isolated hsame
  · exact (husers users).isolated hsame
  · exact ⟨fun room exclude => hsv, fun n users => hsv⟩

/-- Two sessions of a user share a room with a third session, and one of the two is no longer received. With all sets
listed backwards an event for the room, from the third, still goes to the other one alone; and an event for a list that
has the user twice, with somebody unknown in between, goes to it twice. -/
theorem fan_out_exact_backwards :
    let cs : List SessionChange := [.register 1 7 "ann" 10, .register 2 8 "bob" 20, .register 3 8 "bob" 30,
      .join "r" 1, .join "r" 2, .join "r" 3]
    let r : Registry := { after cs with
      rooms := (after cs).rooms.mapValues fun _ ids => ids.reverse
      users := (after cs).users.mapValues fun _ ids => ids.reverse }
    let m : Mailroom := (((Mailroom.openQueue .empty 10).openQueue 20).openQueue 30).kill 30
    let e : Event := .error "x"
    (after cs).members "r" = [3, 2, 1] ∧ r.members "r" = [1, 2, 3] ∧
      (broadcast r "r" e (some 1) m).1.waiting 20 = [.event e] ∧ (broadcast r "r" e (some 1) m).1.waiting 30 = [] ∧
      (sendToUsers r [8, 9, 8] e m).1.waiting 20 = [.event e, .event e] ∧ (sendToUsers r [8, 9, 8] e m).2 = 2 := by
  intro cs r m e
  have hqueues : ∀ x ∈ (Roster.after cs).entries, ∀ y ∈ (Roster.after cs).entries,
      x.2.handle = y.2.handle → x.1 = y.1 := by decide +kernel
  have hapart : ApartBy (Roster.after cs).get? := fun s s' entry entry' hs hs' hsame =>
    hqueues _ ((Table.get?_eq_some_iff _).1 hs) _ ((Table.get?_eq_some_iff _).1 hs') hsame
  have h20 : (Roster.after cs).get? 2 = some ⟨8, "bob", 20, some "r"⟩ := by decide +kernel
  have h30 : (Roster.after cs).get? 3 = some ⟨8, "bob", 30, some "r"⟩ := by decide +kernel
  obtain ⟨-, husers, hown, -⟩ := fan_out_exact (rearranges_reverse (after cs)) e m
  obtain ⟨hroom20, husers20⟩ := hown hapart 2 _ h20
  obtain ⟨hroom30, -⟩ := hown hapart 3 _ h30
  refine ⟨by decide +kernel, by decide +kernel, ?_, ?_, ?_, ?_⟩
  · exact (hroom20 "r" (some 1)).trans (by decide +kernel)
  · exact (hroom30 "r" (some 1)).trans (by decide +kernel)
  · exact (husers20 [8, 9, 8]).trans (by decide +kernel)
  · exact ((husers [8, 9, 8]).reaches m).count.trans (by decide +kernel)

end Registry

end DirectChat
