import DirectChat.Proofs.Session.Views
/-!
# The registry answers like one table

After any sequence of changes the registry shows the roster (`shows_after`), so that each of its
questions has the answer that looking through the roster gives (`AnswersLike`). Which of several
sessions comes first is left open: lists of sessions are compared up to order.
-/

namespace DirectChat

namespace Registry

variable {r : Registry} {t : Roster}

/-! ## One change, any number of changes -/

theorem shows_change (h : r.Shows t.get?) (c : SessionChange) : (r.change c).Shows (t.change c).get? := by
  cases c with
  | register s user username handle =>
    have hget : (t.change (.register s user username handle)).get? =
        Function.update t.get? s (some ⟨user, username, handle, none⟩) := funext fun s' => by
      rw [Roster.change, Table.get?_insert, Function.update_apply]
    rw [hget]
    exact h.register s user username handle
  | unregister s =>
    have hget : (t.change (.unregister s)).get? = Function.update t.get? s none := funext fun s' => by
      rw [Roster.change, Table.get?_erase, Function.update_apply]
    rw [hget]
    exact h.unregister s
  | join room s =>
    have hget : (t.change (.join room s)).get? = Function.update t.get? s ((t.get? s).map (·.joined room)) :=
      funext fun s' => by
        rw [Roster.change, Table.get?_modify, Function.update_apply]
        by_cases hs' : s' = s <;> simp [hs']
    rw [hget]
    exact h.join room s
  | leave room s =>
    have hget : (t.change (.leave room s)).get? = Function.update t.get? s ((t.get? s).map (·.left room)) :=
      funext fun s' => by
        rw [Roster.change, Table.get?_modify, Function.update_apply]
        by_cases hs' : s' = s <;> simp [hs']
    rw [hget]
    exact h.leave room s

theorem shows_after (cs : List SessionChange) : (after cs).Shows (Roster.after cs).get? := by
  have key : ∀ (r : Registry) (t : Roster), r.Shows t.get? →
      (cs.foldl change r).Shows (cs.foldl Roster.change t).get? := by
    induction cs with
    | nil => exact fun _ _ h => h
    | cons c cs ih => exact fun _ _ h => ih _ _ (shows_change h c)
  exact key .empty .empty shows_empty

/-! ## Sets of sessions and the entries they stand for -/

namespace Shows

theorem entriesOf_perm (h : r.Shows t.get?) {ids : List SessionId} (hnd : ids.Nodup)
    {p : SessionId × SessionEntry → Bool} (hmem : ∀ s, s ∈ ids ↔ ∃ e, t.get? s = some e ∧ p (s, e) = true) :
    (r.entriesOf ids).Perm (t.entries.filter p) := by
  have hentry : ∀ e, e ∈ t.entries.filter p → (r.sessions.get? e.1).map (fun a => (e.1, a)) = some e := by
    intro e he
    rw [h.entry, t.get?_of_mem (List.mem_filter.1 he).1]
    rfl
  have hperm : (r.entriesOf ids).Perm (r.entriesOf ((t.entries.filter p).map Prod.fst)) :=
    (t.keys_filter_perm hnd hmem).filterMap _
  refine hperm.trans (List.Perm.of_eq ?_)
  rw [entriesOf, List.filterMap_map]
  exact (List.filterMap_congr hentry).trans (List.filterMap_some ..)

theorem mem_sessionsOfUser_iff (h : r.Shows t.get?) (user : UserId) (s : SessionId) :
    s ∈ r.sessionsOfUser user ↔ ∃ e, t.get? s = some e ∧ decide (e.user = user) = true := by
  simp [h.mem_sessionsOfUser]

theorem mem_members_iff (h : r.Shows t.get?) (room : RoomId) (s : SessionId) :
    s ∈ r.members room ↔ ∃ e, t.get? s = some e ∧ decide (e.room = some room) = true := by
  simp [h.mem_members, Option.bind_eq_some_iff]

theorem countSessions (h : r.Shows t.get?) (user : UserId) : r.countSessions user = t.countSessions user := by
  have hp := t.keys_filter_perm (h.users.nodup user) (p := fun e => e.2.user = user) (h.mem_sessionsOfUser_iff user)
  rw [Roster.countSessions, Table.values, List.countP_map, List.countP_eq_length_filter]
  exact hp.length_eq.trans (List.length_map _)

theorem roomSize (h : r.Shows t.get?) (room : RoomId) : r.roomSize room = t.roomSize room := by
  have hp := t.keys_filter_perm (h.rooms.nodup room) (p := fun e => e.2.room = some room) (h.mem_members_iff room)
  rw [Roster.roomSize, Table.values, List.countP_map, List.countP_eq_length_filter]
  exact hp.length_eq.trans (List.length_map _)

theorem ofUser (h : r.Shows t.get?) (user : UserId) : (r.ofUser user).Perm (t.ofUser user) :=
  h.entriesOf_perm (h.users.nodup user) (h.mem_sessionsOfUser_iff user)

theorem inRoom (h : r.Shows t.get?) (room : RoomId) (exclude : Option SessionId) :
    (r.inRoom room exclude).Perm (t.inRoom room exclude) := by
  refine h.entriesOf_perm ((h.rooms.nodup room).filter _) fun s => ?_
  show s ∈ (r.members room).filter _ ↔ _
  rw [List.mem_filter, h.mem_members_iff]
  simp only [decide_eq_true_eq, ← and_assoc, exists_and_right]

theorem handlesOf (h : r.Shows t.get?) (user : UserId) : (r.handlesOf user).Perm (t.handlesOf user) := by
  rw [Roster.handlesOf, Table.values, List.filter_map, List.map_map]
  exact (h.ofUser user).map fun e => e.2.handle

theorem isOnline (h : r.Shows t.get?) (user : UserId) : r.isOnline user = t.isOnline user := by
  rw [Bool.eq_iff_iff, h.isOnline_iff, Roster.isOnline, Table.values, List.any_map, List.any_eq_true]
  constructor
  · rintro ⟨s, hs⟩
    obtain ⟨e, he, hu⟩ := Option.map_eq_some_iff.1 hs
    exact ⟨(s, e), t.get?_eq_some_iff.1 he, by simpa using hu⟩
  · rintro ⟨e, he, hu⟩
    exact ⟨e.1, Option.map_eq_some_iff.2 ⟨e.2, t.get?_of_mem he, by simpa using hu⟩⟩

theorem hasRoom (h : r.Shows t.get?) (room : RoomId) : r.hasRoom room = t.hasRoom room := by
  rw [Bool.eq_iff_iff, Registry.hasRoom, Table.contains, h.rooms.isSome_iff, Roster.hasRoom, Table.values,
    List.any_map, List.any_eq_true]
  constructor
  · rintro ⟨s, hs⟩
    obtain ⟨e, he, hr⟩ := Option.bind_eq_some_iff.1 hs
    exact ⟨(s, e), t.get?_eq_some_iff.1 he, by simpa using hr⟩
  · rintro ⟨e, he, hr⟩
    exact ⟨e.1, Option.bind_eq_some_iff.2 ⟨e.2, t.get?_of_mem he, by simpa using hr⟩⟩

theorem isInRoom (h : r.Shows t.get?) (user : UserId) (room : RoomId) :
    r.isInRoom user room = t.isInRoom user room := by
  rw [Bool.eq_iff_iff, Registry.isInRoom, List.any_eq_true, Roster.isInRoom, Table.values, List.any_map,
    List.any_eq_true]
  simp only [List.contains_iff_mem, h.mem_sessionsOfUser_iff, h.mem_members_iff]
  constructor
  · rintro ⟨s, ⟨e, he, hu⟩, e', he', hr⟩
    obtain rfl : e = e' := Option.some.inj (he.symm.trans he')
    exact ⟨(s, e), t.get?_eq_some_iff.1 he, by simp_all⟩
  · rintro ⟨e, he, hp⟩
    obtain ⟨hu, hr⟩ : e.2.user = user ∧ e.2.room = some room := by simpa using hp
    exact ⟨e.1, ⟨e.2, t.get?_of_mem he, by simpa using hu⟩, e.2, t.get?_of_mem he, by simpa using hr⟩

theorem roomOf (h : r.Shows t.get?) (s : SessionId) : r.roomOf s = t.roomOf s := by
  rw [Registry.roomOf, h.entry, Roster.roomOf]

theorem sessionCount (h : r.Shows t.get?) : r.sessionCount = t.size := (Table.perm_of_get?_eq h.entry).length_eq

theorem roomCount (h : r.Shows t.get?) : r.roomCount = t.roomCount := by
  have hp := r.rooms.keys_perm (l := (t.values.filterMap (·.room)).dedup) (List.nodup_dedup _) fun room => by
    rw [List.mem_dedup, h.rooms.isSome_iff, List.mem_filterMap]
    constructor
    · rintro ⟨e, he, hr⟩
      obtain ⟨⟨s, e'⟩, he', rfl⟩ := List.mem_map.1 he
      exact ⟨s, Option.bind_eq_some_iff.2 ⟨e', t.get?_of_mem he', hr⟩⟩
    · rintro ⟨s, hs⟩
      obtain ⟨e, he, hr⟩ := Option.bind_eq_some_iff.1 hs
      exact ⟨e, List.mem_map.2 ⟨(s, e), t.get?_eq_some_iff.1 he, rfl⟩, hr⟩
  exact r.rooms.length_keys.symm.trans hp.length_eq

/-! ## What the changes tell -/

/-- A registration tells whether its session is, from then on, the only one of its user. -/
theorem register_snd {f : SessionId → Option SessionEntry} (h : r.Shows f) (s : SessionId) (user : UserId)
    (username : String) (handle : Handle) :
    (r.register s user username handle).2 = true ↔
      ∀ s', (Function.update f s (some ⟨user, username, handle, none⟩) s').map (·.user) = some user ↔ s' = s := by
  have hr := h.register s user username handle
  have hmem := fun s' => hr.mem_sessionsOfUser user s'
  have hnd := hr.users.nodup user
  show ((r.register s user username handle).1.countSessions user == 1) = true ↔ _
  rw [beq_iff_eq, Registry.countSessions, List.length_eq_one_iff]
  constructor
  · rintro ⟨s₀, hs₀⟩ s'
    have hself := (hmem s).2 (by simp)
    rw [hs₀, List.mem_singleton] at hself
    rw [← hmem, hs₀, List.mem_singleton, hself]
  · intro honly
    refine ⟨s, List.perm_singleton.1 ((List.perm_ext_iff_of_nodup hnd (List.nodup_singleton s)).2 fun s' => ?_)⟩
    rw [List.mem_singleton, ← honly, ← hmem]
    rfl

/-- The end of a session tells whether it was live and the only one of its user. -/
theorem unregister_snd {f : SessionId → Option SessionEntry} (h : r.Shows f) (s : SessionId) :
    (r.unregister s).2 = true ↔
      ∃ user, (f s).map (·.user) = some user ∧ ∀ s', (f s').map (·.user) = some user → s' = s := by
  obtain ⟨hr, howner⟩ := h.remove s
  unfold Registry.unregister
  split
  · rename_i r' user heq
    rw [heq] at hr howner
    have hoff : r'.isOnline user = false ↔ ∀ s', (f s').map (·.user) = some user → s' = s := by
      rw [← Bool.not_eq_true, hr.isOnline_iff, not_exists]
      refine forall_congr' fun s' => ?_
      by_cases hs' : s' = s <;> simp [hs']
    rw [← howner, Bool.not_eq_true', hoff]
    simp
  · rename_i heq
    rw [heq] at howner
    simp [← howner]

end Shows

/-! ## The whole contract -/

/-- The registry gives the answers that looking through the roster gives. -/
structure AnswersLike (r : Registry) (t : Roster) : Prop where
  isOnline : ∀ user, r.isOnline user = t.isOnline user
  isInRoom : ∀ user room, r.isInRoom user room = t.isInRoom user room
  countSessions : ∀ user, r.countSessions user = t.countSessions user
  handlesOf : ∀ user, (r.handlesOf user).Perm (t.handlesOf user)
  roomOf : ∀ s, r.roomOf s = t.roomOf s
  hasRoom : ∀ room, r.hasRoom room = t.hasRoom room
  roomCount : r.roomCount = t.roomCount
  roomSize : ∀ room, r.roomSize room = t.roomSize room
  sessionCount : r.sessionCount = t.size
  inRoom : ∀ room exclude, (r.inRoom room exclude).Perm (t.inRoom room exclude)
  ofUser : ∀ user, (r.ofUser user).Perm (t.ofUser user)
  /-- A registration is told to be the first when afterwards no other session has that user. -/
  register : ∀ s user username handle, (r.register s user username handle).2 = true ↔
    ∀ s', (t.change (.register s user username handle)).userOf s' = some user ↔ s' = s
  /-- The end of a session is told to be the last when it was live and nobody else had its user. -/
  unregister : ∀ s, (r.unregister s).2 = true ↔
    ∃ user, t.userOf s = some user ∧ ∀ s', t.userOf s' = some user → s' = s

theorem Shows.answersLike (h : r.Shows t.get?) : r.AnswersLike t where
  isOnline := h.isOnline
  isInRoom := h.isInRoom
  countSessions := h.countSessions
  handlesOf := h.handlesOf
  roomOf := h.roomOf
  hasRoom := h.hasRoom
  roomCount := h.roomCount
  roomSize := h.roomSize
  sessionCount := h.sessionCount
  inRoom := h.inRoom
  ofUser := h.ofUser
  register s user username handle := by
    rw [h.register_snd]
    refine forall_congr' fun s' => ?_
    rw [Roster.userOf, Roster.change, Table.get?_insert, Function.update_apply]
  unregister s := h.unregister_snd s

/-- **The three tables are one.** After any sequence of changes, each session is in the sets of exactly
the room and the user that the roster gives it, no set is empty, and every question has the answer of
the roster. -/
theorem after_refines_roster (cs : List SessionChange) :
    ((∀ s, (after cs).sessions.get? s = (Roster.after cs).get? s) ∧
      (∀ room s, s ∈ (after cs).members room ↔ (Roster.after cs).roomOf s = some room) ∧
      (∀ user s, s ∈ (after cs).sessionsOfUser user ↔ (Roster.after cs).userOf s = some user) ∧
      (∀ room, (after cs).rooms.get? room ≠ some []) ∧ (∀ user, (after cs).users.get? user ≠ some [])) ∧
    (after cs).AnswersLike (Roster.after cs) := by
  have h := shows_after cs
  refine ⟨⟨h.entry, h.mem_members, h.mem_sessionsOfUser, fun room he => ?_, fun user he => ?_⟩, h.answersLike⟩
  · exact (h.rooms.proper room [] he).1 rfl
  · exact (h.users.proper user [] he).1 rfl

end Registry

end DirectChat
