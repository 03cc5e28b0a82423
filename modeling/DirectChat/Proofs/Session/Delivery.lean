import DirectChat.Proofs.Session.Views
import DirectChat.Session.FanOut
/-!
# What queues are sent

Sending only ever adds frames at the end of queues, and no queue gains or loses its receiver by it
(`Mailroom.Grows`). What a list of handles is sent, a queue gets as often as its handle is listed
(`waiting_sendAll`); in a room that the registry shows, the queue of a member that shares it with no other
session is listed once (`Registry.Shows.count_roomHandles`).
-/

namespace DirectChat

namespace Mailroom

/-! ## One frame, one queue -/

theorem isLive_send (m : Mailroom) (h : Handle) (f : Frame) (h' : Handle) :
    (m.send h f).1.isLive h' = m.isLive h' := by
  unfold send
  split
  · rename_i q hq
    split
    · simp only [isLive, Table.get?_insert]
      split
      · rename_i hh
        rw [hh, hq]
        rfl
      · rfl
    · rfl
  · rfl

theorem waiting_send (m : Mailroom) (h : Handle) (f : Frame) (h' : Handle) :
    (m.send h f).1.waiting h' = m.waiting h' ++ if h' = h ∧ m.isLive h' = true then [f] else [] := by
  by_cases hh : h' = h
  · subst hh
    unfold send waiting isLive
    cases hq : m.get? h' with
    | none => simp [hq]
    | some q => cases hlive : q.live <;> simp [hq, hlive]
  · rw [if_neg (fun hc => hh hc.1), List.append_nil]
    unfold send waiting
    split
    · split
      · rw [Table.get?_insert, if_neg hh]
      · rfl
    · rfl

/-- Sending tells whether somebody receives. -/
theorem send_snd (m : Mailroom) (h : Handle) (f : Frame) : (m.send h f).2 = m.isLive h := by
  unfold send isLive
  split
  · rename_i q hq
    rw [hq]
    split
    · rename_i hlive
      exact hlive.symm
    · rename_i hlive
      exact (Bool.eq_false_iff.2 hlive).symm
  · rename_i hq
    rw [hq]
    rfl

theorem sendAll_eq (m : Mailroom) (hs : List Handle) (f : Frame) :
    (m.sendAll hs f).1 = hs.foldl (fun m h => (m.send h f).1) m := by
  unfold sendAll
  generalize 0 = n
  induction hs generalizing m n with
  | nil => rfl
  | cons h hs ih => exact ih (m.send h f).1 (if (m.send h f).2 then n + 1 else n)

theorem isLive_sendAll (m : Mailroom) (hs : List Handle) (f : Frame) (h : Handle) :
    (m.sendAll hs f).1.isLive h = m.isLive h := by
  rw [sendAll_eq]
  induction hs generalizing m with
  | nil => rfl
  | cons h' hs ih => rw [List.foldl_cons, ih, isLive_send]

theorem waiting_sendAll (m : Mailroom) (hs : List Handle) (f : Frame) (h : Handle) :
    (m.sendAll hs f).1.waiting h = m.waiting h ++ if m.isLive h = true then List.replicate (hs.count h) f else [] := by
  rw [sendAll_eq]
  induction hs generalizing m with
  | nil => simp
  | cons h' hs ih =>
    rw [List.foldl_cons, ih, isLive_send, waiting_send, List.append_assoc]
    congr 1
    by_cases hh : h = h' <;> cases hlive : m.isLive h
    · simp
    · simp [hh, List.replicate_succ]
    · simp
    · simp [hh, Ne.symm hh]

/-! ## Opening, emptying and losing a queue -/

theorem isLive_openQueue (m : Mailroom) (h h' : Handle) :
    (m.openQueue h).isLive h' = if h' = h then true else m.isLive h' := by
  rw [isLive, openQueue, Table.get?_insert]
  split <;> rfl

theorem waiting_openQueue (m : Mailroom) (h h' : Handle) :
    (m.openQueue h).waiting h' = if h' = h then [] else m.waiting h' := by
  rw [waiting, openQueue, Table.get?_insert]
  split <;> rfl

theorem isLive_kill (m : Mailroom) (h h' : Handle) :
    (m.kill h).isLive h' = if h' = h then false else m.isLive h' := by
  rw [isLive, kill, Table.get?_insert]
  split <;> rfl

theorem waiting_kill (m : Mailroom) (h h' : Handle) :
    (m.kill h).waiting h' = if h' = h then [] else m.waiting h' := by
  rw [waiting, kill, Table.get?_insert]
  split <;> rfl

theorem isLive_drain (m : Mailroom) (h h' : Handle) : (m.drain h).1.isLive h' = m.isLive h' := by
  rw [isLive, drain, Table.get?_modify, isLive]
  split
  · cases m.get? h' <;> rfl
  · rfl

theorem waiting_drain (m : Mailroom) (h h' : Handle) :
    (m.drain h).1.waiting h' = if h' = h then [] else m.waiting h' := by
  rw [waiting, drain, Table.get?_modify]
  split
  · cases m.get? h' <;> rfl
  · rfl

/-! ## Any number of frames -/

/-- Frames that may go where they go were added to queues, and nothing else happened. -/
structure Grows (p : Handle → Frame → Prop) (m m' : Mailroom) : Prop where
  live : ∀ h, m'.isLive h = m.isLive h
  added : ∀ h, ∃ fs, m'.waiting h = m.waiting h ++ fs ∧ ∀ f ∈ fs, p h f

variable {p q : Handle → Frame → Prop} {m m' m'' : Mailroom}

theorem Grows.refl (p : Handle → Frame → Prop) (m : Mailroom) : m.Grows p m :=
  ⟨fun _ => rfl, fun _ => ⟨[], (List.append_nil _).symm, fun _ h => (List.not_mem_nil h).elim⟩⟩

theorem Grows.trans (h : m.Grows p m') (h' : m'.Grows p m'') : m.Grows p m'' where
  live k := (h'.live k).trans (h.live k)
  added k := by
    obtain ⟨fs, hfs, hp⟩ := h.added k
    obtain ⟨fs', hfs', hp'⟩ := h'.added k
    refine ⟨fs ++ fs', by rw [hfs', hfs, List.append_assoc], fun f hf => ?_⟩
    rcases List.mem_append.1 hf with hf | hf
    · exact hp f hf
    · exact hp' f hf

theorem Grows.mono (h : m.Grows p m') (hpq : ∀ k f, p k f → q k f) : m.Grows q m' where
  live := h.live
  added k := by
    obtain ⟨fs, hfs, hp⟩ := h.added k
    exact ⟨fs, hfs, fun f hf => hpq k f (hp f hf)⟩

theorem Grows.and (h : m.Grows p m') (h' : m.Grows q m') : m.Grows (fun k f => p k f ∧ q k f) m' where
  live := h.live
  added k := by
    obtain ⟨fs, hfs, hp⟩ := h.added k
    obtain ⟨fs', hfs', hq⟩ := h'.added k
    obtain rfl : fs' = fs := List.append_cancel_left (hfs'.symm.trans hfs)
    exact ⟨fs', hfs, fun f hf => ⟨hp f hf, hq f hf⟩⟩

theorem grows_send (m : Mailroom) {h : Handle} {f : Frame} (hf : p h f) : m.Grows p (m.send h f).1 where
  live := m.isLive_send h f
  added k := by
    refine ⟨_, m.waiting_send h f k, fun g hg => ?_⟩
    split at hg
    · rename_i hk
      rwa [List.mem_singleton.1 hg, hk.1]
    · cases hg

theorem grows_sendAll (m : Mailroom) {hs : List Handle} {f : Frame} (hf : ∀ h ∈ hs, p h f) :
    m.Grows p (m.sendAll hs f).1 where
  live := m.isLive_sendAll hs f
  added k := by
    refine ⟨_, m.waiting_sendAll hs f k, fun g hg => ?_⟩
    split at hg
    · obtain ⟨hpos, rfl⟩ := List.mem_replicate.1 hg
      exact hf k (List.count_pos_iff.1 (Nat.pos_of_ne_zero hpos))
    · cases hg

/-! ## What was added -/

/-- The frames by which the queue behind a handle has grown. -/
def since (m m' : Mailroom) (h : Handle) : List Frame := (m'.waiting h).drop (m.waiting h).length

theorem since_of_append {h : Handle} {fs : List Frame} (hfs : m'.waiting h = m.waiting h ++ fs) :
    m.since m' h = fs := by
  rw [since, hfs, List.drop_left]

theorem Grows.since (h : m.Grows p m') (k : Handle) : ∀ f ∈ m.since m' k, p k f := by
  obtain ⟨fs, hfs, hp⟩ := h.added k
  rwa [since_of_append hfs]

theorem since_self (m : Mailroom) (h : Handle) : m.since m h = [] := List.drop_length

/-- A queue that nothing waits in is no other when it is opened. -/
theorem since_openQueue {h : Handle} (hempty : m.waiting h = []) (k : Handle) :
    (m.openQueue h).since m' k = m.since m' k := by
  have hsame : (m.openQueue h).waiting k = m.waiting k := by
    rw [waiting_openQueue]
    split
    · rename_i hk
      rw [hk, hempty]
    · rfl
  rw [since, since, hsame]

theorem since_kill (m m' : Mailroom) (h h' : Handle) :
    m.since (m'.kill h) h' = if h' = h then [] else m.since m' h' := by
  rw [since, waiting_kill]
  split
  · exact List.drop_nil
  · rfl

/-- Every queue waits as before or was emptied. -/
def Fades (m m' : Mailroom) : Prop := ∀ h, m'.waiting h = m.waiting h ∨ m'.waiting h = []

theorem Fades.since (h : m.Fades m') (k : Handle) : m.since m' k = [] := by
  rcases h k with heq | hnil
  · rw [Mailroom.since, heq, List.drop_length]
  · rw [Mailroom.since, hnil, List.drop_nil]

theorem fades_refl (m : Mailroom) : m.Fades m := fun _ => .inl rfl

theorem fades_openQueue (m : Mailroom) (h : Handle) : m.Fades (m.openQueue h) := by
  intro k
  rw [waiting_openQueue]
  split
  · exact .inr rfl
  · exact .inl rfl

theorem fades_kill (m : Mailroom) (h : Handle) : m.Fades (m.kill h) := by
  intro k
  rw [waiting_kill]
  split
  · exact .inr rfl
  · exact .inl rfl

theorem fades_drain (m : Mailroom) (h : Handle) : m.Fades (m.drain h).1 := by
  intro k
  rw [waiting_drain]
  split
  · exact .inr rfl
  · exact .inl rfl

end Mailroom

/-! ## Who is sent what goes to a room -/

namespace Registry

variable {r : Registry} {f : SessionId → Option SessionEntry}

/-- No two sessions share a queue. -/
def ApartBy (f : SessionId → Option SessionEntry) : Prop :=
  ∀ s s' e e', f s = some e → f s' = some e' → e.handle = e'.handle → s = s'

namespace Shows

theorem mem_entriesOf (h : r.Shows f) {ids : List SessionId} {s : SessionId} {e : SessionEntry} :
    (s, e) ∈ r.entriesOf ids ↔ s ∈ ids ∧ f s = some e := by
  simp only [entriesOf, h.entry, List.mem_filterMap, Option.map_eq_some_iff, Prod.mk.injEq]
  constructor
  · rintro ⟨s', hs', e', he', rfl, rfl⟩
    exact ⟨hs', he'⟩
  · rintro ⟨hs, he⟩
    exact ⟨s, hs, e, he, rfl, rfl⟩

theorem nodup_entriesOf (h : r.Shows f) {ids : List SessionId} (hids : ids.Nodup) : (r.entriesOf ids).Nodup := by
  refine hids.filterMap fun s s' e he he' => ?_
  simp only [h.entry, Option.mem_def, Option.map_eq_some_iff] at he he'
  obtain ⟨a, -, rfl⟩ := he
  obtain ⟨a', -, heq⟩ := he'
  exact (Prod.mk.inj heq).1.symm

/-- The queue of a session is listed once for the room that it is in, unless the session is left out, and for no
other room. -/
theorem count_roomHandles_eq (h : r.Shows f) (hapart : ApartBy f) {s : SessionId} {e : SessionEntry} (he : f s = some e)
    (room : RoomId) (exclude : Option SessionId) :
    (r.roomHandles room exclude).count e.handle = if e.room = some room ∧ some s ≠ exclude then 1 else 0 := by
  have hmem : (s, e) ∈ r.inRoom room exclude ↔ e.room = some room ∧ some s ≠ exclude := by
    rw [Registry.inRoom, h.mem_entriesOf, List.mem_filter, h.mem_members, he, Option.bind_some, decide_eq_true_iff]
    exact and_iff_left rfl
  have hnodup : (r.inRoom room exclude).Nodup := h.nodup_entriesOf ((h.rooms.nodup room).filter _)
  have hcount : (r.inRoom room exclude).count (s, e) = if e.room = some room ∧ some s ≠ exclude then 1 else 0 := by
    simp only [hnodup.count, hmem]
  rw [roomHandles, List.count, List.countP_map, ← hcount]
  refine List.countP_congr fun x hx => ?_
  obtain ⟨s', e'⟩ := x
  obtain ⟨-, he'⟩ := h.mem_entriesOf.1 hx
  constructor
  · intro heq
    obtain rfl : s' = s := hapart s' s e' e he' he (by simpa using heq)
    obtain rfl : e' = e := Option.some.inj (he'.symm.trans he)
    simp
  · intro heq
    obtain ⟨rfl, rfl⟩ := Prod.mk.inj (show (s', e') = (s, e) by simpa using heq)
    simp

/-- When each session has the queue of its own number, that of a session is listed for the room that it is in. -/
theorem count_roomHandles_own (h : r.Shows f) (hown : ∀ s e, f s = some e → e.handle = s) (room : RoomId)
    (exclude : Option SessionId) (s : SessionId) :
    (r.roomHandles room exclude).count s = if r.roomOf s = some room ∧ some s ≠ exclude then 1 else 0 := by
  have hapart : ApartBy f := fun s s' e e' he he' heq => by rw [← hown s e he, ← hown s' e' he', heq]
  rw [Registry.roomOf, h.entry]
  cases hs : f s with
  | some e =>
    have hcount := h.count_roomHandles_eq hapart hs room exclude
    rwa [hown s e hs] at hcount
  | none =>
    refine (List.count_eq_zero.2 fun hin => ?_).trans (if_neg nofun).symm
    obtain ⟨⟨s', e⟩, he, rfl⟩ := List.mem_map.1 hin
    have hentry := (h.mem_entriesOf.1 he).2
    rw [hown s' e hentry, hentry] at hs
    cases hs

/-- The queue of a member of a room is listed once among those of the room. -/
theorem count_roomHandles (h : r.Shows f) (hapart : ApartBy f) {s : SessionId} {e : SessionEntry} {room : RoomId}
    (he : f s = some e) (hroom : e.room = some room) : (r.roomHandles room none).count e.handle = 1 :=
  (h.count_roomHandles_eq hapart he room none).trans (if_pos ⟨hroom, nofun⟩)

end Shows

end Registry

end DirectChat
