import DirectChat.Proofs.Session.Roster
import DirectChat.Proofs.Table
import Mathlib.Data.List.Dedup
import Mathlib.Logic.Function.Basic
/-!
# The registry's tables agree

The sets of sessions by room and by user are both an index of a function on sessions: `Indexes sets f`
says that the set at `k` holds exactly the sessions that `f` sends to `k`, each once, and that no set
is empty. Adding to and removing from a set each update `f` at one session (`Indexes.addTo`,
`Indexes.removeFrom`).

`Registry.Shows r f` says that all three tables of `r` present the same function `f` from sessions to
entries. Every change of the registry updates `f` at one session (`Shows.register`,
`Shows.unregister`, `Shows.join`, `Shows.leave`), whatever the session was before.
-/

namespace DirectChat

/-! ## Sets of sessions -/

section
variable {κ : Type} [DecidableEq κ] {sets : Table κ (List SessionId)} {f : SessionId → Option κ}

theorem get?_addTo (sets : Table κ (List SessionId)) (k : κ) (s : SessionId) (k' : κ) :
    (addTo sets k s).get? k' = if k' = k then some (((sets.get? k).getD []).insert s) else sets.get? k' :=
  Table.get?_insert _ _ _ _

theorem get?_removeFrom (sets : Table κ (List SessionId)) (k : κ) (s : SessionId) (k' : κ) :
    (removeFrom sets k s).get? k' =
      if k' = k then ((sets.get? k).map (·.erase s)).filter (· ≠ []) else sets.get? k' := by
  unfold removeFrom
  cases hk : sets.get? k with
  | none => by_cases h : k' = k <;> simp [h, hk]
  | some ids =>
    by_cases he : ids.erase s = []
    · simp [he, Table.get?_erase, Option.filter]
    · simp [he, Table.get?_insert, Option.filter]

/-- The table holds at each key the set of the sessions that `f` sends there. -/
structure Indexes (sets : Table κ (List SessionId)) (f : SessionId → Option κ) : Prop where
  mem_iff : ∀ k s, s ∈ (sets.get? k).getD [] ↔ f s = some k
  proper : ∀ k ids, sets.get? k = some ids → ids ≠ [] ∧ ids.Nodup

namespace Indexes

theorem congr {g : SessionId → Option κ} (h : Indexes sets f) (hfg : ∀ s, f s = g s) : Indexes sets g :=
  funext hfg ▸ h

theorem nodup (h : Indexes sets f) (k : κ) : ((sets.get? k).getD []).Nodup := by
  cases hk : sets.get? k with
  | none => exact List.nodup_nil
  | some ids => exact (h.proper k ids hk).2

theorem isSome_iff (h : Indexes sets f) (k : κ) : (sets.get? k).isSome ↔ ∃ s, f s = some k := by
  constructor
  · intro hk
    obtain ⟨ids, hids⟩ := Option.isSome_iff_exists.1 hk
    obtain ⟨s, hs⟩ := List.exists_mem_of_ne_nil ids (h.proper k ids hids).1
    exact ⟨s, (h.mem_iff k s).1 (by simpa [hids] using hs)⟩
  · rintro ⟨s, hs⟩
    have hm := (h.mem_iff k s).2 hs
    cases hk : sets.get? k with
    | none => simp [hk] at hm
    | some ids => rfl

theorem empty : Indexes (.empty : Table κ (List SessionId)) fun _ => none := ⟨by simp, by simp⟩

theorem addTo (h : Indexes sets f) {k : κ} {s : SessionId} (hs : f s = none ∨ f s = some k) :
    Indexes (addTo sets k s) (Function.update f s (some k)) where
  mem_iff k' s' := by
    have hm := h.mem_iff
    rw [get?_addTo]
    by_cases hk : k' = k
    · subst hk
      by_cases hs' : s' = s
      · subst hs'; simp
      · simp [hs', hm]
    · by_cases hs' : s' = s
      · subst hs'
        rcases hs with hs | hs <;> simp [hk, hm, hs, Ne.symm hk]
      · simp [hk, hs', hm]
  proper k' ids hids := by
    rw [get?_addTo] at hids
    split at hids
    · cases hids
      exact ⟨List.ne_nil_of_mem (List.mem_insert_self ..), (h.nodup k).insert⟩
    · exact h.proper k' ids hids

theorem removeFrom (h : Indexes sets f) (k : κ) (s : SessionId) :
    Indexes (removeFrom sets k s) (Function.update f s (if f s = some k then none else f s)) where
  mem_iff k' s' := by
    have hm := h.mem_iff
    rw [get?_removeFrom]
    by_cases hk : k' = k
    · subst hk
      have herase : s' ∈ (((sets.get? k').map (·.erase s)).filter (· ≠ [])).getD [] ↔
          s' ≠ s ∧ s' ∈ (sets.get? k').getD [] := by
        cases hget : sets.get? k' with
        | none => simp
        | some ids =>
          have hin : s' ∈ ids.erase s ↔ s' ≠ s ∧ s' ∈ ids := (h.proper k' ids hget).2.mem_erase_iff
          rw [Option.getD_some, ← hin]
          by_cases he : ids.erase s = [] <;> simp [he, Option.filter]
      rw [if_pos rfl, herase, hm]
      by_cases hs' : s' = s
      · subst hs'
        by_cases hf : f s' = some k' <;> simp [hf]
      · simp [hs']
    · rw [if_neg hk, hm]
      by_cases hs' : s' = s
      · subst hs'
        by_cases hf : f s' = some k <;> simp [hf, Ne.symm hk]
      · simp [hs']
  proper k' ids hids := by
    rw [get?_removeFrom] at hids
    split at hids
    · obtain ⟨hids, hne⟩ := Option.filter_eq_some_iff.1 hids
      obtain ⟨old, hold, rfl⟩ := Option.map_eq_some_iff.1 hids
      exact ⟨by simpa using hne, (h.proper k old hold).2.erase s⟩
    · exact h.proper k' ids hids

end Indexes

end

/-! ## The three tables -/

namespace Registry

variable {r : Registry} {f : SessionId → Option SessionEntry}

/-- All three tables present the entries that `f` gives to the live sessions. -/
structure Shows (r : Registry) (f : SessionId → Option SessionEntry) : Prop where
  entry : ∀ s, r.sessions.get? s = f s
  rooms : Indexes r.rooms fun s => (f s).bind (·.room)
  users : Indexes r.users fun s => (f s).map (·.user)

theorem shows_empty : Registry.empty.Shows fun _ => none :=
  ⟨fun _ => rfl, Indexes.empty, Indexes.empty⟩

namespace Shows

theorem mem_members (h : r.Shows f) (room : RoomId) (s : SessionId) :
    s ∈ r.members room ↔ (f s).bind (·.room) = some room := h.rooms.mem_iff room s

theorem mem_sessionsOfUser (h : r.Shows f) (user : UserId) (s : SessionId) :
    s ∈ r.sessionsOfUser user ↔ (f s).map (·.user) = some user := h.users.mem_iff user s

theorem isOnline_iff (h : r.Shows f) (user : UserId) :
    r.isOnline user = true ↔ ∃ s, (f s).map (·.user) = some user := h.users.isSome_iff user

theorem remove_of_none (h : r.Shows f) {s : SessionId} (hs : f s = none) : r.remove s = (r, none) := by
  unfold Registry.remove
  rw [h.entry, hs]

/-- Taking a session out leaves everything else as it was. -/
theorem remove (h : r.Shows f) (s : SessionId) :
    (r.remove s).1.Shows (Function.update f s none) ∧ (r.remove s).2 = (f s).map (·.user) := by
  cases hf : f s with
  | none =>
    rw [h.remove_of_none hf, Function.update_eq_self_iff.2 hf.symm]
    exact ⟨h, rfl⟩
  | some e =>
    have hentry : r.sessions.get? s = some e := (h.entry s).trans hf
    have herase : ∀ s', (r.sessions.erase s).get? s' = Function.update f s none s' := fun s' => by
      rw [Table.get?_erase, h.entry, Function.update_apply]
    have husers : Indexes (removeFrom r.users e.user s) fun s' => (Function.update f s none s').map (·.user) :=
      (h.users.removeFrom e.user s).congr fun s' => by by_cases hs' : s' = s <;> simp [hs', hf]
    refine ⟨?_, by simp [Registry.remove, hentry]⟩
    cases hroom : e.room with
    | none =>
      have hrooms : Indexes r.rooms fun s' => (Function.update f s none s').bind (·.room) :=
        h.rooms.congr fun s' => by by_cases hs' : s' = s <;> simp [hs', hf, hroom]
      simp only [Registry.remove, hentry, hroom]
      exact ⟨herase, hrooms, husers⟩
    | some room =>
      have hrooms : Indexes (removeFrom r.rooms room s) fun s' => (Function.update f s none s').bind (·.room) :=
        (h.rooms.removeFrom room s).congr fun s' => by by_cases hs' : s' = s <;> simp [hs', hf, hroom]
      simp only [Registry.remove, hentry, hroom]
      exact ⟨herase, hrooms, husers⟩

theorem register (h : r.Shows f) (s : SessionId) (user : UserId) (username : String) (handle : Handle) :
    (r.register s user username handle).1.Shows (Function.update f s (some ⟨user, username, handle, none⟩)) := by
  have hr := (h.remove s).1
  refine ⟨fun s' => ?_, hr.rooms.congr fun s' => ?_, (hr.users.addTo (k := user) (s := s) ?_).congr fun s' => ?_⟩
  · show ((r.remove s).1.sessions.insert s _).get? s' = _
    rw [Table.get?_insert, hr.entry, Function.update_apply, Function.update_apply]
    by_cases hs' : s' = s <;> simp [hs']
  · by_cases hs' : s' = s <;> simp [hs']
  · simp
  · by_cases hs' : s' = s <;> simp [hs']

theorem unregister (h : r.Shows f) (s : SessionId) : (r.unregister s).1.Shows (Function.update f s none) := by
  have hr := (h.remove s).1
  unfold Registry.unregister
  split
  · rename_i heq
    rwa [heq] at hr
  · rename_i heq
    rwa [heq] at hr

theorem unregister_of_none (h : r.Shows f) {s : SessionId} (hs : f s = none) : r.unregister s = (r, false) := by
  rw [Registry.unregister, h.remove_of_none hs]

theorem join (h : r.Shows f) (room : RoomId) (s : SessionId) :
    (r.join room s).Shows (Function.update f s ((f s).map (·.joined room))) := by
  unfold Registry.join
  rw [h.entry]
  cases hf : f s with
  | none =>
    rw [Option.map_none, Function.update_eq_self_iff.2 hf.symm]
    exact h
  | some e =>
    have hinsert : ∀ s', (r.sessions.insert s (e.joined room)).get? s' =
        Function.update f s (some (e.joined room)) s' := fun s' => by
      rw [Table.get?_insert, h.entry, Function.update_apply]
    have husers : Indexes r.users fun s' => (Function.update f s (some (e.joined room)) s').map (·.user) :=
      h.users.congr fun s' => by by_cases hs' : s' = s <;> simp [hs', hf, SessionEntry.joined]
    have hroom : ∀ s', Function.update (fun t => (f t).bind (·.room)) s (some room) s' =
        (Function.update f s (some (e.joined room)) s').bind (·.room) := fun s' => by
      by_cases hs' : s' = s <;> simp [hs', SessionEntry.joined]
    cases hprev : e.room with
    | none =>
      have hadd := h.rooms.addTo (k := room) (s := s) (.inl (by simp [hf, hprev]))
      simp only [hprev]
      exact ⟨hinsert, hadd.congr hroom, husers⟩
    | some previous =>
      simp only [hprev]
      by_cases hp : previous = room
      · -- The session is in the room already: the set keeps it, once.
        have hadd := h.rooms.addTo (k := room) (s := s) (.inr (by simp [hf, hprev, hp]))
        rw [if_pos hp]
        exact ⟨hinsert, hadd.congr hroom, husers⟩
      · have hout := h.rooms.removeFrom previous s
        have hadd := hout.addTo (k := room) (s := s) (.inl (by simp [hf, hprev]))
        rw [if_neg hp]
        exact ⟨hinsert, hadd.congr fun s' => (congrFun (Function.update_idem ..) s').trans (hroom s'), husers⟩

theorem leave (h : r.Shows f) (room : RoomId) (s : SessionId) :
    (r.leave room s).Shows (Function.update f s ((f s).map (·.left room))) := by
  have hout := h.rooms.removeFrom room s
  simp only [Registry.leave, Registry.removeFromRoom, h.entry]
  cases hf : f s with
  | none =>
    rw [Option.map_none, Function.update_eq_self_iff.2 hf.symm]
    refine ⟨h.entry, hout.congr fun s' => ?_, h.users⟩
    by_cases hs' : s' = s <;> simp [hs', hf]
  | some e =>
    by_cases hroom : e.room = some room
    · simp only [hroom, if_true, Option.map_some, SessionEntry.left]
      refine ⟨fun s' => ?_, hout.congr fun s' => ?_, h.users.congr fun s' => ?_⟩
      · show (r.sessions.insert s _).get? s' = _
        rw [Table.get?_insert, h.entry, Function.update_apply]
      · by_cases hs' : s' = s <;> simp [hs', hf, hroom]
      · by_cases hs' : s' = s <;> simp [hs', hf]
    · simp only [hroom, if_false, Option.map_some, SessionEntry.left]
      rw [Function.update_eq_self_iff.2 hf.symm]
      refine ⟨h.entry, hout.congr fun s' => ?_, h.users⟩
      by_cases hs' : s' = s <;> simp [hs', hf, hroom]

end Shows

end Registry

end DirectChat
