import DirectChat.Proofs.Store.DirectRooms
import DirectChat.Proofs.Store.Photos
import DirectChat.Proofs.Store.Seen
/-!
# The stores that the program builds

The program changes its tables in six ways: a user, a direct room, a message, a receipt, a photo that comes and one
that goes. No table and no user is ever taken away. An operation that fails changes nothing, also one that is given a
room identifier that is already there.

One operation keeps rooms for two (`Paired`) and messages told apart by their numbers (`Numbered`), whatever moments the
clock shows and whatever rooms messages are saved for (`WellKept.operate`), and so both hold of every store that
operations build from empty tables (`wellKept_built`).
-/

namespace DirectChat

namespace Store

variable {s s' : Store} {a b : UserId} {fresh : RoomId} {now : Int}

/-! ## Operations -/

/-- An operation by which the program changes its tables. -/
inductive Operation
  | call (c : Call)
  | saveMessage (m : NewMessage) (now : Int)
  | markSeen (room : RoomId) (viewer : UserId) (upTo : Int)
  | addPhoto (user : UserId) (file url : String) (now : Int)
  | deletePhoto (user : UserId) (id : Int)

/-- The store that a result leaves: a failure leaves the store as it was. -/
def resulting {α : Type} (s : Store) : Except StoreError (α × Store) → Store
  | .ok (_, s') => s'
  | .error _ => s

/-- The store after an operation. -/
def operate (s : Store) : Operation → Store
  | .call c => s.call c
  | .saveMessage m now => s.resulting (s.saveMessage m now)
  | .markSeen room viewer upTo => s.resulting (s.markSeen room viewer upTo)
  | .addPhoto user file url now => s.resulting (s.addPhoto user file url now)
  | .deletePhoto user id => s.resulting (s.deletePhoto user id)

/-- The store that operations build from empty tables. -/
def built (operations : List Operation) : Store := operations.foldl operate empty

theorem built_snoc (operations : List Operation) (o : Operation) :
    built (operations ++ [o]) = (built operations).operate o := List.foldl_append ..

/-- What holds of the store as it was, and of every store that a success holds, holds of the store that is left. -/
theorem of_resulting {α : Type} {P : Store → Prop} {result : Except StoreError (α × Store)} (hs : P s)
    (hok : ∀ x s', result = .ok (x, s') → P s') : P (s.resulting result) := by
  cases result with
  | error e => exact hs
  | ok r => exact hok r.1 r.2 rfl

/-! ## Rooms -/

/-- Users, rooms and places are the same, and so are the faults of the tables. -/
structure SameRooms (s s' : Store) : Prop where
  users : s'.users = s.users
  rooms : s'.rooms = s.rooms
  places : s'.participants = s.participants
  missing : s'.missing = s.missing
  poisoned : s'.poisoned = s.poisoned

theorem SameRooms.refl (s : Store) : s.SameRooms s := ⟨rfl, rfl, rfl, rfl, rfl⟩

/-- Only a call changes users, rooms or places. -/
theorem sameRooms_operate (s : Store) {o : Operation} (ho : ∀ c, o ≠ .call c) : s.SameRooms (s.operate o) := by
  cases o with
  | call c => exact absurd rfl (ho c)
  | saveMessage m now =>
    refine of_resulting (.refl s) fun saved s' hok => ?_
    rw [(saveMessage_eq_ok hok).2]
    exact ⟨rfl, rfl, rfl, rfl, rfl⟩
  | markSeen room viewer upTo =>
    refine of_resulting (.refl s) fun count s' hok => ?_
    cases eq_ok_of_require hok
    exact ⟨rfl, rfl, rfl, rfl, rfl⟩
  | addPhoto user file url now =>
    refine of_resulting (.refl s) fun photo s' hok => ?_
    rw [(addPhoto_eq_ok hok).2]
    exact ⟨rfl, rfl, rfl, rfl, rfl⟩
  | deletePhoto user id =>
    refine of_resulting (.refl s) fun photo s' hok => ?_
    rw [(deletePhoto_eq_ok hok).2.2.2]
    exact ⟨rfl, rfl, rfl, rfl, rfl⟩

theorem Paired.of_sameRooms (h : s.Paired) (hsame : s.SameRooms s') : s'.Paired := by
  obtain ⟨husers, hrooms, hplaces, hmissing, hpoisoned⟩ := hsame
  have hplace : ∀ q u, s'.hasPlace q u = s.hasPlace q u := fun q u => by rw [hasPlace, hplaces, ← hasPlace]
  have huser : ∀ u, s'.IsUser u ↔ s.IsUser u := fun u => by rw [IsUser, findUser, husers, ← findUser, ← IsUser]
  refine ⟨⟨hpoisoned ▸ h.ready.unlocked, hmissing ▸ h.ready.complete⟩, ?_, ?_, ?_, ?_, fun q q' a b hne hq hq' => ?_⟩
  · rw [hrooms]
    exact h.direct
  · rw [hrooms]
    exact h.ids
  · simp only [hrooms, hplaces, huser]
    exact h.pair
  · rw [hrooms, hplaces]
    exact h.housed
  · simp only [Share, hplace] at hq hq'
    exact h.apart q q' a b hne hq hq'

/-- No room goes in under an identifier that is taken. -/
theorem call_of_taken (htaken : ∃ r ∈ s.rooms, r.id = fresh) : s.call (.directRoom a b fresh now) = s := by
  rw [call, openRoom_eq]
  cases hresult : s.directRoom a b fresh now with
  | error e => rfl
  | ok r =>
    rcases directRoom_eq_ok hresult with hsame | hinsert
    · exact hsame
    · obtain ⟨r, hr, hid⟩ := htaken
      have hthere : s.rooms.any (·.id == fresh) = true := List.any_eq_true.2 ⟨r, hr, by simp [hid]⟩
      exact absurd (.inl hthere) (insertRoom_eq_ok hinsert).1

theorem Paired.call (h : s.Paired) (c : Call) : (s.call c).Paired := by
  -- What is known of a call speaks of a new identifier. One that is taken is refused, or not needed.
  by_cases hfresh : ∀ fresh, c.fresh? = some fresh → ∀ r ∈ s.rooms, r.id ≠ fresh
  · exact (paired_call h hfresh).1
  · simp only [not_forall, not_not] at hfresh
    obtain ⟨fresh, hc, r, hr, hid⟩ := hfresh
    cases c with
    | createUser name passwordHash now => cases hc
    | directRoom a b fresh' now =>
      obtain rfl : fresh' = fresh := Option.some.inj hc
      rw [call_of_taken ⟨r, hr, hid⟩]
      exact h

/-! ## Messages -/

/-- A call leaves the messages alone. -/
theorem logBecomes_call (s : Store) (c : Call) : s.LogBecomes none (s.call c) := by
  have hsame : s.LogBecomes none s := .same rfl (Nat.le_refl _)
  cases c with
  | createUser name passwordHash now =>
    rw [Store.call]
    split
    · rename_i info s' hok
      obtain ⟨u, -, rfl⟩ := createUser_eq_ok hok
      exact .same rfl (Nat.le_refl _)
    · exact hsame
  | directRoom a b fresh now =>
    rw [Store.call, openRoom_eq]
    cases hresult : s.directRoom a b fresh now with
    | error e => exact hsame
    | ok r =>
      obtain ⟨given, s'⟩ := r
      rcases directRoom_eq_ok hresult with rfl | hinsert
      · exact hsame
      · obtain ⟨-, rfl⟩ := insertRoom_eq_ok hinsert
        exact .same rfl (Nat.le_refl _)

/-- An operation changes the messages in one of the ways there are, with a receipt or without one. -/
theorem logBecomes_operate (s : Store) (o : Operation) : ∃ c?, s.LogBecomes c? (s.operate o) := by
  have hresult : ∀ {α : Type} {result : Except StoreError (α × Store)},
      (∀ x s', result = .ok (x, s') → ∃ c?, s.LogBecomes c? s') → ∃ c?, s.LogBecomes c? (s.resulting result) :=
    of_resulting (P := fun s' => ∃ c?, s.LogBecomes c? s') ⟨none, .same rfl (Nat.le_refl _)⟩
  cases o with
  | call c => exact ⟨none, s.logBecomes_call c⟩
  | saveMessage m now => exact hresult fun saved s' hok => ⟨none, logBecomes_of_saveMessage hok⟩
  | markSeen room viewer upTo => exact hresult fun count s' hok => ⟨_, logBecomes_of_markSeen hok⟩
  | addPhoto user file url now =>
    refine hresult fun photo s' hok => ?_
    rw [(addPhoto_eq_ok hok).2]
    exact ⟨none, .same rfl (Nat.le_refl _)⟩
  | deletePhoto user id =>
    refine hresult fun photo s' hok => ?_
    rw [(deletePhoto_eq_ok hok).2.2.2]
    exact ⟨none, .same rfl (Nat.le_refl _)⟩

/-! ## Every store -/

/-- Rooms are for two, and messages are told apart by their numbers. -/
structure WellKept (s : Store) : Prop where
  paired : s.Paired
  numbered : s.Numbered

theorem WellKept.operate (h : s.WellKept) (o : Operation) : (s.operate o).WellKept := by
  obtain ⟨c?, hlog⟩ := s.logBecomes_operate o
  refine ⟨?_, hlog.numbered h.numbered⟩
  by_cases ho : ∃ c, o = .call c
  · obtain ⟨c, rfl⟩ := ho
    exact h.paired.call c
  · exact h.paired.of_sameRooms (s.sameRooms_operate fun c hc => ho ⟨c, hc⟩)

/-- **Whatever operations build has rooms for two and messages told apart by their numbers.** -/
theorem wellKept_built (operations : List Operation) : (built operations).WellKept := by
  induction operations using List.reverseRecOn with
  | nil => exact ⟨.empty, numbered_empty⟩
  | append_singleton operations o ih =>
    rw [built_snoc]
    exact ih.operate o

end Store

end DirectChat
