import DirectChat.Proofs.Run
import DirectChat.Proofs.Store.Places
import Mathlib.Data.List.Nodup
/-!
# One direct room for two users

Nothing in the tables forbids two rooms of the same two users; that there is one comes from looking before making.
The look is a join of the places with themselves: whoever asks for a room with themselves may be given a room with a
third user. And a room is made by two inserts, the second of which fails for a caller who is unknown, so both are
one transaction (`insertRoom_inTransaction`, `openRoom_eq`).

What a call does is said once (`opens`). From it follows, for every sequence of calls that begins with empty tables,
that each room has two participants and no other room has the same two (`Paired`), and that two users share exactly the
rooms that calls have given to them (`paired_after`); with that, `one_room_per_pair`.
-/

namespace DirectChat

namespace Store

variable {s s' : Store} {a b : UserId} {fresh : RoomId} {now : Int}

/-- A user who exists. -/
def IsUser (s : Store) (u : UserId) : Prop := (s.findUser u).isSome = true

instance (s : Store) (u : UserId) : Decidable (s.IsUser u) := inferInstanceAs (Decidable (_ = true))

/-! ## Statements and transactions -/

/-- A statement on the tables: it fails and changes nothing, or changes them. -/
abbrev Statement := Store → Except StoreError Store

/-- Carries out statements in order, up to the first that fails. What was done by then stays. -/
def perform : List Statement → Store → Store × Option StoreError
  | [], s => (s, none)
  | f :: fs, s =>
    match f s with
    | .ok s => perform fs s
    | .error e => (s, some e)

/-- Carries out statements in a transaction: if one fails, what was done before it is undone. -/
def inTransaction (fs : List Statement) (s : Store) : Store × Option StoreError :=
  match perform fs s with
  | (s', none) => (s', none)
  | (_, some e) => (s, some e)

theorem perform_ok {f : Statement} (h : f s = .ok s') (fs : List Statement) : perform (f :: fs) s = perform fs s' := by
  rw [perform, h]

theorem perform_error {f : Statement} {e : StoreError} (h : f s = .error e) (fs : List Statement) :
    perform (f :: fs) s = (s, some e) := by
  rw [perform, h]

/-- Inserts the row of a room. -/
def addRoom (room : Room) : Statement := fun s => do
  s.require [.rooms]
  if s.rooms.any (·.id == room.id) then .error .database else return { s with rooms := s.rooms ++ [room] }

/-- Inserts places in a room. The room and the users must exist, and nobody gets two places. -/
def addPlaces (room : RoomId) (users : List UserId) : Statement := fun s => do
  s.require [.participants, .rooms, .users]
  if ¬ s.rooms.any (·.id == room) ∨ ¬ users.Nodup
      ∨ users.any fun u => (s.findUser u).isNone || s.hasPlace room u then .error .database
  else return { s with participants := s.participants ++ users.map fun u => ⟨room, u⟩ }

/-- Once a table is there, asking for it again changes no answer, and what else is missing is a fault of the tables. -/
theorem require_of_rooms (h : s.require [.rooms] = .ok ()) :
    s.require [.participants, .rooms, .users] = s.require [.participants, .users] ∧
      ∀ e, s.require [.participants, .users] = .error e → e = .database := by
  unfold require at h ⊢
  by_cases hlocked : s.poisoned
  · simp [hlocked] at h
  · by_cases hrooms : s.missing.contains StoreTable.rooms
    · simp [hlocked] at h hrooms
      exact absurd hrooms h
    · by_cases hmissing : ([.participants, .users] : List StoreTable).any s.missing.contains <;>
        simp_all

/-- A room goes in with its places or not at all, as by two inserts in one transaction. -/
theorem insertRoom_inTransaction (s : Store) (room : Room) (users : List UserId) (husers : users ≠ []) :
    s.inTransaction [addRoom room, addPlaces room.id users] =
      match s.insertRoom room users with
      | .ok s' => (s', none)
      | .error e => (s, some e) := by
  have hplaces : addPlaces room.id users { s with rooms := s.rooms ++ [room] } = do
      s.require [.participants, .rooms, .users]
      if ¬ users.Nodup ∨ users.any fun u => (s.findUser u).isNone || s.hasPlace room.id u then .error .database
      else return { s with
        rooms := s.rooms ++ [room]
        participants := s.participants ++ users.map fun u => ⟨room.id, u⟩ } := by
    unfold addPlaces
    have hthere : (s.rooms ++ [room]).any (·.id == room.id) = true := by simp
    simp only [hthere, not_true_eq_false, false_or]
    rfl
  cases hrooms : s.require [.rooms] with
  | error e =>
    have hadd : addRoom room s = .error e := by simp only [addRoom, hrooms]; rfl
    simp only [inTransaction, perform_error hadd, insertRoom, hrooms]
    rfl
  | ok u =>
    obtain ⟨hsame, hfault⟩ := require_of_rooms hrooms
    simp only [insertRoom, hrooms, bind, Except.bind, pure, Except.pure, if_pos husers]
    by_cases hthere : s.rooms.any (·.id == room.id)
    · have hadd : addRoom room s = .error .database := by
        simp only [addRoom, hrooms, hthere, if_pos]
        rfl
      rw [inTransaction, perform_error hadd]
      cases hready : s.require [.participants, .users] with
      | error e => rw [hfault e hready]
      | ok u => simp [hthere]
    · have hadd : addRoom room s = .ok { s with rooms := s.rooms ++ [room] } := by
        simp only [addRoom, hrooms, if_neg hthere]
        rfl
      rw [inTransaction, perform_ok hadd]
      cases hready : s.require [.participants, .users] with
      | error e =>
        have hfails := hplaces
        simp only [hsame, hready] at hfails
        rw [perform_error hfails]
      | ok u =>
        simp only [hsame, hready, bind, Except.bind, pure, Except.pure] at hplaces
        by_cases hwrong : ¬ users.Nodup ∨ users.any fun u => (s.findUser u).isNone || s.hasPlace room.id u
        · rw [if_pos hwrong] at hplaces
          rw [perform_error hplaces, if_pos (.inr hwrong)]
        · rw [if_neg hwrong] at hplaces
          rw [perform_ok hplaces, if_neg (not_or.2 ⟨hthere, hwrong⟩), perform]

/-- Gives the direct room of two users, statement by statement. -/
def openRoom (s : Store) (a b : UserId) (fresh : RoomId) (now : Int) : Store × Except StoreError DirectRoom :=
  match s.require [.users] with
  | .error e => (s, .error e)
  | .ok () =>
    if (s.findUser b).isNone then (s, .error (.notFound .user))
    else match s.require [.rooms, .participants] with
      | .error e => (s, .error e)
      | .ok () =>
        match s.sharedDirect a b with
        | some room => (s, .ok ⟨room, false⟩)
        | none =>
          match s.inTransaction [addRoom ⟨fresh, "direct", now⟩, addPlaces fresh [a, b]] with
          | (s, none) => (s, .ok ⟨fresh, true⟩)
          | (s, some e) => (s, .error e)

/-- Statement by statement a direct room is given as it is given at once; a call that fails leaves what was there. -/
theorem openRoom_eq (s : Store) (a b : UserId) (fresh : RoomId) (now : Int) :
    s.openRoom a b fresh now =
      match s.directRoom a b fresh now with
      | .ok (room, s') => (s', .ok room)
      | .error e => (s, .error e) := by
  have hinsert := s.insertRoom_inTransaction ⟨fresh, "direct", now⟩ [a, b] (by simp)
  simp only [openRoom, directRoom, bind, Except.bind, pure, Except.pure]
  cases s.require [.users] with
  | error e => rfl
  | ok u =>
    by_cases hb : (s.findUser b).isNone
    · simp only [hb, if_pos]
    · simp only [if_neg hb]
      cases s.require [.rooms, .participants] with
      | error e => rfl
      | ok u =>
        cases s.sharedDirect a b with
        | some room => rfl
        | none =>
          simp only [hinsert]
          cases s.insertRoom ⟨fresh, "direct", now⟩ [a, b] <;> rfl

/-! ## What a call does -/

/-- A call about users and their rooms; a room that it makes gets the given identifier. -/
inductive Call
  | createUser (name passwordHash : String) (now : Int)
  | directRoom (a b : UserId) (fresh : RoomId) (now : Int)

/-- The identifier that a call would give to a room. -/
def Call.fresh? : Call → Option RoomId
  | .createUser .. => none
  | .directRoom _ _ fresh _ => some fresh

/-- The store after a call, whose statements are carried out one by one. -/
def call (s : Store) : Call → Store
  | .createUser name passwordHash now =>
    match s.createUser name passwordHash now with
    | .ok (_, s) => s
    | .error _ => s
  | .directRoom a b fresh now => (s.openRoom a b fresh now).1

/-- The error of a call that fails. -/
def error? (s : Store) : Call → Option StoreError
  | .createUser name passwordHash now =>
    match s.createUser name passwordHash now with
    | .ok _ => none
    | .error e => some e
  | .directRoom a b fresh now =>
    match (s.openRoom a b fresh now).2 with
    | .ok _ => none
    | .error e => some e

/-- A call that fails leaves the store as it was, also one that fails between its statements. -/
theorem call_of_error {c : Call} {e : StoreError} (h : s.error? c = some e) : s.call c = s := by
  cases c with
  | createUser name passwordHash now =>
    simp only [error?, call] at h ⊢
    cases hresult : s.createUser name passwordHash now with
    | error e => rfl
    | ok r => simp [hresult] at h
  | directRoom a b fresh now =>
    simp only [error?, call, openRoom_eq] at h ⊢
    cases hresult : s.directRoom a b fresh now with
    | error e => rfl
    | ok r => simp [hresult] at h

/-- The store after a sequence of calls. -/
def after (s : Store) (calls : List Call) : Store := calls.foldl call s

theorem after_snoc (s : Store) (calls : List Call) (c : Call) : s.after (calls ++ [c]) = (s.after calls).call c :=
  List.foldl_append ..

/-- The store with a direct room of two users more. -/
def withRoom (s : Store) (a b : UserId) (fresh : RoomId) (now : Int) : Store :=
  { s with
    rooms := s.rooms ++ [⟨fresh, "direct", now⟩]
    participants := s.participants ++ [⟨fresh, a⟩, ⟨fresh, b⟩] }

/-- The identifier is that of no room, and nobody has a place there. -/
structure Unused (s : Store) (fresh : RoomId) : Prop where
  rooms : ∀ r ∈ s.rooms, r.id ≠ fresh
  places : ∀ u, s.hasPlace fresh u = false

/-- The ways in which a call for the room of two users goes. -/
inductive Opens (s : Store) (a b : UserId) (fresh : RoomId) (now : Int) : Except StoreError (DirectRoom × Store) → Prop
  | unknown (hb : ¬ s.IsUser b) : Opens s a b fresh now (.error (.notFound .user))
  | found (room : RoomId) (hb : s.IsUser b) (hroom : s.sharedDirect a b = some room) :
    Opens s a b fresh now (.ok (⟨room, false⟩, s))
  | made (ha : s.IsUser a) (hb : s.IsUser b) (hne : a ≠ b) (hnone : s.sharedDirect a b = none) :
    Opens s a b fresh now (.ok (⟨fresh, true⟩, s.withRoom a b fresh now))
  | refused (hb : s.IsUser b) (hwhy : a = b ∨ ¬ s.IsUser a) (hnone : s.sharedDirect a b = none) :
    Opens s a b fresh now (.error .database)

theorem opens (h : s.Ready) (hfresh : s.Unused fresh) (a b : UserId) (now : Int) :
    s.Opens a b fresh now (s.directRoom a b fresh now) := by
  simp only [directRoom, h.require, bind, Except.bind, pure, Except.pure]
  by_cases hb : s.IsUser b
  · have hknown : (s.findUser b).isNone = false := by simpa [IsUser] using hb
    simp only [hknown, Bool.false_eq_true, if_false]
    cases hroom : s.sharedDirect a b with
    | some room => exact .found room hb hroom
    | none =>
      have hthere : (s.rooms.any (·.id == fresh)) = false := by simpa using hfresh.rooms
      simp only [insertRoom, h.require, hthere, bind, Except.bind, pure, Except.pure, ite_self, Bool.false_eq_true,
        false_or]
      by_cases hwhy : a = b ∨ ¬ s.IsUser a
      · have hwrong : ¬ [a, b].Nodup ∨ ([a, b].any fun u => (s.findUser u).isNone || s.hasPlace fresh u) = true := by
          rcases hwhy with rfl | ha
          · simp
          · right
            simp only [IsUser, Bool.not_eq_true, Option.isSome_eq_false_iff] at ha
            simp [ha]
        rw [if_pos hwrong]
        exact .refused hb hwhy hroom
      · obtain ⟨hne, ha⟩ := not_or.1 hwhy
        have ha : s.IsUser a := not_not.1 ha
        have hright : ¬ (¬ [a, b].Nodup ∨ ([a, b].any fun u => (s.findUser u).isNone || s.hasPlace fresh u) = true) := by
          have hfound : (s.findUser a).isNone = false := by simpa [IsUser] using ha
          simp [hne, hknown, hfound, hfresh.places]
        rw [if_neg hright]
        exact .made ha hb hne hroom
  · have hunknown : (s.findUser b).isNone = true := by simpa [IsUser] using hb
    simp only [hunknown, if_true]
    exact .unknown hb

/-! ## Sharing a given room -/

/-- Both users have places in the room. -/
def Share (s : Store) (room : RoomId) (a b : UserId) : Prop := s.hasPlace room a = true ∧ s.hasPlace room b = true

variable {q q' : RoomId} {x y : UserId}

theorem share_of_sharedDirect (h : s.sharedDirect a b = some q) : s.Share q a b := by
  have hb := List.find?_some h
  simp only [Bool.and_eq_true] at hb
  exact ⟨mem_roomsWith.1 (List.mem_of_find?_eq_some h), hb.2⟩

theorem hasPlace_withRoom : (s.withRoom a b fresh now).hasPlace q x = true ↔
    s.hasPlace q x = true ∨ q = fresh ∧ (x = a ∨ x = b) := by
  simp only [hasPlace_iff, withRoom, List.mem_append, List.mem_cons, List.not_mem_nil, or_false, Participant.mk.injEq]
  grind

/-- Two users share the room that was made only if it was made for them. -/
theorem share_withRoom (hfresh : s.Unused fresh) (hne : x ≠ y) : (s.withRoom a b fresh now).Share q x y ↔
    s.Share q x y ∨ q = fresh ∧ (x = a ∧ y = b ∨ x = b ∧ y = a) := by
  simp only [Share, hasPlace_withRoom]
  by_cases hq : q = fresh
  · simp only [hq, hfresh.places, true_and, Bool.false_eq_true, false_or, and_self]
    grind
  · simp [hq]

/-! ## Each room for two, and one room for each two -/

/-- Every room is the direct room of two users, all places are in rooms, and no two users share two rooms. -/
structure Paired (s : Store) : Prop where
  ready : s.Ready
  direct : ∀ r ∈ s.rooms, r.kind = "direct"
  ids : (s.rooms.map (·.id)).Nodup
  pair : ∀ r ∈ s.rooms, ∃ a b, a ≠ b ∧ s.IsUser a ∧ s.IsUser b ∧
    s.participants.filter (·.room = r.id) = [⟨r.id, a⟩, ⟨r.id, b⟩]
  housed : ∀ p ∈ s.participants, ∃ r ∈ s.rooms, r.id = p.room
  apart : ∀ q q' a b, a ≠ b → s.Share q a b → s.Share q' a b → q = q'

namespace Paired

theorem empty : Store.empty.Paired where
  ready := ⟨rfl, rfl⟩
  direct := by simp [Store.empty]
  ids := by simp [Store.empty]
  pair := by simp [Store.empty]
  housed := by simp [Store.empty]
  apart := by simp [Store.empty, Share, hasPlace]

theorem room_of_hasPlace (h : s.Paired) (hq : s.hasPlace q x = true) : ∃ r ∈ s.rooms, r.id = q :=
  h.housed _ (hasPlace_iff.1 hq)

theorem unused (h : s.Paired) (hfresh : ∀ r ∈ s.rooms, r.id ≠ fresh) : s.Unused fresh := by
  refine ⟨hfresh, fun u => ?_⟩
  by_contra hu
  obtain ⟨r, hr, hid⟩ := h.room_of_hasPlace (Bool.not_eq_false _ ▸ hu)
  exact hfresh r hr hid

theorem usersIn_perm (h : s.Paired) {r : Room} (hr : r ∈ s.rooms) :
    ∃ a b, a ≠ b ∧ s.IsUser a ∧ s.IsUser b ∧ (s.usersIn r.id).Perm [a, b] := by
  obtain ⟨a, b, hne, ha, hb, hplaces⟩ := h.pair r hr
  refine ⟨a, b, hne, ha, hb, ?_⟩
  rw [usersIn, hplaces]
  exact List.mergeSort_perm _ _

/-- Of two users, sharing a room and being all that is in it is the same. -/
theorem share_iff (h : s.Paired) (hne : a ≠ b) : s.Share q a b ↔ (s.usersIn q).Perm [a, b] := by
  constructor
  · rintro ⟨ha, hb⟩
    obtain ⟨r, hr, rfl⟩ := h.room_of_hasPlace ha
    obtain ⟨x, y, -, -, -, hperm⟩ := h.usersIn_perm hr
    have hax : a ∈ [x, y] := hperm.mem_iff.1 (mem_usersIn.2 ha)
    have hbx : b ∈ [x, y] := hperm.mem_iff.1 (mem_usersIn.2 hb)
    apply hperm.trans
    simp only [List.mem_cons, List.not_mem_nil, or_false] at hax hbx
    rcases hax with rfl | rfl <;> rcases hbx with rfl | rfl
    · exact absurd rfl hne
    · exact .refl _
    · exact .swap _ _ _
    · exact absurd rfl hne
  · intro hperm
    exact ⟨mem_usersIn.1 (hperm.mem_iff.2 (by simp)), mem_usersIn.1 (hperm.mem_iff.2 (by simp))⟩

/-- The look for a room finds every room that two users share. -/
theorem not_share (h : s.Paired) (hnone : s.sharedDirect a b = none) : ¬ s.Share q a b := by
  rintro ⟨ha, hb⟩
  obtain ⟨r, hr, rfl⟩ := h.room_of_hasPlace ha
  have hfound : (s.findDirect r.id).isSome = true := by
    rw [findDirect, List.find?_isSome]
    exact ⟨r, hr, by simp [h.direct r hr]⟩
  have hskip := List.find?_eq_none.1 hnone r.id (mem_roomsWith.2 ha)
  simp [hfound, hb] at hskip

theorem withUser (h : s.Paired) (u : User) : { s with users := s.users ++ [u], lastUser := s.lastUser + 1 }.Paired where
  ready := ⟨h.ready.unlocked, h.ready.complete⟩
  direct := h.direct
  ids := h.ids
  pair r hr := by
    obtain ⟨a, b, hne, ha, hb, hplaces⟩ := h.pair r hr
    refine ⟨a, b, hne, ?_, ?_, hplaces⟩
    · simp only [IsUser, findUser, List.find?_append, Option.isSome_or] at ha ⊢
      simp [ha]
    · simp only [IsUser, findUser, List.find?_append, Option.isSome_or] at hb ⊢
      simp [hb]
  housed := h.housed
  apart := h.apart

theorem withRoom (h : s.Paired) (hfresh : s.Unused fresh) (ha : s.IsUser a) (hb : s.IsUser b) (hne : a ≠ b)
    (hnone : s.sharedDirect a b = none) : (s.withRoom a b fresh now).Paired where
  ready := ⟨h.ready.unlocked, h.ready.complete⟩
  direct r hr := by
    rcases List.mem_append.1 hr with hr | hr
    · exact h.direct r hr
    · simp [List.mem_singleton.1 hr]
  ids := by
    simp only [Store.withRoom, List.map_append, List.map_cons, List.map_nil]
    rw [List.nodup_append]
    refine ⟨h.ids, by simp, ?_⟩
    simpa using hfresh.rooms
  pair r hr := by
    simp only [Store.withRoom, List.filter_append]
    rcases List.mem_append.1 hr with hr | hr
    · obtain ⟨x, y, hxy, hx, hy, hplaces⟩ := h.pair r hr
      have hother : fresh ≠ r.id := (hfresh.rooms r hr).symm
      exact ⟨x, y, hxy, hx, hy, by simp [hplaces, hother]⟩
    · obtain rfl := List.mem_singleton.1 hr
      have hnobody : s.participants.filter (·.room = fresh) = [] := by
        rw [List.filter_eq_nil_iff]
        rintro ⟨room, u⟩ hp hroom
        obtain rfl : room = fresh := by simpa using hroom
        simpa [hfresh.places u] using hasPlace_iff.2 hp
      exact ⟨a, b, hne, ha, hb, by simp [hnobody]⟩
  housed p hp := by
    simp only [Store.withRoom, List.mem_append] at hp ⊢
    rcases hp with hp | hp
    · obtain ⟨r, hr, hid⟩ := h.housed p hp
      exact ⟨r, .inl hr, hid⟩
    · refine ⟨⟨fresh, "direct", now⟩, by simp, ?_⟩
      simp only [List.mem_cons, List.not_mem_nil, or_false] at hp
      rcases hp with rfl | rfl <;> rfl
  apart q q' x y hxy hq hq' := by
    rw [share_withRoom hfresh hxy] at hq hq'
    have hold : ∀ q, s.Share q x y → ¬ (x = a ∧ y = b ∨ x = b ∧ y = a) := by
      rintro q hshare (⟨rfl, rfl⟩ | ⟨rfl, rfl⟩)
      · exact h.not_share hnone hshare
      · exact h.not_share hnone ⟨hshare.2, hshare.1⟩
    rcases hq with hq | ⟨rfl, hpair⟩ <;> rcases hq' with hq' | ⟨rfl, hpair'⟩
    · exact h.apart q q' x y hxy hq hq'
    · exact absurd hpair' (hold q hq)
    · exact absurd hpair (hold q' hq')
    · rfl

end Paired

/-! ## Sequences of calls -/

/-- The two users and the room of a call that gives a room. -/
def given? (s : Store) : Call → Option (UserId × UserId × RoomId)
  | .createUser .. => none
  | .directRoom a b fresh now =>
    match s.directRoom a b fresh now with
    | .ok (room, _) => some (a, b, room.room)
    | .error _ => none

/-- A call gives the room to the two users, whichever of them calls. -/
def Gives (s : Store) (c : Call) (a b : UserId) (q : RoomId) : Prop :=
  s.given? c = some (a, b, q) ∨ s.given? c = some (b, a, q)

instance (s : Store) (c : Call) (a b : UserId) (q : RoomId) : Decidable (s.Gives c a b q) :=
  inferInstanceAs (Decidable (_ ∨ _))

/-- A call among these, the first on empty tables, has given the room to the two users. -/
def Given (calls : List Call) (a b : UserId) (q : RoomId) : Prop :=
  Run.Sometime call (fun s c => s.Gives c a b q) empty calls

instance (calls : List Call) (a b : UserId) (q : RoomId) : Decidable (Given calls a b q) :=
  inferInstanceAs (Decidable (Run.Sometime call (fun s c => s.Gives c a b q) empty calls))

/-- What one call does to the rooms: two users share a room after it if they did before or it has given them that. -/
theorem paired_call {c : Call} (h : s.Paired) (hfresh : ∀ fresh, c.fresh? = some fresh → ∀ r ∈ s.rooms, r.id ≠ fresh) :
    (s.call c).Paired ∧ (∀ r ∈ (s.call c).rooms, r ∈ s.rooms ∨ c.fresh? = some r.id) ∧
      ∀ q x y, x ≠ y → ((s.call c).Share q x y ↔
        s.Share q x y ∨ s.Gives c x y q) := by
  cases c with
  | createUser name passwordHash now =>
    have hcall : s.call (.createUser name passwordHash now) = s ∨ ∃ u,
        s.call (.createUser name passwordHash now) =
          { s with users := s.users ++ [u], lastUser := s.lastUser + 1 } := by
      simp only [call, createUser, h.ready.require, bind, Except.bind, pure, Except.pure]
      split_ifs
      · exact .inl rfl
      · exact .inr ⟨_, rfl⟩
    rcases hcall with hcall | ⟨u, hcall⟩
    · rw [hcall]
      exact ⟨h, fun _ => .inl, by simp [Gives, given?]⟩
    · rw [hcall]
      exact ⟨h.withUser u, fun _ => .inl, by simp [Gives, given?, Share, hasPlace]⟩
  | directRoom a b fresh now =>
    have hunused := h.unused (hfresh fresh rfl)
    have hopens := opens h.ready hunused a b now
    simp only [call, Gives, given?, openRoom_eq]
    generalize s.directRoom a b fresh now = result at hopens ⊢
    cases hopens with
    | unknown hb => exact ⟨h, fun _ => .inl, by simp⟩
    | refused hb hwhy hnone => exact ⟨h, fun _ => .inl, by simp⟩
    | found room hb hroom =>
      refine ⟨h, fun _ => .inl, fun q x y hxy => ?_⟩
      obtain ⟨ha, hb⟩ := share_of_sharedDirect hroom
      simp only [Option.some.injEq, Prod.mk.injEq]
      refine ⟨.inl, ?_⟩
      rintro (hshare | ⟨rfl, rfl, rfl⟩ | ⟨rfl, rfl, rfl⟩)
      · exact hshare
      · exact ⟨ha, hb⟩
      · exact ⟨hb, ha⟩
    | made ha hb hne hnone =>
      refine ⟨h.withRoom hunused ha hb hne hnone, fun r hr => ?_, fun q x y hxy => ?_⟩
      · rcases List.mem_append.1 hr with hr | hr
        · exact .inl hr
        · right
          rw [List.mem_singleton.1 hr]
          rfl
      · rw [share_withRoom hunused hxy]
        simp only [Option.some.injEq, Prod.mk.injEq]
        grind

/-- After any calls whose fresh identifiers differ, rooms are for two, under those identifiers, and two users share
exactly the rooms that they have been given. -/
theorem paired_after {calls : List Call} (hfresh : (calls.filterMap Call.fresh?).Nodup) :
    (empty.after calls).Paired ∧ (∀ r ∈ (empty.after calls).rooms, r.id ∈ calls.filterMap Call.fresh?) ∧
      ∀ q x y, x ≠ y → ((empty.after calls).Share q x y ↔ Given calls x y q) := by
  induction calls using List.reverseRecOn with
  | nil => exact ⟨.empty, by simp [after, empty], by simp [after, empty, Share, hasPlace, Given, Run.Sometime]⟩
  | append_singleton calls c ih =>
    rw [List.filterMap_append, List.nodup_append] at hfresh
    obtain ⟨hbefore, -, hnew⟩ := hfresh
    obtain ⟨hpaired, hids, hshare⟩ := ih hbefore
    have hunused : ∀ fresh, c.fresh? = some fresh → ∀ r ∈ (empty.after calls).rooms, r.id ≠ fresh :=
      fun fresh hc r hr => hnew _ (hids r hr) _ (by simp [hc])
    obtain ⟨hpaired', hids', hshare'⟩ := paired_call hpaired hunused
    rw [after_snoc, List.filterMap_append]
    refine ⟨hpaired', fun r hr => List.mem_append.2 ?_, fun q x y hxy => ?_⟩
    · rcases hids' r hr with hr | hc
      · exact .inl (hids r hr)
      · exact .inr (by simp [hc])
    · rw [hshare' q x y hxy, hshare q x y hxy, Given, Given, Run.sometime_snoc]
      rfl

/-! ## One room for each pair -/

/-- A call for the room of two different users gives the one that they share, or a new one if they share none. -/
theorem Paired.directRoom (h : s.Paired) (hfresh : s.Unused fresh) (hne : a ≠ b) (ha : s.IsUser a) (hb : s.IsUser b)
    (now : Int) : ∃ q isNew s', s.directRoom a b fresh now = .ok (⟨q, isNew⟩, s') ∧ s'.Paired ∧ s'.Share q a b ∧
      (isNew = true ↔ ∀ q', ¬ s.Share q' a b) ∧ ∀ q', s.Share q' a b → q' = q := by
  have hopens := opens h.ready hfresh a b now
  generalize s.directRoom a b fresh now = result at hopens ⊢
  cases hopens with
  | unknown hunknown => exact absurd hb hunknown
  | refused _ hwhy => exact (hwhy.elim hne (· ha)).elim
  | found room _ hroom =>
    have hroom := share_of_sharedDirect hroom
    refine ⟨room, false, s, rfl, h, hroom, ?_, fun q' hq' => h.apart _ _ a b hne hq' hroom⟩
    simp only [Bool.false_eq_true, false_iff, not_forall, not_not]
    exact ⟨room, hroom⟩
  | made _ _ _ hnone =>
    have hnever : ∀ q', ¬ s.Share q' a b := fun q' => h.not_share hnone
    refine ⟨fresh, true, _, rfl, h.withRoom hfresh ha hb hne hnone, ?_, by simpa using hnever,
      fun q' hq' => absurd hq' (hnever q')⟩
    exact (share_withRoom hfresh hne).2 (.inr ⟨rfl, .inl ⟨rfl, rfl⟩⟩)

/-- **There is one direct room for two users, and a call that fails leaves nothing behind.** After any calls that begin
with empty tables, each room has two participants, both users, and no other room has the same two. A call among them
about two different users gives them the only room that is theirs; it is new if no call has given it to them before,
whichever of them called, and the one given before otherwise. A call that fails, whose statements may have put in a room
before one fails, leaves the tables as they were; one for a direct room fails only if it names an unknown user, or its
caller is unknown or asks for a room with themselves. -/
theorem one_room_per_pair (calls : List Call) (hfresh : (calls.filterMap Call.fresh?).Nodup) :
    (∀ r ∈ (empty.after calls).rooms, ∃ a b, a ≠ b ∧ (empty.after calls).IsUser a ∧ (empty.after calls).IsUser b ∧
      ((empty.after calls).usersIn r.id).Perm [a, b]) ∧
    (∀ r ∈ (empty.after calls).rooms, ∀ r' ∈ (empty.after calls).rooms,
      ((empty.after calls).usersIn r.id).Perm ((empty.after calls).usersIn r'.id) → r = r') ∧
    (∀ before c later, calls = before ++ c :: later → ∀ e, (empty.after before).error? c = some e →
      (empty.after before).call c = empty.after before) ∧
    ∀ before a b fresh now later, calls = before ++ .directRoom a b fresh now :: later →
      (a ≠ b → (empty.after before).IsUser a → (empty.after before).IsUser b →
        ∃ q isNew s', (empty.after before).directRoom a b fresh now = .ok (⟨q, isNew⟩, s') ∧
          (empty.after before).openRoom a b fresh now = (s', .ok ⟨q, isNew⟩) ∧
          (∃ r ∈ s'.rooms, r.id = q) ∧ (∀ q', (s'.usersIn q').Perm [a, b] ↔ q' = q) ∧
          (isNew = true ↔ ∀ q', ¬ Given before a b q') ∧ ∀ q', Given before a b q' → q' = q) ∧
      ∀ e, (empty.after before).error? (.directRoom a b fresh now) = some e →
        e = .notFound .user ∧ ¬ (empty.after before).IsUser b ∨
          e = .database ∧ (empty.after before).IsUser b ∧ (a = b ∨ ¬ (empty.after before).IsUser a) := by
  obtain ⟨hpaired, -, -⟩ := paired_after hfresh
  refine ⟨fun r hr => hpaired.usersIn_perm hr, fun r hr r' hr' hperm => ?_,
    fun before c later _ e herr => call_of_error herr, ?_⟩
  · obtain ⟨a, b, hne, -, -, hab⟩ := hpaired.usersIn_perm hr
    have hid : r.id = r'.id :=
      hpaired.apart _ _ a b hne ((hpaired.share_iff hne).2 hab) ((hpaired.share_iff hne).2 (hperm.symm.trans hab))
    exact List.inj_on_of_nodup_map hpaired.ids hr hr' hid
  rintro before a b fresh now later rfl
  rw [List.filterMap_append, List.nodup_append] at hfresh
  obtain ⟨hbefore, -, hnew⟩ := hfresh
  obtain ⟨h, hids, hshare⟩ := paired_after hbefore
  have hunused : (empty.after before).Unused fresh :=
    h.unused fun r hr => hnew _ (hids r hr) fresh (by simp [Call.fresh?])
  constructor
  · intro hne ha hb
    obtain ⟨q, isNew, s', hgives, h', hq, hisNew, hsame⟩ := h.directRoom hunused hne ha hb now
    simp only [hshare _ a b hne] at hisNew hsame
    refine ⟨q, isNew, s', hgives, by rw [openRoom_eq, hgives], h'.room_of_hasPlace hq.1, fun q' => ?_, hisNew, hsame⟩
    rw [← h'.share_iff hne]
    constructor
    · intro hq'
      exact h'.apart _ _ a b hne hq' hq
    · rintro rfl
      exact hq
  · intro e herr
    have hopens := opens h.ready hunused a b now
    simp only [error?, openRoom_eq] at herr
    generalize (empty.after before).directRoom a b fresh now = result at hopens herr
    cases hopens with
    | unknown hb => exact .inl ⟨by simpa using herr.symm, hb⟩
    | refused hb hwhy => exact .inr ⟨by simpa using herr.symm, hb, hwhy⟩
    | found room hb hroom => simp at herr
    | made ha hb hne hnone => simp at herr

/-- Ann asks for a room with herself and is refused, gets one with Bob, which Bob is then given too; a user who does not
exist asks for a room with Cid, and the row of that room does not stay. -/
theorem one_room_per_pair_three_users :
    let calls : List Call := [.createUser "ann" "" 0, .createUser "bob" "" 0, .createUser "cid" "" 0,
      .directRoom 1 1 "p" 0, .directRoom 1 2 "q" 0, .directRoom 2 1 "r" 0, .directRoom 4 3 "s" 0]
    (calls.filterMap Call.fresh?).Nodup ∧
      (∀ r ∈ (empty.after calls).rooms, ∃ a b, a ≠ b ∧ (empty.after calls).IsUser a ∧ (empty.after calls).IsUser b ∧
        ((empty.after calls).usersIn r.id).Perm [a, b]) ∧
      (∃ s', (empty.after (calls.take 5)).directRoom 2 1 "r" 0 = .ok (⟨"q", false⟩, s') ∧
        ∀ q, (s'.usersIn q).Perm [2, 1] ↔ q = "q") ∧
      (empty.after (calls.take 6)).error? (.directRoom 4 3 "s" 0) = some .database ∧
      empty.after calls = empty.after (calls.take 6) := by
  intro calls
  have hfresh : (calls.filterMap Call.fresh?).Nodup := by decide +kernel +zetaReduce
  obtain ⟨hpairs, -, hunchanged, hpair⟩ := one_room_per_pair calls hfresh
  have hgiven : Given (calls.take 5) 2 1 "q" := by decide +kernel +zetaReduce
  have hfails : (empty.after (calls.take 6)).error? (.directRoom 4 3 "s" 0) = some .database := by
    decide +kernel +zetaReduce
  refine ⟨hfresh, hpairs, ?_, hfails, hunchanged (calls.take 6) (.directRoom 4 3 "s" 0) [] rfl _ hfails⟩
  obtain ⟨q, isNew, s', hgives, -, -, honly, hisNew, hsame⟩ := (hpair (calls.take 5) 2 1 "r" 0 _ rfl).1 (by decide)
    (by decide +kernel +zetaReduce) (by decide +kernel +zetaReduce)
  obtain rfl := hsame "q" hgiven
  obtain rfl : isNew = false := by
    rw [← Bool.not_eq_true, hisNew]
    exact fun hnever => hnever "q" hgiven
  exact ⟨s', hgives, honly⟩

end Store

end DirectChat
