import DirectChat.Proofs.Store.Log
import DirectChat.Store.Rooms
/-!
# Places in rooms

Who takes part in a room is asked in several ways: whom a notification about a message concerns, with whom
a user shares a room, which rooms a user is listed. All of them answer from the same relation, which is
that a user has a place in a room (`mem_roomParticipants`, `mem_usersSharingRoomWith`,
`hasPlace_of_mem_userRooms`). A store that only gains places answers the more (`KeepsPlaces`).
-/

namespace DirectChat

namespace Store

variable {s s' s'' : Store} {room : RoomId} {user other : UserId}

theorem hasPlace_iff : s.hasPlace room user = true ↔ ⟨room, user⟩ ∈ s.participants := by
  simp only [hasPlace, List.any_eq_true, Bool.and_eq_true, beq_iff_eq]
  constructor
  · rintro ⟨⟨room', user'⟩, hp, rfl, rfl⟩
    exact hp
  · intro hp
    exact ⟨_, hp, rfl, rfl⟩

theorem mem_usersIn : user ∈ s.usersIn room ↔ s.hasPlace room user = true := by
  rw [usersIn, List.mem_mergeSort, List.mem_map, hasPlace_iff]
  constructor
  · rintro ⟨⟨room', user'⟩, hp, rfl⟩
    obtain ⟨hin, hroom⟩ := List.mem_filter.1 hp
    obtain rfl : room' = room := by simpa using hroom
    exact hin
  · intro hp
    exact ⟨_, List.mem_filter.2 ⟨hp, by simp⟩, rfl⟩

theorem mem_roomsWith : room ∈ s.roomsWith user ↔ s.hasPlace room user = true := by
  rw [roomsWith, List.mem_map, hasPlace_iff]
  constructor
  · rintro ⟨⟨room', user'⟩, hp, rfl⟩
    obtain ⟨hin, huser⟩ := List.mem_filter.1 hp
    obtain rfl : user' = user := by simpa using huser
    exact hin
  · intro hp
    exact ⟨_, List.mem_filter.2 ⟨hp, by simp⟩, rfl⟩

theorem mem_roomParticipants {users : List UserId} (h : s.roomParticipants room = .ok users) :
    user ∈ users ↔ s.hasPlace room user = true := by
  unfold roomParticipants at h
  cases eq_ok_of_require h
  exact mem_usersIn

/-- What a room that was put in needed, and what it changed. -/
theorem insertRoom_eq_ok {room : Room} {users : List UserId} (h : s.insertRoom room users = .ok s') :
    ¬ (s.rooms.any (·.id == room.id) ∨ ¬ users.Nodup ∨
      users.any fun u => (s.findUser u).isNone || s.hasPlace room.id u) ∧
    s' = { s with
      rooms := s.rooms ++ [room]
      participants := s.participants ++ users.map fun u => ⟨room.id, u⟩ } := by
  unfold insertRoom at h
  have hrest := eq_ok_of_require h
  by_cases hne : users ≠ []
  · rw [if_pos hne] at hrest
    have hend := eq_ok_of_require hrest
    split at hend
    · cases hend
    · rename_i hfine
      cases hend
      exact ⟨hfine, rfl⟩
  · rw [if_neg hne] at hrest
    dsimp only [bind, Except.bind, pure, Except.pure] at hrest
    split at hrest
    · cases hrest
    · rename_i hfine
      cases hrest
      exact ⟨hfine, rfl⟩

/-- What a user who was created was recorded as. -/
theorem createUser_eq_ok {name passwordHash : String} {now : Int} {info : UserInfo}
    (h : s.createUser name passwordHash now = .ok (info, s')) :
    ∃ u : User, info = u.info ∧ s' = { s with users := s.users ++ [u], lastUser := s.lastUser + 1 } := by
  unfold createUser at h
  have hrest := eq_ok_of_require h
  split at hrest
  · cases hrest
  · cases hrest
    exact ⟨⟨s.lastUser + 1, name, passwordHash, now⟩, rfl, rfl⟩

/-- Who was given a direct room was given one that there was, or one that was put in for them. -/
theorem directRoom_eq_ok {a b : UserId} {fresh : RoomId} {now : Int} {given : DirectRoom}
    (h : s.directRoom a b fresh now = .ok (given, s')) :
    s' = s ∨ s.insertRoom ⟨fresh, "direct", now⟩ [a, b] = .ok s' := by
  unfold directRoom at h
  have hrest := eq_ok_of_require h
  split at hrest
  · cases hrest
  · have hend := eq_ok_of_require hrest
    split at hend
    · cases hend
      exact .inl rfl
    · cases hinsert : s.insertRoom ⟨fresh, "direct", now⟩ [a, b] with
      | error e =>
        rw [hinsert] at hend
        cases hend
      | ok s'' =>
        rw [hinsert] at hend
        cases hend
        exact .inr rfl

/-! ## Sharing a room -/

/-- Two different users have places in the same room. -/
def SharesRoom (s : Store) (user other : UserId) : Prop :=
  other ≠ user ∧ ∃ room, s.hasPlace room user = true ∧ s.hasPlace room other = true

theorem nodup_eraseDups {α : Type} [DecidableEq α] : (l : List α) → l.eraseDups.Nodup
  | [] => by simp
  | a :: l => by
    rw [List.eraseDups_cons, List.nodup_cons, List.mem_eraseDups]
    refine ⟨?_, nodup_eraseDups _⟩
    simp
termination_by l => l.length
decreasing_by
  have hle := List.length_filter_le (fun b => !b == a) l
  simp only [List.length_cons]
  omega

theorem usersSharingRoomWith_eq {users : List UserId} (h : s.usersSharingRoomWith user = .ok users) :
    users = (((s.roomsWith user).flatMap s.usersIn).filter (· ≠ user)).eraseDups := by
  unfold usersSharingRoomWith at h
  cases eq_ok_of_require h
  rfl

theorem mem_usersSharingRoomWith {users : List UserId} (h : s.usersSharingRoomWith user = .ok users) :
    other ∈ users ↔ s.SharesRoom user other := by
  rw [usersSharingRoomWith_eq h, List.mem_eraseDups, List.mem_filter, List.mem_flatMap, SharesRoom]
  simp only [mem_roomsWith, mem_usersIn, decide_eq_true_eq]
  exact and_comm

theorem nodup_usersSharingRoomWith {users : List UserId} (h : s.usersSharingRoomWith user = .ok users) :
    users.Nodup := by
  rw [usersSharingRoomWith_eq h]
  exact nodup_eraseDups _

/-! ## The room list -/

theorem findDirect_id {r : Room} (h : s.findDirect room = some r) : r.id = room := by
  have hp := List.find?_some h
  simp only [decide_eq_true_eq] at hp
  exact hp.1

/-- A user is listed only rooms in which they have a place. -/
theorem hasPlace_of_mem_userRooms {rooms : List RoomSummary} (h : s.userRooms user = .ok rooms) {x : RoomSummary}
    (hx : x ∈ rooms) : s.hasPlace x.room user = true := by
  unfold userRooms at h
  cases eq_ok_of_require h
  obtain ⟨y, hy, rfl⟩ := List.mem_map.1 hx
  obtain ⟨r, hr, hy⟩ := List.mem_flatMap.1 (List.mem_mergeSort.1 hy)
  obtain ⟨id, hid, hfound⟩ := List.mem_filterMap.1 hr
  obtain ⟨o, -, rfl⟩ := List.mem_map.1 hy
  show s.hasPlace r.id user = true
  rw [findDirect_id hfound]
  exact mem_roomsWith.1 hid

/-! ## Places that are not taken away -/

/-- Every place stays. -/
def KeepsPlaces (s s' : Store) : Prop := ∀ p ∈ s.participants, p ∈ s'.participants

instance (s s' : Store) : Decidable (s.KeepsPlaces s') :=
  inferInstanceAs (Decidable (∀ p ∈ s.participants, p ∈ s'.participants))

theorem KeepsPlaces.of_eq (h : s'.participants = s.participants) : s.KeepsPlaces s' := fun _ hp => h ▸ hp

theorem KeepsPlaces.trans (h : s.KeepsPlaces s') (h' : s'.KeepsPlaces s'') : s.KeepsPlaces s'' :=
  fun p hp => h' p (h p hp)

theorem KeepsPlaces.hasPlace (h : s.KeepsPlaces s') (hp : s.hasPlace room user = true) :
    s'.hasPlace room user = true := hasPlace_iff.2 (h _ (hasPlace_iff.1 hp))

theorem KeepsPlaces.sharesRoom (h : s.KeepsPlaces s') (hs : s.SharesRoom user other) : s'.SharesRoom user other := by
  obtain ⟨hne, room, huser, hother⟩ := hs
  exact ⟨hne, room, h.hasPlace huser, h.hasPlace hother⟩

theorem markSeen_participants {viewer : UserId} {upTo : Int} {count : Nat}
    (h : s.markSeen room viewer upTo = .ok (count, s')) : s'.participants = s.participants := by
  unfold markSeen at h
  cases eq_ok_of_require h
  rfl

theorem saveMessage_participants {m : NewMessage} {now : Int} {saved : Message}
    (h : s.saveMessage m now = .ok (saved, s')) : s'.participants = s.participants := by
  rw [(saveMessage_eq_ok h).2]

end Store

end DirectChat
