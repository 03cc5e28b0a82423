import DirectChat.Proofs.Store.Places
import Mathlib.Data.List.Nodup
/-!
# The stores that there can be

A store begins without rows and becomes what its operations make of it, faults included: a table that is dropped, a task
that dies. Of every store that is reached in this way holds what the tables demand of their rows: nobody has two places
in a room (`Reached.nodup_participants`).
-/

namespace DirectChat

namespace Store

/-- One operation, which succeeded. -/
inductive Changes (s : Store) : Store → Prop
  | createUser (name passwordHash : String) (now : Int) (user : UserInfo) (s' : Store)
    (h : s.createUser name passwordHash now = .ok (user, s')) : Changes s s'
  | deleteUser (id : UserId) (s' : Store) (h : s.deleteUser id = .ok s') : Changes s s'
  | insertRoom (room : Room) (users : List UserId) (s' : Store) (h : s.insertRoom room users = .ok s') : Changes s s'
  | directRoom (a b : UserId) (fresh : RoomId) (now : Int) (room : DirectRoom) (s' : Store)
    (h : s.directRoom a b fresh now = .ok (room, s')) : Changes s s'
  | insertMessage (room : RoomId) (author : UserId) (username : String) (content voice : Option String) (hasSeen : Bool)
    (replyText : Option String) (createdAt : Int) (row : StoredMessage) (s' : Store)
    (h : s.insertMessage room author username content voice hasSeen replyText createdAt = .ok (row, s')) : Changes s s'
  | saveMessage (m : NewMessage) (now : Int) (saved : Message) (s' : Store) (h : s.saveMessage m now = .ok (saved, s')) :
    Changes s s'
  | markSeen (room : RoomId) (viewer : UserId) (upTo : Int) (count : Nat) (s' : Store)
    (h : s.markSeen room viewer upTo = .ok (count, s')) : Changes s s'
  | addPhoto (user : UserId) (file url : String) (now : Int) (photo : Photo) (s' : Store)
    (h : s.addPhoto user file url now = .ok (photo, s')) : Changes s s'
  | deletePhoto (user : UserId) (id : Int) (photo : Photo) (s' : Store) (h : s.deletePhoto user id = .ok (photo, s')) :
    Changes s s'
  | dropTable (t : StoreTable) (s' : Store) (h : s.dropTable t = .ok s') : Changes s s'
  | poison : Changes s s.poison
  | reopened : Changes s s.reopened

/-- A store that is reached from one without rows. -/
inductive Reached : Store → Prop
  | empty : Reached .empty
  | step {s s' : Store} (hs : Reached s) (h : s.Changes s') : Reached s'

variable {s s' : Store}

/-! ## Places -/

/-- What an operation does to the places in rooms. -/
inductive PlacesBecome (s : Store) : List Participant → Prop
  | kept : PlacesBecome s s.participants
  | left (user : UserId) : PlacesBecome s (s.participants.filter (·.user ≠ user))
  /-- Users are given places in a room, in which they had none. -/
  | given (room : RoomId) (users : List UserId) (hnodup : users.Nodup) (hnew : ∀ u ∈ users, s.hasPlace room u = false) :
    PlacesBecome s (s.participants ++ users.map fun u => ⟨room, u⟩)

theorem placesBecome_insertRoom {room : Room} {users : List UserId} (h : s.insertRoom room users = .ok s') :
    s.PlacesBecome s'.participants := by
  obtain ⟨hfine, rfl⟩ := insertRoom_eq_ok h
  simp only [not_or, not_not, List.any_eq_true, Bool.or_eq_true, not_exists, not_and, Bool.not_eq_true] at hfine
  exact .given room.id users hfine.2.1 fun u hu => (hfine.2.2 u hu).2

theorem Changes.placesBecome (h : s.Changes s') : s.PlacesBecome s'.participants := by
  cases h with
  | createUser name passwordHash now user _ h =>
    obtain ⟨u, -, rfl⟩ := createUser_eq_ok h
    exact .kept
  | deleteUser id _ h =>
    unfold Store.deleteUser at h
    cases eq_ok_of_require h
    exact .left id
  | insertRoom room users _ h => exact placesBecome_insertRoom h
  | directRoom a b fresh now room _ h =>
    rcases directRoom_eq_ok h with rfl | hinsert
    · exact .kept
    · exact placesBecome_insertRoom hinsert
  | insertMessage room author username content voice hasSeen replyText createdAt row _ h =>
    unfold Store.insertMessage at h
    have hrest := eq_ok_of_require h
    split at hrest
    · cases hrest
    · cases hrest
      exact .kept
  | saveMessage m now saved _ h => exact saveMessage_participants h ▸ .kept
  | markSeen room viewer upTo count _ h => exact markSeen_participants h ▸ .kept
  | addPhoto user file url now photo _ h =>
    unfold Store.addPhoto at h
    have hrest := eq_ok_of_require h
    split at hrest
    · cases hrest
    · cases hrest
      exact .kept
  | deletePhoto user id photo _ h =>
    unfold Store.deletePhoto at h
    have hrest := eq_ok_of_require h
    split at hrest
    · cases hrest
    · cases eq_ok_of_require hrest
      exact .kept
  | dropTable t _ h =>
    unfold Store.dropTable at h
    split at h
    · cases h
    · cases h
      exact .kept
  | poison => exact .kept
  | reopened => exact .kept

theorem PlacesBecome.nodup {places : List Participant} (h : s.PlacesBecome places) (hs : s.participants.Nodup) :
    places.Nodup := by
  cases h with
  | kept => exact hs
  | left user => exact hs.filter _
  | given room users hnodup hnew =>
    refine List.nodup_append.2 ⟨hs, hnodup.map fun u v huv => (Participant.mk.inj huv).2, ?_⟩
    rintro p hp q hq rfl
    obtain ⟨u, hu, rfl⟩ := List.mem_map.1 hq
    have hplace : s.hasPlace room u = true := hasPlace_iff.2 hp
    rw [hnew u hu] at hplace
    cases hplace

/-- **Nobody has two places in a room.** -/
theorem Reached.nodup_participants (h : s.Reached) : s.participants.Nodup := by
  induction h with
  | empty => exact .nil
  | step _ h ih => exact h.placesBecome.nodup ih

theorem Reached.nodup_usersIn (h : s.Reached) (room : RoomId) : (s.usersIn room).Nodup := by
  rw [usersIn, (List.mergeSort_perm _ _).nodup_iff]
  refine List.Nodup.map_on (fun p hp q hq huser => ?_) (h.nodup_participants.filter _)
  have hproom : p.room = room := by simpa using (List.mem_filter.1 hp).2
  have hqroom : q.room = room := by simpa using (List.mem_filter.1 hq).2
  obtain ⟨proom, puser⟩ := p
  obtain ⟨qroom, quser⟩ := q
  simp_all

end Store

end DirectChat
