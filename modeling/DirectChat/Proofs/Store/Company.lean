import DirectChat.Chat.Notification
import DirectChat.Proofs.Store.RoomList
/-!
# A user's company

Four looks tell who is in rooms with a user: the places of a room, the other place in a room, the other places in all
rooms of the user, and the room list. News of a user's presence goes by the third, and is shown by the fourth.

Each is a join of its own, and they agree because rooms are for two and no two users share two of them (`Paired`): then
a user's list has one row for each user with whom a room is shared (`Paired.mem_others`, `Paired.nodup_others`), and a
row names all who are in its room (`Paired.usersIn_of_mem`).
-/

namespace DirectChat

namespace Store

variable {s : Store} {user other : UserId}

theorem SharesRoom.symm (h : s.SharesRoom user other) : s.SharesRoom other user := by
  obtain ⟨hne, room, huser, hother⟩ := h
  exact ⟨hne.symm, room, hother, huser⟩

theorem Ready.usersSharingRoomWith (h : s.Ready) (user : UserId) :
    ∃ others, s.usersSharingRoomWith user = .ok others := by
  rw [Store.usersSharingRoomWith, h.require]
  exact ⟨_, rfl⟩

theorem Ready.roomParticipants (h : s.Ready) (room : RoomId) : s.roomParticipants room = .ok (s.usersIn room) := by
  rw [Store.roomParticipants, h.require]
  rfl

theorem Ready.otherUserInRoom (h : s.Ready) (room : RoomId) (user : UserId) :
    s.otherUserInRoom room user = .ok ((s.usersIn room).find? (· ≠ user)) := by
  rw [Store.otherUserInRoom, h.require]
  rfl

namespace Paired

/-- In a room of the list are the user and the one who is shown beside it. -/
theorem usersIn_of_mem (h : s.Paired) {x : RoomSummary} (hx : x ∈ s.roomList user) :
    x.other ≠ user ∧ (s.usersIn x.room).Perm [user, x.other] := by
  obtain ⟨row, hrow, rfl⟩ := List.mem_map.1 ((s.roomList_perm user).mem_iff.1 hx)
  obtain ⟨r, other, -, -, hne, hboth⟩ := h.isRow_of_mem hrow
  exact ⟨hne, hboth⟩

theorem share_of_mem (h : s.Paired) {x : RoomSummary} (hx : x ∈ s.roomList user) : s.Share x.room user x.other := by
  obtain ⟨hne, hboth⟩ := h.usersIn_of_mem hx
  exact (h.share_iff hne.symm).2 hboth

/-- Whoever is there beside the user is the one who is shown. -/
theorem find?_other (h : s.Paired) {x : RoomSummary} (hx : x ∈ s.roomList user) :
    (s.usersIn x.room).find? (· ≠ user) = some x.other := by
  obtain ⟨hne, hboth⟩ := h.usersIn_of_mem hx
  have hthere : ((s.usersIn x.room).find? (· ≠ user)).isSome = true :=
    List.find?_isSome.2 ⟨x.other, hboth.mem_iff.2 (by simp), by simpa using hne⟩
  obtain ⟨v, hv⟩ := Option.isSome_iff_exists.1 hthere
  have hin : v = user ∨ v = x.other := by simpa using hboth.mem_iff.1 (List.mem_of_find?_eq_some hv)
  have hv' : v ≠ user := by simpa using List.find?_some hv
  rcases hin with rfl | rfl
  · exact absurd rfl hv'
  · exact hv

/-- The users that are shown beside the rooms of a user are those with whom the user shares a room. -/
theorem mem_others (h : s.Paired) : other ∈ (s.roomList user).map (·.other) ↔ s.SharesRoom user other := by
  constructor
  · intro hother
    obtain ⟨x, hx, rfl⟩ := List.mem_map.1 hother
    exact ⟨(h.usersIn_of_mem hx).1, x.room, (h.share_of_mem hx).1, (h.share_of_mem hx).2⟩
  · rintro ⟨hne, q, huser, hother⟩
    have hq : q ∈ (s.roomList user).map (·.room) := (h.rooms_perm user).mem_iff.2 (mem_roomsWith.2 huser)
    obtain ⟨x, hx, rfl⟩ := List.mem_map.1 hq
    have hin : other = user ∨ other = x.other := by
      simpa using (h.usersIn_of_mem hx).2.mem_iff.1 (mem_usersIn.2 hother)
    rcases hin with rfl | rfl
    · exact absurd rfl hne
    · exact List.mem_map_of_mem hx

/-- Nobody is shown twice, for two users share one room at most. -/
theorem nodup_others (h : s.Paired) (user : UserId) : ((s.roomList user).map (·.other)).Nodup := by
  have hrooms : ((s.roomList user).map (·.room)).Nodup := (h.rooms_perm user).nodup_iff.2 (h.nodup_roomsWith user)
  refine List.Nodup.map_on (fun x hx y hy hother => ?_) hrooms.of_map
  -- Two rows with the same user are two rooms that are shared with that user.
  have hy' := h.share_of_mem hy
  rw [← hother] at hy'
  have hroom : x.room = y.room := h.apart _ _ user x.other (h.usersIn_of_mem hx).1.symm (h.share_of_mem hx) hy'
  exact List.inj_on_of_nodup_map hrooms hx hy hroom

end Paired

/-- **The looks at who is in rooms with whom agree.** Whatever the program has done to its tables, every look succeeds.
The users with whom a user shares a room are the others of the user's room list, each once, and never the user; one
shares a room with another as the other does with them. In each room of the list are the user and the one who is shown
beside it, who is also the other user of that room. So news of a user's presence that the registry confirms goes to
those in whose room lists the user is shown, and to nobody else. -/
theorem room_queries_agree (operations : List Operation) (user : UserId) :
    ∃ others rooms, (built operations).usersSharingRoomWith user = .ok others ∧
      (built operations).userRooms user = .ok rooms ∧
      others.Nodup ∧ user ∉ others ∧ others.Perm (rooms.map (·.other)) ∧
      (∀ v, ∃ others', (built operations).usersSharingRoomWith v = .ok others' ∧ (v ∈ others ↔ user ∈ others')) ∧
      (∀ x ∈ rooms, (built operations).otherUserInRoom x.room user = .ok (some x.other) ∧
        ∃ users, (built operations).roomParticipants x.room = .ok users ∧ users.Perm [user, x.other]) ∧
      ∀ (r : Registry) (name : String),
        (Notification.presence user name (r.isOnline user)).concerned (built operations) = .ok others ∧
        ∀ v, v ∈ (Notification.presence user name (r.isOnline user)).recipients others r ↔
          ∃ rooms', (built operations).userRooms v = .ok rooms' ∧ user ∈ rooms'.map (·.other) := by
  have h := (wellKept_built operations).paired
  generalize built operations = s at h ⊢
  obtain ⟨others, hothers⟩ := h.ready.usersSharingRoomWith user
  have hmem : ∀ v, v ∈ others ↔ s.SharesRoom user v := fun v => mem_usersSharingRoomWith hothers
  have hnodup := nodup_usersSharingRoomWith hothers
  refine ⟨others, s.roomList user, hothers, h.ready.userRooms user, hnodup, fun huser => ?_, ?_, fun v => ?_,
    fun x hx => ⟨?_, _, h.ready.roomParticipants x.room, (h.usersIn_of_mem hx).2⟩, fun r name => ⟨hothers, fun v => ?_⟩⟩
  · exact ((hmem user).1 huser).1 rfl
  · refine (List.perm_ext_iff_of_nodup hnodup (h.nodup_others user)).2 fun v => ?_
    rw [hmem, h.mem_others]
  · obtain ⟨others', hothers'⟩ := h.ready.usersSharingRoomWith v
    refine ⟨others', hothers', ?_⟩
    rw [hmem, mem_usersSharingRoomWith hothers']
    exact ⟨SharesRoom.symm, SharesRoom.symm⟩
  · rw [h.ready.otherUserInRoom, h.find?_other hx]
  · have hall : (Notification.presence user name (r.isOnline user)).recipients others r = others := if_pos rfl
    rw [hall, hmem]
    constructor
    · intro hv
      exact ⟨_, h.ready.userRooms v, h.mem_others.2 hv.symm⟩
    · rintro ⟨rooms', hrooms', hshown⟩
      rw [h.ready.userRooms v] at hrooms'
      cases hrooms'
      exact (h.mem_others.1 hshown).symm

end Store

end DirectChat
