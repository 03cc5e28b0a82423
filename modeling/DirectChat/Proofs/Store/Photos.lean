import DirectChat.Proofs.Store.Places
import DirectChat.Proofs.Table
/-!
# Rows of photos

A photo is recorded under the next number, for a user that there is (`addPhoto_eq_ok`), and it is its owner who removes
it (`deletePhoto_eq_ok`). Accounts and rooms leave the photos alone (`SamePhotos`).
-/

namespace DirectChat

namespace Table

variable {κ α : Type} [DecidableEq κ]

/-- What was put in under a new key and is taken out again leaves nothing behind. -/
theorem erase_insert_of_none {t : Table κ α} {k : κ} (h : t.get? k = none) (a : α) : (t.insert k a).erase k = t := by
  have hkept : ∀ e ∈ t.entries, e.1 ≠ k := fun e he hk => by
    have hfound := t.get?_of_mem he
    rw [hk, h] at hfound
    cases hfound
  rw [erase_insert]
  exact eq_of_entries (List.filter_eq_self.2 fun e he => by simpa using hkept e he)

end Table

namespace Store

variable {s s' s'' : Store}

/-- The photos that are recorded are the same, and so is the number of the last. -/
structure SamePhotos (s s' : Store) : Prop where
  rows : s'.photos = s.photos
  last : s'.lastPhoto = s.lastPhoto

theorem SamePhotos.refl (s : Store) : s.SamePhotos s := ⟨rfl, rfl⟩

theorem samePhotos_createUser {name passwordHash : String} {now : Int} {user : UserInfo}
    (h : s.createUser name passwordHash now = .ok (user, s')) : s.SamePhotos s' := by
  obtain ⟨u, -, rfl⟩ := createUser_eq_ok h
  exact ⟨rfl, rfl⟩

theorem samePhotos_insertRoom {room : Room} {users : List UserId} (h : s.insertRoom room users = .ok s') :
    s.SamePhotos s' := by
  obtain ⟨-, rfl⟩ := insertRoom_eq_ok h
  exact ⟨rfl, rfl⟩

theorem samePhotos_directRoom {a b : UserId} {fresh : RoomId} {now : Int} {room : DirectRoom}
    (h : s.directRoom a b fresh now = .ok (room, s')) : s.SamePhotos s' := by
  rcases directRoom_eq_ok h with rfl | hinsert
  · exact .refl _
  · exact samePhotos_insertRoom hinsert

theorem addPhoto_eq_ok {user : UserId} {file url : String} {now : Int} {photo : Photo}
    (h : s.addPhoto user file url now = .ok (photo, s')) :
    photo = ⟨s.lastPhoto + 1, user, file, url, now⟩ ∧
      s' = { s with photos := s.photos ++ [photo], lastPhoto := s.lastPhoto + 1 } := by
  unfold addPhoto at h
  have hrest := eq_ok_of_require h
  split at hrest
  · cases hrest
  · cases hrest
    exact ⟨rfl, rfl⟩

theorem deletePhoto_eq_ok {user : UserId} {id : Int} {photo : Photo} (h : s.deletePhoto user id = .ok (photo, s')) :
    photo ∈ s.photos ∧ photo.id = id ∧ photo.user = user ∧
      s' = { s with photos := s.photos.filter fun p => p.id ≠ photo.id } := by
  unfold deletePhoto at h
  have hrest := eq_ok_of_require h
  split at hrest
  · cases hrest
  · rename_i found hfound
    cases eq_ok_of_require hrest
    have hwhich : photo.id = id ∧ photo.user = user := by simpa using List.find?_some hfound
    exact ⟨List.mem_of_find?_eq_some hfound, hwhich.1, hwhich.2, by rw [hwhich.1]⟩

end Store

/-- Among rows that are told apart by their numbers, the one of a number is taken out alone. -/
theorem filter_ne_of_nodup {α κ : Type} [DecidableEq κ] {key : α → κ} {front back : List α} {a : α}
    (h : ((front ++ a :: back).map key).Nodup) :
    ((front ++ a :: back).filter fun b => key b ≠ key a) = front ++ back := by
  rw [List.map_append, List.map_cons, List.nodup_append, List.nodup_cons] at h
  obtain ⟨-, ⟨hback, -⟩, hfront⟩ := h
  have hkeepFront : (front.filter fun b => key b ≠ key a) = front := List.filter_eq_self.2 fun b hb => by
    simpa using hfront _ (List.mem_map_of_mem hb) _ List.mem_cons_self
  have hkeepBack : (back.filter fun b => key b ≠ key a) = back := List.filter_eq_self.2 fun b hb => by
    simpa using fun hsame : key b = key a => hback (hsame ▸ List.mem_map_of_mem hb)
  rw [List.filter_append, List.filter_cons_of_neg (by simp), hkeepFront, hkeepBack]

end DirectChat
