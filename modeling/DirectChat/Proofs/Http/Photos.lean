import DirectChat.Proofs.Http.Accounts
import DirectChat.Proofs.Profile.PhotoName
import DirectChat.Proofs.Store.Photos
/-!
# What requests do to photos

A photo is a row in the store and a file in the upload directory, which are changed one after the other: a file is
written before its row is put in, and removed again when that fails; it is removed after its row. Any request does one
of four things to the two (`Site.HandlesPhotos`, `Site.handlesPhotos`), and most do nothing (`Site.LeavesPhotos`).
-/

namespace DirectChat

/-! ## Requests about photos -/

/-- The part of a form in which a photo is sent, if it brings any bytes. -/
def Request.photoPart? (req : Request) : Option FormPart :=
  match req.headers.mediaType?.bind MediaType.formBoundary? with
  | none => none
  | some boundary =>
    match findPart photoMaxBytes boundary "photo" req.body with
    | .ok (some part) => if part.data.size = 0 then none else some part
    | _ => none

/-- The photo that a request sends. -/
def Request.photo? (req : Request) : Option FormPart :=
  if req.method = "PUT" ∧ Route.ofPath? req.path = some .photoUpload then req.photoPart? else none

/-- The number of the photo that a request asks to remove. -/
def Request.photoId? (req : Request) : Option Int :=
  match Route.ofPath? req.path with
  | some (.photoDelete id) => (percentDecode? id).bind fun text => int64? text.toList
  | _ => none

namespace Site

/-- The rows of photos and the files are the same, and so is the key. -/
structure SamePhotos (s s' : Site) : Prop where
  rows : s.server.store.SamePhotos s'.server.store
  uploads : s'.uploads = s.uploads
  secret : s'.secret = s.secret

theorem SamePhotos.refl (s : Site) : s.SamePhotos s := ⟨.refl _, rfl, rfl⟩

variable {s s' : Site} {req : Request}

/-! ## What a request does to the photos -/

/-- A response which says neither that a photo was stored nor that one was removed. -/
structure LeavesPhotos (s : Site) (result : Response × Site) : Prop where
  same : s.SamePhotos result.2
  status : result.1.status ≠ 204

theorem LeavesPhotos.refuse {response : Response} (h : response.status ≠ 204) : s.LeavesPhotos (response, s) :=
  ⟨.refl s, h⟩

theorem status_of_jsonBody {α : Type} {r : Record α} {e : Response} (h : jsonBody r req = .error e) :
    e.status ≠ 204 := by
  unfold jsonBody at h
  split at h
  · cases h
    exact nofun
  · split at h
    · cases h
      exact nofun
    · split at h
      · cases h
        exact nofun
      · split at h
        · cases h
        · rename_i fault _
          cases h
          cases fault <;> exact nofun

theorem leavesPhotos_withBody {α : Type} {r : Record α} {act : α → Response × Site}
    (h : ∀ a, s.LeavesPhotos (act a)) : s.LeavesPhotos (withBody r req s act) := by
  unfold withBody
  split
  · exact h _
  · rename_i he
    exact .refuse (status_of_jsonBody he)

theorem leavesPhotos_authenticated {act : Identity → Response × Site} (h : ∀ who, s.LeavesPhotos (act who)) :
    s.LeavesPhotos (s.authenticated req act) := by
  unfold authenticated
  split
  · exact h _
  · exact .refuse nofun

theorem leavesPhotos_register (c : Credentials) (s : Site) : s.LeavesPhotos (s.register c) := by
  have h201 : (201 : Nat) ≠ 204 := by decide
  have h400 : (400 : Nat) ≠ 204 := by decide
  have h500 : (500 : Nat) ≠ 204 := by decide
  simp only [register]
  split_ifs
  · exact .refuse h400
  · cases hcreated :
      s.server.store.createUser (trimmed c.username) (hashPassword s.nextSalt c.password) s.server.now with
    | ok created => exact ⟨⟨Store.samePhotos_createUser hcreated, rfl, rfl⟩, h201⟩
    | error e =>
      cases e with
      | usernameTaken => exact ⟨⟨.refl _, rfl, rfl⟩, h400⟩
      | _ => exact ⟨⟨.refl _, rfl, rfl⟩, h500⟩

theorem leavesPhotos_login (c : Credentials) (s : Site) : s.LeavesPhotos (s.login c, s) := by
  refine .refuse ?_
  unfold login
  split
  · exact nofun
  · exact nofun
  · split <;> exact nofun

theorem leavesPhotos_refresh (token : String) (s : Site) : s.LeavesPhotos (s.refresh token, s) := by
  refine .refuse ?_
  unfold refresh
  split
  · exact nofun
  · split <;> exact nofun

theorem leavesPhotos_directRoom (who : Identity) (recipient : Option UserId) (s : Site) :
    s.LeavesPhotos (s.directRoom who recipient) := by
  unfold directRoom
  split
  · exact .refuse nofun
  · split
    · exact .refuse nofun
    · split
      · rename_i room server hroom
        refine ⟨⟨?_, rfl, rfl⟩, nofun⟩
        unfold Server.directRoom at hroom
        cases hstore : s.server.store.directRoom who.user _ (Server.roomId (s.server.roomsMade + 1)) s.server.now with
        | error e =>
          rw [hstore] at hroom
          cases hroom
        | ok found =>
          obtain ⟨found, store⟩ := found
          rw [hstore] at hroom
          cases hroom
          exact Store.samePhotos_directRoom hstore
      · exact .refuse nofun
      · exact .refuse nofun

theorem leavesPhotos_users (who : Identity) (s : Site) : s.LeavesPhotos (s.users who, s) := by
  refine .refuse ?_
  unfold users
  split <;> exact nofun

theorem leavesPhotos_profile (who : Identity) (s : Site) : s.LeavesPhotos (s.profile who, s) := by
  refine .refuse ?_
  unfold profile
  split <;> exact nofun

theorem leavesPhotos_serveFile (rest : List Char) (s : Site) : s.LeavesPhotos (s.serveFile rest, s) := by
  refine .refuse ?_
  simp only [serveFile]
  split_ifs <;> repeat' split
  all_goals exact nofun

theorem leavesPhotos_socket (req : Request) (s : Site) : s.LeavesPhotos (socketRefusal req, s) := by
  refine .refuse ?_
  unfold socketRefusal
  split
  · rename_i e he
    unfold queryToken at he
    split at he <;> cases he
    exact nofun
  · split_ifs <;> exact nofun

/-- What a request does to the photos. -/
inductive HandlesPhotos (s : Site) (req : Request) : Response × Site → Prop
  | left (response : Response) (s' : Site) (hsame : s.SamePhotos s') (hstatus : response.status ≠ 204)
    (hnew : req.photo? ≠ none → response.status ≠ 201) : HandlesPhotos s req (response, s')
  /-- The file is written, and the row is put in. -/
  | stored (part : FormPart) (who : Identity) (file url : String) (uploads : Uploads) (photo : Photo) (store : Store)
    (hpart : req.photo? = some part) (hwho : s.caller? req = some who)
    (hfile : file = photoFileName who.user s.nanos part.fileName)
    (hwrite : s.uploads.write? [file] part.data = some uploads)
    (hrow : s.server.store.addPhoto who.user file url s.server.now = .ok (photo, store)) :
    HandlesPhotos s req (.json 201 photo.toJson, { s with uploads, server := { s.server with store } })
  /-- The file is written, and as the row is not put in, it is removed again. -/
  | undone (part : FormPart) (who : Identity) (file : String) (uploads : Uploads) (hpart : req.photo? = some part)
    (hwho : s.caller? req = some who) (hfile : file = photoFileName who.user s.nanos part.fileName)
    (hwrite : s.uploads.write? [file] part.data = some uploads) :
    HandlesPhotos s req (.text 500 "Failed to save photo", { s with uploads := uploads.remove [file] })
  /-- The row is taken out, and the file is removed. -/
  | removed (who : Identity) (id : Int) (photo : Photo) (store : Store) (hnone : req.photo? = none)
    (hid : req.photoId? = some id) (hwho : s.caller? req = some who)
    (hrow : s.server.store.deletePhoto who.user id = .ok (photo, store)) :
    HandlesPhotos s req (.empty 204, { s with
      uploads := s.uploads.removeNamed photo.file, server := { s.server with store } })

theorem storePhoto_handles {who : Identity} {part : FormPart} (hpart : req.photo? = some part)
    (hwho : s.caller? req = some who) : s.HandlesPhotos req (s.storePhoto who part.fileName part.data) := by
  simp only [storePhoto]
  split
  · exact .left _ _ (.refl s) nofun fun _ => nofun
  · rename_i uploads hwrite
    split
    · rename_i photo store hrow
      exact .stored part who _ _ uploads photo store hpart hwho rfl hwrite hrow
    · exact .undone part who _ uploads hpart hwho rfl hwrite

/-- A form either brings a photo, which is stored, or is refused. -/
theorem uploadPhoto_cases (who : Identity) (req : Request) (s : Site) :
    (∃ part, req.photoPart? = some part ∧ s.uploadPhoto who req = s.storePhoto who part.fileName part.data) ∨
      req.photoPart? = none ∧ ∃ e, s.uploadPhoto who req = (e, s) ∧ e.status = 400 := by
  unfold uploadPhoto Request.photoPart?
  cases req.headers.mediaType?.bind MediaType.formBoundary? with
  | none => exact .inr ⟨rfl, _, rfl, rfl⟩
  | some boundary =>
    dsimp only
    cases findPart photoMaxBytes boundary "photo" req.body with
    | error e => exact .inr ⟨rfl, _, rfl, rfl⟩
    | ok found =>
      cases found with
      | none => exact .inr ⟨rfl, _, rfl, rfl⟩
      | some part =>
        dsimp only
        by_cases hbytes : part.data.size = 0
        · rw [if_pos hbytes, if_pos hbytes]
          exact .inr ⟨rfl, _, rfl, rfl⟩
        · rw [if_neg hbytes, if_neg hbytes]
          exact .inl ⟨part, rfl, rfl⟩

theorem uploadPhoto_handles {who : Identity} (hpart : req.photo? = req.photoPart?) (hwho : s.caller? req = some who) :
    s.HandlesPhotos req (s.uploadPhoto who req) := by
  rcases uploadPhoto_cases who req s with ⟨part, hfound, hstores⟩ | ⟨-, e, hrefuses, hstatus⟩
  · rw [hstores]
    exact storePhoto_handles (hpart.trans hfound) hwho
  · rw [hrefuses]
    exact .left _ _ (.refl s) (by omega) fun _ => by omega

/-- A photo that a caller sends is stored. -/
theorem handle_of_photo {part : FormPart} {who : Identity} (hpart : req.photo? = some part)
    (hwho : s.caller? req = some who) : s.handle req = s.storePhoto who part.fileName part.data := by
  unfold Request.photo? at hpart
  split at hpart
  · rename_i hput
    obtain ⟨hmethod, hpath⟩ := hput
    rcases uploadPhoto_cases who req s with ⟨part', hfound, hstores⟩ | ⟨hnone, -⟩
    · cases hfound.symm.trans hpart
      have hserve : s.serve .photoUpload req = s.storePhoto who part.fileName part.data := by
        simp only [serve, authenticated, hwho, hstores]
      have hpass : s.passGate .photoUpload req = .ok s := by simp [passGate, Route.isLimited]
      have hanswers : Route.photoUpload.methods.contains req.method = true := by simp [Route.methods, hmethod]
      have hoptions : req.method ≠ "OPTIONS" := by simp [hmethod]
      have hhead : req.method ≠ "HEAD" := by simp [hmethod]
      simp only [handle, hpath, hpass, hserve, hanswers, if_neg hoptions, if_neg hhead, if_true]
    · rw [hnone] at hpart
      cases hpart
  · cases hpart

theorem deletePhoto_handles {who : Identity} {id : List Char} (hpath : Route.ofPath? req.path = some (.photoDelete id))
    (hwho : s.caller? req = some who) : s.HandlesPhotos req (s.deletePhoto who id) := by
  have hnone : req.photo? = none := by simp [Request.photo?, hpath]
  unfold deletePhoto
  split
  · exact .left _ _ (.refl s) nofun fun h => absurd hnone h
  · rename_i text htext
    split
    · exact .left _ _ (.refl s) nofun fun h => absurd hnone h
    · rename_i n hn
      split_ifs
      · exact .left _ _ (.refl s) nofun fun h => absurd hnone h
      · split
        · rename_i photo store hrow
          refine .removed who n photo store hnone ?_ hwho hrow
          simp only [Request.photoId?, hpath, htext, Option.bind_some, hn]
        · exact .left _ _ (.refl s) nofun fun h => absurd hnone h
        · exact .left _ _ (.refl s) nofun fun h => absurd hnone h

theorem authenticated_handles {act : Identity → Response × Site}
    (h : ∀ who, s.caller? req = some who → s.HandlesPhotos req (act who)) :
    s.HandlesPhotos req (s.authenticated req act) := by
  unfold authenticated
  split
  · rename_i who hwho
    exact h who hwho
  · exact .left _ _ (.refl s) nofun fun _ => nofun

/-- Where no photo is sent or removed, none is stored and none is gone. -/
theorem serve_leavesPhotos {route : Route} (hupload : route ≠ .photoUpload) (hdelete : ∀ id, route ≠ .photoDelete id) :
    s.LeavesPhotos (s.serve route req) := by
  cases route with
  | register => exact leavesPhotos_withBody fun c => leavesPhotos_register c s
  | login => exact leavesPhotos_withBody fun c => leavesPhotos_login c s
  | refresh => exact leavesPhotos_withBody fun token => leavesPhotos_refresh token s
  | directRoom =>
    exact leavesPhotos_authenticated fun who =>
      leavesPhotos_withBody fun recipient => leavesPhotos_directRoom who recipient s
  | users => exact leavesPhotos_authenticated fun who => leavesPhotos_users who s
  | profile => exact leavesPhotos_authenticated fun who => leavesPhotos_profile who s
  | photoUpload => exact absurd rfl hupload
  | photoDelete id => exact absurd rfl (hdelete id)
  | socket => exact leavesPhotos_socket req s
  | health => exact .refuse nofun
  | uploads rest => exact leavesPhotos_serveFile rest s

theorem status_withoutBody (r : Response) : r.withoutBody.status = r.status := by
  unfold Response.withoutBody
  split <;> rfl

/-- The limiter has nothing to do with photos. -/
theorem LeavesPhotos.of_passGate {route : Route} (hpass : s.passGate route req = .ok s') {result : Response × Site}
    (h : s'.LeavesPhotos result) : s.LeavesPhotos result := by
  have hgate := passGate_eq_ok hpass
  have hstore : s'.server = s.server := by rw [hgate]
  have huploads : s'.uploads = s.uploads := by rw [hgate]
  have hsecret : s'.secret = s.secret := by rw [hgate]
  refine ⟨⟨⟨?_, ?_⟩, h.same.uploads.trans huploads, h.same.secret.trans hsecret⟩, h.status⟩
  · rw [h.same.rows.rows, hstore]
  · rw [h.same.rows.last, hstore]

theorem status_of_passGate {route : Route} {e : Response} (h : s.passGate route req = .error e) :
    e.status = 500 ∨ e.status = 429 := by
  unfold passGate at h
  split at h
  · split at h
    · cases h
      exact .inl rfl
    · split at h <;> cases h
      exact .inr rfl
  · cases h

/-- What an endpoint that answers the method does, once the limiter has let the request pass. -/
theorem serve_handles {route : Route} (hpath : Route.ofPath? req.path = some route)
    (hmethod : route.methods.contains req.method = true) (hpass : s.passGate route req = .ok s') :
    s.HandlesPhotos req (if req.method = "HEAD" then (s'.serve route req).1.withoutBody else (s'.serve route req).1,
      (s'.serve route req).2) := by
  by_cases hupload : route = .photoUpload
  · subst hupload
    have hput : req.method = "PUT" := by simpa [Route.methods] using hmethod
    have hpart : req.photo? = req.photoPart? := if_pos ⟨hput, hpath⟩
    obtain rfl : s = s' := by simpa [passGate, Route.isLimited] using hpass
    rw [if_neg (by simp [hput])]
    exact authenticated_handles fun who hwho => uploadPhoto_handles hpart hwho
  by_cases hdelete : ∃ id, route = .photoDelete id
  · obtain ⟨id, rfl⟩ := hdelete
    have hmethod : req.method = "DELETE" := by simpa [Route.methods] using hmethod
    obtain rfl : s = s' := by simpa [passGate, Route.isLimited] using hpass
    rw [if_neg (by simp [hmethod])]
    exact authenticated_handles fun who hwho => deletePhoto_handles hpath hwho
  · have hnone : req.photo? = none := by simp [Request.photo?, hpath, hupload]
    have hleaves : s.LeavesPhotos (s'.serve route req) :=
      (serve_leavesPhotos hupload fun id hid => hdelete ⟨id, hid⟩).of_passGate hpass
    refine .left _ _ hleaves.same ?_ fun h => absurd hnone h
    split
    · rw [status_withoutBody]
      exact hleaves.status
    · exact hleaves.status

/-- **What any request does to the photos.** -/
theorem handlesPhotos (s : Site) (req : Request) : s.HandlesPhotos req (s.handle req) := by
  unfold handle
  by_cases hoptions : req.method = "OPTIONS"
  · rw [if_pos hoptions]
    exact .left _ _ (.refl s) nofun fun _ => nofun
  · rw [if_neg hoptions]
    split
    · exact .left _ _ (.refl s) nofun fun _ => nofun
    · rename_i route hpath
      split
      · rename_i e hrefused
        have hstatus := status_of_passGate hrefused
        exact .left _ _ (.refl s) (by omega) fun _ => by omega
      · rename_i s' hpass
        by_cases hmethod : route.methods.contains req.method = true
        · rw [if_pos hmethod]
          exact serve_handles hpath hmethod hpass
        · rw [if_neg hmethod]
          have hleaves : s'.LeavesPhotos (.empty 405, s') := .refuse nofun
          exact .left _ _ (hleaves.of_passGate hpass).same nofun fun _ => nofun

end Site

end DirectChat
