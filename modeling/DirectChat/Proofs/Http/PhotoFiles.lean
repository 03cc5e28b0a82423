import DirectChat.Proofs.Http.Access
import DirectChat.Proofs.Http.Photos
/-!
# Photos and their files stay in step

As long as no user sends two photos at one moment, no file is written over another. Then the files are those of the rows,
each with the bytes that were sent for the row, through any requests and whatever else becomes of the store
(`Site.InStep`, `Site.inStep_after`); a photo that is removed goes with its file, and a request that fails changes
nothing of both (`Site.photos_and_files_in_step`).
-/

namespace DirectChat

namespace Site

/-- The site at a moment in Unix nanoseconds. -/
def atNanos (s : Site) (moment : Int) : Site :=
  { s.atTime (moment / 1000000) with nanosPast := ⟨(moment % 1000000).toNat, by omega⟩ }

theorem nanos_atNanos (s : Site) (moment : Int) : (s.atNanos moment).nanos = nanosOf moment := by
  have hmoment : moment / 1000000 * 1000000 + ((moment % 1000000).toNat : Int) = moment := by omega
  exact congrArg nanosOf hmoment

/-- What happens to a site. -/
inductive PhotoTurn
  /-- A request comes in at a moment in Unix nanoseconds. -/
  | asks (moment : Int) (req : Request)
  /-- The store becomes another one, faults included, except for its photos. -/
  | elsewhere (store : Store)

namespace PhotoTurn

/-- What the site is then. -/
def act (s : Site) : PhotoTurn → Site
  | .asks moment req => ((s.atNanos moment).handle req).2
  | .elsewhere store => { s with server := { s.server with
      store := { store with photos := s.server.store.photos, lastPhoto := s.server.store.lastPhoto } } }

end PhotoTurn

/-- The site after it has happened. -/
def afterTurns (s : Site) (turns : List PhotoTurn) : Site := turns.foldl PhotoTurn.act s

/-- Who sends a photo, and what the clock then shows in nanoseconds. -/
def sends? (s : Site) : PhotoTurn → Option (UserId × Int)
  | .asks moment req => if req.photo?.isSome then
      ((s.atNanos moment).caller? req).map fun who => (who.user, nanosOf moment)
    else none
  | .elsewhere _ => none

/-- A request sends these bytes, and is answered that they are stored as this photo. -/
def Stores (s : Site) (x : PhotoTurn) (photo : Photo) (bytes : ByteArray) : Prop :=
  ∃ moment req part, x = .asks moment req ∧ req.photo? = some part ∧ part.data = bytes ∧
    ((s.atNanos moment).handle req).1 = .json 201 photo.toJson

/-- These bytes have been stored as this photo. -/
def Stored (s : Site) (turns : List PhotoTurn) (photo : Photo) (bytes : ByteArray) : Prop :=
  Run.Sometime PhotoTurn.act (fun s x => s.Stores x photo bytes) s turns

variable {s s₀ s' : Site} {turns : List PhotoTurn} {x : PhotoTurn} {photo : Photo} {bytes : ByteArray}

theorem stored_snoc : s.Stored (turns ++ [x]) photo bytes ↔
    s.Stored turns photo bytes ∨ (s.afterTurns turns).Stores x photo bytes := Run.sometime_snoc

theorem stored_cons : s.Stored (x :: turns) photo bytes ↔ s.Stores x photo bytes ∨ (x.act s).Stored turns photo bytes :=
  Iff.rfl

theorem afterTurns_snoc (s : Site) (turns : List PhotoTurn) (x : PhotoTurn) :
    s.afterTurns (turns ++ [x]) = x.act (s.afterTurns turns) := List.foldl_append ..

theorem afterTurns_cons (s : Site) (x : PhotoTurn) (turns : List PhotoTurn) :
    s.afterTurns (x :: turns) = (x.act s).afterTurns turns := rfl

theorem act_asks (s : Site) (moment : Int) (req : Request) :
    (PhotoTurn.asks moment req).act s = ((s.atNanos moment).handle req).2 := rfl

theorem toJson_photo_inj {p q : Photo} (h : p.toJson = q.toJson) : p = q := by
  obtain ⟨id, user, file, url, createdAt⟩ := p
  obtain ⟨id', user', file', url', createdAt'⟩ := q
  simpa [Photo.toJson, Json.record, Json.int, Json.text] using h

theorem stores_asks {moment : Int} {req : Request} : s.Stores (.asks moment req) photo bytes ↔
    ∃ part, req.photo? = some part ∧ part.data = bytes ∧ ((s.atNanos moment).handle req).1 = .json 201 photo.toJson := by
  constructor
  · rintro ⟨_, _, part, hsame, hrest⟩
    cases hsame
    exact ⟨part, hrest⟩
  · rintro ⟨part, hrest⟩
    exact ⟨moment, req, part, rfl, hrest⟩

/-- Who a request comes from at a moment is told by the key alone. -/
theorem caller?_atNanos (hsecret : s.secret = s₀.secret) (moment : Int) (req : Request) :
    (s.atNanos moment).caller? req = (s₀.atNanos moment).caller? req := by
  simp only [caller?, atNanos, atTime, hsecret]

theorem handle_atNanos_of_photo {moment : Int} {req : Request} {part : FormPart} {who : Identity}
    (hpart : req.photo? = some part) (hwho : (s.atNanos moment).caller? req = some who) :
    (s.atNanos moment).handle req = (s.atNanos moment).storePhoto who part.fileName part.data :=
  handle_of_photo hpart hwho

theorem sends?_asks {moment : Int} {req : Request} {part : FormPart} {who : Identity} (hsecret : s.secret = s₀.secret)
    (hpart : req.photo? = some part) (hwho : (s.atNanos moment).caller? req = some who) :
    s₀.sends? (.asks moment req) = some (who.user, nanosOf moment) := by
  rw [caller?_atNanos hsecret] at hwho
  simp only [sends?, hpart, hwho, Option.isSome_some, if_true, Option.map_some]

/-- The rows and the files after what has happened: every file is that of a row, and holds what was sent for it. -/
structure InStep (s₀ : Site) (turns : List PhotoTurn) (s : Site) : Prop where
  /-- The files are those that the rows name, and there are no folders. -/
  files : ∀ path, (s.uploads.read? path).isSome ↔ ∃ p ∈ s.server.store.photos, path = [p.file]
  folders : s.uploads.folders = []
  /-- No two rows have one file. -/
  owners : (s.server.store.photos.map (·.file)).Nodup
  ids : (s.server.store.photos.map (·.id)).Nodup
  /-- The bytes of a row's file are those that were sent for it. -/
  bytes : ∀ p ∈ s.server.store.photos, ∃ bytes, s.uploads.read? [p.file] = some bytes ∧
    ∀ sent, s₀.Stored turns p sent ↔ sent = bytes

/-- What else remains so. -/
structure Stepping (s₀ : Site) (turns : List PhotoTurn) (s : Site) : Prop extends InStep s₀ turns s where
  secret : s.secret = s₀.secret
  writable : s.uploads.blocked = false
  /-- The number of a photo that was stored is not given out again. -/
  numbers : ∀ p bytes, s₀.Stored turns p bytes → ∃ n ≤ s.server.store.lastPhoto, p.id = Int.ofNat n
  /-- The file of a photo is named for the moment at which its owner sent it. -/
  names : ∀ p ∈ s.server.store.photos, ∃ nanos clientName, p.file = photoFileName p.user nanos clientName ∧
    (p.user, nanos) ∈ turns.filterMap s₀.sends?

theorem stepping_start (hstore : s.server.store = .empty) (huploads : s.uploads = .empty) : Stepping s [] s where
  files path := by simp [hstore, huploads, Store.empty, Uploads.empty, Uploads.read?]
  folders := by rw [huploads]; rfl
  owners := by simp [hstore, Store.empty]
  ids := by simp [hstore, Store.empty]
  bytes := by simp [hstore, Store.empty]
  secret := rfl
  writable := by rw [huploads]; rfl
  numbers p bytes h := h.elim
  names := by simp [hstore, Store.empty]

namespace Stepping

/-- Nothing is stored or removed. -/
theorem keep (h : Stepping s₀ turns s) (hsame : s.SamePhotos s')
    (hnew : ∀ p bytes, s₀.Stored (turns ++ [x]) p bytes → s₀.Stored turns p bytes) :
    Stepping s₀ (turns ++ [x]) s' where
  files path := by
    rw [hsame.uploads, hsame.rows.rows]
    exact h.files path
  folders := hsame.uploads ▸ h.folders
  owners := hsame.rows.rows ▸ h.owners
  ids := hsame.rows.rows ▸ h.ids
  bytes p hp := by
    obtain ⟨bytes, hread, hsent⟩ := h.bytes p (hsame.rows.rows ▸ hp)
    refine ⟨bytes, hsame.uploads ▸ hread, fun sent => ⟨fun hstored => (hsent sent).1 (hnew p sent hstored), ?_⟩⟩
    exact fun heq => stored_snoc.2 (.inl ((hsent sent).2 heq))
  secret := hsame.secret.trans h.secret
  writable := hsame.uploads ▸ h.writable
  numbers p bytes hstored := by
    rw [hsame.rows.last]
    exact h.numbers p bytes (hnew p bytes hstored)
  names p hp := by
    obtain ⟨nanos, clientName, hfile, hsent⟩ := h.names p (hsame.rows.rows ▸ hp)
    refine ⟨nanos, clientName, hfile, ?_⟩
    rw [List.filterMap_append]
    exact List.mem_append_left _ hsent

/-- A photo that is sent at a moment of its own has a file of its own. -/
theorem fresh (h : Stepping s₀ turns s) {user : UserId} {nanos : Int} (hnew : (user, nanos) ∉ turns.filterMap s₀.sends?)
    (clientName : Option String) :
    (∀ p ∈ s.server.store.photos, p.file ≠ photoFileName user nanos clientName) ∧
      s.uploads.files.get? [photoFileName user nanos clientName] = none := by
  have hother : ∀ p ∈ s.server.store.photos, p.file ≠ photoFileName user nanos clientName := by
    intro p hp hfile
    obtain ⟨nanos', clientName', hname, hsent⟩ := h.names p hp
    obtain ⟨huser, rfl⟩ := photoFileName_inj (hname.symm.trans hfile)
    exact hnew (huser ▸ hsent)
  refine ⟨hother, ?_⟩
  rw [← Option.not_isSome_iff_eq_none]
  intro hthere
  obtain ⟨p, hp, hpath⟩ := (h.files _).1 hthere
  exact hother p hp (List.cons.inj hpath).1.symm

/-- A photo is stored: its file is written, and its row is put in. -/
theorem store (h : Stepping s₀ turns s) {user : UserId} {nanos : Int} (hsent : s₀.sends? x = some (user, nanos))
    (hnew : (user, nanos) ∉ turns.filterMap s₀.sends?) {clientName : Option String}
    (hid : photo.id = s.server.store.lastPhoto + 1) (huser : photo.user = user)
    (hfile : photo.file = photoFileName user nanos clientName)
    (hrows : s'.server.store.photos = s.server.store.photos ++ [photo])
    (hlast : s'.server.store.lastPhoto = s.server.store.lastPhoto + 1)
    (huploads : s'.uploads = { s.uploads with files := s.uploads.files.insert [photo.file] bytes })
    (hsecret : s'.secret = s.secret)
    (hstores : ∀ p sent, s₀.Stored (turns ++ [x]) p sent ↔ s₀.Stored turns p sent ∨ p = photo ∧ sent = bytes) :
    Stepping s₀ (turns ++ [x]) s' := by
  obtain ⟨hother, hfree⟩ := h.fresh hnew clientName
  rw [← hfile] at hother hfree
  have hread : ∀ path, s'.uploads.read? path = if path = [photo.file] then some bytes else s.uploads.read? path := by
    intro path
    rw [huploads]
    exact Table.get?_insert ..
  -- The number of the photo is greater than those of all before it.
  have hgreater : ∀ p sent, s₀.Stored turns p sent → p.id ≠ photo.id := by
    intro p sent hstored hsame
    obtain ⟨n, hn, hpid⟩ := h.numbers p sent hstored
    rw [hid, hpid, Int.ofNat_eq_natCast] at hsame
    omega
  have hstored : ∀ p ∈ s.server.store.photos, ∃ sent, s₀.Stored turns p sent := fun p hp => by
    obtain ⟨sent, -, hsent⟩ := h.bytes p hp
    exact ⟨sent, (hsent sent).2 rfl⟩
  constructor
  · constructor
    · intro path
      rw [hread, hrows]
      split
      · rename_i hpath
        simp [hpath]
      · rename_i hpath
        rw [h.files]
        simp [hpath]
    · rw [huploads]
      exact h.folders
    · rw [hrows, List.map_append, List.nodup_append]
      refine ⟨h.owners, List.nodup_singleton _, fun a ha b hb => ?_⟩
      obtain ⟨p, hp, rfl⟩ := List.mem_map.1 ha
      rw [List.mem_singleton.1 hb]
      exact hother p hp
    · rw [hrows, List.map_append, List.nodup_append]
      refine ⟨h.ids, List.nodup_singleton _, fun a ha b hb => ?_⟩
      obtain ⟨p, hp, rfl⟩ := List.mem_map.1 ha
      obtain ⟨sent, hsent⟩ := hstored p hp
      rw [List.mem_singleton.1 hb]
      exact hgreater p sent hsent
    · intro p hp
      rw [hrows, List.mem_append, List.mem_singleton] at hp
      rcases hp with hp | rfl
      · obtain ⟨old, hold, hsent⟩ := h.bytes p hp
        have hne : p ≠ photo := fun hsame => hgreater p old ((hsent old).2 rfl) (congrArg Photo.id hsame)
        refine ⟨old, ?_, fun sent => ?_⟩
        · rw [hread, if_neg (by simpa [hfile] using hother p hp), hold]
        · rw [hstores, hsent]
          simp [hne]
      · refine ⟨bytes, by rw [hread, if_pos rfl], fun sent => ?_⟩
        rw [hstores]
        have hnever : ¬ s₀.Stored turns p sent := fun hstored => hgreater p sent hstored rfl
        simp [hnever]
  · exact hsecret.trans h.secret
  · rw [huploads]
    exact h.writable
  · intro p sent hsent
    rw [hlast]
    rcases (hstores p sent).1 hsent with hbefore | ⟨rfl, -⟩
    · obtain ⟨n, hn, hpid⟩ := h.numbers p sent hbefore
      exact ⟨n, Nat.le_succ_of_le hn, hpid⟩
    · exact ⟨s.server.store.lastPhoto + 1, Nat.le_refl _, hid⟩
  · intro p hp
    rw [List.filterMap_append, List.filterMap_cons_some hsent, List.filterMap_nil]
    rw [hrows, List.mem_append, List.mem_singleton] at hp
    rcases hp with hp | rfl
    · obtain ⟨nanos', clientName', hname, hin⟩ := h.names p hp
      exact ⟨nanos', clientName', hname, List.mem_append_left _ hin⟩
    · exact ⟨nanos, clientName, by rw [huser, hfile], by rw [huser]; simp⟩

/-- A photo is removed: its row is taken out, and its file is removed. -/
theorem remove (h : Stepping s₀ turns s) {front back : List Photo}
    (hbefore : s.server.store.photos = front ++ photo :: back) (hrows : s'.server.store.photos = front ++ back)
    (hlast : s'.server.store.lastPhoto = s.server.store.lastPhoto)
    (huploads : s'.uploads = s.uploads.remove [photo.file]) (hsecret : s'.secret = s.secret)
    (hstores : ∀ p sent, s₀.Stored (turns ++ [x]) p sent ↔ s₀.Stored turns p sent) :
    Stepping s₀ (turns ++ [x]) s' := by
  have hread : ∀ path, s'.uploads.read? path = if path = [photo.file] then none else s.uploads.read? path := by
    intro path
    rw [huploads]
    exact Table.get?_erase ..
  have hsub : (front ++ back).Sublist s.server.store.photos := by
    rw [hbefore]
    exact (List.Sublist.refl front).append (List.sublist_cons_self photo back)
  have hkept : ∀ p ∈ front ++ back, p.file ≠ photo.file := by
    intro p hp hsame
    have howners := h.owners
    rw [hbefore, List.map_append, List.map_cons] at howners
    have howners := (List.nodup_middle.1 howners)
    rw [← List.map_append, List.nodup_cons] at howners
    exact howners.1 (hsame ▸ List.mem_map_of_mem hp)
  constructor
  · constructor
    · intro path
      rw [hread, hrows]
      split
      · rename_i hpath
        constructor
        · exact nofun
        · rintro ⟨p, hp, rfl⟩
          exact absurd (List.cons.inj hpath).1 (hkept p hp)
      · rename_i hpath
        rw [h.files, hbefore]
        constructor
        · rintro ⟨p, hp, rfl⟩
          refine ⟨p, ?_, rfl⟩
          rcases List.mem_append.1 hp with hp | hp
          · exact List.mem_append_left _ hp
          · rcases List.mem_cons.1 hp with rfl | hp
            · exact absurd rfl hpath
            · exact List.mem_append_right _ hp
        · rintro ⟨p, hp, rfl⟩
          exact ⟨p, hbefore ▸ hsub.subset hp, rfl⟩
    · rw [huploads]
      exact h.folders
    · rw [hrows]
      exact (hsub.map _).nodup h.owners
    · rw [hrows]
      exact (hsub.map _).nodup h.ids
    · intro p hp
      rw [hrows] at hp
      obtain ⟨bytes, hold, hsent⟩ := h.bytes p (hsub.subset hp)
      refine ⟨bytes, ?_, fun sent => (hstores p sent).trans (hsent sent)⟩
      rw [hread, if_neg (by simpa using hkept p hp), hold]
  · exact hsecret.trans h.secret
  · rw [huploads]
    exact h.writable
  · intro p sent hsent
    rw [hlast]
    exact h.numbers p sent ((hstores p sent).1 hsent)
  · intro p hp
    rw [hrows] at hp
    obtain ⟨nanos, clientName, hname, hin⟩ := h.names p (hsub.subset hp)
    rw [List.filterMap_append]
    exact ⟨nanos, clientName, hname, List.mem_append_left _ hin⟩

end Stepping

/-! ## Requests, one after the other -/

/-- What a request that is answered has done to the rows and the files. -/
structure Answers (s : Site) (moment : Int) (req : Request) (result : Response × Site) : Prop where
  /-- A photo of the caller, the one that was asked for, is gone, its row and its file, and nothing else. -/
  removed : result.1.status = 204 → ∃ who photo front back, (s.atNanos moment).caller? req = some who ∧
    req.photoId? = some photo.id ∧ photo.user = who.user ∧ s.server.store.photos = front ++ photo :: back ∧
    result.2.server.store.photos = front ++ back ∧ (s.uploads.read? [photo.file]).isSome ∧
    ∀ path, result.2.uploads.read? path = if path = [photo.file] then none else s.uploads.read? path
  /-- Nothing was changed. -/
  failed : 400 ≤ result.1.status →
    result.2.server.store.photos = s.server.store.photos ∧ result.2.uploads = s.uploads

namespace Stepping

theorem asks (h : Stepping s₀ turns s) (hs : s = s₀.afterTurns turns) {moment : Int} {req : Request}
    (hapart : ((turns ++ [PhotoTurn.asks moment req]).filterMap s₀.sends?).Nodup) :
    Stepping s₀ (turns ++ [.asks moment req]) ((s.atNanos moment).handle req).2 ∧
      s.Answers moment req ((s.atNanos moment).handle req) := by
  have hhandles := (s.atNanos moment).handlesPhotos req
  have hstored : ∀ p sent, s₀.Stored (turns ++ [.asks moment req]) p sent ↔ s₀.Stored turns p sent ∨
      ∃ part, req.photo? = some part ∧ part.data = sent ∧ ((s.atNanos moment).handle req).1 = .json 201 p.toJson := by
    intro p sent
    rw [stored_snoc, ← hs, stores_asks]
  rw [List.filterMap_append, List.nodup_append] at hapart
  have hnew : ∀ user nanos, s₀.sends? (.asks moment req) = some (user, nanos) →
      (user, nanos) ∉ turns.filterMap s₀.sends? := by
    intro user nanos hsends hin
    exact hapart.2.2 _ hin (user, nanos) (by simp [hsends]) rfl
  have hclock := nanos_atNanos s moment
  generalize (s.atNanos moment).handle req = result at hhandles hstored ⊢
  cases hhandles with
  | left response s' hsame hstatus hnone =>
    have hsame : s.SamePhotos s' := ⟨⟨hsame.rows.rows, hsame.rows.last⟩, hsame.uploads, hsame.secret⟩
    refine ⟨h.keep hsame fun p sent hsent => ?_, fun h204 => absurd h204 hstatus, fun _ => ?_⟩
    · rcases (hstored p sent).1 hsent with hbefore | ⟨part, hpart, -, hresponse⟩
      · exact hbefore
      · exact absurd (congrArg Response.status hresponse) (hnone (by simp [hpart]))
    · exact ⟨hsame.rows.rows, hsame.uploads⟩
  | stored part who file url uploads photo store hpart hwho hfile hwrite hrow =>
    have hsends := sends?_asks h.secret hpart hwho
    rw [hclock] at hfile
    obtain ⟨hphoto, hstore⟩ := Store.addPhoto_eq_ok hrow
    have hphotoFile : photo.file = file := by rw [hphoto]
    replace hwrite : s.uploads.write? [file] part.data = some uploads := hwrite
    rw [Uploads.write?_flat h.writable h.folders] at hwrite
    have hfiles : uploads = { s.uploads with files := s.uploads.files.insert [photo.file] part.data } := by
      rw [hphotoFile]
      exact (Option.some.inj hwrite).symm
    have hstores : ∀ p sent, s₀.Stored (turns ++ [.asks moment req]) p sent ↔
        s₀.Stored turns p sent ∨ p = photo ∧ sent = part.data := by
      intro p sent
      rw [hstored]
      refine or_congr Iff.rfl ⟨?_, ?_⟩
      · rintro ⟨part', hpart', rfl, hresponse⟩
        cases hpart.symm.trans hpart'
        exact ⟨(toJson_photo_inj (json_inj hresponse)).symm, rfl⟩
      · rintro ⟨rfl, rfl⟩
        exact ⟨part, hpart, rfl, rfl⟩
    refine ⟨h.store hsends (hnew _ _ hsends) (by rw [hphoto]; rfl) (by rw [hphoto]) (hphotoFile.trans hfile)
      (by rw [hstore]; rfl) (by rw [hstore]; rfl) hfiles rfl hstores, nofun, fun hfails => ?_⟩
    exact absurd hfails (by decide : ¬ 400 ≤ 201)
  | undone part who file uploads hpart hwho hfile hwrite =>
    have hsends := sends?_asks h.secret hpart hwho
    obtain ⟨-, hfree⟩ := h.fresh (hnew _ _ hsends) part.fileName
    rw [hclock] at hfile
    replace hwrite : s.uploads.write? [file] part.data = some uploads := hwrite
    rw [← hfile] at hfree
    rw [Uploads.write?_flat h.writable h.folders] at hwrite
    -- The file was not there before, so that it is as if it had never been written.
    have hundone : uploads.remove [file] = s.uploads := by
      rw [← Option.some.inj hwrite, Uploads.remove]
      exact congrArg (fun files => { s.uploads with files }) (Table.erase_insert_of_none hfree part.data)
    have hsame : s.SamePhotos { s.atNanos moment with uploads := uploads.remove [file] } := ⟨⟨rfl, rfl⟩, hundone, rfl⟩
    refine ⟨h.keep hsame fun p sent hsent => ?_, nofun, fun _ => ⟨rfl, hundone⟩⟩
    rcases (hstored p sent).1 hsent with hbefore | ⟨part', -, -, hresponse⟩
    · exact hbefore
    · exact absurd (congrArg Response.status hresponse) (by decide : (500 : Nat) ≠ 201)
  | removed who id photo store hnone hid hwho hrow =>
    obtain ⟨hin, rfl, huser, hstore⟩ := Store.deletePhoto_eq_ok hrow
    obtain ⟨front, back, hbefore⟩ := List.append_of_mem hin
    replace hbefore : s.server.store.photos = front ++ photo :: back := hbefore
    have hids := h.ids
    rw [hbefore] at hids
    have hrows : store.photos = front ++ back := by
      rw [hstore]
      exact (congrArg _ hbefore).trans (filter_ne_of_nodup hids)
    obtain ⟨nanos, clientName, hname, -⟩ := h.names photo hin
    have hremoved : s.uploads.removeNamed photo.file = s.uploads.remove [photo.file] := by
      rw [Uploads.removeNamed, hname, Uploads.named?_photoFileName]
    refine ⟨h.remove hbefore hrows (by rw [hstore]; rfl) hremoved rfl fun p sent => ?_, fun _ => ?_, fun hfails => ?_⟩
    · rw [hstored]
      refine or_iff_left ?_
      rintro ⟨part, hpart, -⟩
      rw [hnone] at hpart
      cases hpart
    · obtain ⟨bytes, hread, -⟩ := h.bytes photo hin
      refine ⟨who, photo, front, back, hwho, hid, huser, hbefore, hrows, by rw [hread]; rfl, fun path => ?_⟩
      show (s.uploads.removeNamed photo.file).read? path = _
      rw [hremoved]
      exact Table.get?_erase ..
    · exact absurd hfails (by decide : ¬ 400 ≤ 204)

theorem act (h : Stepping s₀ turns s) (hs : s = s₀.afterTurns turns) (x : PhotoTurn)
    (hapart : ((turns ++ [x]).filterMap s₀.sends?).Nodup) : Stepping s₀ (turns ++ [x]) (x.act s) := by
  cases x with
  | asks moment req => exact (h.asks hs hapart).1
  | elsewhere store =>
    refine h.keep ⟨⟨rfl, rfl⟩, rfl, rfl⟩ fun p sent hsent => (stored_snoc.1 hsent).resolve_right ?_
    rintro ⟨moment, req, part, hsame, -⟩
    cases hsame

end Stepping

theorem stepping_after (hstore : s.server.store = .empty) (huploads : s.uploads = .empty)
    (hapart : (turns.filterMap s.sends?).Nodup) : Stepping s turns (s.afterTurns turns) := by
  induction turns using List.reverseRecOn with
  | nil => exact stepping_start hstore huploads
  | append_singleton turns x ih =>
    have hbefore : (turns.filterMap s.sends?).Nodup := by
      rw [List.filterMap_append] at hapart
      exact hapart.of_append_left
    rw [afterTurns_snoc]
    exact (ih hbefore).act rfl x hapart

/-- **Photos and their files stay in step.** Take a site that begins without users and files, and let any requests come
in, from anybody and whether they are in order or not, while anything else may become of the store, as long as no user
sends two photos at one moment, in nanoseconds. Then at every moment between two requests the files in the upload
directory are those that the rows of photos name, each that of one row, with the bytes that were sent when the row was
put in. A request that is answered with 204 has removed one photo of its caller, the row and its file, and left the other
rows and files as they were; one that is answered with an error has left all of them so. -/
theorem photos_and_files_in_step (s : Site) (turns : List PhotoTurn) (hstore : s.server.store = .empty)
    (huploads : s.uploads = .empty) (hapart : (turns.filterMap s.sends?).Nodup) :
    ∀ before later, turns = before ++ later → InStep s before (s.afterTurns before) ∧
      ∀ moment req rest, later = .asks moment req :: rest →
        (s.afterTurns before).Answers moment req (((s.afterTurns before).atNanos moment).handle req) := by
  rintro before later rfl
  rw [List.filterMap_append] at hapart
  have hbefore := stepping_after hstore huploads hapart.of_append_left
  refine ⟨hbefore.toInStep, ?_⟩
  rintro moment req rest rfl
  refine (hbefore.asks rfl ?_).2
  rw [List.filterMap_append]
  refine (hapart.sublist ((List.Sublist.refl _).append ?_))
  exact List.Sublist.filterMap _ (List.singleton_sublist.2 List.mem_cons_self)

/-- Ann stores a photo, and sends it again a nanosecond later while the table of users is gone, so that it cannot be
recorded: the second file is not there afterwards, and the first is, with her bytes. -/
theorem photos_and_files_in_step_without_users :
    let s := start .default [7] 0
    let token := Token.issue [7] 0 .access ⟨1, "ann"⟩
    let form := "--b\r\nContent-Disposition: form-data; name=\"photo\"; filename=\"a.PNG\"\r\n\r\nxyz\r\n--b--\r\n".toUTF8
    let req : Request := ⟨"PUT", "/api/profile/photo",
      [⟨"Content-Type", "multipart/form-data; boundary=b"⟩, ⟨"Authorization", "Bearer " ++ token⟩], form, none⟩
    let users : Store := { Store.empty with users := [⟨1, "ann", "", 0⟩] }
    let before : List PhotoTurn := [.elsewhere users, .asks 2000001 req, .elsewhere { users with missing := [.users] }]
    let turns := before ++ [.asks 2000002 req]
    let photo : Photo := ⟨1, 1, "1_2000001.png", "/uploads/1_2000001.png", 2⟩
    turns.filterMap s.sends? = [(1, 2000001), (1, 2000002)] ∧
      (((s.afterTurns before).atNanos 2000002).handle req).1.status = 500 ∧
      (s.afterTurns turns).server.store.photos = [photo] ∧
      (s.afterTurns turns).uploads.read? ["1_2000001.png"] = some ⟨#[120, 121, 122]⟩ ∧
      (s.afterTurns turns).uploads.read? ["1_2000002.png"] = none := by
  intro s token form req users before turns photo
  have hphoto : (req.photo?.map fun p => (p.fileName, p.data)) = some (some "a.PNG", ⟨#[120, 121, 122]⟩) := by
    decide +kernel +zetaReduce
  obtain ⟨part, hpart, hvalues⟩ := Option.map_eq_some_iff.1 hphoto
  obtain ⟨hname, hdata⟩ := Prod.mk.inj hvalues
  have hcaller : ∀ {moment : Int}, (s.atNanos moment).Admits .access token ⟨1, "ann"⟩ →
      (s.atNanos moment).caller? req = some ⟨1, "ann"⟩ := by
    intro moment hadmits
    have hbearer : Header.lowered "Authorization" = "authorization" := by decide +kernel
    have hother : Header.lowered "Content-Type" ≠ "authorization" := by decide +kernel
    have hfield : req.headers.first? "authorization" = some ⟨"Authorization", "Bearer " ++ token⟩ :=
      (List.find?_cons_of_neg (by simpa using hother)).trans (List.find?_cons_of_pos (by simpa using hbearer))
    exact caller?_eq_some_iff.2 ⟨_, (bearerToken_of_field hfield).trans hadmits.presented_eq, hadmits⟩
  have hann : (s.atNanos 2000001).caller? req = some ⟨1, "ann"⟩ := hcaller <| Token.resolveKind_eq_ok_iff.1 <|
    (Token.resolveKind_issue [7] ⟨by decide, by decide, by decide, by decide⟩ 2 .access).trans (by decide)
  have hagain : (s.atNanos 2000002).caller? req = some ⟨1, "ann"⟩ := hcaller <| Token.resolveKind_eq_ok_iff.1 <|
    (Token.resolveKind_issue [7] ⟨by decide, by decide, by decide, by decide⟩ 2 .access).trans (by decide)
  have hsends : turns.filterMap s.sends? = [(1, 2000001), (1, 2000002)] := by
    show [PhotoTurn.elsewhere users, .asks 2000001 req, .elsewhere { users with missing := [.users] },
      .asks 2000002 req].filterMap s.sends? = _
    rw [List.filterMap_cons_none rfl, List.filterMap_cons_some (sends?_asks rfl hpart hann),
      List.filterMap_cons_none rfl, List.filterMap_cons_some (sends?_asks rfl hpart hagain)]
    rfl
  -- What the first request is answered, and what that leaves.
  have hfirst : ((PhotoTurn.act s (.elsewhere users)).atNanos 2000001).handle req =
      ((PhotoTurn.act s (.elsewhere users)).atNanos 2000001).storePhoto ⟨1, "ann"⟩ (some "a.PNG")
        ⟨#[120, 121, 122]⟩ := by
    have hsecret : (PhotoTurn.act s (.elsewhere users)).secret = s.secret := rfl
    have hhandled := handle_atNanos_of_photo hpart ((caller?_atNanos hsecret 2000001 req).trans hann)
    rwa [hname, hdata] at hhandled
  have hbefore : s.afterTurns before = PhotoTurn.act (((PhotoTurn.act s (.elsewhere users)).atNanos 2000001).storePhoto
      ⟨1, "ann"⟩ (some "a.PNG") ⟨#[120, 121, 122]⟩).2 (.elsewhere { users with missing := [.users] }) := by
    rw [afterTurns_cons, afterTurns_cons, afterTurns_cons, act_asks, hfirst]
    rfl
  have hfile : photoFileName 1 ((PhotoTurn.act s (.elsewhere users)).atNanos 2000001).nanos (some "a.PNG") =
      photo.file := by
    rw [nanos_atNanos]
    decide +kernel
  have hrows : (s.afterTurns before).server.store.photos = [photo] := by
    rw [hbefore]
    simp only [storePhoto, hfile]
    rfl
  -- What the second is answered.
  have hstatus : (((s.afterTurns before).atNanos 2000002).handle req).1.status = 500 := by
    have hsecret : (s.afterTurns before).secret = s.secret := by
      rw [hbefore]
      rfl
    have hhandled := handle_atNanos_of_photo hpart ((caller?_atNanos hsecret 2000002 req).trans hagain)
    rw [hhandled, hname, hdata, hbefore]
    rfl
  have hapart : (turns.filterMap s.sends?).Nodup := by
    rw [hsends]
    decide
  obtain ⟨hstep, -⟩ := photos_and_files_in_step s turns rfl rfl hapart turns [] (List.append_nil _).symm
  obtain ⟨-, hanswers⟩ := photos_and_files_in_step s turns rfl rfl hapart before _ rfl
  obtain ⟨hsameRows, -⟩ := (hanswers 2000002 req [] rfl).failed (by rw [hstatus]; decide)
  have hafter : (s.afterTurns turns).server.store.photos = [photo] := by
    rw [afterTurns_snoc, act_asks, hsameRows, hrows]
  refine ⟨hsends, hstatus, hafter, ?_, ?_⟩
  · obtain ⟨bytes, hread, hsent⟩ := hstep.bytes photo (by simp [hafter])
    have hstored : s.Stored turns photo ⟨#[120, 121, 122]⟩ :=
      stored_snoc.2 (.inl (stored_cons.2 (.inr (stored_cons.2 (.inl (stores_asks.2
        ⟨part, hpart, hdata, by rw [hfirst]; simp only [storePhoto, hfile]; rfl⟩))))))
    rw [(hsent _).1 hstored]
    exact hread
  · rw [← Option.not_isSome_iff_eq_none, hstep.files, hafter]
    rintro ⟨p, hp, hpath⟩
    rw [List.mem_singleton.1 hp] at hpath
    exact absurd hpath (by decide)

end Site

end DirectChat
