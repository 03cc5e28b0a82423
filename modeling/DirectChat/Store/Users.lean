import DirectChat.Store.Basic
/-!
# Users and their photos
-/

namespace DirectChat

namespace Store

/-- The user of an identifier. -/
def findUser (s : Store) (id : UserId) : Option User := s.users.find? (·.id = id)

/-- The user of a name. -/
def findName (s : Store) (name : String) : Option User := s.users.find? (·.username = name)

/-- The photos of a user, oldest first. -/
def photosOf (s : Store) (id : UserId) : List Photo :=
  (s.photos.filter (·.user = id)).mergeSort fun p q =>
    p.createdAt < q.createdAt || (p.createdAt == q.createdAt && p.id ≤ q.id)

/-- Adds a user under a name that no other user has. -/
def createUser (s : Store) (name passwordHash : String) (now : Int) :
    Except StoreError (UserInfo × Store) := do
  s.require [.users]
  if (s.findName name).isSome then .error .usernameTaken
  else
    let user : User := ⟨s.lastUser + 1, name, passwordHash, now⟩
    return (user.info, { s with users := s.users ++ [user], lastUser := s.lastUser + 1 })

/-- What is needed to log a user in. -/
def credentials (s : Store) (name : String) : Except StoreError (Option User) := do
  s.require [.users]
  return s.findName name

/-- The user of an identifier, if there is one. -/
def userInfo (s : Store) (id : UserId) : Except StoreError (Option UserInfo) := do
  s.require [.users]
  return (s.findUser id).map User.info

/-- All users, by identifier. -/
def listUsers (s : Store) : Except StoreError (List UserInfo) := do
  s.require [.users]
  return (s.users.mergeSort fun u v => u.id ≤ v.id).map User.info

/-- The photos of a user, oldest first. -/
def userPhotos (s : Store) (id : UserId) : Except StoreError (List Photo) := do
  s.require [.photos]
  return s.photosOf id

/-- A user with their photos, if there is one. -/
def profile (s : Store) (id : UserId) : Except StoreError (Option Profile) := do
  s.require [.users]
  match s.findUser id with
  | none => return none
  | some user =>
    s.require [.photos]
    return some ⟨user.info, s.photosOf id⟩

/-- Records a photo of a user. -/
def addPhoto (s : Store) (user : UserId) (file url : String) (now : Int) :
    Except StoreError (Photo × Store) := do
  s.require [.photos, .users]
  if (s.findUser user).isNone then .error .database
  else
    let photo : Photo := ⟨s.lastPhoto + 1, user, file, url, now⟩
    return (photo, { s with photos := s.photos ++ [photo], lastPhoto := s.lastPhoto + 1 })

/-- Removes a photo that the user owns. -/
def deletePhoto (s : Store) (user : UserId) (id : Int) : Except StoreError (Photo × Store) := do
  s.require [.photos]
  match s.photos.find? fun p => p.id = id ∧ p.user = user with
  | none => .error (.notFound .photo)
  | some photo =>
    s.require [.users]
    return (photo, { s with photos := s.photos.filter (·.id ≠ id) })

/-- Removes a user, their places in rooms and their photos. -/
def deleteUser (s : Store) (id : UserId) : Except StoreError Store := do
  s.require (.users :: if s.missing.contains .participants then [] else [.rooms])
  return { s with
    users := s.users.filter (·.id ≠ id)
    participants := s.participants.filter (·.user ≠ id)
    photos := s.photos.filter (·.user ≠ id) }

end Store

end DirectChat
