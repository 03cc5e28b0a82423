import DirectChat.Proofs.Chat.Coupling
/-!
# A frame in two parts

While a router handles a frame it may have to wait for the store, and others act in the meantime. So the
handling is cut in two. The first part takes the frame up (`Router.takeUp`): a join enters the room, a chat
is saved, a receipt marks messages, a list is looked up. What is left is a `Rest`, and finishing it is the
second part (`Router.finish`): the history is shown, the chat and the receipt are announced, the list is
sent. A router that goes on at once does what it does when it handles the frame whole (`dispatch_eq`).
-/

namespace DirectChat

/-- What is left to be done of a frame. -/
inductive Rest
  /-- The room was entered; its history is to be read and shown. -/
  | history (room : RoomId)
  /-- The message was saved; it is to be announced. -/
  | announce (m : Message)
  /-- So many messages of the room were marked as seen, up to a moment that the client named. -/
  | seen (room : RoomId) (timestamp : Int) (count : Nat)
  /-- The store failed to mark the messages of the room. -/
  | unseen (room : RoomId) (timestamp : Int) (reason : StoreError)
  /-- The user's rooms were found. -/
  | list (rooms : List RoomSummary)
deriving DecidableEq, Repr

/-- A frame that was taken up: the router, the server, and what is left to be done. -/
structure TakenUp where
  router : Router
  server : Server
  rest : Option Rest

namespace Router

theorem seenRoom_eq_some_iff {r : Router} {named : Option RoomId} {room : RoomId} :
    r.seenRoom named = some room ↔ r.room = some room ∨ r.room = none ∧ named = some room ∧ room ≠ "" := by
  unfold seenRoom
  cases r.room with
  | some current => simp
  | none => simp [Option.filter_eq_some_iff]

/-! ## The two parts -/

/-- Saves a chat. -/
def takeUpChat (r : Router) (f : ClientFrame) (sv : Server) : TakenUp :=
  match r.room with
  | none => ⟨r, sv, none⟩
  | some room =>
    let text := f.text.filter (· ≠ "")
    let voice := f.voice.filter (· ≠ "")
    if text.isNone ∧ voice.isNone then ⟨r, r.reply (.error emptyMessageText) sv, none⟩
    else match r.saveChat room text voice f.replyTo f.replyToId sv with
      | .error _ => ⟨r, sv, none⟩
      | .ok (m, sv) => ⟨r, sv, some (.announce m)⟩

/-- Marks messages as seen. -/
def takeUpSeen (r : Router) (f : ClientFrame) (sv : Server) : TakenUp :=
  match r.seenRoom f.room, f.timestamp.filter (· ≠ 0) with
  | some room, some ts =>
    match sv.store.markSeen room r.user (seenMillis ts) with
    | .ok (count, store) => ⟨r, { sv with store }, some (.seen room ts count)⟩
    | .error e => ⟨r, sv, some (.unseen room ts e)⟩
  | _, _ => ⟨r, sv, none⟩

/-- The rooms of the router's user; none when the store fails. -/
def foundRooms (r : Router) (s : Store) : List RoomSummary :=
  match s.userRooms r.user with
  | .ok rooms => rooms
  | .error _ => []

/-- Takes a frame up, to where others may act before it is finished. -/
def takeUp (r : Router) (f : ClientFrame) (sv : Server) : TakenUp :=
  match f.event with
  | "join" =>
    let room := f.room.getD ""
    if room = "" then ⟨r, sv, none⟩ else ⟨(r.enter room sv).1, (r.enter room sv).2, some (.history room)⟩
  | "leave" => ⟨(r.leave sv).1, (r.leave sv).2, none⟩
  | "chat" => r.takeUpChat f sv
  | "seen" => r.takeUpSeen f sv
  | "list" => ⟨r, sv, some (.list (r.foundRooms sv.store))⟩
  | _ => ⟨r, sv, none⟩

/-- Does what is left of a frame. -/
def finish (r : Router) (rest : Rest) (sv : Server) : Server :=
  match rest with
  | .history room => r.sendHistory room sv
  | .announce m => r.announceChat m sv
  | .seen room ts count =>
    (r.reply (.seenSuccessful room r.username ts) sv).announce room (.messagesSeen room r.user r.username ts count) none
  | .unseen room ts e => r.reply (.seenFailed room e.message 0 ts) sv
  | .list rooms => r.reply (.list (rooms.map (r.present sv))) sv

end Router

/-- What becomes of the server when a frame that was taken up is finished at once. -/
def TakenUp.finished (t : TakenUp) : Server :=
  match t.rest with
  | none => t.server
  | some rest => t.router.finish rest t.server

namespace Router

/-! ## Together they are the whole -/

theorem takeUpChat_finished (r : Router) (f : ClientFrame) (sv : Server) :
    (r.takeUpChat f sv).router = r ∧ (r.takeUpChat f sv).finished = r.chat f sv := by
  unfold takeUpChat chat
  cases r.room with
  | none => exact ⟨rfl, rfl⟩
  | some room =>
    dsimp only
    split
    · exact ⟨rfl, rfl⟩
    · cases r.saveChat room (f.text.filter (· ≠ "")) (f.voice.filter (· ≠ "")) f.replyTo f.replyToId sv <;>
        exact ⟨rfl, rfl⟩

theorem takeUpSeen_finished (r : Router) (f : ClientFrame) (sv : Server) :
    (r.takeUpSeen f sv).router = r ∧ (r.takeUpSeen f sv).finished = r.seen f.timestamp f.room sv := by
  unfold takeUpSeen seen
  cases r.seenRoom f.room with
  | none => exact ⟨rfl, rfl⟩
  | some room =>
    cases f.timestamp.filter (· ≠ 0) with
    | none => exact ⟨rfl, rfl⟩
    | some ts => cases hmark : sv.store.markSeen room r.user (seenMillis ts) <;> simp only [hmark, true_and] <;> rfl

/-- A frame that is taken up and finished at once is handled whole. -/
theorem dispatch_eq (r : Router) (f : ClientFrame) (sv : Server) :
    r.dispatch f sv = ((r.takeUp f sv).router, (r.takeUp f sv).finished) := by
  unfold dispatch
  split
  · rename_i hevent
    simp only [takeUp, hevent, join]
    split <;> rfl
  · rename_i hevent
    simp only [takeUp, hevent]
    rfl
  · rename_i hevent
    obtain ⟨hrouter, hserver⟩ := r.takeUpChat_finished f sv
    simp only [takeUp, hevent, hrouter, hserver]
  · rename_i hevent
    obtain ⟨hrouter, hserver⟩ := r.takeUpSeen_finished f sv
    simp only [takeUp, hevent, hrouter, hserver]
  · rename_i hevent
    simp only [takeUp, hevent]
    rfl
  · unfold takeUp
    split <;> first | contradiction | rfl

/-! ## What the first part can do -/

/-- The ways in which a frame is taken up, with all that each of them does. -/
inductive TakesUp (r : Router) (f : ClientFrame) (sv : Server) : TakenUp → Prop
  | nothing : TakesUp r f sv ⟨r, sv, none⟩
  | enters (room : RoomId) (hevent : f.event = "join") (hroom : f.room = some room) (hne : room ≠ "") :
    TakesUp r f sv ⟨(r.enter room sv).1, (r.enter room sv).2, some (.history room)⟩
  | leaves : TakesUp r f sv ⟨(r.leave sv).1, (r.leave sv).2, none⟩
  | complains : TakesUp r f sv ⟨r, r.reply (.error emptyMessageText) sv, none⟩
  | saves (room : RoomId) (text voice : Option String) (m : Message) (store : Store) (hroom : r.room = some room)
      (hsave : sv.store.saveMessage
        ⟨room, r.user, r.username, text, voice, resolveReply room f.replyTo f.replyToId sv.store⟩ sv.now =
          .ok (m, store)) :
    TakesUp r f sv ⟨r, { sv with store }, some (.announce m)⟩
  | marks (room : RoomId) (ts : Int) (count : Nat) (store : Store) (hevent : f.event = "seen")
      (hroom : r.seenRoom f.room = some room)
      (hmark : sv.store.markSeen room r.user (seenMillis ts) = .ok (count, store)) :
    TakesUp r f sv ⟨r, { sv with store }, some (.seen room ts count)⟩
  | failsToMark (room : RoomId) (ts : Int) (e : StoreError) (hevent : f.event = "seen")
      (hroom : r.seenRoom f.room = some room) :
    TakesUp r f sv ⟨r, sv, some (.unseen room ts e)⟩
  | lists (hevent : f.event = "list") : TakesUp r f sv ⟨r, sv, some (.list (r.foundRooms sv.store))⟩

theorem takesUp_chat (r : Router) (f : ClientFrame) (sv : Server) : r.TakesUp f sv (r.takeUpChat f sv) := by
  unfold takeUpChat
  split
  · exact .nothing
  · rename_i room hroom
    dsimp only
    split
    · exact .complains
    · split
      · exact .nothing
      · rename_i m sv' hsave
        obtain ⟨store, hstore, rfl⟩ := saveChat_eq_ok hsave
        exact .saves room _ _ m store hroom hstore

theorem takesUp_seen (r : Router) {f : ClientFrame} (hevent : f.event = "seen") (sv : Server) :
    r.TakesUp f sv (r.takeUpSeen f sv) := by
  unfold takeUpSeen
  split
  · rename_i room ts hroom hts
    split
    · rename_i count store hmark
      exact .marks room ts count store hevent hroom hmark
    · rename_i e hmark
      exact .failsToMark room ts e hevent hroom
  · exact .nothing

theorem takesUp (r : Router) (f : ClientFrame) (sv : Server) : r.TakesUp f sv (r.takeUp f sv) := by
  unfold takeUp
  split
  · rename_i hevent
    dsimp only
    split
    · exact .nothing
    · rename_i hne
      cases hroom : f.room with
      | none => simp [hroom] at hne
      | some room => exact .enters room hevent hroom (by simpa [hroom] using hne)
  · exact .leaves
  · exact r.takesUp_chat f sv
  · rename_i hevent
    exact r.takesUp_seen hevent sv
  · rename_i hevent
    exact .lists hevent
  · exact .nothing

/-- Taking a frame up changes nothing of a router but its room. -/
theorem takeUp_fst (r : Router) (f : ClientFrame) (sv : Server) : ∃ room, (r.takeUp f sv).router = { r with room } := by
  have htakes := r.takesUp f sv
  generalize r.takeUp f sv = u at htakes
  cases htakes with
  | enters room => exact ⟨_, r.enter_fst room sv⟩
  | leaves => exact ⟨_, r.leave_fst sv⟩
  | _ => exact ⟨r.room, rfl⟩

theorem couples_takeUp (r : Router) (f : ClientFrame) (sv : Server) :
    r.Couples sv ((r.takeUp f sv).router, (r.takeUp f sv).server) := by
  cases hup : r.takeUp f sv with
  | mk router server rest =>
    have hcase := r.takesUp f sv
    rw [hup] at hcase
    cases hcase with
    | enters room => exact r.couples_enter room sv
    | leaves => exact r.couples_leave sv
    | _ => exact couples_of_registry_eq rfl

theorem finish_registry (r : Router) (rest : Rest) (sv : Server) : (r.finish rest sv).registry = sv.registry := by
  cases rest with
  | history room => exact r.sendHistory_registry room sv
  | _ => rfl

theorem finish_store (r : Router) (rest : Rest) (sv : Server) : (r.finish rest sv).store = sv.store := by
  cases rest with
  | history room =>
    unfold finish sendHistory
    dsimp only
    split <;> rfl
  | _ => rfl

end Router

end DirectChat
