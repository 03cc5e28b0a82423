import DirectChat.Chat.Notification
import DirectChat.Chat.Router
/-!
# Runs of many sessions

A crowd is a server together with the routers of all its sessions. Its acts are what can happen next:
a client connects, a router handles a text, leaves, is closed or dropped, a queue loses its receiver, a
notification goes through one of its two steps, the clock moves, and the store changes in any way other
tasks and faults may change it. A run is any sequence of acts, so that the steps of different sessions
come in any order. A text may be handled whole, or a join and a chat in two halves, between which
others act, and frames of any other origin may be put into queues. A router that was closed still handles
texts; one that was dropped does not.
-/

namespace DirectChat

/-- A server with the routers of its sessions. -/
structure Crowd where
  server : Server
  /-- The routers that were connected and not dropped, by session. -/
  routers : Table SessionId Router
  /-- The notifications for which the store has been asked and that are not sent yet. -/
  underway : List (Notification × List UserId)

/-- What can happen next. -/
inductive Act
  | connect (s : SessionId) (handle : Handle) (user : UserId) (username : String) (host : Option String)
  | welcome (s : SessionId)
  | text (s : SessionId) (raw : String)
  /-- The first half of a join, up to where the store is asked. -/
  | enter (s : SessionId) (room : RoomId)
  /-- The second half of a join. -/
  | sendHistory (s : SessionId) (room : RoomId)
  /-- The second half of a chat, the first of which is a change of the store. -/
  | announceChat (s : SessionId) (m : Message)
  /-- Any other frame is put into queues, as by the second half of a receipt or a list. -/
  | put (handles : List Handle) (f : Frame)
  | leave (s : SessionId)
  | close (s : SessionId)
  | drop (s : SessionId)
  /-- The receiving end of a queue goes away. -/
  | kill (handle : Handle)
  /-- The client takes what waits in its queue. -/
  | receive (handle : Handle)
  /-- Whatever others do to the store, faults included. -/
  | store (store : Store)
  | clock (now : Int)
  /-- The store is asked whom a pending notification concerns. -/
  | lookUp (n : Nat)
  /-- A notification is sent to those of them whom the registry confirms. -/
  | sendOut (n : Nat)
  /-- A pending notification has waited too long. -/
  | giveUp (n : Nat)

/-- The session that an act connects. -/
def Act.connects? : Act → Option SessionId
  | .connect s .. => some s
  | _ => none

/-- The queue that an act opens. -/
def Act.opens? : Act → Option Handle
  | .connect _ handle .. => some handle
  | _ => none

/-- Whether an act ends a session. -/
def Act.Ends (s : SessionId) (a : Act) : Prop := a = .close s ∨ a = .drop s

namespace Crowd

/-- A server to which nobody is connected. -/
def start (settings : ChatSettings) (now : Int) : Crowd := ⟨.start settings now, .empty, []⟩

/-- Changes the server. -/
def onServer (c : Crowd) (f : Server → Server) : Crowd := { c with server := f c.server }

/-- Lets the router of a session act. -/
def act (c : Crowd) (s : SessionId) (f : Router → Server → Router × Server) : Crowd :=
  match c.routers.get? s with
  | some r => { c with server := (f r c.server).2, routers := c.routers.insert s (f r c.server).1 }
  | none => c

/-- Connects a client through a queue of its own. -/
def connect (c : Crowd) (s : SessionId) (handle : Handle) (user : UserId) (username : String)
    (host : Option String) : Crowd :=
  let (r, server) := Router.connect s handle user username host
    { c.server with mail := c.server.mail.openQueue handle }
  { c with server, routers := c.routers.insert s r }

/-- Asks the store for a pending notification. When the store fails, the notification is gone. -/
def lookUp (c : Crowd) (n : Nat) : Crowd :=
  match c.server.pending[n]? with
  | none => c
  | some notification =>
    let c := c.onServer fun sv => { sv with pending := sv.pending.eraseIdx n }
    match notification.concerned c.server.store with
    | .ok users => { c with underway := c.underway ++ [(notification, users)] }
    | .error _ => c

/-- Sends a notification for which the store was asked. -/
def sendOut (c : Crowd) (n : Nat) : Crowd :=
  match c.underway[n]? with
  | none => c
  | some (notification, users) =>
    { c with server := (notification.deliver users c.server).1, underway := c.underway.eraseIdx n }

/-- Carries out an act. -/
def step (c : Crowd) : Act → Crowd
  | .connect s handle user username host => c.connect s handle user username host
  | .welcome s => c.act s fun r sv => (r, r.welcome sv)
  | .text s raw => c.act s fun r sv => r.handleText raw sv
  | .enter s room => c.act s fun r sv => r.enter room sv
  | .sendHistory s room => c.act s fun r sv => (r, r.sendHistory room sv)
  | .announceChat s m => c.act s fun r sv => (r, r.announceChat m sv)
  | .put handles f => c.onServer fun sv => { sv with mail := (sv.mail.sendAll handles f).1 }
  | .leave s => c.act s Router.leave
  | .close s => c.act s Router.close
  | .drop s => { c.act s Router.close with routers := (c.act s Router.close).routers.erase s }
  | .kill handle => c.onServer fun sv => { sv with mail := sv.mail.kill handle }
  | .receive handle => c.onServer fun sv => { sv with mail := (sv.mail.drain handle).1 }
  | .store store => c.onServer fun sv => { sv with store }
  | .clock now => c.onServer fun sv => { sv with now }
  | .lookUp n => c.lookUp n
  | .sendOut n => c.sendOut n
  | .giveUp n => c.onServer fun sv => { sv with pending := sv.pending.eraseIdx n }

/-- Carries out a sequence of acts. -/
def run (c : Crowd) (acts : List Act) : Crowd := acts.foldl step c

@[simp] theorem run_nil (c : Crowd) : c.run [] = c := rfl

@[simp] theorem run_cons (c : Crowd) (a : Act) (acts : List Act) : c.run (a :: acts) = (c.step a).run acts := rfl

theorem run_append (c : Crowd) (acts more : List Act) : c.run (acts ++ more) = (c.run acts).run more :=
  List.foldl_append ..

theorem act_of_some (c : Crowd) {s : SessionId} {r : Router} (h : c.routers.get? s = some r)
    (f : Router → Server → Router × Server) :
    c.act s f = { c with server := (f r c.server).2, routers := c.routers.insert s (f r c.server).1 } := by
  rw [act, h]

theorem act_of_none (c : Crowd) {s : SessionId} (h : c.routers.get? s = none)
    (f : Router → Server → Router × Server) : c.act s f = c := by
  rw [act, h]

/-- What is so of the server, and after each step of the router that acts, is so when it has acted. -/
theorem act_server (c : Crowd) (s : SessionId) {f : Router → Server → Router × Server} {P : Server → Prop}
    (hsame : P c.server) (hstep : ∀ r, c.routers.get? s = some r → P (f r c.server).2) : P (c.act s f).server := by
  cases hr : c.routers.get? s with
  | none => rwa [c.act_of_none hr]
  | some r =>
    rw [c.act_of_some hr]
    exact hstep r hr

/-- Asking the store for a notification takes it from those that wait, and does nothing else to the server. -/
theorem lookUp_server (c : Crowd) (n : Nat) :
    (c.lookUp n).server = { c.server with pending := c.server.pending.eraseIdx n } := by
  unfold lookUp
  split
  · rename_i h
    rw [List.eraseIdx_of_length_le (List.getElem?_eq_none_iff.1 h)]
  · dsimp only
    split <;> rfl

/-- Connecting opens a queue and registers the session, and may leave a notification. -/
theorem connect_server (c : Crowd) (s : SessionId) (handle : Handle) (user : UserId) (username : String)
    (host : Option String) :
    ∃ pending, (c.connect s handle user username host).server =
      { c.server with
        registry := (c.server.registry.register s user username handle).1
        mail := c.server.mail.openQueue handle
        pending } := by
  simp only [connect, Router.connect]
  split <;> exact ⟨_, rfl⟩

end Crowd

end DirectChat
