import DirectChat.Proofs.Chat.Echo
import DirectChat.Socket.Connection
/-!
# Connections in the midst of each other

All connections of a server at once, each with its read loop and its heartbeat. What can happen next is that a client is
let in, that a read loop takes the next thing in that has come over its socket, that it is done with the text that it is
in the middle of, that the timer of a heartbeat fires, that timer time passes, or that something happens that no
connection does. A text that is taken in has to wait for the store, and until it is done its loop takes nothing else in,
while everybody else moves on, the heartbeat of the same connection included. A text that is done with at once was
received whole (`finish_takeIn`).

All that can happen is said once (`step_cases`), and from it what holds of the connections at all times (`Sane`).
-/

namespace DirectChat

/-- What the read loop of a connection is doing. -/
inductive Loop
  | unopened
  | reading
  | handling
  | ended
deriving DecidableEq, Repr

/-- The server's end of a socket with its read loop. -/
structure Peer where
  connection : Connection
  /-- The text that the loop is in the middle of: what is left of it, if anything. -/
  inHand : Option (Option Task)
deriving DecidableEq, Repr

/-- What its read loop is doing. -/
def Peer.loop (p : Peer) : Loop :=
  if p.connection.ended then .ended else if p.inHand.isSome then .handling else .reading

/-- A server with all its connections. Each has the queue that has the number of its session. -/
structure Sockets where
  server : Server
  peers : Table SessionId Peer
  /-- The notifications for which the store has been asked and that are not sent yet. -/
  underway : List (Notification × List UserId)
  /-- The clock of the timers, in milliseconds. -/
  time : Nat

theorem Router.connect_mail (s : SessionId) (h : Handle) (user : UserId) (username : String) (host : Option String)
    (sv : Server) : (connect s h user username host sv).2.mail = sv.mail := by
  unfold connect
  dsimp only
  split <;> rfl

/-- A connection begins with a word in an empty queue. -/
theorem Connection.start_mail (s : SessionId) (h : Handle) (user : UserId) (username : String) (host : Option String)
    (time : Nat) (sv : Server) :
    (start s h user username host time sv).2.mail =
      ((sv.mail.openQueue h).send h (.event (.connected welcomeText))).1 := by
  show (Mailroom.send (Router.connect s h user username host _).2.mail h _).1 = _
  rw [Router.connect_mail]

/-- The frame that a heartbeat asks for. -/
def Beat.frame : Beat → Frame
  | .ping => .ping pingPayload
  | .close => .close awayCode awayReason

/-- All that a heartbeat does to the server is to send a frame to its own client. -/
theorem Connection.beat_snd (c : Connection) (sv : Server) :
    (c.beat sv).2 = match c.heartbeat.beat.2 with
      | some b => { sv with mail := (sv.mail.send c.router.handle b.frame).1 }
      | none => sv := by
  rcases hbeat : c.heartbeat.beat with ⟨heartbeat, _ | b⟩
  · simp only [beat, hbeat]
  · cases b <;> simp only [beat, hbeat, Beat.frame]

theorem Connection.beat_heartbeat {c : Connection} {b : Beat} (hb : c.heartbeat.beat.2 = some b) (sv : Server) :
    (c.beat sv).1.heartbeat = if sv.mail.isLive c.router.handle then c.heartbeat.beat.1 else .stopped := by
  rcases hbeat : c.heartbeat.beat with ⟨heartbeat, asked⟩
  rw [hbeat] at hb
  obtain rfl : asked = some b := hb
  simp only [beat, hbeat, Mailroom.send_snd]

/-- It touches neither the router nor the read loop. -/
theorem Connection.beat_router (c : Connection) (sv : Server) : (c.beat sv).1.router = c.router := by
  unfold beat
  split <;> rfl

theorem Connection.beat_ended (c : Connection) (sv : Server) : (c.beat sv).1.ended = c.ended := by
  unfold beat
  split <;> rfl

theorem Peer.loop_ne_unopened (p : Peer) : p.loop ≠ .unopened := by
  unfold Peer.loop
  split
  · exact nofun
  · split <;> exact nofun

/-- What can happen next. -/
inductive Happening
  /-- A client is let in. -/
  | opens (s : SessionId) (user : UserId) (username : String) (host : Option String)
  /-- The read loop of a session takes in what comes next over its socket. -/
  | takesIn (s : SessionId) (i : Incoming)
  /-- It is done with the text that it is in the middle of. -/
  | finishes (s : SessionId)
  /-- The heartbeat of a session acts. -/
  | beats (s : SessionId)
  /-- Something that no connection does. -/
  | act (a : Act)
  /-- Timer time passes. -/
  | passes (millis : Nat)

/-- Whether a read loop ends with what it takes in. -/
def Incoming.ends : Incoming → Bool
  | .close | .lost | .eof => true
  | .text _ | .binary | .ping _ | .pong => false

/-- The session to whose connection something happens. -/
def Happening.session? : Happening → Option SessionId
  | .opens s .. | .takesIn s _ | .finishes s | .beats s => some s
  | .act _ | .passes _ => none

/-- Whether nothing comes of a happening, for what the read loops are doing. -/
def Happening.Idle (loops : SessionId → Loop) : Happening → Prop
  | .opens s .. => loops s ≠ .unopened
  | .takesIn s _ => loops s ≠ .reading
  | .finishes s => loops s ≠ .handling
  | .beats s => loops s = .unopened
  | .act a => ¬ a.Elsewhere
  | .passes _ => False

namespace Sockets

/-- A server to which nobody is connected. -/
def start (settings : ChatSettings) (now : Int) : Sockets := ⟨.start settings now, .empty, [], 0⟩

/-- Lets the connection of a session do something. -/
def act (n : Sockets) (s : SessionId) (inHand : Option (Option Task)) (next : Connection × Server) : Sockets :=
  { n with server := next.2, peers := n.peers.insert s ⟨next.1, inHand⟩ }

/-- An open connection takes in what comes next. A text is taken up only. -/
def takeIn (n : Sockets) (s : SessionId) (c : Connection) : Incoming → Sockets
  | .text raw =>
    match ClientFrame.decode raw with
    | none => n.act s (some none) (c, n.server)
    | some f =>
      let u := c.router.takeUp f n.server
      n.act s (some (u.rest.map (Task.mk f))) ({ c with router := u.router }, u.server)
  | i => n.act s none (c.receive i n.server)

/-- What is left of a text is done. -/
def finish (n : Sockets) (s : SessionId) (c : Connection) (task : Option Task) : Sockets :=
  n.act s none (c, match task with
    | none => n.server
    | some task => c.router.finish task.rest n.server)

/-- Something happens that no connection does. -/
def elsewhere (n : Sockets) (a : Act) : Sockets :=
  let c := Crowd.step ⟨n.server, .empty, n.underway⟩ a
  { n with server := c.server, underway := c.underway }

/-- What becomes of the server next. A session is not given the number of another, a loop that is over or in the
middle of a text takes nothing in. -/
def step (n : Sockets) : Happening → Sockets
  | .opens s user username host =>
    match n.peers.get? s with
    | none => n.act s none (Connection.start s s user username host n.time n.server)
    | some _ => n
  | .takesIn s i =>
    match n.peers.get? s with
    | some ⟨c, none⟩ => if c.ended then n else n.takeIn s c i
    | _ => n
  | .finishes s =>
    match n.peers.get? s with
    | some ⟨c, some task⟩ => n.finish s c task
    | _ => n
  | .beats s =>
    match n.peers.get? s with
    | some p => n.act s p.inHand (p.connection.beat n.server)
    | none => n
  | .act a => if a.Elsewhere then n.elsewhere a else n
  | .passes millis => { n with time := n.time + millis }

/-- What the read loop of a session is doing. -/
def loop (n : Sockets) (s : SessionId) : Loop := ((n.peers.get? s).map Peer.loop).getD .unopened

/-- What becomes of the server in the course of a sequence of happenings. -/
def run (n : Sockets) (xs : List Happening) : Sockets := xs.foldl step n

theorem run_append (n : Sockets) (xs ys : List Happening) : n.run (xs ++ ys) = (n.run xs).run ys :=
  List.foldl_append ..

theorem run_snoc (n : Sockets) (xs : List Happening) (x : Happening) : n.run (xs ++ [x]) = (n.run xs).step x :=
  n.run_append xs [x]

/-- What a happening puts into a queue. -/
def sent (n : Sockets) (x : Happening) (h : Handle) : List Frame := n.server.mail.since (n.step x).server.mail h

/-- What a sequence of happenings puts into a queue, in order. -/
def arrivals (h : Handle) (n : Sockets) (xs : List Happening) : List Frame :=
  Run.output step (fun n x => n.sent x h) n xs

theorem arrivals_snoc (h : Handle) (n : Sockets) (xs : List Happening) (x : Happening) :
    arrivals h n (xs ++ [x]) = arrivals h n xs ++ (n.run xs).sent x h := by
  rw [arrivals, Run.output_append]
  exact congrArg _ (List.append_nil _)

theorem act_act (n : Sockets) (s : SessionId) (inHand inHand' : Option (Option Task))
    (next next' : Connection × Server) :
    (n.act s inHand next).act s inHand' next' = n.act s inHand' next' :=
  congrArg (fun peers => { n with server := next'.2, peers }) (Table.insert_insert ..)

theorem step_finishes_act (n : Sockets) (s : SessionId) (task : Option Task) (next : Connection × Server) :
    (n.act s (some task) next).step (.finishes s) = n.act s none (next.1, match task with
      | none => next.2
      | some task => next.1.router.finish task.rest next.2) := by
  have hfinish : (n.act s (some task) next).step (.finishes s) = (n.act s (some task) next).finish s next.1 task := by
    simp only [step, act, Table.get?_insert_self]
  exact hfinish.trans (act_act ..)

/-- **What is taken in and done with at once is received whole.** -/
theorem finish_takeIn (n : Sockets) (s : SessionId) {c : Connection} (hopen : c.ended = false) (i : Incoming) :
    (n.takeIn s c i).step (.finishes s) = n.act s none (c.receive i n.server) := by
  cases i with
  | text raw =>
    rw [Connection.receive, if_neg (by simp [hopen])]
    cases hframe : ClientFrame.decode raw with
    | none =>
      simp only [takeIn, hframe, Router.handleText]
      exact step_finishes_act ..
    | some f =>
      simp only [takeIn, hframe, Router.handleText, c.router.dispatch_eq f n.server, TakenUp.finished]
      rw [step_finishes_act]
      cases (c.router.takeUp f n.server).rest <;> rfl
  | _ => simp only [takeIn, step, act, Table.get?_insert_self]

variable {n : Sockets} {s : SessionId} {p : Peer} {c : Connection}

/-! ## What can happen -/

/-- The ways in which an open connection takes in what comes next. -/
inductive TakesIn (c : Connection) (sv : Server) : Incoming → Option (Option Task) → Connection × Server → Prop
  /-- A text that makes no frame is passed over, but done with like any other. -/
  | garbled (raw : String) (hframe : ClientFrame.decode raw = none) : TakesIn c sv (.text raw) (some none) (c, sv)
  | takesUp (raw : String) (f : ClientFrame) (hframe : ClientFrame.decode raw = some f) :
    TakesIn c sv (.text raw) (some ((c.router.takeUp f sv).rest.map (Task.mk f)))
      ({ c with router := (c.router.takeUp f sv).router }, (c.router.takeUp f sv).server)
  | ignores : TakesIn c sv .binary none (c, sv)
  | answers (payload : List UInt8) :
    TakesIn c sv (.ping payload) none (c, { sv with mail := (sv.mail.send c.router.handle (.pong payload)).1 })
  | hears : TakesIn c sv .pong none ({ c with heartbeat := c.heartbeat.pong }, sv)
  | ends (i : Incoming) (hends : i.ends = true) : TakesIn c sv i none (c.finish sv)

theorem takeIn_cases (n : Sockets) (s : SessionId) (hopen : c.ended = false) (i : Incoming) :
    ∃ inHand next, n.takeIn s c i = n.act s inHand next ∧ TakesIn c n.server i inHand next := by
  have hon : ¬ c.ended = true := by simp [hopen]
  cases i with
  | text raw =>
    unfold takeIn
    dsimp only
    split
    · rename_i hframe
      exact ⟨_, _, rfl, .garbled raw hframe⟩
    · rename_i f hframe
      exact ⟨_, _, rfl, .takesUp raw f hframe⟩
  | binary => exact ⟨none, _, rfl, by rw [Connection.receive, if_neg hon]; exact .ignores⟩
  | ping payload => exact ⟨none, _, rfl, by rw [Connection.receive, if_neg hon]; exact .answers payload⟩
  | pong => exact ⟨none, _, rfl, by rw [Connection.receive, if_neg hon]; exact .hears⟩
  | close | lost | eof => exact ⟨none, _, rfl, by rw [Connection.receive, if_neg hon]; exact .ends _ rfl⟩

/-- The ways in which a happening goes. -/
inductive Happens (n : Sockets) : Happening → Sockets → Prop
  | opens (s : SessionId) (user : UserId) (username : String) (host : Option String) (hnew : n.peers.get? s = none) :
    Happens n (.opens s user username host)
      (n.act s none (Connection.start s s user username host n.time n.server))
  | takesIn (s : SessionId) (c : Connection) (i : Incoming) (inHand : Option (Option Task)) (next : Connection × Server)
      (hpeer : n.peers.get? s = some ⟨c, none⟩) (hopen : c.ended = false) (htakes : TakesIn c n.server i inHand next) :
    Happens n (.takesIn s i) (n.act s inHand next)
  | finishes (s : SessionId) (c : Connection) (task : Option Task) (hpeer : n.peers.get? s = some ⟨c, some task⟩) :
    Happens n (.finishes s) (n.finish s c task)
  | beats (s : SessionId) (p : Peer) (hpeer : n.peers.get? s = some p) :
    Happens n (.beats s) (n.act s p.inHand (p.connection.beat n.server))
  | act (a : Act) (ha : a.Elsewhere) : Happens n (.act a) (n.elsewhere a)
  | passes (millis : Nat) : Happens n (.passes millis) { n with time := n.time + millis }
  | idle (x : Happening) (hidle : x.Idle n.loop) : Happens n x n

theorem loop_of_none (hpeer : n.peers.get? s = none) : n.loop s = .unopened := by
  rw [loop, hpeer]
  rfl

theorem loop_of_some (hpeer : n.peers.get? s = some p) : n.loop s = p.loop := by
  rw [loop, hpeer]
  rfl

theorem loop_reading (hpeer : n.peers.get? s = some ⟨c, none⟩) (hopen : c.ended = false) : n.loop s = .reading := by
  simp [loop_of_some hpeer, Peer.loop, hopen]

theorem step_cases (n : Sockets) (x : Happening) : n.Happens x (n.step x) := by
  cases x with
  | opens s user username host =>
    rw [step]
    split
    · rename_i hnew
      exact .opens s user username host hnew
    · rename_i p hpeer
      exact .idle _ fun h => p.loop_ne_unopened (loop_of_some hpeer ▸ h)
  | takesIn s i =>
    rw [step]
    split
    · rename_i c hpeer
      split
      · rename_i hended
        exact .idle _ (by simp [Happening.Idle, loop_of_some hpeer, Peer.loop, hended])
      · rename_i hended
        have hopen : c.ended = false := by simpa using hended
        obtain ⟨inHand, next, hstep, htakes⟩ := n.takeIn_cases s hopen i
        rw [hstep]
        exact .takesIn s c i inHand next hpeer hopen htakes
    · rename_i hbusy
      refine .idle _ fun h => ?_
      cases hpeer : n.peers.get? s with
      | none => rw [loop_of_none hpeer] at h; cases h
      | some p =>
        obtain ⟨c, inHand⟩ := p
        cases inHand with
        | none => exact hbusy c hpeer
        | some task =>
          rw [loop_of_some hpeer, Peer.loop] at h
          dsimp only [Option.isSome_some, if_true] at h
          split at h <;> cases h
  | finishes s =>
    rw [step]
    split
    · rename_i c task hpeer
      exact .finishes s c task hpeer
    · rename_i hfree
      refine .idle _ fun h => ?_
      cases hpeer : n.peers.get? s with
      | none => rw [loop_of_none hpeer] at h; cases h
      | some p =>
        obtain ⟨c, inHand⟩ := p
        cases inHand with
        | none =>
          rw [loop_of_some hpeer, Peer.loop] at h
          dsimp only [Option.isSome_none] at h
          split at h
          · cases h
          · simp at h
        | some task => exact hfree c task hpeer
  | beats s =>
    rw [step]
    split
    · rename_i p hpeer
      exact .beats s p hpeer
    · rename_i hnobody
      exact .idle _ (loop_of_none hnobody)
  | act a =>
    rw [step]
    split
    · rename_i ha
      exact .act a ha
    · rename_i ha
      exact .idle _ ha
  | passes millis => exact .passes millis

theorem get?_act (n : Sockets) (s : SessionId) (inHand : Option (Option Task)) (next : Connection × Server)
    (s' : SessionId) :
    (n.act s inHand next).peers.get? s' = if s' = s then some ⟨next.1, inHand⟩ else n.peers.get? s' :=
  Table.get?_insert ..

theorem loop_act (n : Sockets) (s : SessionId) (inHand : Option (Option Task)) (next : Connection × Server) :
    (n.act s inHand next).loop = Function.update n.loop s (Peer.loop ⟨next.1, inHand⟩) := by
  funext s'
  rw [loop, get?_act, Function.update_apply]
  split <;> rfl

/-- What happens elsewhere sends events, or empties a queue. -/
theorem elsewhere_mail (n : Sockets) {a : Act} (ha : a.Elsewhere) :
    (∃ hs e, (n.elsewhere a).server.mail = (n.server.mail.sendAll hs (.event e)).1) ∨
      (n.elsewhere a).server.mail = n.server.mail ∨
      (∃ h, a = .kill h ∧ (n.elsewhere a).server.mail = n.server.mail.kill h) ∨
      ∃ h, (n.elsewhere a).server.mail = (n.server.mail.drain h).1 :=
  Crowd.step_elsewhere (c := ⟨n.server, .empty, n.underway⟩) ha

/-! ## Queues that are not there -/

/-- Nobody receives behind a handle, and nothing waits there. -/
def Absent (h : Handle) (m : Mailroom) : Prop := m.isLive h = false ∧ m.waiting h = []

theorem Absent.send {h : Handle} {m : Mailroom} (ha : Absent h m) (k : Handle) (f : Frame) :
    Absent h (m.send k f).1 := by
  refine ⟨by rw [Mailroom.isLive_send, ha.1], ?_⟩
  rw [Mailroom.waiting_send, ha.2, if_neg fun hk => by simp [ha.1] at hk]
  rfl

theorem Absent.kill {h : Handle} {m : Mailroom} (ha : Absent h m) (k : Handle) : Absent h (m.kill k) := by
  refine ⟨?_, ?_⟩
  · rw [Mailroom.isLive_kill, ha.1, ite_self]
  · rw [Mailroom.waiting_kill, ha.2, ite_self]

theorem Absent.drain {h : Handle} {m : Mailroom} (ha : Absent h m) (k : Handle) : Absent h (m.drain k).1 := by
  refine ⟨?_, ?_⟩
  · rw [Mailroom.isLive_drain, ha.1]
  · rw [Mailroom.waiting_drain, ha.2, ite_self]

theorem Absent.sendAll {h : Handle} {m : Mailroom} (ha : Absent h m) (ks : List Handle) (f : Frame) :
    Absent h (m.sendAll ks f).1 := by
  refine ⟨by rw [Mailroom.isLive_sendAll, ha.1], ?_⟩
  rw [Mailroom.waiting_sendAll, ha.2, ha.1, if_neg Bool.false_ne_true]
  rfl

/-! ## What holds whatever happens -/

/-- What holds of the connections whatever happens. -/
structure Sane (n : Sockets) : Prop where
  session : ∀ s p, n.peers.get? s = some p → p.connection.router.session = s ∧ p.connection.router.handle = s
  /-- A loop that is over is not in the middle of anything, and its router is closed; no other router is. -/
  ended : ∀ s p, n.peers.get? s = some p → p.connection.ended = true → p.inHand = none
  closed : ∀ s p, n.peers.get? s = some p → p.connection.router.closed = p.connection.ended
  /-- The queue of a session that was not opened is not there. -/
  fresh : ∀ s, n.peers.get? s = none → Absent s n.server.mail

theorem Sane.loop_handling (h : n.Sane) {task : Option Task} (hpeer : n.peers.get? s = some ⟨c, some task⟩) :
    n.loop s = .handling := by
  have hopen : c.ended = false := Bool.eq_false_iff.2 fun hended => by cases h.ended s _ hpeer hended
  simp [loop_of_some hpeer, Peer.loop, hopen]

theorem sane_start (settings : ChatSettings) (now : Int) : (start settings now).Sane := by
  have hnobody : ∀ s, (start settings now).peers.get? s = none := fun _ => rfl
  refine ⟨fun s p hp => ?_, fun s p hp => ?_, fun s p hp => ?_, fun _ _ => ⟨rfl, rfl⟩⟩
  all_goals
    rw [hnobody] at hp
    cases hp

theorem Sane.act (h : n.Sane) {inHand : Option (Option Task)} {next : Connection × Server}
    (hsession : next.1.router.session = s ∧ next.1.router.handle = s) (hover : next.1.ended = true → inHand = none)
    (hclosed : next.1.router.closed = next.1.ended)
    (habsent : ∀ k, k ≠ s → Absent k n.server.mail → Absent k next.2.mail) : (n.act s inHand next).Sane := by
  refine ⟨fun s' p hp => ?_, fun s' p hp => ?_, fun s' p hp => ?_, fun s' hs' => ?_⟩
  all_goals rw [get?_act] at *
  · split at hp
    · cases hp
      rename_i hs
      exact hs ▸ hsession
    · exact h.session s' p hp
  · split at hp
    · cases hp
      exact hover
    · exact h.ended s' p hp
  · split at hp
    · cases hp
      exact hclosed
    · exact h.closed s' p hp
  · split at hs'
    · cases hs'
    · exact habsent s' ‹_› (h.fresh s' hs')

theorem Sane.opens (h : n.Sane) (user : UserId) (username : String) (host : Option String) :
    (n.act s none (Connection.start s s user username host n.time n.server)).Sane := by
  refine h.act ⟨rfl, rfl⟩ (fun _ => rfl) rfl fun k hk ha => ?_
  have hopened : Absent k (n.server.mail.openQueue s) :=
    ⟨by rw [Mailroom.isLive_openQueue, if_neg hk, ha.1], by rw [Mailroom.waiting_openQueue, if_neg hk, ha.2]⟩
  rw [Connection.start_mail]
  exact hopened.send s _

theorem Sane.finish (h : n.Sane) (hpeer : n.peers.get? s = some p) (task : Option Task) :
    (n.finish s p.connection task).Sane := by
  refine h.act (h.session s p hpeer) (fun _ => rfl) (h.closed s p hpeer) fun k hk ha => ?_
  cases task with
  | none => exact ha
  | some task => exact p.connection.router.finish_mail (fun m hm k e => hm.send k _) ha task.rest

theorem Sane.beats (h : n.Sane) (hpeer : n.peers.get? s = some p) :
    (n.act s p.inHand (p.connection.beat n.server)).Sane := by
  refine h.act ?_ ?_ ?_ fun k hk ha => ?_
  · rw [p.connection.beat_router]
    exact h.session s p hpeer
  · rw [p.connection.beat_ended]
    exact h.ended s p hpeer
  · rw [p.connection.beat_router, p.connection.beat_ended]
    exact h.closed s p hpeer
  · rw [p.connection.beat_snd]
    split
    · exact ha.send _ _
    · exact ha

theorem Sane.takesIn (h : n.Sane) (hpeer : n.peers.get? s = some ⟨c, none⟩) (hopen : c.ended = false) {i : Incoming}
    {inHand : Option (Option Task)} {next : Connection × Server} (htakes : TakesIn c n.server i inHand next) :
    (n.act s inHand next).Sane := by
  have hown : c.router.session = s ∧ c.router.handle = s := h.session s _ hpeer
  have hclosed : c.router.closed = c.ended := h.closed s _ hpeer
  have hnone : ∀ {i : Option (Option Task)}, c.ended = true → i = none := fun hended => by
    rw [hopen] at hended
    cases hended
  cases htakes with
  | garbled raw hframe => exact h.act hown hnone hclosed fun k _ ha => ha
  | takesUp raw f hframe =>
    obtain ⟨room, hrouter⟩ := c.router.takeUp_fst f n.server
    refine h.act ?_ hnone ?_ fun k hk ha => ?_
    · rw [hrouter]
      exact hown
    · rw [hrouter]
      exact hclosed
    · exact c.router.takeUp_mail (fun m hm k e => hm.send k _) ha f
  | ignores => exact h.act hown hnone hclosed fun k _ ha => ha
  | answers payload => exact h.act hown hnone hclosed fun k _ ha => ha.send _ _
  | hears => exact h.act hown hnone hclosed fun k _ ha => ha
  | ends i hends =>
    have hrouter := c.router.close_fst n.server
    rw [if_neg (by rw [hclosed, hopen]; exact Bool.false_ne_true)] at hrouter
    refine h.act ?_ (fun _ => rfl) ?_ fun k hk ha => ?_
    · simp only [Connection.finish, hrouter]
      exact hown
    · simp only [Connection.finish, hrouter]
    · exact (c.router.close_mail (fun m hm k e => hm.send k _) ha).kill _

theorem Sane.step (h : n.Sane) (x : Happening) : (n.step x).Sane := by
  have hcase := n.step_cases x
  generalize n.step x = n' at hcase
  cases hcase with
  | opens s user username host => exact h.opens user username host
  | takesIn s c i inHand next hpeer hopen htakes => exact h.takesIn hpeer hopen htakes
  | finishes s c task hpeer => exact h.finish hpeer task
  | beats s p hpeer => exact h.beats hpeer
  | act a ha =>
    refine ⟨h.session, h.ended, h.closed, fun s hs => ?_⟩
    have habsent : Absent s n.server.mail := h.fresh s hs
    rcases n.elsewhere_mail ha with ⟨ks, e, hmail⟩ | hmail | ⟨k, -, hmail⟩ | ⟨k, hmail⟩ <;> rw [hmail]
    · exact habsent.sendAll ks _
    · exact habsent
    · exact habsent.kill k
    · exact habsent.drain k
  | passes millis => exact ⟨h.session, h.ended, h.closed, h.fresh⟩
  | idle => exact h

theorem Sane.run (h : n.Sane) (xs : List Happening) : (n.run xs).Sane := by
  induction xs generalizing n with
  | nil => exact h
  | cons x xs ih => exact ih (h.step x)

end Sockets

end DirectChat
