import DirectChat.Proofs.Chat.Edges
import DirectChat.Proofs.Socket.Sessions
/-!
# The lifetime of a connection

What a connection does from its greeting to its end is what a router session does. The moves of a session follow a
script that the frames alone decide (`script_run`). Its queue is greeted first (`greeted_first`), and whatever else it
is sent beyond events comes from its own heartbeat or answers its own client's pings (`controls_run`). Frames that are
no texts touch nothing but that queue (`untouched_takesIn`). However the loop ends, the session departs: it is gone from
the registry, the others in its room are told once, and its user is noted to be offline if no session of theirs is left
(`departs`).
-/

namespace DirectChat

/-! ## What a session does -/

/-- A text that comes in. -/
def Incoming.text? : Incoming → Option String
  | .text raw => some raw
  | _ => none

/-- What the read loop of a session takes in when something happens. -/
def Happening.taken (s : SessionId) (loops : SessionId → Loop) : Happening → List Incoming
  | .takesIn s' i => if s' = s ∧ loops s = .reading then [i] else []
  | _ => []

/-- What the read loop of a session takes in, in order. -/
def takenIn (s : SessionId) (xs : List Happening) : List Incoming :=
  Run.output Happening.loops (fun loops x => x.taken s loops) (fun _ => .unopened) xs

theorem takenIn_snoc (s : SessionId) (xs : List Happening) (x : Happening) :
    takenIn s (xs ++ [x]) = takenIn s xs ++ x.taken s (loopsAfter xs) := by
  rw [takenIn, Run.output_append]
  exact congrArg _ (List.append_nil _)

/-- What the router of a session does. -/
def movesOf (s : SessionId) (moves : List Move) : List Move := moves.filter fun mv => mv.actor? = some s

/-- A session connects, is greeted, and handles the texts among what comes in, one after another. -/
def sessionOf (s : SessionId) (user : UserId) (username : String) (host : Option String) (ins : List Incoming) :
    List Move :=
  .act (.connect s s user username host) :: .act (.welcome s) ::
    (ins.filterMap Incoming.text?).flatMap fun raw => [.takeUp s raw, .finish s]

theorem sessionOf_snoc (s : SessionId) (user : UserId) (username : String) (host : Option String)
    (ins : List Incoming) (i : Incoming) :
    sessionOf s user username host (ins ++ [i]) = sessionOf s user username host ins ++
      match i with
      | .text raw => [.takeUp s raw, .finish s]
      | _ => [] := by
  cases i <;> simp [sessionOf, Incoming.text?]

/-- What a session has done, when its read loop has taken in what it has and does what it does. -/
inductive Script (s : SessionId) : Loop → List Incoming → List Move → Prop
  | unopened : Script s .unopened [] []
  | reading (user : UserId) (username : String) (host : Option String) (ins : List Incoming)
      (hins : ∀ i ∈ ins, i.ends = false) : Script s .reading ins (sessionOf s user username host ins)
  | handling (user : UserId) (username : String) (host : Option String) (ins : List Incoming) (raw : String)
      (hins : ∀ i ∈ ins, i.ends = false) :
    Script s .handling (ins ++ [.text raw]) (sessionOf s user username host ins ++ [.takeUp s raw])
  /-- After what ends the loop, nothing is taken in, and the session is closed. -/
  | ended (user : UserId) (username : String) (host : Option String) (ins : List Incoming) (i : Incoming)
      (hins : ∀ i ∈ ins, i.ends = false) (hends : i.ends = true) :
    Script s .ended (ins ++ [i]) (sessionOf s user username host ins ++ [.act (.close s)])

/-- What happens to other connections, or to none, is no move of the session. -/
theorem movesOf_of_ne {s : SessionId} {x : Happening} (hx : x.session? ≠ some s) (loops : SessionId → Loop) :
    movesOf s (x.moves loops) = [] := by
  have hnext : ∀ s', x.session? = some s' → movesOf s ((loops s').next x).2 = [] := by
    intro s' hs'
    have hne : s' ≠ s := fun heq => hx (heq ▸ hs')
    cases x with
    | opens | finishes | beats =>
      cases hs'
      cases loops s' <;> simp [Loop.next, movesOf, Move.actor?, Act.actor?, hne]
    | takesIn s' i =>
      cases hs'
      cases loops s' with
      | reading => cases i <;> simp [Loop.next, Incoming.ends, movesOf, Move.actor?, Act.actor?, hne]
      | unopened | handling | ended => rfl
    | act | passes => cases hs'
  cases x with
  | opens s' | takesIn s' | finishes s' | beats s' => exact hnext s' rfl
  | act a =>
    rw [Happening.moves]
    split
    · rename_i ha
      simp [movesOf, Move.actor?, ha.1]
    · rfl
  | passes millis => rfl

/-- Nothing is taken in when nothing comes of a happening. -/
theorem taken_of_idle {x : Happening} {loops : SessionId → Loop} (hidle : x.Idle loops) (s : SessionId) :
    x.taken s loops = [] := by
  cases x with
  | takesIn s' i => exact if_neg fun ⟨hs, hreading⟩ => hidle (hs ▸ hreading)
  | _ => rfl

theorem taken_of_ne {s : SessionId} {x : Happening} (hx : x.session? ≠ some s) (loops : SessionId → Loop) :
    x.taken s loops = [] := by
  cases x with
  | takesIn s' i => exact if_neg fun h => hx (congrArg some h.1)
  | _ => rfl

theorem Script.takesIn {s : SessionId} {ins : List Incoming} {moves : List Move} (h : Script s .reading ins moves)
    (i : Incoming) :
    Script s (Loop.next .reading (.takesIn s i)).1 (ins ++ [i])
      (moves ++ movesOf s (Loop.next .reading (.takesIn s i)).2) := by
  cases h with
  | reading user username host ins hins =>
    have hon : i.ends = false → ∀ j ∈ ins ++ [i], j.ends = false := fun hi j hj => by
      rcases List.mem_append.1 hj with hj | hj
      · exact hins j hj
      · rw [List.mem_singleton.1 hj, hi]
    cases i with
    | text raw =>
      have htakesUp : movesOf s (Loop.next .reading (.takesIn s (.text raw))).2 = [.takeUp s raw] := by
        simp [Loop.next, movesOf, Move.actor?]
      rw [htakesUp]
      exact .handling user username host ins raw hins
    | binary | ping | pong =>
      have hgoesOn := Script.reading (s := s) user username host _ (hon rfl)
      rwa [sessionOf_snoc] at hgoesOn
    | close | lost | eof =>
      have hcloses : movesOf s [.act (.close s), .act (.kill s)] = [.act (.close s)] := by
        simp [movesOf, Move.actor?, Act.actor?]
      simp only [Loop.next, Incoming.ends, if_true, hcloses]
      exact .ended user username host ins _ hins rfl

theorem Script.finishes {s : SessionId} {ins : List Incoming} {moves : List Move} (h : Script s .handling ins moves) :
    Script s .reading ins (moves ++ [.finish s]) := by
  cases h with
  | handling user username host ins raw hins =>
    have hdone := Script.reading (s := s) user username host (ins ++ [.text raw]) fun j hj => by
      rcases List.mem_append.1 hj with hj | hj
      · exact hins j hj
      · rw [List.mem_singleton.1 hj, Incoming.ends]
    rw [sessionOf_snoc] at hdone
    rw [List.append_assoc]
    exact hdone

theorem Script.step {s : SessionId} {loops : SessionId → Loop} {ins : List Incoming} {moves : List Move}
    (h : Script s (loops s) ins moves) (x : Happening) :
    Script s (x.loops loops s) (ins ++ x.taken s loops) (moves ++ movesOf s (x.moves loops)) := by
  by_cases hidle : x.Idle loops
  · obtain ⟨hmoves, hloops⟩ := Happening.moves_of_idle hidle
    rw [hmoves, hloops, taken_of_idle hidle, List.append_nil]
    exact (List.append_nil moves).symm ▸ h
  by_cases hx : x.session? = some s
  · have hloop : x.loops loops s = ((loops s).next x).1 := by
      rw [Happening.loops, hx]
      exact Function.update_self ..
    have hmoves : x.moves loops = ((loops s).next x).2 := by cases x <;> cases hx <;> rfl
    rw [hloop, hmoves]
    cases x with
    | opens s' user username host =>
      cases hx
      have hunopened : loops s = .unopened := not_not.1 hidle
      rw [hunopened] at h ⊢
      cases h
      have hopened := Script.reading (s := s) user username host [] (List.forall_mem_nil _)
      simpa [Loop.next, Happening.taken, movesOf, Move.actor?, Act.actor?, sessionOf] using hopened
    | takesIn s' i =>
      cases hx
      have hreading : loops s = .reading := not_not.1 hidle
      have htaken : (Happening.takesIn s i).taken s loops = [i] := if_pos ⟨rfl, hreading⟩
      rw [hreading] at h ⊢
      rw [htaken]
      exact h.takesIn i
    | finishes s' =>
      cases hx
      have hhandling : loops s = .handling := not_not.1 hidle
      have htaken : (Happening.finishes s).taken s loops = [] := rfl
      have hfinishes : movesOf s (Loop.next .handling (.finishes s)).2 = [.finish s] := by
        simp [Loop.next, movesOf, Move.actor?]
      rw [hhandling] at h ⊢
      rw [htaken, hfinishes, List.append_nil]
      exact h.finishes
    | beats s' =>
      have hnext : (loops s).next (.beats s') = (loops s, []) := by cases loops s <;> rfl
      rw [hnext]
      simpa [Happening.taken, movesOf] using h
    | act a => cases hx
    | passes millis => cases hx
  · have hloop : x.loops loops s = loops s := by
      rw [Happening.loops]
      cases hs : x.session? with
      | none => rfl
      | some s' => exact Function.update_of_ne (fun heq => hx (by rw [hs, heq])) ..
    rw [hloop, taken_of_ne hx, movesOf_of_ne hx, List.append_nil, List.append_nil]
    exact h

theorem script_run (s : SessionId) (xs : List Happening) :
    Script s (loopsAfter xs s) (takenIn s xs) (movesOf s (asSessions xs)) := by
  induction xs using List.reverseRecOn with
  | nil => exact .unopened
  | append_singleton xs x ih =>
    rw [loopsAfter_snoc, takenIn_snoc, asSessions_snoc, movesOf, List.filter_append]
    exact ih.step x

example :
    movesOf 1 (asSessions [.opens 1 7 "ann" none, .takesIn 1 .pong, .opens 2 8 "bob" none, .takesIn 1 (.text "x"),
      .takesIn 1 .close, .takesIn 2 .eof, .beats 1, .finishes 1, .takesIn 1 .lost, .takesIn 1 (.text "y")]) =
    sessionOf 1 7 "ann" none [.text "x"] ++ [.act (.close 1)] := rfl

namespace Router

variable {f : SessionId → Option SessionEntry} {sv : Server} {r : Router}

/-- What an open router tells when it is closed is what it tells when it leaves its room. -/
theorem close_mail_of_open (hopen : r.closed = false) :
    (r.close sv).2.mail = ({ r with closed := true }.leave sv).2.mail := by
  rw [close, if_neg (by simp [hopen])]
  dsimp only
  split <;> rfl

/-- The others in its room are told when a router leaves it. -/
theorem leave_waiting (hf : sv.registry.Shows f) (hown : ∀ s e, f s = some e → e.handle = s) (r : Router)
    {k : SessionId} (hk : k ≠ r.session) :
    (r.leave sv).2.mail.waiting k = sv.mail.waiting k ++
      match r.room with
      | none => []
      | some room =>
        if sv.registry.roomOf k = some room ∧ sv.mail.isLive k = true
        then [.event (.leave room r.username sv.now)] else [] := by
  cases hroom : r.room with
  | none => rw [leave_of_none hroom, List.append_nil]
  | some room =>
    have hleft := hf.leave room r.session
    have hown' : ∀ s e, Function.update f r.session ((f r.session).map (·.left room)) s = some e → e.handle = s := by
      intro s e he
      rw [Function.update_apply] at he
      split at he
      · rename_i hs
        obtain ⟨e₀, he₀, rfl⟩ := Option.map_eq_some_iff.1 he
        rw [hs, ← hown _ e₀ he₀, SessionEntry.left]
        split <;> rfl
      · exact hown s e he
    have hsame : (sv.registry.leave room r.session).roomOf k = sv.registry.roomOf k := by
      rw [Registry.roomOf, hleft.entry, Function.update_of_ne hk, Registry.roomOf, hf.entry]
    rw [leave, hroom]
    show (sv.mail.sendAll ((sv.registry.leave room r.session).roomHandles room (some r.session)) _).1.waiting k = _
    rw [Mailroom.waiting_sendAll, hleft.count_roomHandles_own hown', hsame]
    by_cases hin : sv.registry.roomOf k = some room <;> simp [hin, hk]

end Router

theorem Loop.unopened_of_next {l : Loop} {x : Happening} (h : (l.next x).1 = .unopened) : l = .unopened := by
  cases l with
  | unopened => rfl
  | reading =>
    cases x with
    | takesIn s i => cases i <;> cases h
    | _ => cases h
  | handling => cases x <;> cases h
  | ended => cases x <;> cases h

/-- Nothing but being let in opens a session. -/
theorem Loop.opens_of_next {x : Happening} (h : (Loop.next .unopened x).1 ≠ .unopened) :
    ∃ s user username host, x = .opens s user username host := by
  cases x with
  | opens s user username host => exact ⟨s, user, username, host, rfl⟩
  | _ => exact absurd rfl h

namespace Sockets

variable {n : Sockets} {t : Traffic} {s : SessionId} {p : Peer} {c : Connection}

/-! ## The queue of a session -/

theorem peer_of_loop (h : n.loop s = .unopened) : n.peers.get? s = none := by
  cases hpeer : n.peers.get? s with
  | none => rfl
  | some p => exact absurd (loop_of_some hpeer ▸ h) p.loop_ne_unopened

theorem loop_step_of (hsane : n.Sane) {x : Happening} (hx : x.session? = some s) :
    (n.step x).loop s = ((n.loop s).next x).1 := by
  rw [loop_step hsane, Happening.loops, hx]
  exact Function.update_self ..

theorem loop_step_of_ne (hsane : n.Sane) {x : Happening} (hx : x.session? ≠ some s) :
    (n.step x).loop s = n.loop s := by
  rw [loop_step hsane, Happening.loops]
  cases hs : x.session? with
  | none => rfl
  | some s' => exact Function.update_of_ne (fun heq => hx (by rw [hs, heq])) ..

/-- The queue of a session that is not opened yet is sent nothing, and the first that it is sent is a word. -/
theorem arrivals_unopened (settings : ChatSettings) (now : Int) {xs : List Happening}
    (h : ((start settings now).run xs).loop s = .unopened) : arrivals s (start settings now) xs = [] := by
  induction xs using List.reverseRecOn with
  | nil => rfl
  | append_singleton xs x ih =>
    have hsane := sane_run settings now xs
    rw [run_snoc] at h
    have hbefore : ((start settings now).run xs).loop s = .unopened := by
      by_cases hx : x.session? = some s
      · exact Loop.unopened_of_next ((loop_step_of hsane hx).symm.trans h)
      · exact (loop_step_of_ne hsane hx).symm.trans h
    rw [arrivals_snoc, ih hbefore, List.nil_append, sent, Mailroom.since,
      ((hsane.step x).fresh s (peer_of_loop h)).2, List.drop_nil]

theorem sent_opens (hsane : n.Sane) {x : Happening} (hnew : n.loop s = .unopened)
    (hopened : (n.step x).loop s ≠ .unopened) : n.sent x s = [.event (.connected welcomeText)] := by
  have hx : x.session? = some s := not_not.1 fun hx => hopened ((loop_step_of_ne hsane hx).trans hnew)
  rw [loop_step_of hsane hx, hnew] at hopened
  obtain ⟨s', user, username, host, rfl⟩ := Loop.opens_of_next hopened
  cases hx
  have hnobody := peer_of_loop hnew
  rw [sent, step, hnobody]
  show n.server.mail.since (Connection.start s s user username host n.time n.server).2.mail s = _
  rw [Connection.start_mail, Mailroom.since, (hsane.fresh s hnobody).2, Mailroom.waiting_send,
    Mailroom.waiting_openQueue, Mailroom.isLive_openQueue, if_pos rfl, if_pos rfl, if_pos ⟨rfl, rfl⟩]
  rfl

theorem greeted_first (settings : ChatSettings) (now : Int) {xs : List Happening}
    (h : ((start settings now).run xs).loop s ≠ .unopened) :
    ∃ rest, arrivals s (start settings now) xs = .event (.connected welcomeText) :: rest := by
  induction xs using List.reverseRecOn with
  | nil => exact absurd rfl h
  | append_singleton xs x ih =>
    rw [run_snoc] at h
    rw [arrivals_snoc]
    by_cases hbefore : ((start settings now).run xs).loop s = .unopened
    · rw [arrivals_unopened settings now hbefore, sent_opens (sane_run settings now xs) hbefore h]
      exact ⟨[], rfl⟩
    · obtain ⟨rest, hrest⟩ := ih hbefore
      exact ⟨_, by rw [hrest, List.cons_append]⟩

end Sockets

/-- The control frames that a happening may put into the queue of a session: what its heartbeat sends, and the answer
to a ping of its client. -/
def Happening.Controls (s : SessionId) (x : Happening) (f : Frame) : Prop :=
  x = .beats s ∧ (f = .ping pingPayload ∨ f = .close awayCode awayReason) ∨
    ∃ payload, x = .takesIn s (.ping payload) ∧ f = .pong payload

namespace Sockets

variable {n : Sockets} {t : Traffic} {s : SessionId} {p : Peer} {c : Connection}

theorem controls_step (hsane : n.Sane) {x : Happening} {k : SessionId} {f : Frame} (hf : f ∈ n.sent x k)
    (hcontrol : f.isEvent = false) : x.Controls k f := by
  have hno : ∀ {m : Mailroom}, n.server.mail.Grows (fun _ f => f.isEvent = true) m → f ∉ n.server.mail.since m k :=
    fun hgrows hin => by simp [hgrows.since k f hin] at hcontrol
  have hself : f ∉ n.server.mail.since n.server.mail k := by
    rw [Mailroom.since_self]
    exact List.not_mem_nil
  rw [sent] at hf
  have hcase := n.step_cases x
  generalize n.step x = n' at hcase hf
  cases hcase with
  | opens s user username host hnew =>
    have hgreets : f ∈ n.server.mail.since (Connection.start s s user username host n.time n.server).2.mail k := hf
    rw [Connection.start_mail, Mailroom.since, Mailroom.waiting_send, Mailroom.waiting_openQueue] at hgreets
    by_cases hk : k = s
    · rw [if_pos hk, hk, (hsane.fresh s hnew).2] at hgreets
      have hword : f = .event (.connected welcomeText) := by
        split at hgreets
        · exact List.mem_singleton.1 hgreets
        · cases hgreets
      rw [hword] at hcontrol
      cases hcontrol
    · rw [if_neg hk, if_neg fun h => hk h.1, List.append_nil, List.drop_length] at hgreets
      cases hgreets
  | takesIn s c i inHand next hpeer hopen htakes =>
    obtain ⟨-, hhandle⟩ : c.router.session = s ∧ c.router.handle = s := hsane.session s _ hpeer
    have hnext : f ∈ n.server.mail.since next.2.mail k := hf
    cases htakes with
    | garbled | ignores | hears => exact absurd hnext hself
    | takesUp raw f hframe => exact absurd hnext (hno (c.router.takeUp_events f n.server))
    | answers payload =>
      have hgrows : n.server.mail.Grows (fun k f => k = s ∧ f = .pong payload)
          (n.server.mail.send c.router.handle (.pong payload)).1 := Mailroom.grows_send _ ⟨hhandle, rfl⟩
      obtain ⟨rfl, rfl⟩ := hgrows.since k f hnext
      exact .inr ⟨payload, rfl, rfl⟩
    | ends i hends =>
      rw [c.finish_snd hhandle, Mailroom.since_kill] at hnext
      split at hnext
      · cases hnext
      · exact absurd hnext (hno (c.router.close_events n.server))
  | finishes s c task hpeer =>
    cases task with
    | none => exact absurd hf hself
    | some task => exact absurd hf (hno (c.router.finish_events task.rest n.server))
  | beats s p hpeer =>
    obtain ⟨-, hhandle⟩ := hsane.session s p hpeer
    have hbeats : f ∈ n.server.mail.since (p.connection.beat n.server).2.mail k := hf
    rw [p.connection.beat_snd] at hbeats
    split at hbeats
    · rename_i b hb
      have hgrows : n.server.mail.Grows (fun k f => k = s ∧ f = b.frame)
          (n.server.mail.send p.connection.router.handle b.frame).1 := Mailroom.grows_send _ ⟨hhandle, rfl⟩
      obtain ⟨rfl, rfl⟩ := hgrows.since k f hbeats
      cases b
      · exact .inl ⟨rfl, .inl rfl⟩
      · exact .inl ⟨rfl, .inr rfl⟩
    · exact absurd hbeats hself
  | act a ha =>
    rcases n.elsewhere_mail ha with ⟨ks, e, hsent⟩ | hsame | ⟨j, -, hkilled⟩ | ⟨j, hdrained⟩
    · rw [hsent] at hf
      exact absurd hf (hno (Mailroom.grows_sendAll _ fun _ _ => rfl))
    · rw [hsame] at hf
      exact absurd hf hself
    · rw [hkilled, (Mailroom.fades_kill _ j).since] at hf
      cases hf
    · rw [hdrained, (Mailroom.fades_drain _ j).since] at hf
      cases hf
  | passes millis => exact absurd hf hself
  | idle => exact absurd hf hself

/-- Whatever a queue is sent that is no event comes from its own connection. -/
theorem controls_run (settings : ChatSettings) (now : Int) {xs : List Happening} {f : Frame}
    (hf : f ∈ arrivals s (start settings now) xs) (hcontrol : f.isEvent = false) : ∃ x ∈ xs, x.Controls s f := by
  obtain ⟨before, x, after, rfl, hsent⟩ := Run.mem_output.1 hf
  exact ⟨x, by simp, controls_step (sane_run settings now before) hsent hcontrol⟩

/-! ## What touches nothing -/

/-- Nothing but the queue of one session is touched. -/
structure Untouched (s : SessionId) (n n' : Sockets) : Prop where
  server : ∃ mail, n'.server = { n.server with mail }
  queues : ∀ k, k ≠ s → n'.server.mail.waiting k = n.server.mail.waiting k ∧
    n'.server.mail.isLive k = n.server.mail.isLive k
  routers : ∀ k, (n'.peers.get? k).map (·.connection.router) = (n.peers.get? k).map (·.connection.router)
  underway : n'.underway = n.underway

theorem Untouched.act (hpeer : n.peers.get? s = some p) (inHand : Option (Option Task)) {next : Connection × Server}
    (hserver : next.2 = n.server ∨ ∃ f, next.2 = { n.server with mail := (n.server.mail.send s f).1 })
    (hrouter : next.1.router = p.connection.router) : Untouched s n (n.act s inHand next) where
  server := by
    rcases hserver with hsame | ⟨f, hsent⟩
    · exact ⟨n.server.mail, hsame⟩
    · exact ⟨_, hsent⟩
  queues k hk := by
    show next.2.mail.waiting k = _ ∧ next.2.mail.isLive k = _
    rcases hserver with hsame | ⟨f, hsent⟩
    · rw [hsame]
      exact ⟨rfl, rfl⟩
    · rw [hsent, Mailroom.waiting_send, Mailroom.isLive_send, if_neg fun h => hk h.1, List.append_nil]
      exact ⟨rfl, rfl⟩
  routers k := by
    rw [get?_act]
    split
    · rename_i hk
      rw [hk, hpeer, Option.map_some, Option.map_some, hrouter]
    · rfl
  underway := rfl

theorem Untouched.refl (s : SessionId) (n : Sockets) : Untouched s n n :=
  ⟨⟨_, rfl⟩, fun _ _ => ⟨rfl, rfl⟩, fun _ => rfl, rfl⟩

/-- What is no text and does not end the loop touches nothing. -/
theorem untouched_takesIn (hsane : n.Sane) (s : SessionId) {i : Incoming} (htext : i.text? = none)
    (hgoesOn : i.ends = false) : Untouched s n (n.step (.takesIn s i)) := by
  have hcase := n.step_cases (.takesIn s i)
  generalize n.step (.takesIn s i) = n' at hcase
  cases hcase with
  | takesIn s c i inHand next hpeer hopen htakes =>
    obtain ⟨-, hhandle⟩ : c.router.session = s ∧ c.router.handle = s := hsane.session s _ hpeer
    cases htakes with
    | garbled | takesUp => cases htext
    | ignores | hears => exact .act hpeer none (.inl rfl) rfl
    | answers payload => exact .act hpeer none (.inr ⟨.pong payload, by rw [hhandle]⟩) rfl
    | ends i hends =>
      rw [hends] at hgoesOn
      cases hgoesOn
  | idle => exact .refl s n

/-- Neither does a heartbeat. -/
theorem untouched_beats (hsane : n.Sane) (s : SessionId) : Untouched s n (n.step (.beats s)) := by
  have hcase := n.step_cases (.beats s)
  generalize n.step (.beats s) = n' at hcase
  cases hcase with
  | beats s p hpeer =>
    obtain ⟨-, hhandle⟩ := hsane.session s p hpeer
    refine .act hpeer p.inHand ?_ (p.connection.beat_router n.server)
    rw [p.connection.beat_snd, hhandle]
    split
    · exact .inr ⟨_, rfl⟩
    · exact .inl rfl
  | idle => exact .refl s n

/-- Unless the loop reads, nothing is taken in. -/
theorem step_takesIn_of_ne (h : n.loop s ≠ .reading) (i : Incoming) : n.step (.takesIn s i) = n := by
  have hcase := n.step_cases (.takesIn s i)
  generalize n.step (.takesIn s i) = n' at hcase
  cases hcase with
  | takesIn s c i inHand next hpeer hopen htakes => exact absurd (loop_reading hpeer hopen) h
  | idle => rfl

/-! ## The end of a session -/

/-- A session is gone, and everything else is as before. -/
structure Departs (s : SessionId) (r : Router) (n n' : Sockets) : Prop where
  store : n'.server.store = n.server.store
  /-- Each table of the registry holds what it held, but for this session. -/
  sessions : ∀ k, n'.server.registry.sessions.get? k = if k = s then none else n.server.registry.sessions.get? k
  members : ∀ room k, k ∈ n'.server.registry.members room ↔ k ≠ s ∧ k ∈ n.server.registry.members room
  users : ∀ user k, k ∈ n'.server.registry.sessionsOfUser user ↔ k ≠ s ∧ k ∈ n.server.registry.sessionsOfUser user
  /-- It is noted that its user is offline, unless another session is theirs. -/
  pending : n'.server.pending = n.server.pending ++
    if n'.server.registry.isOnline r.user = true then [] else [.presence r.user r.username false]
  /-- Whoever else is in its room is told once that it leaves, and nobody is told anything else. -/
  told : ∀ k, k ≠ s → n'.server.mail.waiting k = n.server.mail.waiting k ++
    match r.room with
    | none => []
    | some room =>
      if n.server.registry.roomOf k = some room ∧ n.server.mail.isLive k = true
      then [.event (.leave room r.username n.server.now)] else []
  queue : Absent s n'.server.mail
  /-- Its router is closed, so that closing it once more does nothing. -/
  closed : ∃ r', (n'.peers.get? s).map (·.connection.router) = some r' ∧ ∀ sv, r'.close sv = (r', sv)
  others : ∀ k, k ≠ s → n'.peers.get? k = n.peers.get? k

theorem departs (h : n.Mirror t) (hsane : n.Sane) (hc : t.crowd.Coupled) (hpeer : n.peers.get? s = some ⟨c, none⟩)
    (hopen : c.ended = false) : Departs s c.router n (n.act s none (c.finish n.server)) := by
  obtain ⟨hsession, hhandle⟩ : c.router.session = s ∧ c.router.handle = s := hsane.session s _ hpeer
  have hclosed : c.router.closed = false := (hsane.closed s _ hpeer).trans hopen
  have hshows : n.server.registry.Shows t.crowd.shown? := h.server.registry ▸ hc.shows
  have hshown : t.crowd.shown? c.router.session = c.router.shown? := by
    rw [hsession, Crowd.shown?, h.routers, hpeer]
    rfl
  have hserver : (n.act s none (c.finish n.server)).server =
      { (c.router.close n.server).2 with mail := (c.router.close n.server).2.mail.kill s } := c.finish_snd hhandle _
  have hgone : (c.router.close n.server).2.registry.Shows (Function.update t.crowd.shown? s none) := by
    have hcouples := (c.router.couples_close n.server).shows _ hshows hshown
    rwa [hsession, Router.shown?, Router.close_closed, if_pos rfl] at hcouples
  have hupdate : ∀ {α : Type} (f : SessionEntry → Option α) (k : SessionId) (a : α),
      (Function.update t.crowd.shown? s none k).bind f = some a ↔ k ≠ s ∧ (t.crowd.shown? k).bind f = some a := by
    intro α f k a
    by_cases hk : k = s <;> simp [hk]
  refine ⟨?_, fun k => ?_, fun room k => ?_, fun user k => ?_, ?_, fun k hk => ?_, ?_, ?_, fun k hk => ?_⟩
  · rw [hserver]
    exact c.router.close_store n.server
  · rw [hserver]
    show (c.router.close n.server).2.registry.sessions.get? k = _
    rw [hgone.entry, hshows.entry, Function.update_apply]
  · rw [hserver, hshows.mem_members]
    exact (hgone.mem_members room k).trans (hupdate _ _ _)
  · rw [hserver, hshows.mem_sessionsOfUser]
    refine (hgone.mem_sessionsOfUser user k).trans ?_
    by_cases hk : k = s <;> simp [hk]
  · rw [hserver]
    exact Router.close_pending hshows hclosed hshown
  · rw [hserver]
    show Mailroom.waiting (Mailroom.kill _ s) k = _
    rw [Mailroom.waiting_kill, if_neg hk, Router.close_mail_of_open hclosed]
    exact Router.leave_waiting hshows (fun s e => h.own hsane) { c.router with closed := true } (hsession.symm ▸ hk)
  · rw [hserver]
    exact ⟨by rw [Mailroom.isLive_kill, if_pos rfl], by rw [Mailroom.waiting_kill, if_pos rfl]⟩
  · refine ⟨(c.router.close n.server).1, by rw [get?_act, if_pos rfl]; rfl, fun sv => ?_⟩
    rw [Router.close, if_pos (c.router.close_closed n.server)]
  · rw [get?_act, if_neg hk]

/-- A loop that reads takes in whatever comes next. -/
theorem step_reads (hreading : n.loop s = .reading) : ∃ c, n.peers.get? s = some ⟨c, none⟩ ∧ c.ended = false ∧
    ∀ i, n.step (.takesIn s i) = n.takeIn s c i := by
  cases hpeer : n.peers.get? s with
  | none =>
    rw [loop_of_none hpeer] at hreading
    cases hreading
  | some p =>
    obtain ⟨c, inHand⟩ := p
    rw [loop_of_some hpeer, Peer.loop] at hreading
    split_ifs at hreading with hended hhandling
    rw [Option.not_isSome_iff_eq_none] at hhandling
    subst hhandling
    exact ⟨c, rfl, by simpa using hended, fun i => by simp only [step, hpeer, if_neg hended]⟩

theorem takeIn_of_ends (n : Sockets) (s : SessionId) (hopen : c.ended = false) {i : Incoming} (hends : i.ends = true) :
    n.takeIn s c i = n.act s none (c.finish n.server) := by
  obtain ⟨inHand, next, htake, htakes⟩ := n.takeIn_cases s hopen i
  rw [htake]
  cases htakes with
  | ends => rfl
  | garbled | takesUp | ignores | answers | hears => cases hends

/-- **A connection is a router session.** Whatever happens to any number of connections, and to the server otherwise,
the server is the same as if each connection were a router session, and the queues are sent the same events in the same
order. Such a session connects and is greeted, handles the texts that its read loop takes in, one after another, and is
closed once when the loop ends (`Script`). Besides events, its queue is sent only what its heartbeat sends and the
answers to the pings of its client, and nothing is sent before the greeting. Whatever else comes in touches nothing but
that queue, and after the end nothing is taken in. What is taken in and done with at once is received whole, and when
all texts are, the sessions are those of routers that handle them whole. However the loop ends, the session departs in
the same way. -/
theorem connections_are_sessions (settings : ChatSettings) (now : Int) (xs : List Happening) :
    let n := (start settings now).run xs
    let t := (Traffic.start settings now).run (asSessions xs)
    n.Mirror t ∧
    (∀ s, (arrivals s (start settings now) xs).filter Frame.isEvent =
      Traffic.arrivals s (.start settings now) (asSessions xs)) ∧
    (∀ s, Script s (n.loop s) (takenIn s xs) (movesOf s (asSessions xs))) ∧
    (∀ s, n.loop s ≠ .unopened → ∃ rest, arrivals s (start settings now) xs = .event (.connected welcomeText) :: rest) ∧
    (∀ s f, f ∈ arrivals s (start settings now) xs → f.isEvent = false → ∃ x ∈ xs, x.Controls s f) ∧
    (∀ s, (∀ i, i.text? = none → i.ends = false → Untouched s n (n.step (.takesIn s i))) ∧
      Untouched s n (n.step (.beats s)) ∧ (n.loop s = .ended → ∀ i, n.step (.takesIn s i) = n)) ∧
    (∀ acts, (∀ a ∈ acts, a.Whole) → ((Traffic.start settings now).run (acts.flatMap Traffic.movesOfWhole)).Same
      ⟨(Crowd.start settings now).run acts, .empty⟩) ∧
    ∀ s, n.loop s = .reading → ∃ p, n.peers.get? s = some p ∧
      (∀ i, (n.step (.takesIn s i)).step (.finishes s) = n.act s none (p.connection.receive i n.server)) ∧
      (∀ raw, ((t.step (.takeUp s raw)).step (.finish s)).Same
        { t with crowd := t.crowd.act s fun r sv => r.handleText raw sv }) ∧
      ∀ i, i.ends = true → n.step (.takesIn s i) = n.step (.takesIn s .close) ∧
        Departs s p.connection.router n (n.step (.takesIn s i)) := by
  intro n t
  have hsane : n.Sane := sane_run settings now xs
  have hmirror : n.Mirror t := mirror_run settings now xs
  refine ⟨hmirror, fun s => events_run settings now s xs, fun s => ?_, fun s => greeted_first settings now,
    fun s f hf => controls_run settings now hf, fun s => ⟨fun i => untouched_takesIn hsane s, untouched_beats hsane s,
      fun hover i => ?_⟩, fun acts hwhole => Traffic.same_run_whole settings now hwhole, fun s hreading => ?_⟩
  · rw [loop_run settings now]
    exact script_run s xs
  · exact step_takesIn_of_ne (by rw [hover]; exact nofun) i
  · obtain ⟨c, hpeer, hopen, htakes⟩ := step_reads hreading
    have hidle : t.tasks.get? s = none := by rw [hmirror.tasks, hpeer]; rfl
    have hclose : n.takeIn s c .close = n.act s none (c.finish n.server) := takeIn_of_ends n s hopen rfl
    refine ⟨⟨c, none⟩, hpeer, fun i => ?_, Traffic.finish_takeUp hidle, fun i hends => ?_⟩
    · rw [htakes]
      exact finish_takeIn n s hopen i
    · rw [htakes, htakes, hclose, takeIn_of_ends n s hopen hends]
      exact ⟨rfl, departs hmirror hsane (Traffic.coupled_of_start settings now _) hpeer hopen⟩

end Sockets

end DirectChat
