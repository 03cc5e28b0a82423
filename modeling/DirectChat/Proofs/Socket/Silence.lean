import DirectChat.Proofs.Socket.Lifetime
import DirectChat.Proofs.Socket.Pulse
/-!
# Silent clients

Connections whose heartbeats act when they are due, and not before (`Timely`). What passes between a heartbeat and its
client is the course of a connection (`course`), and where the heartbeat stands is decided by it at all times
(`fits_run`).

The keep-alive is to close the connection of a client that does not answer a ping within ten seconds. What it does is to
put a close into the queue (`silence_is_told`). The session goes on until its read loop ends, which a silent client need
not let happen (`silence_is_borne`), and no close is asked for when a pong that came before the ping was kept for it.
-/

namespace DirectChat

/-- The mark that a frame leaves when it is put into the queue. -/
def Frame.mark? : Frame → Option Mark
  | .ping _ => some .ping
  | .close .. => some .close
  | .event _ | .pong _ => none

/-- The mark that a frame leaves when it comes in. -/
def Incoming.mark? : Incoming → Option Mark
  | .pong => some .pong
  | _ => none

namespace Sockets

/-- When the heartbeat of a session has to act next. -/
def due? (n : Sockets) (s : SessionId) : Option Nat := (n.peers.get? s).bind (·.connection.heartbeat.due?)

/-- A heartbeat acts when it is due, and time does not pass it by. -/
def Timely (n : Sockets) : Happening → Prop
  | .beats s => n.due? s = some n.time
  | .passes millis => ∀ e ∈ n.peers.entries, ∀ t ∈ e.2.connection.heartbeat.due?, n.time + millis ≤ t
  | .opens .. | .takesIn .. | .finishes _ | .act _ => True

instance (n : Sockets) : (x : Happening) → Decidable (n.Timely x)
  | .beats s => inferInstanceAs (Decidable (n.due? s = some n.time))
  | .passes millis =>
    inferInstanceAs (Decidable (∀ e ∈ n.peers.entries, ∀ t ∈ e.2.connection.heartbeat.due?, n.time + millis ≤ t))
  | .opens .. | .takesIn .. | .finishes _ | .act _ => isTrue trivial

/-- What passes between the heartbeat of a session and its client when something happens. -/
def marks (s : SessionId) (n : Sockets) (x : Happening) : List Mark :=
  (n.sent x s).filterMap Frame.mark? ++ (x.taken s n.loop).filterMap Incoming.mark?

/-- What has passed between the heartbeat of a session and its client. A pong counts from when the read loop takes it
in. -/
def course (s : SessionId) (n : Sockets) (xs : List Happening) : Course :=
  Run.output step (fun n x => (n.marks s x).map (n.time, ·)) n xs

/-- What of the connection of a session its heartbeat depends on. -/
def pulse? (n : Sockets) (s : SessionId) : Option Pulse :=
  (n.peers.get? s).map fun p => ⟨p.connection.heartbeat, p.connection.ended, n.server.mail.isLive s⟩

variable {n : Sockets} {s : SessionId} {p : Peer} {c : Connection}

theorem pulse?_of_some (hpeer : n.peers.get? s = some p) :
    n.pulse? s = some ⟨p.connection.heartbeat, p.connection.ended, n.server.mail.isLive s⟩ := by
  rw [pulse?, hpeer, Option.map_some]

/-! ## What a happening does to a pulse -/

/-- Only a heartbeat puts pings and closes into a queue. -/
theorem sent_marks (hsane : n.Sane) {x : Happening} (hx : x ≠ .beats s) : (n.sent x s).filterMap Frame.mark? = [] := by
  refine List.filterMap_eq_nil_iff.2 fun f hf => ?_
  cases f with
  | event e => rfl
  | pong payload => rfl
  | ping payload | close code reason =>
    rcases controls_step hsane hf rfl with ⟨hbeats, -⟩ | ⟨payload, -, hpong⟩
    · exact absurd hbeats hx
    · cases hpong

/-- A queue that nobody receives any more is not received again. -/
theorem isLive_step (hsane : n.Sane) (hpeer : n.peers.get? s = some p) (x : Happening)
    (h : (n.step x).server.mail.isLive s = true) : n.server.mail.isLive s = true := by
  have hcase := n.step_cases x
  generalize n.step x = n' at hcase h
  cases hcase with
  | opens s' user username host hnew =>
    have hs : s ≠ s' := fun hs => by rw [hs, hnew] at hpeer; cases hpeer
    have hopened : (Connection.start s' s' user username host n.time n.server).2.mail.isLive s = true := h
    rwa [Connection.start_mail, Mailroom.isLive_send, Mailroom.isLive_openQueue, if_neg hs] at hopened
  | takesIn s' c i inHand next hpeer' hopen htakes =>
    obtain ⟨-, hhandle⟩ : c.router.session = s' ∧ c.router.handle = s' := hsane.session s' _ hpeer'
    have hnext : next.2.mail.isLive s = true := h
    cases htakes with
    | garbled | ignores | hears => exact hnext
    | takesUp raw f hframe => exact ((c.router.takeUp_events f n.server).live s).symm.trans hnext
    | answers payload => rwa [Mailroom.isLive_send] at hnext
    | ends i hends =>
      rw [c.finish_snd hhandle, Mailroom.isLive_kill] at hnext
      split at hnext
      · cases hnext
      · exact ((c.router.close_events n.server).live s).symm.trans hnext
  | finishes s' c task hpeer' =>
    cases task with
    | none => exact h
    | some task => exact ((c.router.finish_events task.rest n.server).live s).symm.trans h
  | beats s' p' hpeer' =>
    have hbeat : (p'.connection.beat n.server).2.mail.isLive s = true := h
    rw [p'.connection.beat_snd] at hbeat
    split at hbeat
    · rwa [Mailroom.isLive_send] at hbeat
    · exact hbeat
  | act a ha =>
    rcases n.elsewhere_mail ha with ⟨ks, e, hsent⟩ | hsame | ⟨k, -, hkilled⟩ | ⟨k, hdrained⟩
    · rwa [hsent, Mailroom.isLive_sendAll] at h
    · rwa [hsame] at h
    · rw [hkilled, Mailroom.isLive_kill] at h
      split at h
      · cases h
      · exact h
    · rwa [hdrained, Mailroom.isLive_drain] at h
  | passes millis => exact h
  | idle => exact h

theorem get?_step_of_ne {x : Happening} (hx : x.session? ≠ some s) : (n.step x).peers.get? s = n.peers.get? s := by
  have hcase := n.step_cases x
  generalize n.step x = n' at hcase
  cases hcase with
  | opens s' | takesIn s' | finishes s' | beats s' =>
    exact (get?_act ..).trans (if_neg fun hs => hx (by rw [hs, Happening.session?]))
  | act | passes | idle => rfl

theorem marks_of_ne (hsane : n.Sane) {x : Happening} (hx : x ≠ .beats s) :
    n.marks s x = (x.taken s n.loop).filterMap Incoming.mark? := by
  rw [marks, sent_marks hsane hx, List.nil_append]

/-- A heartbeat that is due leaves its mark, or nobody receives what it sends. -/
theorem pulse_beats (hsane : n.Sane) (hpeer : n.peers.get? s = some p) (hdue : n.due? s = some n.time) :
    Pulse.Goes n.time (n.pulse? s) (n.marks s (.beats s)) ((n.step (.beats s)).pulse? s) := by
  obtain ⟨-, hhandle⟩ := hsane.session s p hpeer
  have hstep : n.step (.beats s) = n.act s p.inHand (p.connection.beat n.server) := by rw [step, hpeer]
  have hdue' : p.connection.heartbeat.due? = some n.time := by rwa [due?, hpeer, Option.bind_some] at hdue
  obtain ⟨b, hb⟩ := Heartbeat.exists_asked hdue'
  have hmail : (n.step (.beats s)).server.mail = (n.server.mail.send s b.frame).1 := by
    rw [hstep]
    show (p.connection.beat n.server).2.mail = _
    rw [p.connection.beat_snd, hb, hhandle]
  have hpulse : (n.step (.beats s)).pulse? s =
      some ⟨if n.server.mail.isLive s then p.connection.heartbeat.beat.1 else .stopped, p.connection.ended,
        n.server.mail.isLive s⟩ := by
    have hpeer' : (n.step (.beats s)).peers.get? s = some ⟨(p.connection.beat n.server).1, p.inHand⟩ := by
      rw [hstep, get?_act, if_pos rfl]
    rw [pulse?_of_some hpeer', hmail, Mailroom.isLive_send, p.connection.beat_ended, Connection.beat_heartbeat hb,
      hhandle]
  have hmarks : n.marks s (.beats s) = if n.server.mail.isLive s then [b.mark] else [] := by
    have hsent : n.sent (.beats s) s = if n.server.mail.isLive s then [b.frame] else [] := by
      rw [sent, hmail, Mailroom.since_of_append (Mailroom.waiting_send ..)]
      simp
    have hmark : b.frame.mark? = some b.mark := by cases b <;> rfl
    have htaken : (Happening.beats s).taken s n.loop = [] := rfl
    rw [marks, hsent, htaken, List.filterMap_nil, List.append_nil]
    split
    · rw [List.filterMap_cons, hmark, List.filterMap_nil]
    · rfl
  rw [pulse?_of_some hpeer, hpulse, hmarks]
  cases hlive : n.server.mail.isLive s
  · exact .fails ⟨_, _, _⟩ rfl
  · exact .beats ⟨_, _, _⟩ b hdue' hb

/-- What happens to a connection is one of the ways in which its pulse can go. -/
theorem pulse_step (hsane : n.Sane) {x : Happening} (htimely : n.Timely x) (s : SessionId) :
    Pulse.Goes n.time (n.pulse? s) (n.marks s x) ((n.step x).pulse? s) := by
  by_cases hbeats : x = .beats s
  · subst hbeats
    have hdue : n.due? s = some n.time := htimely
    obtain ⟨p, hpeer, -⟩ := Option.bind_eq_some_iff.1 hdue
    exact pulse_beats hsane hpeer hdue
  rw [marks_of_ne hsane hbeats]
  have hlive : ∀ {p : Peer}, n.peers.get? s = some p → (n.step x).server.mail.isLive s = true →
      n.server.mail.isLive s = true := fun hpeer => isLive_step hsane hpeer x
  have hstays : ∀ {p p' : Peer}, n.peers.get? s = some p → (n.step x).peers.get? s = some p' →
      p'.connection.heartbeat = p.connection.heartbeat → p'.connection.ended = p.connection.ended →
      Pulse.Goes n.time (n.pulse? s) [] ((n.step x).pulse? s) := by
    intro p p' hpeer hpeer' hheartbeat hended
    rw [pulse?_of_some hpeer, pulse?_of_some hpeer', hheartbeat, hended]
    exact .stays ⟨_, _, _⟩ _ (hlive hpeer)
  have hsame : (n.step x).peers.get? s = n.peers.get? s →
      Pulse.Goes n.time (n.pulse? s) [] ((n.step x).pulse? s) := by
    intro hpeers
    cases hpeer : n.peers.get? s with
    | none =>
      rw [pulse?, pulse?, hpeers, hpeer]
      exact .absent
    | some p => exact hstays hpeer (hpeers.trans hpeer) rfl rfl
  by_cases hx : x.session? = some s
  · have hcase := n.step_cases x
    generalize n.step x = n' at hcase hlive hstays hsame ⊢
    cases hcase with
    | opens s' user username host hnew =>
      cases hx
      have hpeer' : (n.act s none (Connection.start s s user username host n.time n.server)).peers.get? s = _ :=
        (get?_act ..).trans (if_pos rfl)
      have hheard : (Connection.start s s user username host n.time n.server).2.mail.isLive s = true := by
        rw [Connection.start_mail, Mailroom.isLive_send, Mailroom.isLive_openQueue, if_pos rfl]
      have hbefore : n.pulse? s = none := by rw [pulse?, hnew, Option.map_none]
      rw [hbefore, pulse?_of_some hpeer']
      exact hheard ▸ .starts
    | takesIn s' c i inHand next hpeer hopen htakes =>
      cases hx
      have htaken : (Happening.takesIn s i).taken s n.loop = [i] := if_pos ⟨rfl, loop_reading hpeer hopen⟩
      have hpeer' : (n.act s inHand next).peers.get? s = some ⟨next.1, inHand⟩ := (get?_act ..).trans (if_pos rfl)
      rw [htaken]
      cases htakes with
      | garbled | takesUp | ignores | answers => exact hstays hpeer hpeer' rfl rfl
      | hears =>
        rw [pulse?_of_some hpeer, pulse?_of_some hpeer']
        exact .pong ⟨_, _, _⟩
      | ends i hends =>
        obtain ⟨-, hhandle⟩ : c.router.session = s ∧ c.router.handle = s := hsane.session s _ hpeer
        have hunheard : (c.finish n.server).2.mail.isLive s = false := by
          rw [c.finish_snd hhandle, Mailroom.isLive_kill, if_pos rfl]
        have hmark : [i].filterMap Incoming.mark? = [] := by cases i <;> cases hends <;> rfl
        rw [hmark, pulse?_of_some hpeer, pulse?_of_some hpeer']
        exact hunheard ▸ .ends ⟨_, _, _⟩
    | finishes s' c task hpeer =>
      cases hx
      exact hstays hpeer ((get?_act ..).trans (if_pos rfl)) rfl rfl
    | beats s' p hpeer =>
      cases hx
      exact absurd rfl hbeats
    | act | passes => cases hx
    | idle x hidle =>
      rw [taken_of_idle hidle]
      exact hsame rfl
  · rw [taken_of_ne hx]
    exact hsame (get?_step_of_ne hx)

theorem time_step {x : Happening} (hx : ∀ millis, x ≠ .passes millis) : (n.step x).time = n.time := by
  have hcase := n.step_cases x
  generalize n.step x = n' at hcase
  cases hcase with
  | passes millis => exact absurd rfl (hx millis)
  | opens | takesIn | finishes | beats | act | idle => rfl

/-! ## Any timely run -/

theorem course_snoc (s : SessionId) (n : Sockets) (xs : List Happening) (x : Happening) :
    course s n (xs ++ [x]) = course s n xs ++ ((n.run xs).marks s x).map ((n.run xs).time, ·) := by
  rw [course, Run.output_append]
  exact congrArg _ (List.append_nil _)

variable {settings : ChatSettings} {now : Int} {xs : List Happening}

/-- Where the heartbeat of a session stands is decided by its course. -/
theorem fits_run (htimely : Run.Along step Timely (start settings now) xs) (s : SessionId) :
    Pulse.Fits ((start settings now).run xs).time (course s (start settings now) xs)
      (((start settings now).run xs).pulse? s) := by
  induction xs using List.reverseRecOn with
  | nil => rfl
  | append_singleton xs x ih =>
    obtain ⟨hbefore, hx⟩ := Run.along_snoc.1 htimely
    have hfits := (ih hbefore).step (pulse_step (sane_run settings now xs) hx s)
    rw [run_snoc, course_snoc]
    by_cases hpasses : ∃ millis, x = .passes millis
    · obtain ⟨millis, rfl⟩ := hpasses
      refine hfits.later fun q hq t ht => ?_
      obtain ⟨p, hpeer, rfl⟩ := Option.map_eq_some_iff.1 hq
      exact hx (s, p) ((Table.get?_eq_some_iff _).1 hpeer) t ht
    · rw [time_step fun millis hmillis => hpasses ⟨millis, hmillis⟩]
      exact hfits

/-- Whether the registry knows a session. -/
def Registered (n : Sockets) (s : SessionId) : Prop := (n.server.registry.sessions.get? s).isSome = true

instance (n : Sockets) (s : SessionId) : Decidable (n.Registered s) := inferInstanceAs (Decidable (_ = true))

/-- The registry knows the sessions whose read loops are not over. -/
theorem registered_iff (settings : ChatSettings) (now : Int) (xs : List Happening) (s : SessionId) :
    ((start settings now).run xs).Registered s ↔ ((start settings now).run xs).loop s ≠ .unopened ∧
      ((start settings now).run xs).loop s ≠ .ended := by
  have hmirror := mirror_run settings now xs
  have hsane := sane_run settings now xs
  have hshows := (Traffic.coupled_of_start settings now (asSessions xs)).shows
  rw [Registered, ← hmirror.server.registry, hshows.entry, Crowd.shown?, hmirror.routers]
  cases hpeer : ((start settings now).run xs).peers.get? s with
  | none => simp [loop_of_none hpeer]
  | some p =>
    have hclosed := hsane.closed s p hpeer
    rw [loop_of_some hpeer, Peer.loop, Option.map_some, Option.bind_some, Router.shown?, hclosed]
    cases p.connection.ended
    · cases p.inHand <;> simp
    · simp

/-- A session is given up: the registry does not know it any more, and a close was asked for. -/
def GivenUp (n : Sockets) (s : SessionId) (l : Course) : Prop := ¬ n.Registered s ∧ l.Closed

instance (n : Sockets) (s : SessionId) (l : Course) : Decidable (n.GivenUp s l) := inferInstanceAs (Decidable (_ ∧ _))

/-- **A silent client is told, and no more.** In every run in which the heartbeats act when they are due, a session with
a ping that was not answered for more than ten seconds is given up only if its read loop has ended of itself. As long as
it has not, and anybody receives what is sent, a close is put into its queue ten seconds after the ping if and only if
no pong was kept for the ping from before. And a client each of whose pings is answered in less than ten seconds is
never sent a close. -/
theorem silence_is_told (htimely : Run.Along step Timely (start settings now) xs) (s : SessionId) :
    let n := (start settings now).run xs
    let l := course s (start settings now) xs
    (∀ before sent after, Silent n.time l before sent after →
      (n.GivenUp s l ↔ n.loop s = .ended ∧ l.Closed) ∧
      (n.loop s ≠ .ended → n.server.mail.isLive s = true →
        (after.head? = some (sent + pongTimeout, .close) ↔ Course.pongs before ≤ Course.pings before))) ∧
    (Answered n.time l → ¬ l.Closed) := by
  intro n l
  have hfits : Pulse.Fits n.time l (n.pulse? s) := fits_run htimely s
  refine ⟨fun before sent after hsilent => ?_, fun hanswered => ?_⟩
  · have hopened : l ≠ [] := fun hnil => by
      have hping := hsilent.ping
      rw [hnil] at hping
      cases before <;> cases hping
    obtain ⟨p, hpeer⟩ : ∃ p, n.peers.get? s = some p := by
      cases hpeer : n.peers.get? s with
      | none => exact absurd (by rwa [pulse?, hpeer] at hfits) hopened
      | some p => exact ⟨p, rfl⟩
    have hknown : n.Registered s ↔ n.loop s ≠ .ended :=
      (registered_iff settings now xs s).trans (and_iff_right (loop_of_some hpeer ▸ p.loop_ne_unopened))
    refine ⟨and_congr_left fun _ => (not_congr hknown).trans not_not, fun hon hheard => ?_⟩
    rw [pulse?_of_some hpeer] at hfits
    refine Heartbeat.Fits.close_iff hfits (fun hlost => ?_) hsilent
    rcases hlost with hended | hunheard
    · exact hon (by simp [loop_of_some hpeer, Peer.loop, show p.connection.ended = true from hended])
    · exact absurd hheard (by simp [show n.server.mail.isLive s = false from hunheard])
  · cases hpulse : n.pulse? s with
    | none =>
      rw [hpulse] at hfits
      rw [show l = [] from hfits]
      exact Course.not_closed_nil
    | some q =>
      rw [hpulse] at hfits
      exact Heartbeat.Fits.not_closed hfits hanswered

/-- A client that never answers, and whose read loop ends when it is at last cut off. -/
theorem silence_is_told_until_cut_off :
    let xs : List Happening := [.opens 1 7 "alice" none, .passes 30000, .beats 1, .passes 10000, .beats 1, .passes 5000,
      .takesIn 1 .lost]
    let n := (start .default 0).run xs
    let l : Course := [(30000, .ping), (40000, .close)]
    Run.Along step Timely (start .default 0) xs ∧ course 1 (start .default 0) xs = l ∧
      Silent n.time l [] 30000 [(40000, .close)] ∧ n.GivenUp 1 l := by
  intro xs n l
  have htimely : Run.Along step Timely (start .default 0) xs := by decide
  have hcourse : course 1 (start .default 0) xs = l := by decide
  have hsilent : Silent n.time l [] 30000 [(40000, .close)] := ⟨rfl, by decide, by decide⟩
  have hends : n.loop 1 = .ended ∧ l.Closed := by decide
  refine ⟨htimely, hcourse, hsilent, ?_⟩
  have htold := (silence_is_told htimely 1).1 [] 30000 [(40000, .close)]
  rw [hcourse] at htold
  exact (htold hsilent).1.2 hends

/-- A client that never answers is sent a close and stays, and one whose pong came before the ping is not even sent
a close. -/
theorem silence_is_borne :
    (let xs : List Happening := [.opens 1 7 "alice" none, .passes 30000, .beats 1, .passes 10000, .beats 1,
        .passes 5000]
      let n := (start .default 0).run xs
      let l : Course := course 1 (start .default 0) xs
      Run.Along step Timely (start .default 0) xs ∧ Silent n.time l [] 30000 [(40000, .close)] ∧ n.Registered 1 ∧
        ¬ n.GivenUp 1 l) ∧
    (let xs : List Happening := [.opens 1 7 "alice" none, .takesIn 1 .pong, .passes 30000, .beats 1, .passes 15000]
      let n := (start .default 0).run xs
      let l : Course := course 1 (start .default 0) xs
      Run.Along step Timely (start .default 0) xs ∧ Silent n.time l [(0, .pong)] 30000 [] ∧ n.Registered 1 ∧
        ¬ l.Closed) := by
  refine ⟨⟨by decide, ⟨by decide, by decide, by decide⟩, by decide, by decide⟩,
    ⟨by decide, ⟨by decide, by decide, by decide⟩, by decide, by decide⟩⟩

end Sockets

end DirectChat
