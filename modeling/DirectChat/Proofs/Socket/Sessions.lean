import DirectChat.Proofs.Chat.Notices
import DirectChat.Proofs.Socket.Sockets
/-!
# Connections as router sessions

Each connection is followed by a router session, whose moves are decided by what happens to the connection and by what
its read loop is doing (`Loop.next`). A server with all its connections is mirrored by traffic (`Mirror`): the server is
the same but for the control frames in the queues, the routers are those of the connections, and they are in the middle
of the same frames. Each happening keeps the mirror, and puts the events into the queues that the moves put there
(`follows_step`); so does any sequence of them (`mirror_run`, `events_run`).
-/

namespace DirectChat

/-! ## What a session does when something happens -/

/-- What a router session does when something happens to its connection, and what the read loop is doing then. A session
connects and is greeted; it handles each text that comes until its loop is over, and then it is closed, once. -/
def Loop.next : Loop → Happening → Loop × List Move
  | .unopened, .opens s user username host => (.reading, [.act (.connect s s user username host), .act (.welcome s)])
  | .reading, .takesIn s i =>
    match i with
    | .text raw => (.handling, [.takeUp s raw])
    | i => if i.ends then (.ended, [.act (.close s), .act (.kill s)]) else (.reading, [])
  | .handling, .finishes s => (.reading, [.finish s])
  | l, _ => (l, [])

/-- What the router sessions do when something happens. -/
def Happening.moves (loops : SessionId → Loop) (x : Happening) : List Move :=
  match x with
  | .act a => if a.Elsewhere then [.act a] else []
  | .passes _ => []
  | .opens s .. | .takesIn s _ | .finishes s | .beats s => ((loops s).next x).2

/-- What the read loops are doing when something has happened. -/
def Happening.loops (loops : SessionId → Loop) (x : Happening) : SessionId → Loop :=
  match x.session? with
  | some s => Function.update loops s ((loops s).next x).1
  | none => loops

/-- What the router sessions do in the course of a sequence of happenings. -/
def asSessions (xs : List Happening) : List Move :=
  Run.output Happening.loops Happening.moves (fun _ => .unopened) xs

/-- When nothing comes of a happening, nobody moves. -/
theorem Happening.moves_of_idle {x : Happening} {loops : SessionId → Loop} (hidle : x.Idle loops) :
    x.moves loops = [] ∧ x.loops loops = loops := by
  have hstays : ∀ s, x.session? = some s → (loops s).next x = (loops s, []) →
      x.moves loops = [] ∧ x.loops loops = loops := by
    intro s hs hnext
    have hmoves : x.moves loops = ((loops s).next x).2 := by cases x <;> cases hs <;> rfl
    rw [hmoves, Happening.loops, hs]
    dsimp only
    rw [hnext, Function.update_eq_self]
    exact ⟨rfl, rfl⟩
  cases x with
  | opens s user username host =>
    refine hstays s rfl ?_
    cases hl : loops s <;> first | rfl | exact absurd hl hidle
  | takesIn s i =>
    refine hstays s rfl ?_
    cases hl : loops s <;> first | rfl | exact absurd hl hidle
  | finishes s =>
    refine hstays s rfl ?_
    cases hl : loops s <;> first | rfl | exact absurd hl hidle
  | beats s =>
    refine hstays s rfl ?_
    cases loops s <;> rfl
  | act a => exact ⟨if_neg hidle, rfl⟩
  | passes millis => exact hidle.elim

theorem Connection.finish_snd {s : SessionId} (c : Connection) (hhandle : c.router.handle = s) (sv : Server) :
    (c.finish sv).2 = { (c.router.close sv).2 with mail := (c.router.close sv).2.mail.kill s } := by
  have hown : (c.router.close sv).1.handle = s := by
    rw [c.router.close_fst]
    split <;> exact hhandle
  unfold finish
  dsimp only
  rw [hown]

namespace Traffic

variable {t : Traffic} {s : SessionId}

/-- A session connects without a word to anybody, and then it is greeted. -/
theorem run_opening (hidle : t.tasks.get? s = none) (user : UserId) (username : String) (host : Option String) :
    let c := t.crowd.connect s s user username host
    let r : Router := ⟨s, user, username, s, host, none, false⟩
    t.run [.act (.connect s s user username host), .act (.welcome s)] =
        { t with crowd := { c with server := r.welcome c.server, routers := c.routers.insert s r } } ∧
      ∀ k, arrivals k t [.act (.connect s s user username host), .act (.welcome s)] =
        c.server.mail.since (r.welcome c.server).mail k := by
  intro c r
  have hconnect : t.step (.act (.connect s s user username host)) = { t with crowd := c } :=
    t.step_of_idle id rfl hidle
  have hrouter : c.routers.get? s = some r := Table.get?_insert_self ..
  have hwelcome : (t.step (.act (.connect s s user username host))).step (.act (.welcome s)) =
      { t with crowd := { c with server := r.welcome c.server, routers := c.routers.insert s r } } := by
    rw [hconnect]
    have hacts : c.step (.welcome s) = { c with server := r.welcome c.server, routers := c.routers.insert s r } :=
      c.act_of_some hrouter fun r sv => (r, r.welcome sv)
    exact (step_of_idle ⟨c, t.tasks⟩ id rfl hidle).trans (congrArg (Traffic.mk · t.tasks) hacts)
  refine ⟨hwelcome, fun k => ?_⟩
  have hquiet : t.sent (.act (.connect s s user username host)) k = [] := by
    have hmail : c.server.mail = t.crowd.server.mail.openQueue s := Router.connect_mail s s user username host _
    rw [sent, hconnect, hmail]
    exact (Mailroom.fades_openQueue _ s).since k
  show t.sent _ k ++ ((t.step (.act (.connect s s user username host))).sent (.act (.welcome s)) k ++ []) = _
  rw [hquiet, List.nil_append, List.append_nil, sent, hwelcome, hconnect]

/-- An open session is closed, and nobody receives any more behind the handle of its number. -/
theorem run_ending {r : Router} (hidle : t.tasks.get? s = none) (hrouter : t.crowd.routers.get? s = some r) :
    let sv := (r.close t.crowd.server).2
    t.run [.act (.close s), .act (.kill s)] = { t with crowd := { t.crowd with
        server := { sv with mail := sv.mail.kill s }
        routers := t.crowd.routers.insert s (r.close t.crowd.server).1 } } ∧
      ∀ k, arrivals k t [.act (.close s), .act (.kill s)] = t.crowd.server.mail.since sv.mail k := by
  intro sv
  have hclose : t.step (.act (.close s)) = { t with crowd := { t.crowd with
      server := sv, routers := t.crowd.routers.insert s (r.close t.crowd.server).1 } } := by
    rw [t.step_of_idle id rfl hidle]
    exact congrArg (Traffic.mk · t.tasks) (t.crowd.act_of_some hrouter _)
  have hkill : (t.step (.act (.close s))).step (.act (.kill s)) =
      { t.step (.act (.close s)) with crowd := (t.step (.act (.close s))).crowd.step (.kill s) } :=
    step_of_no_actor _ id rfl
  refine ⟨hkill.trans (by rw [hclose]; rfl), fun k => ?_⟩
  have hquiet : (t.step (.act (.close s))).sent (.act (.kill s)) k = [] := by
    rw [sent, hkill]
    exact (Mailroom.fades_kill _ s).since k
  show t.sent (.act (.close s)) k ++ ((t.step (.act (.close s))).sent (.act (.kill s)) k ++ []) = _
  rw [hquiet, List.append_nil, List.append_nil, sent, hclose]

end Traffic

namespace Sockets

variable {n : Sockets} {loops : SessionId → Loop} {t : Traffic} {s : SessionId} {p : Peer} {c : Connection}

/-- Traffic that is the same as the connections: the same server but for the control frames in the queues, the same
routers, in the middle of the same frames. -/
structure Mirror (n : Sockets) (t : Traffic) : Prop where
  server : n.server.EchoedBy t.crowd.server
  underway : t.crowd.underway = n.underway
  routers : ∀ s, t.crowd.routers.get? s = (n.peers.get? s).map (·.connection.router)
  tasks : ∀ s, t.tasks.get? s = (n.peers.get? s).bind (·.inHand.join)

/-! ## One happening -/

theorem mirror_start (settings : ChatSettings) (now : Int) : (start settings now).Mirror (.start settings now) :=
  ⟨⟨.empty, ⟨fun _ => rfl, fun _ => rfl⟩, rfl⟩, rfl, fun _ => rfl, fun _ => rfl⟩

/-- What a connection does is mirrored by what a router does. -/
theorem Mirror.act (h : n.Mirror t) {t' : Traffic} {inHand : Option (Option Task)} {next : Connection × Server}
    (hserver : next.2.EchoedBy t'.crowd.server) (hunderway : t'.crowd.underway = t.crowd.underway)
    (hrouters : ∀ s', t'.crowd.routers.get? s' = if s' = s then some next.1.router else t.crowd.routers.get? s')
    (htasks : ∀ s', t'.tasks.get? s' = if s' = s then inHand.join else t.tasks.get? s') :
    (n.act s inHand next).Mirror t' where
  server := hserver
  underway := hunderway.trans h.underway
  routers s' := by
    rw [hrouters, get?_act, h.routers]
    split <;> rfl
  tasks s' := by
    rw [htasks, get?_act, h.tasks]
    split <;> rfl

/-- What a connection does alone is not mirrored. -/
theorem Mirror.alone (h : n.Mirror t) (hpeer : n.peers.get? s = some p) {next : Connection × Server}
    (hserver : next.2.EchoedBy t.crowd.server) (hrouter : next.1.router = p.connection.router) :
    (n.act s p.inHand next).Mirror t := by
  refine h.act hserver rfl (fun s' => ?_) fun s' => ?_
  · split
    · rename_i hs
      rw [hs, h.routers, hpeer, hrouter, Option.map_some]
    · rfl
  · split
    · rename_i hs
      rw [hs, h.tasks, hpeer, Option.bind_some]
    · rfl

/-- The moves of a session follow what happens to its connection: they lead to the same, and put the same events into
the queues. -/
structure Follows (n n' : Sockets) (t : Traffic) (moves : List Move) : Prop where
  mirror : n'.Mirror (t.run moves)
  events : ∀ h, (n.server.mail.since n'.server.mail h).filter Frame.isEvent = Traffic.arrivals h t moves

theorem arrivals_single (h : Handle) (t : Traffic) (mv : Move) : Traffic.arrivals h t [mv] = t.sent mv h :=
  List.append_nil _

theorem Mirror.follows_grows (h : n.Mirror t) {n' : Sockets} {mv : Move} (h' : n'.Mirror (t.step mv))
    {q : Handle → Frame → Prop} (hgrows : n.server.mail.Grows q n'.server.mail) : n.Follows n' t [mv] where
  mirror := h'
  events k := by
    rw [arrivals_single, Traffic.sent, h.server.mail.since h'.server.mail hgrows]

theorem Mirror.follows_fades (h : n.Mirror t) {n' : Sockets} {mv : Move} (h' : n'.Mirror (t.step mv))
    (hfades : n.server.mail.Fades n'.server.mail) : n.Follows n' t [mv] where
  mirror := h'
  events k := by
    rw [arrivals_single, Traffic.sent, (h.server.mail.fades h'.server.mail hfades).since, hfades.since]
    rfl

/-- Nothing moves when all that is put into the queues are control frames. -/
theorem Mirror.follows_alone {n' : Sockets} (h' : n'.Mirror t)
    (hgrows : n.server.mail.Grows (fun _ f => f.isEvent = false) n'.server.mail) : n.Follows n' t [] where
  mirror := h'
  events k := by
    rw [List.filter_eq_nil_iff.2 fun f hf => by simp [hgrows.since k f hf]]
    rfl

theorem Mirror.opens (h : n.Mirror t) (hsane : n.Sane) (hnew : n.peers.get? s = none) (user : UserId)
    (username : String) (host : Option String) :
    n.Follows (n.act s none (Connection.start s s user username host n.time n.server)) t
      [.act (.connect s s user username host), .act (.welcome s)] := by
  have hidle : t.tasks.get? s = none := by rw [h.tasks, hnew, Option.bind_none]
  obtain ⟨hrun, harrivals⟩ := Traffic.run_opening hidle user username host
  let opened : Server := { n.server with mail := n.server.mail.openQueue s }
  let registered : Router × Server := Router.connect s s user username host opened
  have hopened : opened.EchoedBy { t.crowd.server with mail := t.crowd.server.mail.openQueue s } := by
    obtain ⟨mail, hmail, hsame⟩ := h.server
    rw [hsame]
    exact ⟨_, hmail.openQueue s, rfl⟩
  obtain ⟨-, hregistered⟩ := Router.connect_like hopened s s user username host
  have hgreeted := registered.1.reply_like Mailroom.lasting_echoedBy hregistered (.connected welcomeText)
  refine ⟨?_, fun k => ?_⟩
  · rw [hrun]
    refine h.act hgreeted rfl (fun s' => ?_) fun s' => ?_
    · dsimp only
      rw [Table.get?_insert, Crowd.connect, Table.get?_insert]
      split <;> rfl
    · split
      · rename_i hs
        rw [hs, hidle]
        rfl
      · rfl
  · have hsince := hregistered.mail.since hgreeted.mail (Mailroom.grows_send _ (p := fun _ _ => True) trivial) k
    have hmail : registered.2.mail = n.server.mail.openQueue s := Router.connect_mail s s user username host _
    rw [harrivals]
    refine Eq.trans ?_ hsince.symm
    -- The queue was empty before it was opened too.
    rw [hmail, Mailroom.since_openQueue (hsane.fresh s hnew).2]
    rfl

theorem Mirror.garbled (h : n.Mirror t) (hpeer : n.peers.get? s = some ⟨c, none⟩) {raw : String}
    (hframe : ClientFrame.decode raw = none) : n.Follows (n.act s (some none) (c, n.server)) t [.takeUp s raw] := by
  have hstep : t.step (.takeUp s raw) = t :=
    Traffic.step_takeUp_of_not fun r f _ _ hf => by rw [hframe] at hf; cases hf
  refine h.follows_grows (q := fun _ _ => True) ?_ (.refl _ _)
  rw [hstep]
  refine h.act h.server rfl (fun s' => ?_) fun s' => ?_
  · split
    · rename_i hs
      rw [hs, h.routers, hpeer, Option.map_some]
    · rfl
  · split
    · rename_i hs
      rw [hs, h.tasks, hpeer]
      rfl
    · rfl

theorem Mirror.takesUp (h : n.Mirror t) (hpeer : n.peers.get? s = some ⟨c, none⟩) {raw : String} {f : ClientFrame}
    (hframe : ClientFrame.decode raw = some f) :
    n.Follows (n.act s (some ((c.router.takeUp f n.server).rest.map (Task.mk f)))
      ({ c with router := (c.router.takeUp f n.server).router }, (c.router.takeUp f n.server).server)) t
      [.takeUp s raw] := by
  have hidle : t.tasks.get? s = none := by
    rw [h.tasks, hpeer]
    rfl
  have hrouter : t.crowd.routers.get? s = some c.router := by rw [h.routers, hpeer, Option.map_some]
  obtain ⟨hsameRouter, hsameRest, hserver⟩ := c.router.takeUp_like Mailroom.lasting_echoedBy h.server f
  refine h.follows_grows ?_ (c.router.takeUp_events f n.server)
  rw [Traffic.step_takeUp hidle hrouter hframe]
  refine h.act hserver rfl (fun s' => ?_) fun s' => ?_
  · rw [Traffic.takenUp, Table.get?_insert, hsameRouter]
  · unfold Traffic.takenUp
    rw [hsameRest]
    cases (c.router.takeUp f n.server).rest with
    | none =>
      dsimp only
      split
      · rename_i hs
        rw [hs, hidle]
        rfl
      · rfl
    | some rest => exact Table.get?_insert ..

theorem Mirror.finish (h : n.Mirror t) {task : Option Task} (hpeer : n.peers.get? s = some ⟨c, some task⟩) :
    n.Follows (n.finish s c task) t [.finish s] := by
  have htask : t.tasks.get? s = task := by
    rw [h.tasks, hpeer]
    rfl
  have hrouter : t.crowd.routers.get? s = some c.router := by rw [h.routers, hpeer, Option.map_some]
  cases task with
  | none =>
    have hstep : t.step (.finish s) = t := Traffic.step_finish_of_not fun task r htask' => by
      rw [htask] at htask'
      cases htask'
    refine h.follows_grows (q := fun _ _ => True) ?_ (.refl _ _)
    rw [hstep]
    refine h.act h.server rfl (fun s' => ?_) fun s' => ?_
    · split
      · rename_i hs
        rw [hs, hrouter]
      · rfl
    · split
      · rename_i hs
        rw [hs, htask]
        rfl
      · rfl
  | some task =>
    have hserver := c.router.finish_like Mailroom.lasting_echoedBy h.server task.rest
    refine h.follows_grows ?_ (c.router.finish_events task.rest n.server)
    rw [Traffic.step_finish htask hrouter]
    refine h.act hserver rfl (fun s' => ?_) fun s' => ?_
    · split
      · rename_i hs
        rw [hs]
        exact hrouter
      · rfl
    · exact Table.get?_erase ..

theorem Mirror.beats (h : n.Mirror t) (hpeer : n.peers.get? s = some p) :
    n.Follows (n.act s p.inHand (p.connection.beat n.server)) t [] := by
  have hcontrol : ∀ b : Beat, b.frame.isEvent = false := fun b => by cases b <;> rfl
  have hgrows : n.server.mail.Grows (fun _ f => f.isEvent = false) (p.connection.beat n.server).2.mail := by
    rw [p.connection.beat_snd]
    split
    · exact Mailroom.grows_send _ (hcontrol _)
    · exact .refl _ _
  refine Mirror.follows_alone (h.alone hpeer ?_ (p.connection.beat_router n.server)) hgrows
  obtain ⟨mail, hmail, hsame⟩ := h.server
  rw [hsame, p.connection.beat_snd]
  split
  · exact ⟨mail, hmail.control _ (hcontrol _), rfl⟩
  · exact ⟨mail, hmail, rfl⟩

theorem Mirror.elsewhere (h : n.Mirror t) {a : Act} (ha : a.Elsewhere) : n.Follows (n.elsewhere a) t [.act a] := by
  have hstep : t.step (.act a) = { t with crowd := t.crowd.step a } := t.step_of_no_actor ha.2 ha.1
  obtain ⟨hserver, hunderway⟩ :=
    Crowd.step_echo (c := ⟨n.server, .empty, n.underway⟩) ha h.server h.underway
  have hmirror : (n.elsewhere a).Mirror (t.step (.act a)) := by
    rw [hstep]
    refine ⟨hserver, hunderway, fun s => ?_, h.tasks⟩
    exact (t.crowd.router_of_ne fun hs => by rw [ha.1] at hs; cases hs).trans (h.routers s)
  rcases n.elsewhere_mail ha with ⟨ks, e, hsent⟩ | hsame | ⟨k, -, hkilled⟩ | ⟨k, hdrained⟩
  · refine h.follows_grows (q := fun _ _ => True) hmirror ?_
    rw [hsent]
    exact Mailroom.grows_sendAll _ fun _ _ => trivial
  · refine h.follows_grows (q := fun _ _ => True) hmirror ?_
    rw [hsame]
    exact .refl _ _
  · refine h.follows_fades hmirror ?_
    rw [hkilled]
    exact Mailroom.fades_kill _ k
  · refine h.follows_fades hmirror ?_
    rw [hdrained]
    exact Mailroom.fades_drain _ k

/-- Each open session has the queue of its own number. -/
theorem Mirror.own (h : n.Mirror t) (hsane : n.Sane) {e : SessionEntry} (he : t.crowd.shown? s = some e) :
    e.handle = s := by
  obtain ⟨r, hr, -, rfl⟩ := Crowd.shown?_eq_some_iff.1 he
  rw [h.routers, Option.map_eq_some_iff] at hr
  obtain ⟨p, hp, rfl⟩ := hr
  exact (hsane.session _ p hp).2

theorem Mirror.apart (h : n.Mirror t) (hsane : n.Sane) : Registry.ApartBy t.crowd.shown? :=
  fun s s' e e' he he' heq => by rw [← h.own hsane he, ← h.own hsane he', heq]

theorem Mirror.ends (h : n.Mirror t) (hsane : n.Sane) (hc : t.crowd.Coupled) (hpeer : n.peers.get? s = some ⟨c, none⟩)
    (hopen : c.ended = false) :
    n.Follows (n.act s none (c.finish n.server)) t [.act (.close s), .act (.kill s)] := by
  obtain ⟨hsession, hhandle⟩ : c.router.session = s ∧ c.router.handle = s := hsane.session s _ hpeer
  have hidle : t.tasks.get? s = none := by
    rw [h.tasks, hpeer]
    rfl
  have hrouter : t.crowd.routers.get? s = some c.router := by rw [h.routers, hpeer, Option.map_some]
  obtain ⟨hrouter', hserver⟩ := c.router.close_like Mailroom.lasting_echoedBy h.server
  obtain ⟨hrun, harrivals⟩ := Traffic.run_ending hidle hrouter
  refine ⟨?_, fun k => ?_⟩
  · rw [hrun]
    refine h.act ?_ rfl (fun s' => ?_) fun s' => ?_
    · obtain ⟨mail, hmail, hsame⟩ := hserver
      rw [c.finish_snd hhandle]
      exact ⟨mail.kill s, hmail.kill s, by rw [hsame]⟩
    · rw [hrouter']
      exact Table.get?_insert ..
    · split
      · rename_i hs
        rw [hs]
        exact hidle
      · rfl
  · have hgone : (n.act s none (c.finish n.server)).server.mail = (c.router.close n.server).2.mail.kill s :=
      congrArg Server.mail (c.finish_snd hhandle n.server)
    rw [harrivals, hgone]
    by_cases hk : k = s
    · -- Whoever leaves is not told of it, and its queue is gone.
      have hshown : t.crowd.shown? s = some ⟨c.router.user, c.router.username, c.router.handle, c.router.room⟩ :=
        Crowd.shown?_eq_some_iff.2 ⟨c.router, hrouter, (hsane.closed s _ hpeer).trans hopen, rfl⟩
      have htold : ∀ f, f ∉ t.crowd.server.mail.since (c.router.close t.crowd.server).2.mail s := fun f hf => by
        have hto := (c.router.close_grows hc.shows).since s f hf
        rw [hsession] at hto
        exact Told.not_own (h.apart hsane) hshown (by rwa [hhandle])
      rw [hk, List.eq_nil_iff_forall_not_mem.2 htold, Mailroom.since_kill, if_pos rfl, List.filter_nil]
    · rw [Mailroom.since_kill, if_neg hk, ← h.server.mail.since hserver.mail (c.router.close_events n.server)]

theorem Mirror.takesIn (h : n.Mirror t) (hsane : n.Sane) (hc : t.crowd.Coupled)
    (hpeer : n.peers.get? s = some ⟨c, none⟩) (hopen : c.ended = false) {i : Incoming} {inHand : Option (Option Task)}
    {next : Connection × Server} (htakes : TakesIn c n.server i inHand next) :
    n.Follows (n.act s inHand next) t (Loop.next .reading (.takesIn s i)).2 := by
  cases htakes with
  | garbled raw hframe => exact h.garbled hpeer hframe
  | takesUp raw f hframe => exact h.takesUp hpeer hframe
  | ignores | hears => exact Mirror.follows_alone (h.alone hpeer h.server rfl) (.refl _ _)
  | answers payload =>
    refine Mirror.follows_alone (h.alone hpeer ?_ rfl) (Mailroom.grows_send _ rfl)
    obtain ⟨mail, hmail, hsame⟩ := h.server
    exact ⟨mail, hmail.control _ rfl, hsame⟩
  | ends i hends =>
    have hfollows := h.ends hsane hc hpeer hopen
    cases i with
    | close | lost | eof => exact hfollows
    | text | binary | ping | pong => cases hends

/-! ## Any happening -/

theorem follows_step (h : n.Mirror t) (hsane : n.Sane) (hc : t.crowd.Coupled) (x : Happening) :
    n.Follows (n.step x) t (x.moves n.loop) := by
  have hcase := n.step_cases x
  generalize n.step x = n' at hcase
  cases hcase with
  | opens s user username host hnew =>
    rw [Happening.moves, loop_of_none hnew]
    exact h.opens hsane hnew user username host
  | takesIn s c i inHand next hpeer hopen htakes =>
    rw [Happening.moves, loop_reading hpeer hopen]
    exact h.takesIn hsane hc hpeer hopen htakes
  | finishes s c task hpeer =>
    rw [Happening.moves, hsane.loop_handling hpeer]
    exact h.finish hpeer
  | beats s p hpeer =>
    have hnone : (Happening.beats s).moves n.loop = [] := by
      rw [Happening.moves]
      cases n.loop s <;> rfl
    rw [hnone]
    exact h.beats hpeer
  | act a ha =>
    rw [Happening.moves, if_pos ha]
    exact h.elsewhere ha
  | passes millis => exact Mirror.follows_alone ⟨h.server, h.underway, h.routers, h.tasks⟩ (.refl _ _)
  | idle x hidle =>
    rw [(Happening.moves_of_idle hidle).1]
    exact Mirror.follows_alone h (.refl _ _)

theorem loop_step (hsane : n.Sane) (x : Happening) : (n.step x).loop = x.loops n.loop := by
  have hcase := n.step_cases x
  generalize n.step x = n' at hcase
  cases hcase with
  | opens s user username host hnew =>
    rw [loop_act, Happening.loops, Happening.session?]
    dsimp only
    rw [loop_of_none hnew]
    rfl
  | takesIn s c i inHand next hpeer hopen htakes =>
    rw [loop_act, Happening.loops, Happening.session?]
    dsimp only
    rw [loop_reading hpeer hopen]
    congr 1
    cases htakes with
    | garbled | takesUp | ignores | answers | hears => simp [Loop.next, Peer.loop, Incoming.ends, hopen]
    | ends i hends => cases i <;> cases hends <;> rfl
  | finishes s c task hpeer =>
    have hopen : c.ended = false := Bool.eq_false_iff.2 fun hended => by cases hsane.ended s _ hpeer hended
    rw [Happening.loops, Happening.session?]
    dsimp only
    rw [hsane.loop_handling hpeer]
    show _ = Function.update n.loop s .reading
    simp [finish, loop_act, Peer.loop, hopen]
  | beats s p hpeer =>
    have hsame : Peer.loop ⟨(p.connection.beat n.server).1, p.inHand⟩ = n.loop s := by
      rw [loop_of_some hpeer, Peer.loop, Peer.loop, p.connection.beat_ended]
    have hnext : ((n.loop s).next (.beats s)).1 = n.loop s := by cases n.loop s <;> rfl
    rw [loop_act, hsame, Happening.loops, Happening.session?]
    dsimp only
    rw [hnext]
  | act a ha => rfl
  | passes millis => rfl
  | idle x hidle => exact (Happening.moves_of_idle hidle).2.symm

end Sockets

/-! ## Any sequence of happenings -/

/-- What the read loops are doing in the end. -/
def loopsAfter (xs : List Happening) : SessionId → Loop := xs.foldl Happening.loops fun _ => .unopened

theorem loopsAfter_snoc (xs : List Happening) (x : Happening) :
    loopsAfter (xs ++ [x]) = x.loops (loopsAfter xs) := by
  rw [loopsAfter, List.foldl_append]
  rfl

theorem asSessions_snoc (xs : List Happening) (x : Happening) :
    asSessions (xs ++ [x]) = asSessions xs ++ x.moves (loopsAfter xs) := by
  rw [asSessions, Run.output_append]
  exact congrArg _ (List.append_nil _)

namespace Sockets

variable (settings : ChatSettings) (now : Int)

theorem sane_run (xs : List Happening) : ((start settings now).run xs).Sane := (sane_start settings now).run xs

theorem loop_run (xs : List Happening) : ((start settings now).run xs).loop = loopsAfter xs := by
  induction xs using List.reverseRecOn with
  | nil => rfl
  | append_singleton xs x ih => rw [run_snoc, loop_step (sane_run settings now xs), ih, loopsAfter_snoc]

theorem mirror_run (xs : List Happening) :
    ((start settings now).run xs).Mirror ((Traffic.start settings now).run (asSessions xs)) := by
  induction xs using List.reverseRecOn with
  | nil => exact mirror_start settings now
  | append_singleton xs x ih =>
    have hstep := follows_step ih (sane_run settings now xs) (Traffic.coupled_of_start settings now _) x
    rw [run_snoc, asSessions_snoc, Traffic.run_append, ← loop_run settings now]
    exact hstep.mirror

/-- The queues are sent the same events in the same order. -/
theorem events_run (h : Handle) (xs : List Happening) :
    (arrivals h (start settings now) xs).filter Frame.isEvent =
      Traffic.arrivals h (.start settings now) (asSessions xs) := by
  induction xs using List.reverseRecOn with
  | nil => rfl
  | append_singleton xs x ih =>
    have hstep := follows_step (mirror_run settings now xs) (sane_run settings now xs)
      (Traffic.coupled_of_start settings now _) x
    rw [arrivals_snoc, List.filter_append, ih, asSessions_snoc, Traffic.arrivals, Traffic.arrivals, Run.output_append,
      ← loop_run settings now]
    exact congrArg _ (hstep.events h)

end Sockets

end DirectChat
