import DirectChat.Proofs.Chat.RoomLog
import DirectChat.Proofs.Chat.Parts
import DirectChat.Proofs.Run
import DirectChat.Proofs.Store.Places
import Mathlib.Data.List.Pairwise
/-!
# Frames that are handled in the midst of others

Traffic is a crowd in which routers may be in the middle of a frame. Its moves are the acts that are done
whole, a text that is taken up, and what is left of it that is finished; between the two, everybody else
moves on, while the router itself does nothing else. A text that is finished at once was handled whole
(`finish_takeUp`), so that a crowd whose routers handle their texts whole is one with traffic (`same_run_whole`).

All that a move can do is said once (`step_cases`), and from it how a router (`router_step`) and a task
(`task_step`) can have come to be what they are, and that the registry goes on showing the open routers
(`coupled_run`).
-/

namespace DirectChat

/-- The frame that a router is in the middle of, and what is left of it. -/
structure Task where
  frame : ClientFrame
  rest : Rest
deriving DecidableEq, Repr

/-- A crowd whose routers may be in the middle of a frame. -/
structure Traffic where
  crowd : Crowd
  tasks : Table SessionId Task

/-- An act that is a part of another, or is made of parts. -/
def Act.InParts : Act → Prop
  | .text .. | .enter .. | .sendHistory .. | .announceChat .. | .put .. => True
  | _ => False

instance : (a : Act) → Decidable a.InParts
  | .text .. | .enter .. | .sendHistory .. | .announceChat .. | .put .. => isTrue trivial
  | .connect .. | .welcome _ | .leave _ | .close _ | .drop _ | .kill _ | .receive _ | .store _ | .clock _ | .lookUp _
  | .sendOut _ | .giveUp _ => isFalse id

/-- Of the acts that are no halves, texts alone are made of parts. -/
theorem Act.Whole.text_or_not_inParts {a : Act} (h : a.Whole) : (∃ s raw, a = .text s raw) ∨ ¬ a.InParts := by
  cases a with
  | text s raw => exact .inl ⟨s, raw, rfl⟩
  | enter | sendHistory | announceChat | put => exact h.elim
  | _ => exact .inr id

/-- The session whose router an act makes or lets act. -/
def Act.actor? : Act → Option SessionId
  | .connect s .. | .welcome s | .text s _ | .enter s _ | .sendHistory s _ | .announceChat s _ | .leave s | .close s
  | .drop s => some s
  | .put .. | .kill _ | .receive _ | .store _ | .clock _ | .lookUp _ | .sendOut _ | .giveUp _ => none

/-- What can happen next. -/
inductive Move
  /-- Something that is done whole. -/
  | act (a : Act)
  /-- The router of a session takes a text up. -/
  | takeUp (s : SessionId) (raw : String)
  /-- It finishes what it is in the middle of. -/
  | finish (s : SessionId)

/-- The act of a move that is done whole. -/
def Move.act? : Move → Option Act
  | .act a => some a
  | .takeUp .. | .finish _ => none

/-- Whether a move that replaces the store has a property of the new one. -/
def Move.decideStore (p : Store → Prop) [DecidablePred p] :
    (mv : Move) → Decidable (∀ store, mv = .act (.store store) → p store)
  | .act a =>
    have := a.decideStore p
    decidable_of_iff (∀ store, a = .store store → p store)
      ⟨fun h store hmv => h store (Move.act.inj hmv), fun h store ha => h store (congrArg Move.act ha)⟩
  | .takeUp .. | .finish _ => isTrue fun _ h => nomatch h

/-- The session that a move connects. -/
def Move.connects? (mv : Move) : Option SessionId := mv.act?.bind Act.connects?

/-- The queue that a move opens. -/
def Move.opens? (mv : Move) : Option Handle := mv.act?.bind Act.opens?

theorem Router.close_store (r : Router) (sv : Server) : (r.close sv).2.store = sv.store := by
  unfold close
  split
  · rfl
  · dsimp only
    split <;> exact leave_store _ sv

namespace Crowd

theorem router_act (c : Crowd) (s : SessionId) (f : Router → Server → Router × Server) (s' : SessionId) :
    (c.act s f).routers.get? s' =
      if s' = s then (c.routers.get? s).map fun r => (f r c.server).1 else c.routers.get? s' := by
  cases hr : c.routers.get? s with
  | none =>
    rw [c.act_of_none hr]
    split
    · rename_i hs
      rw [hs, hr, Option.map_none]
    · rfl
  | some r =>
    rw [c.act_of_some hr]
    exact Table.get?_insert ..

/-- An act changes no router but that of its actor. -/
theorem router_of_ne (c : Crowd) {a : Act} {s : SessionId} (hs : a.actor? ≠ some s) :
    (c.step a).routers.get? s = c.routers.get? s := by
  have hother : ∀ {s'} (f : Router → Server → Router × Server), a.actor? = some s' →
      (c.act s' f).routers.get? s = c.routers.get? s := fun f hactor => by
    rw [router_act, if_neg fun h => hs (by rw [hactor, h])]
  cases a with
  | connect s' handle user username host =>
    rw [step, connect, Table.get?_insert, if_neg fun h => hs (by rw [Act.actor?, h])]
  | welcome | text | enter | sendHistory | announceChat | leave | close => exact hother _ rfl
  | drop s' =>
    rw [step, Table.get?_erase, if_neg fun h => hs (by rw [Act.actor?, h])]
    exact hother _ rfl
  | put | kill | receive | store | clock | giveUp => rfl
  | lookUp n => rw [step, lookUp_routers]
  | sendOut n => rw [step, sendOut_routers]

/-! ## Crowds that are the same -/

/-- Two crowds are the same, but for the order in which their routers are kept. -/
structure Same (c c' : Crowd) : Prop where
  server : c.server = c'.server
  underway : c.underway = c'.underway
  routers : ∀ s, c.routers.get? s = c'.routers.get? s

theorem Same.refl (c : Crowd) : c.Same c := ⟨rfl, rfl, fun _ => rfl⟩

theorem Same.trans {c c' c'' : Crowd} (h : c.Same c') (h' : c'.Same c'') : c.Same c'' :=
  ⟨h.server.trans h'.server, h.underway.trans h'.underway, fun s => (h.routers s).trans (h'.routers s)⟩

theorem Same.act {c c' : Crowd} (h : c.Same c') (s : SessionId) (f : Router → Server → Router × Server) :
    (c.act s f).Same (c'.act s f) := by
  cases hr : c.routers.get? s with
  | none => rwa [c.act_of_none hr, c'.act_of_none ((h.routers s).symm.trans hr)]
  | some r =>
    rw [c.act_of_some hr, c'.act_of_some ((h.routers s).symm.trans hr), h.server]
    exact ⟨rfl, h.underway, fun s' => by rw [Table.get?_insert, Table.get?_insert, h.routers]⟩

/-- An act does the same to both. -/
theorem Same.step {c c' : Crowd} (h : c.Same c') (a : Act) : (c.step a).Same (c'.step a) := by
  have hact := fun s f => h.act s f
  obtain ⟨server, routers, underway⟩ := c
  obtain ⟨server', routers', underway'⟩ := c'
  obtain ⟨rfl, rfl, hrouters⟩ := h
  cases a with
  | connect s handle user username host =>
    exact ⟨rfl, rfl, fun s' => by
      rw [Crowd.step, Crowd.step, connect, connect, Table.get?_insert, Table.get?_insert, hrouters]⟩
  | welcome | text | enter | sendHistory | announceChat | leave | close =>
    simp only [Crowd.step]
    exact hact _ _
  | drop s =>
    have hclosed := hact s Router.close
    exact ⟨hclosed.server, hclosed.underway, fun s' => by
      rw [Crowd.step, Crowd.step, Table.get?_erase, Table.get?_erase, hclosed.routers]⟩
  | put | kill | receive | store | clock | giveUp => exact ⟨rfl, rfl, hrouters⟩
  | lookUp n =>
    simp only [Crowd.step, lookUp]
    split
    · exact ⟨rfl, rfl, hrouters⟩
    · simp only [onServer]
      split <;> exact ⟨rfl, rfl, hrouters⟩
  | sendOut n =>
    simp only [Crowd.step, sendOut]
    split <;> exact ⟨rfl, rfl, hrouters⟩

end Crowd

namespace Traffic

/-- A server to which nobody is connected. -/
def start (settings : ChatSettings) (now : Int) : Traffic := ⟨.start settings now, .empty⟩

/-- A frame of a session was taken up. -/
def takenUp (t : Traffic) (s : SessionId) (f : ClientFrame) (u : TakenUp) : Traffic where
  crowd := { t.crowd with server := u.server, routers := t.crowd.routers.insert s u.router }
  tasks :=
    match u.rest with
    | none => t.tasks
    | some rest => t.tasks.insert s ⟨f, rest⟩

/-- An act can be done whole when nobody who acts is in the middle of a frame. -/
def Allows (t : Traffic) (a : Act) : Prop := ¬ a.InParts ∧ ∀ s ∈ a.actor?, t.tasks.get? s = none

instance (t : Traffic) (a : Act) : Decidable (t.Allows a) := inferInstanceAs (Decidable (_ ∧ _))

/-- Makes a move, if it can be made. -/
def step (t : Traffic) : Move → Traffic
  | .act a => if t.Allows a then { t with crowd := t.crowd.step a } else t
  | .takeUp s raw =>
    match t.tasks.get? s, t.crowd.routers.get? s, ClientFrame.decode raw with
    | none, some r, some f => t.takenUp s f (r.takeUp f t.crowd.server)
    | _, _, _ => t
  | .finish s =>
    match t.tasks.get? s, t.crowd.routers.get? s with
    | some task, some r => ⟨t.crowd.onServer (r.finish task.rest), t.tasks.erase s⟩
    | _, _ => t

/-- Makes a sequence of moves. -/
def run (t : Traffic) (moves : List Move) : Traffic := moves.foldl step t

theorem run_append (t : Traffic) (moves more : List Move) : t.run (moves ++ more) = (t.run moves).run more :=
  List.foldl_append ..

theorem run_append_cons (t : Traffic) (moves : List Move) (mv : Move) (more : List Move) :
    t.run (moves ++ mv :: more) = ((t.run moves).step mv).run more := t.run_append moves (mv :: more)

theorem run_snoc (t : Traffic) (moves : List Move) (mv : Move) : t.run (moves ++ [mv]) = (t.run moves).step mv :=
  t.run_append moves [mv]

/-- What a move puts into a queue. -/
def sent (t : Traffic) (mv : Move) (h : Handle) : List Frame :=
  t.crowd.server.mail.since (t.step mv).crowd.server.mail h

/-- What a sequence of moves puts into a queue, in order. -/
def arrivals (h : Handle) (t : Traffic) (moves : List Move) : List Frame :=
  Run.output step (fun t mv => t.sent mv h) t moves

/-! ## What a move can do -/

/-- The ways in which a move goes, with all that each of them does. -/
inductive Goes (t : Traffic) : Move → Traffic → Prop
  | act (a : Act) (hparts : ¬ a.InParts) (hidle : ∀ s ∈ a.actor?, t.tasks.get? s = none) :
    Goes t (.act a) { t with crowd := t.crowd.step a }
  | takeUp (s : SessionId) (raw : String) (f : ClientFrame) (r : Router) (hframe : ClientFrame.decode raw = some f)
      (hrouter : t.crowd.routers.get? s = some r) (hidle : t.tasks.get? s = none) :
    Goes t (.takeUp s raw) (t.takenUp s f (r.takeUp f t.crowd.server))
  | finish (s : SessionId) (task : Task) (r : Router) (hrouter : t.crowd.routers.get? s = some r)
      (htask : t.tasks.get? s = some task) :
    Goes t (.finish s) ⟨t.crowd.onServer (r.finish task.rest), t.tasks.erase s⟩
  | idle (mv : Move) (hact : ∀ a, mv = .act a → ¬ t.Allows a) : Goes t mv t

theorem step_cases (t : Traffic) (mv : Move) : t.Goes mv (t.step mv) := by
  cases mv with
  | act a =>
    rw [step]
    split
    · rename_i h
      exact .act a h.1 h.2
    · rename_i h
      exact .idle _ fun b hb => by cases hb; exact h
  | takeUp s raw =>
    rw [step]
    split
    · rename_i r f hidle hrouter hframe
      exact .takeUp s raw f r hframe hrouter hidle
    · exact .idle _ fun _ h => by cases h
  | finish s =>
    rw [step]
    split
    · rename_i task r htask hrouter
      exact .finish s task r hrouter htask
    · exact .idle _ fun _ h => by cases h

theorem allows_of_no_actor (t : Traffic) {a : Act} (hparts : ¬ a.InParts) (hactor : a.actor? = none) : t.Allows a :=
  ⟨hparts, fun s hs => by rw [hactor] at hs; cases hs⟩

theorem step_of_no_actor (t : Traffic) {a : Act} (hparts : ¬ a.InParts) (hactor : a.actor? = none) :
    t.step (.act a) = { t with crowd := t.crowd.step a } := if_pos (t.allows_of_no_actor hparts hactor)

theorem step_of_idle (t : Traffic) {a : Act} {s : SessionId} (hparts : ¬ a.InParts) (hactor : a.actor? = some s)
    (hidle : t.tasks.get? s = none) : t.step (.act a) = { t with crowd := t.crowd.step a } :=
  if_pos ⟨hparts, fun s' hs' => by rw [hactor] at hs'; cases hs'; exact hidle⟩

theorem step_takeUp {t : Traffic} {s : SessionId} {raw : String} {f : ClientFrame} {r : Router}
    (hidle : t.tasks.get? s = none) (hrouter : t.crowd.routers.get? s = some r)
    (hframe : ClientFrame.decode raw = some f) :
    t.step (.takeUp s raw) = t.takenUp s f (r.takeUp f t.crowd.server) := by
  rw [step, hidle, hrouter, hframe]

theorem step_takeUp_of_not {t : Traffic} {s : SessionId} {raw : String}
    (h : ∀ r f, t.tasks.get? s = none → t.crowd.routers.get? s = some r → ClientFrame.decode raw ≠ some f) :
    t.step (.takeUp s raw) = t := by
  rw [step]
  split
  · rename_i r f hidle hrouter hframe
    exact absurd hframe (h r f hidle hrouter)
  · rfl

theorem step_finish {t : Traffic} {s : SessionId} {task : Task} {r : Router} (htask : t.tasks.get? s = some task)
    (hrouter : t.crowd.routers.get? s = some r) :
    t.step (.finish s) = ⟨t.crowd.onServer (r.finish task.rest), t.tasks.erase s⟩ := by
  rw [step, htask, hrouter]

theorem step_finish_of_not {t : Traffic} {s : SessionId}
    (h : ∀ task r, t.tasks.get? s = some task → t.crowd.routers.get? s ≠ some r) : t.step (.finish s) = t := by
  rw [step]
  split
  · rename_i task r htask hrouter
    exact absurd hrouter (h task r htask)
  · rfl

/-! ## Texts that are handled whole -/

/-- Two crowds with traffic are the same, but for the order in which their tables are kept. -/
structure Same (t t' : Traffic) : Prop where
  crowd : t.crowd.Same t'.crowd
  tasks : ∀ s, t.tasks.get? s = t'.tasks.get? s

/-- A text that is taken up and finished at once is handled whole, whatever it says. -/
theorem finish_takeUp {t : Traffic} {s : SessionId} (hidle : t.tasks.get? s = none) (raw : String) :
    ((t.step (.takeUp s raw)).step (.finish s)).Same
      { t with crowd := t.crowd.act s fun r sv => r.handleText raw sv } := by
  have hfinish : t.step (.finish s) = t := step_finish_of_not fun task r htask => by rw [hidle] at htask; cases htask
  cases hrouter : t.crowd.routers.get? s with
  | none =>
    rw [step_takeUp_of_not (by simp [hrouter]), hfinish, t.crowd.act_of_none hrouter]
    exact ⟨.refl _, fun _ => rfl⟩
  | some r =>
    rw [t.crowd.act_of_some hrouter]
    cases hframe : ClientFrame.decode raw with
    | none =>
      rw [step_takeUp_of_not (by simp [hframe]), hfinish]
      simp only [Router.handleText, hframe]
      refine ⟨⟨rfl, rfl, fun s' => ?_⟩, fun _ => rfl⟩
      rw [Table.get?_insert]
      split
      · rename_i hs
        rw [hs, hrouter]
      · rfl
    | some f =>
      rw [step_takeUp hidle hrouter hframe]
      simp only [Router.handleText, hframe, r.dispatch_eq f t.crowd.server, TakenUp.finished]
      cases hrest : (r.takeUp f t.crowd.server).rest with
      | none =>
        have htask : (t.takenUp s f (r.takeUp f t.crowd.server)).tasks.get? s = none := by simp [takenUp, hrest, hidle]
        rw [step_finish_of_not (by simp [htask])]
        exact ⟨⟨rfl, rfl, fun _ => rfl⟩, fun _ => by simp [takenUp, hrest]⟩
      | some rest =>
        have htask : (t.takenUp s f (r.takeUp f t.crowd.server)).tasks.get? s = some ⟨f, rest⟩ := by
          simp [takenUp, hrest]
        rw [step_finish htask (Table.get?_insert_self ..)]
        refine ⟨⟨rfl, rfl, fun _ => rfl⟩, fun s' => ?_⟩
        simp only [takenUp, hrest, Table.erase_insert, Table.get?_erase]
        split
        · rename_i hs
          rw [hs, hidle]
        · rfl

/-- The moves of an act that is done whole. A text is taken up and finished at once. -/
def movesOfWhole : Act → List Move
  | .text s raw => [.takeUp s raw, .finish s]
  | a => [.act a]

theorem movesOfWhole_of_not_inParts {a : Act} (hparts : ¬ a.InParts) : movesOfWhole a = [.act a] := by
  cases a with
  | text => exact absurd trivial hparts
  | _ => rfl

theorem same_whole {t : Traffic} {c : Crowd} (h : t.Same ⟨c, .empty⟩) {a : Act} (ha : a.Whole) :
    (t.run (movesOfWhole a)).Same ⟨c.step a, .empty⟩ := by
  have hidle : ∀ s, t.tasks.get? s = none := h.tasks
  have hstep : (t.crowd.step a).Same (c.step a) := h.crowd.step a
  rcases ha.text_or_not_inParts with ⟨s, raw, rfl⟩ | hparts
  · have hwhole := finish_takeUp (hidle s) raw
    exact ⟨hwhole.crowd.trans hstep, fun s' => (hwhole.tasks s').trans (h.tasks s')⟩
  · rw [movesOfWhole_of_not_inParts hparts, run, List.foldl_cons, List.foldl_nil, step,
      if_pos ⟨hparts, fun s _ => hidle s⟩]
    exact ⟨hstep, h.tasks⟩

/-- **When every text is finished at once, all is done whole.** A crowd whose routers handle their texts whole is one
with traffic, in which nobody does anything in the midst of a frame. -/
theorem same_run_whole (settings : ChatSettings) (now : Int) {acts : List Act} (hwhole : ∀ a ∈ acts, a.Whole) :
    ((start settings now).run (acts.flatMap movesOfWhole)).Same ⟨(Crowd.start settings now).run acts, .empty⟩ := by
  induction acts using List.reverseRecOn with
  | nil => exact ⟨.refl _, fun _ => rfl⟩
  | append_singleton acts a ih =>
    have hbefore := ih fun b hb => hwhole b (List.mem_append_left _ hb)
    rw [List.flatMap_append, List.flatMap_singleton, run_append, Crowd.run_append]
    exact same_whole hbefore (hwhole a (List.mem_append_right _ (List.mem_singleton_self a)))

/-! ## Routers and the registry -/

theorem coupled_step {t : Traffic} (h : t.crowd.Coupled) (mv : Move) : (t.step mv).crowd.Coupled := by
  have hcase := t.step_cases mv
  generalize t.step mv = t' at hcase
  cases hcase with
  | act a => exact h.step a
  | takeUp s raw f r hframe hrouter =>
    have hup := h.act s (f := fun r sv => ((r.takeUp f sv).router, (r.takeUp f sv).server)) fun r sv =>
      r.couples_takeUp f sv
    rwa [t.crowd.act_of_some hrouter] at hup
  | finish s task r => exact h.of_eq (r.finish_registry task.rest _) rfl
  | idle => exact h

theorem coupled_run {t : Traffic} (h : t.crowd.Coupled) (moves : List Move) : (t.run moves).crowd.Coupled := by
  induction moves generalizing t with
  | nil => exact h
  | cons mv moves ih => exact ih (coupled_step h mv)

theorem coupled_of_start (settings : ChatSettings) (now : Int) (moves : List Move) :
    ((start settings now).run moves).crowd.Coupled := coupled_run (Crowd.coupled_start settings now) moves

/-! ## Where routers come from -/

/-- How the router of a session can have come to be what it is after a move. -/
inductive Became (t : Traffic) (mv : Move) (s : SessionId) (r' : Router) : Prop
  | stayed (hrouter : t.crowd.routers.get? s = some r')
  | connected (handle : Handle) (user : UserId) (username : String) (host : Option String)
      (hmv : mv = .act (.connect s handle user username host))
      (hr : r' = ⟨s, user, username, handle, host, none, false⟩)
  /-- It left its room, and may have been closed with that. -/
  | left (r : Router) (closed : Bool) (hrouter : t.crowd.routers.get? s = some r) (hidle : t.tasks.get? s = none)
      (hclosed : r.closed = true → closed = true) (hr : r' = { r with room := none, closed })
  | entered (r : Router) (raw : String) (f : ClientFrame) (room : RoomId) (hrouter : t.crowd.routers.get? s = some r)
      (hidle : t.tasks.get? s = none) (hmv : mv = .takeUp s raw) (hframe : ClientFrame.decode raw = some f)
      (hevent : f.event = "join") (hroom : f.room = some room) (hne : room ≠ "")
      (hr : r' = { r with room := some room })

theorem became_act {t : Traffic} {a : Act} (hparts : ¬ a.InParts) (hidle : ∀ s ∈ a.actor?, t.tasks.get? s = none)
    {s : SessionId} {r' : Router} (h : (t.crowd.step a).routers.get? s = some r') : t.Became (.act a) s r' := by
  cases a with
  | text | enter | sendHistory | announceChat | put => exact absurd trivial hparts
  | connect s' handle user username host =>
    rw [Crowd.step, Crowd.connect, Table.get?_insert] at h
    split at h
    · rename_i hs
      subst hs
      cases h
      exact .connected handle user username host rfl rfl
    · exact .stayed h
  | welcome s' =>
    rw [Crowd.step, Crowd.router_act] at h
    split at h
    · rename_i hs
      rw [Option.map_id_fun', id_eq, ← hs] at h
      exact .stayed h
    · exact .stayed h
  | leave s' =>
    rw [Crowd.step, Crowd.router_act] at h
    split at h
    · rename_i hs
      subst hs
      obtain ⟨r, hr, rfl⟩ := Option.map_eq_some_iff.1 h
      exact .left r r.closed hr (hidle s rfl) id (r.leave_fst _)
    · exact .stayed h
  | close s' =>
    rw [Crowd.step, Crowd.router_act] at h
    split at h
    · rename_i hs
      subst hs
      obtain ⟨r, hr, rfl⟩ := Option.map_eq_some_iff.1 h
      rw [Router.close_fst]
      split
      · exact .stayed hr
      · exact .left r true hr (hidle s rfl) (fun _ => rfl) rfl
    · exact .stayed h
  | drop s' =>
    rw [Crowd.step, Table.get?_erase] at h
    split at h
    · cases h
    · rename_i hs
      rw [Crowd.router_act, if_neg hs] at h
      exact .stayed h
  | kill | receive | store | clock | giveUp => exact .stayed h
  | lookUp n => exact .stayed (t.crowd.lookUp_routers n ▸ h)
  | sendOut n => exact .stayed (t.crowd.sendOut_routers n ▸ h)

theorem router_step {t : Traffic} {mv : Move} {s : SessionId} {r' : Router}
    (h : (t.step mv).crowd.routers.get? s = some r') : t.Became mv s r' := by
  have hcase := t.step_cases mv
  generalize t.step mv = t' at hcase h
  cases hcase with
  | act a hparts hidle => exact became_act hparts hidle h
  | takeUp s' raw f r hframe hrouter hidle =>
    simp only [takenUp, Table.get?_insert] at h
    split at h
    · rename_i hs
      subst hs
      have htakes := r.takesUp f t.crowd.server
      cases h
      generalize r.takeUp f t.crowd.server = u at htakes
      cases htakes with
      | enters room hevent hroom hne =>
        rw [r.enter_fst]
        exact .entered r raw f room hrouter hidle rfl hframe hevent hroom hne rfl
      | leaves => exact .left r r.closed hrouter hidle id (r.leave_fst _)
      | _ => exact .stayed hrouter
    · exact .stayed h
  | finish | idle => exact .stayed h

/-- Every router came from a connection, and is whose the connection was. -/
theorem connect_of_router {settings : ChatSettings} {now : Int} {moves : List Move} {s : SessionId} {r : Router}
    (h : ((start settings now).run moves).crowd.routers.get? s = some r) :
    .act (.connect s r.handle r.user r.username r.host) ∈ moves := by
  induction moves using List.reverseRecOn generalizing r with
  | nil => cases h
  | append_singleton moves mv ih =>
    rw [run_append] at h
    cases router_step h with
    | stayed hrouter => exact List.mem_append_left _ (ih hrouter)
    | connected handle user username host hmv hr =>
      subst hr
      exact List.mem_append_right _ (List.mem_singleton.2 hmv.symm)
    | left r₀ closed hrouter _ _ hr =>
      subst hr
      exact List.mem_append_left _ (ih (r := r₀) hrouter)
    | entered r₀ raw f room hrouter _ _ _ _ _ _ hr =>
      subst hr
      exact List.mem_append_left _ (ih (r := r₀) hrouter)

theorem eq_of_nodup_filterMap {α β : Type} {f : α → Option β} {l : List α} (h : (l.filterMap f).Nodup) {a b : α}
    (ha : a ∈ l) (hb : b ∈ l) {x : β} (hfa : f a = some x) (hfb : f b = some x) : a = b := by
  by_contra hne
  have hpairs : l.Pairwise fun a b => ¬ (f a = some x ∧ f b = some x) :=
    (List.pairwise_filterMap.1 h).imp fun hab ⟨ha, hb⟩ => hab x ha x hb rfl
  have hsymm : Std.Symm fun a b => ¬ (f a = some x ∧ f b = some x) := ⟨fun _ _ hab hba => hab hba.symm⟩
  exact hpairs.forall ha hb hne ⟨hfa, hfb⟩

/-- No two open sessions share a queue when no queue is opened twice. -/
theorem apart_of_start (settings : ChatSettings) (now : Int) {moves : List Move}
    (hhandles : (moves.filterMap Move.opens?).Nodup) :
    Registry.ApartBy ((start settings now).run moves).crowd.shown? := by
  intro s s' e e' he he' heq
  have hconnect : ∀ {s e}, ((start settings now).run moves).crowd.shown? s = some e →
      ∃ user username host, .act (.connect s e.handle user username host) ∈ moves := by
    intro s e he
    obtain ⟨r, hr, -, rfl⟩ := Crowd.shown?_eq_some_iff.1 he
    exact ⟨_, _, _, connect_of_router hr⟩
  obtain ⟨user, username, host, hin⟩ := hconnect he
  obtain ⟨user', username', host', hin'⟩ := hconnect he'
  rw [← heq] at hin'
  cases eq_of_nodup_filterMap hhandles hin hin' rfl rfl
  rfl

/-- A router that is reached through a queue is that of the connection which opened the queue. -/
theorem router_of_handle {settings : ChatSettings} {now : Int} {before after : List Move}
    (hhandles : ((before ++ after).filterMap Move.opens?).Nodup) {s s' : SessionId} {h : Handle} {user : UserId}
    {username : String} {host : Option String} (hconnect : .act (.connect s h user username host) ∈ before ++ after)
    {r : Router} (hrouter : ((start settings now).run before).crowd.routers.get? s' = some r) (hhandle : r.handle = h) :
    s' = s ∧ r.user = user ∧ r.host = host := by
  subst hhandle
  cases eq_of_nodup_filterMap hhandles hconnect (List.mem_append_left _ (connect_of_router hrouter)) rfl rfl
  exact ⟨rfl, rfl, rfl⟩

/-! ## Routers in the middle of a frame -/

/-- A router that is in the middle of a frame stays as it is until it finishes. -/
theorem busy_step {t : Traffic} {mv : Move} {s : SessionId} {task : Task} {r : Router}
    (htask : t.tasks.get? s = some task) (hrouter : t.crowd.routers.get? s = some r) (hmv : mv ≠ .finish s) :
    (t.step mv).tasks.get? s = some task ∧ (t.step mv).crowd.routers.get? s = some r := by
  have hcase := t.step_cases mv
  generalize t.step mv = t' at hcase
  cases hcase with
  | act a hparts hidle =>
    refine ⟨htask, ?_⟩
    have hs : a.actor? ≠ some s := fun hs => by rw [hidle s hs] at htask; cases htask
    exact (t.crowd.router_of_ne hs).trans hrouter
  | takeUp s' raw f r' hframe hrouter' hidle =>
    have hs : s ≠ s' := fun hs => by rw [hs, hidle] at htask; cases htask
    refine ⟨?_, by rw [takenUp, Table.get?_insert, if_neg hs, hrouter]⟩
    unfold takenUp
    split
    · exact htask
    · rw [Table.get?_insert, if_neg hs, htask]
  | finish s' =>
    have hs : s ≠ s' := fun hs => hmv (by rw [hs])
    exact ⟨by rw [Table.get?_erase, if_neg hs, htask], hrouter⟩
  | idle => exact ⟨htask, hrouter⟩

theorem busy_run {t : Traffic} {moves : List Move} {s : SessionId} {task : Task} {r : Router}
    (htask : t.tasks.get? s = some task) (hrouter : t.crowd.routers.get? s = some r) (hmoves : .finish s ∉ moves) :
    (t.run moves).tasks.get? s = some task ∧ (t.run moves).crowd.routers.get? s = some r := by
  induction moves generalizing t with
  | nil => exact ⟨htask, hrouter⟩
  | cons mv moves ih =>
    rw [List.mem_cons, not_or] at hmoves
    obtain ⟨htask', hrouter'⟩ := busy_step htask hrouter (Ne.symm hmoves.1)
    exact ih htask' hrouter' hmoves.2

/-- How the task of a session can have come to be what it is after a move. -/
inductive TaskBecame (t : Traffic) (mv : Move) (s : SessionId) (task : Task) : Prop
  | stayed (htask : t.tasks.get? s = some task)
      (hrouter : (t.step mv).crowd.routers.get? s = t.crowd.routers.get? s)
  | takenUp (raw : String) (r : Router) (hmv : mv = .takeUp s raw) (hframe : ClientFrame.decode raw = some task.frame)
      (hrouter : t.crowd.routers.get? s = some r)
      (hrest : (r.takeUp task.frame t.crowd.server).rest = some task.rest)
      (hstep : t.step mv = t.takenUp s task.frame (r.takeUp task.frame t.crowd.server))

theorem task_step {t : Traffic} {mv : Move} {s : SessionId} {task : Task}
    (h : (t.step mv).tasks.get? s = some task) : t.TaskBecame mv s task := by
  have hcase := t.step_cases mv
  generalize ht' : t.step mv = t' at hcase h
  cases hcase with
  | act a hparts hidle =>
    have hs : a.actor? ≠ some s := fun hs => by rw [hidle s hs] at h; cases h
    exact .stayed h (by rw [ht']; exact t.crowd.router_of_ne hs)
  | takeUp s' raw f r hframe hrouter hidle =>
    by_cases hs : s = s'
    · subst hs
      unfold takenUp at h
      split at h
      · rw [hidle] at h
        cases h
      · rename_i rest hrest
        rw [Table.get?_insert_self] at h
        cases h
        exact .takenUp raw r rfl hframe hrouter hrest ht'
    · refine .stayed ?_ (by rw [ht', takenUp, Table.get?_insert, if_neg hs])
      unfold takenUp at h
      split at h
      · exact h
      · rwa [Table.get?_insert, if_neg hs] at h
  | finish s' =>
    rw [Table.get?_erase] at h
    split at h
    · cases h
    · exact .stayed h (by rw [ht']; rfl)
  | idle => exact .stayed h (by rw [ht'])

/-- Whoever is in the middle of a frame has a router. -/
theorem exists_router_of_task {settings : ChatSettings} {now : Int} {moves : List Move} {s : SessionId} {task : Task}
    (h : ((start settings now).run moves).tasks.get? s = some task) :
    ∃ r, ((start settings now).run moves).crowd.routers.get? s = some r := by
  induction moves using List.reverseRecOn with
  | nil => cases h
  | append_singleton moves mv ih =>
    rw [run_snoc] at h ⊢
    cases task_step h with
    | stayed htask hrouter => exact hrouter ▸ ih htask
    | takenUp raw r _ _ _ _ hstep =>
      rw [hstep]
      exact ⟨_, Table.get?_insert_self ..⟩

/-! ## What becomes of the store -/

/-- How the store can have come to be what it is after a move. -/
inductive StoreBecame (t : Traffic) (mv : Move) : Store → Prop
  | same : StoreBecame t mv t.crowd.server.store
  | replaced (store : Store) (hmv : mv = .act (.store store)) : StoreBecame t mv store
  | saved (s : SessionId) (raw : String) (f : ClientFrame) (r : Router) (room : RoomId) (text voice : Option String)
      (m : Message) (store : Store) (hmv : mv = .takeUp s raw) (hframe : ClientFrame.decode raw = some f)
      (hrouter : t.crowd.routers.get? s = some r)
      (hsave : t.crowd.server.store.saveMessage ⟨room, r.user, r.username, text, voice,
        Router.resolveReply room f.replyTo f.replyToId t.crowd.server.store⟩ t.crowd.server.now = .ok (m, store)) :
    StoreBecame t mv store
  | marked (room : RoomId) (viewer : UserId) (upTo : Int) (count : Nat) (store : Store)
      (hmark : t.crowd.server.store.markSeen room viewer upTo = .ok (count, store)) : StoreBecame t mv store

theorem store_act {c : Crowd} {a : Act} (hparts : ¬ a.InParts) :
    (c.step a).server.store = c.server.store ∨ a = .store (c.step a).server.store := by
  have hact : ∀ (s : SessionId) {f : Router → Server → Router × Server},
      (∀ r : Router, (f r c.server).2.store = c.server.store) → (c.act s f).server.store = c.server.store :=
    fun s f hf => c.act_server s (P := fun sv => sv.store = c.server.store) rfl fun r _ => hf r
  cases a with
  | text | enter | sendHistory | announceChat | put => exact absurd trivial hparts
  | connect s handle user username host =>
    obtain ⟨pending, hserver⟩ := c.connect_server s handle user username host
    left
    rw [Crowd.step, hserver]
  | welcome s => exact .inl (hact s fun _ => rfl)
  | leave s => exact .inl (hact s fun r => r.leave_store _)
  | close s | drop s => exact .inl (hact s fun r => r.close_store _)
  | store store => exact .inr rfl
  | kill | receive | clock | giveUp => exact .inl rfl
  | lookUp n =>
    left
    rw [Crowd.step, Crowd.lookUp_server]
  | sendOut n =>
    left
    rw [Crowd.step, Crowd.sendOut]
    split <;> rfl

theorem store_step (t : Traffic) (mv : Move) : t.StoreBecame mv (t.step mv).crowd.server.store := by
  have hcase := t.step_cases mv
  generalize t.step mv = t' at hcase
  cases hcase with
  | act a hparts =>
    rcases store_act (c := t.crowd) hparts with h | h
    · exact h ▸ .same
    · exact .replaced _ (congrArg Move.act h)
  | takeUp s raw f r hframe hrouter =>
    have htakes := r.takesUp f t.crowd.server
    show t.StoreBecame _ (r.takeUp f t.crowd.server).server.store
    generalize r.takeUp f t.crowd.server = u at htakes
    cases htakes with
    | enters room => exact r.enter_store room t.crowd.server ▸ .same
    | leaves => exact r.leave_store t.crowd.server ▸ .same
    | saves room text voice m store _ hsave => exact .saved s raw f r room text voice m store rfl hframe hrouter hsave
    | marks room ts count store _ _ hmark => exact .marked _ _ _ count store hmark
    | _ => exact .same
  | finish s task r => exact r.finish_store task.rest t.crowd.server ▸ .same
  | idle => exact .same

/-- What is done to the store from outside takes nobody's place in a room away. -/
def SparesPlaces (t : Traffic) (mv : Move) : Prop :=
  ∀ store, mv = .act (.store store) → t.crowd.server.store.KeepsPlaces store

instance (t : Traffic) (mv : Move) : Decidable (t.SparesPlaces mv) := mv.decideStore t.crowd.server.store.KeepsPlaces

theorem keepsPlaces_step {t : Traffic} {mv : Move} (h : t.SparesPlaces mv) :
    t.crowd.server.store.KeepsPlaces (t.step mv).crowd.server.store := by
  have hcase := t.store_step mv
  generalize (t.step mv).crowd.server.store = store at hcase
  cases hcase with
  | same => exact .of_eq rfl
  | replaced store hmv => exact h store hmv
  | saved _ _ _ _ _ _ _ _ _ _ _ _ hsave => exact .of_eq (Store.saveMessage_participants hsave)
  | marked _ _ _ _ _ hmark => exact .of_eq (Store.markSeen_participants hmark)

theorem keepsPlaces_run {t : Traffic} {moves : List Move} (h : Run.Along step SparesPlaces t moves) :
    t.crowd.server.store.KeepsPlaces (t.run moves).crowd.server.store := by
  induction moves generalizing t with
  | nil => exact .of_eq rfl
  | cons mv moves ih => exact (keepsPlaces_step h.1).trans (ih h.2)

end Traffic

end DirectChat
