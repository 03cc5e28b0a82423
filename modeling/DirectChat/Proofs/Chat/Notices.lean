import DirectChat.Proofs.Chat.Causes
import DirectChat.Proofs.Chat.Edges
/-!
# Notices of coming and going

Whoever is in a room is told when another session enters it and when one leaves it. One step of a router
tells a member of the room just what it does to the room (`Router.leave_notes`, `Router.enter_notes`,
`Router.close_notes`), and nothing else that happens tells anything of that kind (`noted_step`). So the
notices that one session causes take turns (`turns_run`), and all of them together add up to the change in
the number of the others (`balance_run`).
-/

namespace DirectChat

/-! ## Notices -/

/-- What a frame says of somebody in the room: `true` that they came, `false` that they left. -/
def Frame.noticeIn? (room : RoomId) : Frame → Option Bool
  | .event (.join r ..) => if r = room then some true else none
  | .event (.leave r ..) => if r = room then some false else none
  | _ => none

/-- The notices of a room among frames. -/
def notices (room : RoomId) (fs : List Frame) : List Bool := fs.filterMap (Frame.noticeIn? room)

/-- The notices that one step of a session can cause, from whether it was in the room before to whether it is
afterwards. A session that joins the room it is in leaves it and comes back. -/
inductive Noted : Bool → List Bool → Bool → Prop
  | nothing (inside : Bool) : Noted inside [] inside
  | came : Noted false [true] true
  | left : Noted true [false] false
  | cameBack : Noted true [false, true] true

/-- Notices take turns, from whether the session was in the room at first to whether it is in the end. -/
inductive TakesTurns : Bool → List Bool → Bool → Prop
  | none (inside : Bool) : TakesTurns inside [] inside
  | next {inside notice inside' : Bool} {rest : List Bool} (hturn : notice ≠ inside)
      (hrest : TakesTurns notice rest inside') : TakesTurns inside (notice :: rest) inside'

theorem notices_append (room : RoomId) (fs gs : List Frame) :
    notices room (fs ++ gs) = notices room fs ++ notices room gs := List.filterMap_append

theorem Noted.takesTurns {a b : Bool} {l : List Bool} (h : Noted a l b) : TakesTurns a l b := by
  cases h with
  | nothing => exact .none a
  | came => exact .next nofun (.none true)
  | left => exact .next nofun (.none false)
  | cameBack => exact .next nofun (.next nofun (.none true))

theorem TakesTurns.append {a b c : Bool} {l l' : List Bool} (h : TakesTurns a l b) (h' : TakesTurns b l' c) :
    TakesTurns a (l ++ l') c := by
  induction h with
  | none => exact h'
  | next hturn hrest ih => exact .next hturn (ih h')

theorem Noted.of_left {p : Prop} [Decidable p] : Noted (decide p) (if p then [false] else []) false := by
  by_cases hp : p
  · simpa [hp] using Noted.left
  · simpa [hp] using Noted.nothing false

theorem Noted.of_entered {p q : Prop} [Decidable p] [Decidable q] :
    Noted (decide p) ((if p then [false] else []) ++ if q then [true] else []) (decide q) := by
  by_cases hp : p <;> by_cases hq : q
  · simpa [hp, hq] using Noted.cameBack
  · simpa [hp, hq] using Noted.left
  · simpa [hp, hq] using Noted.came
  · simpa [hp, hq] using Noted.nothing false

/-- One notice more of coming than of leaving is a session more in the room. -/
theorem Noted.count {a b : Bool} {l : List Bool} (h : Noted a l b) :
    (l.count true : Int) - l.count false = b.toNat - a.toNat := by
  cases h <;> simp

/-! ## One queue -/

namespace Mailroom

variable {room : RoomId} {h : Handle} {m m' m'' : Mailroom} {l l' : List Bool}

/-- The queue has grown by frames with the given notices of the room among them. -/
structure Notes (room : RoomId) (h : Handle) (m m' : Mailroom) (l : List Bool) : Prop where
  live : m'.isLive h = m.isLive h
  added : ∃ fs, m'.waiting h = m.waiting h ++ fs ∧ notices room fs = l

theorem Notes.refl (room : RoomId) (h : Handle) (m : Mailroom) : Notes room h m m [] :=
  ⟨rfl, [], (List.append_nil _).symm, rfl⟩

theorem Notes.trans (hn : Notes room h m m' l) (hn' : Notes room h m' m'' l') : Notes room h m m'' (l ++ l') := by
  obtain ⟨fs, hfs, hl⟩ := hn.added
  obtain ⟨gs, hgs, hl'⟩ := hn'.added
  refine ⟨hn'.live.trans hn.live, fs ++ gs, ?_, ?_⟩
  · rw [hgs, hfs, List.append_assoc]
  · rw [notices_append, hl, hl']

theorem Notes.since (hn : Notes room h m m' l) : notices room (m.since m' h) = l := by
  obtain ⟨fs, hfs, hl⟩ := hn.added
  rw [since_of_append hfs, hl]

theorem Grows.notes {p : Handle → Frame → Prop} (hg : m.Grows p m') (hp : ∀ f, p h f → f.noticeIn? room = none) :
    Notes room h m m' [] := by
  obtain ⟨fs, hfs, hin⟩ := hg.added h
  exact ⟨hg.live h, fs, hfs, List.filterMap_eq_nil_iff.2 fun f hf => hp f (hin f hf)⟩

end Mailroom

/-! ## Who is told -/

section
variable {f : SessionId → Option SessionEntry} {o : SessionId} {e : SessionEntry} {room : RoomId} {sv : Server}

theorem Registry.ApartBy.update (h : ApartBy f) {s : SessionId} {e' : Option SessionEntry}
    (he : e'.map (·.handle) = (f s).map (·.handle)) : ApartBy (Function.update f s e') := by
  have hsame : ∀ s', (Function.update f s e' s').map (·.handle) = (f s').map (·.handle) := by
    intro s'
    by_cases hs : s' = s
    · simp [hs, he]
    · simp [hs]
  have hold : ∀ {s' x}, Function.update f s e' s' = some x → ∃ y, f s' = some y ∧ y.handle = x.handle := by
    intro s' x hx
    have hmap := hsame s'
    rw [hx, Option.map_some] at hmap
    exact Option.map_eq_some_iff.1 hmap.symm
  intro s₁ s₂ e₁ e₂ h₁ h₂ heq
  obtain ⟨y₁, hy₁, hh₁⟩ := hold h₁
  obtain ⟨y₂, hy₂, hh₂⟩ := hold h₂
  exact h s₁ s₂ y₁ y₂ hy₁ hy₂ (by rw [hh₁, hh₂, heq])

/-- What is announced in a room tells a member of it, unless the announcement leaves it out. -/
theorem Server.announce_notes (sv : Server) (hf : sv.registry.Shows f) (hapart : Registry.ApartBy f) (he : f o = some e)
    (hlive : sv.mail.isLive e.handle = true) (room announced : RoomId) (ev : Event) (exclude : Option SessionId) :
    Mailroom.Notes room e.handle sv.mail (sv.announce announced ev exclude).mail
      (if e.room = some announced ∧ some o ≠ exclude then (Frame.noticeIn? room (.event ev)).toList else []) := by
  refine ⟨sv.mail.isLive_sendAll _ _ _, _, sv.mail.waiting_sendAll _ _ _, ?_⟩
  rw [if_pos hlive, hf.count_roomHandles_eq hapart he]
  split
  · cases hn : Frame.noticeIn? room (.event ev) <;> simp [notices, hn]
  · rfl

theorem Registry.ApartBy.left (h : ApartBy f) (s : SessionId) (room : RoomId) :
    ApartBy (Function.update f s ((f s).map (·.left room))) := by
  refine h.update ?_
  rw [Option.map_map]
  congr 1
  funext x
  simp only [Function.comp, SessionEntry.left]
  split <;> rfl

theorem Registry.ApartBy.joined (h : ApartBy f) (s : SessionId) (room : RoomId) :
    ApartBy (Function.update f s ((f s).map (·.joined room))) := by
  refine h.update ?_
  rw [Option.map_map]
  rfl

namespace Router

variable {r : Router}

/-- Leaving a room keeps everybody's queue apart from those of others. -/
theorem leave_apart (hf : sv.registry.Shows f) (hapart : Registry.ApartBy f) (r : Router) :
    ∃ e', (r.leave sv).2.registry.Shows (Function.update f r.session e') ∧
      Registry.ApartBy (Function.update f r.session e') := by
  cases hroom : r.room with
  | none =>
    refine ⟨f r.session, ?_, ?_⟩
    · rwa [leave_of_none hroom, Function.update_eq_self]
    · rwa [Function.update_eq_self]
  | some left =>
    refine ⟨(f r.session).map (·.left left), ?_, hapart.left r.session left⟩
    rw [leave_registry hroom]
    exact hf.leave left r.session

variable (hf : sv.registry.Shows f) (hapart : Registry.ApartBy f) (he : f o = some e) (hroom : e.room = some room)
  (hlive : sv.mail.isLive e.handle = true) (ho : o ≠ r.session)

include hf hapart he hroom hlive ho

/-- A member of the room is told when a router leaves it. -/
theorem leave_notes :
    Mailroom.Notes room e.handle sv.mail (r.leave sv).2.mail (if r.room = some room then [false] else []) := by
  cases hleft : r.room with
  | none =>
    rw [leave_of_none hleft]
    exact .refl ..
  | some left =>
    have hother : Function.update f r.session ((f r.session).map (·.left left)) o = some e := by
      rw [Function.update_of_ne ho, he]
    have hnotes := Server.announce_notes { sv with registry := sv.registry.leave left r.session }
      (hf.leave left r.session) (hapart.left r.session left) hother hlive room left (.leave left r.username sv.now)
      (some r.session)
    have htold : (if e.room = some left ∧ some o ≠ some r.session
        then (Frame.noticeIn? room (.event (.leave left r.username sv.now))).toList else []) =
          if some left = some room then [false] else [] := by
      by_cases hsame : left = room
      · simp [hsame, hroom, ho, Frame.noticeIn?]
      · simp [hsame, hroom, Ne.symm hsame]
    rw [leave, hleft, ← htold]
    exact hnotes

/-- A member of the room is told when a router leaves it to enter a room, and when it enters this one. -/
theorem enter_notes (entered : RoomId) :
    Mailroom.Notes room e.handle sv.mail (r.enter entered sv).2.mail
      ((if r.room = some room then [false] else []) ++ if entered = room then [true] else []) := by
  have hleft := leave_notes hf hapart he hroom hlive ho
  obtain ⟨e', hshows, hapart'⟩ := leave_apart hf hapart r
  let told : Server := (r.leave sv).2.send r.handle (.joined entered r.username (r.leave sv).2.now)
  have hreplied : Mailroom.Notes room e.handle (r.leave sv).2.mail told.mail [] :=
    (Mailroom.grows_send (p := fun _ f => f.noticeIn? room = none) _ rfl).notes fun _ hn => hn
  have hother : Function.update (Function.update f r.session e') r.session
      ((Function.update f r.session e' r.session).map (·.joined entered)) o = some e := by
    rw [Function.update_of_ne ho, Function.update_of_ne ho, he]
  have hannounced := Server.announce_notes
    { told with registry := (r.leave sv).2.registry.join entered r.session } (hshows.join entered r.session)
    (hapart'.joined r.session entered) hother (hreplied.live.trans (hleft.live.trans hlive)) room entered
    (.join entered r.username (r.leave sv).2.now) (some r.session)
  have htold : (if e.room = some entered ∧ some o ≠ some r.session
      then (Frame.noticeIn? room (.event (.join entered r.username (r.leave sv).2.now))).toList else []) =
        if entered = room then [true] else [] := by
    by_cases hsame : entered = room
    · simp [hsame, hroom, ho, Frame.noticeIn?]
    · simp [hsame, hroom, Ne.symm hsame]
  simp only [enter, leave_fst, ← htold]
  exact hleft.trans (hreplied.trans hannounced)

/-- A member of the room is told when a router in it is closed, and of a closed router it is told nothing. -/
theorem close_notes :
    Mailroom.Notes room e.handle sv.mail (r.close sv).2.mail
      (if r.closed = false ∧ r.room = some room then [false] else []) := by
  cases hclosed : r.closed with
  | true =>
    rw [close, if_pos hclosed]
    exact .refl ..
  | false =>
    have hleft := leave_notes (r := { r with closed := true }) hf hapart he hroom hlive ho
    have hmail : (r.close sv).2.mail = ({ r with closed := true }.leave sv).2.mail := by
      rw [close, if_neg (by simp [hclosed])]
      dsimp only
      split <;> rfl
    rw [hmail]
    simpa using hleft

end Router

/-- Whoever acts is not told of it. -/
theorem Told.not_own (hapart : Registry.ApartBy f) (he : f o = some e) {fr : Frame} :
    ¬ Told f (some o) e.handle fr := by
  rintro ⟨-, -, s, e', -, -, hs, he', -, hhandle⟩
  exact hs (congrArg some (hapart s o e' e he' he hhandle))

end

/-- Finishing a frame tells nobody of coming and going. -/
theorem Router.finish_quiet (r : Router) (rest : Rest) (sv : Server) (room : RoomId) :
    sv.mail.Grows (fun _ f => f.noticeIn? room = none) (r.finish rest sv).mail := by
  cases rest with
  | history shown =>
    show sv.mail.Grows _ (r.sendHistory shown sv).mail
    unfold sendHistory
    split
    · exact .refl _ _
    · exact Mailroom.grows_send _ rfl
  | announce m => exact Mailroom.grows_sendAll _ fun _ _ => rfl
  | seen shown ts count =>
    have hanswered : sv.mail.Grows (fun _ f => f.noticeIn? room = none)
        (r.reply (.seenSuccessful shown r.username ts) sv).mail := Mailroom.grows_send _ rfl
    exact hanswered.trans (Mailroom.grows_sendAll _ fun _ _ => rfl)
  | unseen shown ts reason => exact Mailroom.grows_send _ rfl
  | list rooms => exact Mailroom.grows_send _ rfl

/-! ## Moves -/

/-- The session whose router a move makes or lets act. -/
def Move.actor? : Move → Option SessionId
  | .act a => a.actor?
  | .takeUp s _ | .finish s => some s

namespace Crowd

variable {c : Crowd} {o r : Router} {room : RoomId} {s : SessionId}

/-- Whether the registry has the session in the room. -/
def isIn (c : Crowd) (room : RoomId) (s : SessionId) : Bool := c.server.registry.roomOf s = some room

/-- How many sessions but the given one are in the room. -/
def others (c : Crowd) (room : RoomId) (s : SessionId) : Nat :=
  ((c.server.registry.members room).filter (· ≠ s)).length

/-- Registry and routers agree, no two sessions share a queue, and closed routers are in no room. -/
structure Orderly (c : Crowd) : Prop where
  coupled : c.Coupled
  apart : Registry.ApartBy c.shown?
  retired : ∀ s r, c.routers.get? s = some r → r.closed = true → r.room = none

theorem Coupled.isIn_iff (h : c.Coupled) : c.isIn room s = true ↔ (c.shown? s).bind (·.room) = some room := by
  rw [isIn, decide_eq_true_iff, Registry.roomOf, h.shows.entry]

theorem Coupled.isIn_of_not_shown (h : c.Coupled) (hs : c.shown? s = none) : c.isIn room s = false := by
  rw [← Bool.not_eq_true, h.isIn_iff, hs]
  exact nofun

theorem Coupled.isIn_of_none (h : c.Coupled) (hr : c.routers.get? s = none) : c.isIn room s = false :=
  h.isIn_of_not_shown (by rw [shown?, hr, Option.bind_none])

theorem Coupled.isIn_congr {c' : Crowd} (h : c.Coupled) (h' : c'.Coupled)
    (hr : c'.routers.get? s = c.routers.get? s) : c'.isIn room s = c.isIn room s := by
  rw [Bool.eq_iff_iff, h'.isIn_iff, h.isIn_iff, shown?, shown?, hr]

theorem Orderly.isIn_of_router (h : c.Orderly) (hr : c.routers.get? s = some r) :
    c.isIn room s = decide (r.room = some room) := by
  rw [Bool.eq_iff_iff, h.coupled.isIn_iff, decide_eq_true_iff, shown?, hr, Option.bind_some, Router.shown?]
  cases hclosed : r.closed with
  | true => simp [h.retired s r hr hclosed]
  | false => simp

theorem Coupled.shown?_of_listens (h : c.Coupled) (hin : c.Listens o room) :
    c.shown? o.session = some ⟨o.user, o.username, o.handle, some room⟩ := by
  rw [← h.shows.entry, hin.joined]

theorem length_sub_length {l l' : List SessionId} (hl : l.Nodup) (hl' : l'.Nodup)
    (hsame : ∀ x, x ≠ s → (x ∈ l' ↔ x ∈ l)) :
    (l'.length : Int) - l.length = (decide (s ∈ l')).toNat - (decide (s ∈ l)).toNat := by
  have hrest : (l'.erase s).Perm (l.erase s) := (List.perm_ext_iff_of_nodup (hl'.erase s) (hl.erase s)).2 fun x => by
    rw [hl'.mem_erase_iff, hl.mem_erase_iff]
    exact and_congr_right (hsame x)
  have hlength := hrest.length_eq
  rw [List.length_erase, List.length_erase] at hlength
  have hpos : s ∈ l → 0 < l.length := List.length_pos_of_mem
  have hpos' : s ∈ l' → 0 < l'.length := List.length_pos_of_mem
  by_cases hs : s ∈ l <;> by_cases hs' : s ∈ l' <;> simp [hs, hs'] at hlength hpos hpos' ⊢ <;> omega

/-- Of two moments between which nobody but one session comes or goes. -/
theorem Coupled.others_sub_others {c' : Crowd} (room : RoomId) (s own : SessionId) (h : c.Coupled) (h' : c'.Coupled)
    (hsame : ∀ x, x ≠ s → x ≠ own → c'.isIn room x = c.isIn room x) :
    (c'.others room own : Int) - c.others room own =
      if s = own then 0 else ((c'.isIn room s).toNat : Int) - (c.isIn room s).toNat := by
  have hmem : ∀ {c : Crowd}, c.Coupled → ∀ x,
      x ∈ (c.server.registry.members room).filter (· ≠ own) ↔ c.isIn room x = true ∧ x ≠ own := by
    intro c hc x
    rw [List.mem_filter, hc.shows.mem_members, hc.isIn_iff, decide_eq_true_iff]
  have hsub := length_sub_length ((h.shows.rooms.nodup room).filter (· ≠ own))
    ((h'.shows.rooms.nodup room).filter (· ≠ own)) fun x hx => by
      refine (hmem h' x).trans (Iff.trans ?_ (hmem h x).symm)
      exact and_congr_left fun hown => by rw [hsame x hx hown]
  refine hsub.trans ?_
  have hdecide : ∀ {c : Crowd}, c.Coupled →
      decide (s ∈ ((c.server.registry.rooms.get? room).getD []).filter (· ≠ own)) = (c.isIn room s && s ≠ own) := by
    intro c hc
    rw [Bool.eq_iff_iff, decide_eq_true_iff, Bool.and_eq_true, decide_eq_true_iff]
    exact hmem hc s
  rw [hdecide h, hdecide h']
  split <;> simp [*]

/-- A member of the room is told when another session that was in it is closed, and of a closed one nothing. -/
theorem noted_close {c' : Crowd} (h : c.Orderly) (hserver : c'.server = (c.act s Router.close).server)
    (hgone : c'.isIn room s = false) (hin : c.Listens o room) (hs : s ≠ o.session) :
    Noted (c.isIn room s) (notices room (c.server.mail.since c'.server.mail o.handle)) (c'.isIn room s) := by
  rw [hgone, hserver]
  cases hr : c.routers.get? s with
  | none =>
    rw [c.act_of_none hr, (Mailroom.fades_refl _).since, h.coupled.isIn_of_none hr]
    exact .nothing false
  | some r =>
    have hother : o.session ≠ r.session := fun hsame => hs ((h.coupled.session s r hr).symm.trans hsame.symm)
    have hnotes := Router.close_notes h.coupled.shows h.apart (h.coupled.shown?_of_listens hin) rfl hin.live hother
    have hopen : (r.closed = false ∧ r.room = some room) ↔ r.room = some room := by
      refine and_iff_right_of_imp fun hroom => ?_
      rw [← Bool.not_eq_true]
      intro hclosed
      rw [h.retired s r hr hclosed] at hroom
      cases hroom
    rw [c.act_of_some hr, hnotes.since, h.isIn_of_router hr]
    simp only [hopen]
    exact .of_left

/-- A member of the room is told what the act of another session does to the room. -/
theorem noted_act {a : Act} (hparts : ¬ a.InParts) (h : c.Orderly) (h' : (c.step a).Orderly)
    (hfresh : ∀ s, a.connects? = some s → c.routers.get? s = none) (hin : c.Listens o room) (hactor : a.actor? = some s)
    (hs : s ≠ o.session) :
    Noted (c.isIn room s) (notices room (c.server.mail.since (c.step a).server.mail o.handle))
      ((c.step a).isIn room s) := by
  cases a with
  | text | enter | sendHistory | announceChat | put => exact absurd trivial hparts
  | kill | receive | store | clock | lookUp | sendOut | giveUp => cases hactor
  | connect s' handle user username host =>
    cases hactor
    have hnew : (c.step (.connect s handle user username host)).routers.get? s =
        some ⟨s, user, username, handle, host, none, false⟩ := Table.get?_insert_self ..
    obtain ⟨pending, hserver⟩ := c.connect_server s handle user username host
    rw [h.coupled.isIn_of_none (hfresh s rfl), h'.isIn_of_router hnew, step, hserver,
      (c.server.mail.fades_openQueue handle).since]
    exact .nothing false
  | welcome s' =>
    cases hactor
    have hmail : c.server.mail.Grows (fun _ f => f.noticeIn? room = none) (c.step (.welcome s)).server.mail :=
      c.act_server s (P := fun sv => c.server.mail.Grows _ sv.mail) (.refl _ _) fun r _ => Mailroom.grows_send _ rfl
    have hroom : (c.step (.welcome s)).isIn room s = c.isIn room s := by
      refine h.coupled.isIn_congr h'.coupled ?_
      rw [step, router_act, if_pos rfl, Option.map_id_fun', id_eq]
    rw [hroom, (hmail.notes fun _ hn => hn).since]
    exact .nothing _
  | leave s' =>
    cases hactor
    cases hr : c.routers.get? s with
    | none =>
      rw [step, c.act_of_none hr, (Mailroom.fades_refl _).since]
      exact .nothing _
    | some r =>
      have hr' : (c.step (.leave s)).routers.get? s = some { r with room := none } := by
        rw [step, router_act, if_pos rfl, hr, Option.map_some, r.leave_fst]
      have hother : o.session ≠ r.session := fun hsame => hs ((h.coupled.session s r hr).symm.trans hsame.symm)
      have hnotes := Router.leave_notes h.coupled.shows h.apart (h.coupled.shown?_of_listens hin) rfl hin.live hother
      rw [h.isIn_of_router hr, h'.isIn_of_router hr', step, c.act_of_some hr, hnotes.since]
      exact .of_left
  | close s' =>
    cases hactor
    exact noted_close h rfl (h'.coupled.isIn_of_not_shown (c.shown?_close s)) hin hs
  | drop s' =>
    cases hactor
    exact noted_close h rfl (h'.coupled.isIn_of_none (Table.get?_erase_self ..)) hin hs

/-- Of somebody's coming and going an act tells nothing, or what its actor tells the others in a room. -/
theorem noticed_act {a : Act} (hparts : ¬ a.InParts) (hc : c.Coupled) {h : Handle} {fr : Frame}
    (hfr : fr ∈ c.server.mail.since (c.step a).server.mail h) (room : RoomId) :
    fr.noticeIn? room = none ∨ ∃ s, a.actor? = some s ∧ Told c.shown? (some s) h fr := by
  cases sends_act hc hparts hfr with
  | welcome => exact .inl rfl
  | told s fr hactor htold => exact .inr ⟨s, hactor, htold⟩
  | notified k n =>
    left
    cases n <;> rfl

end Crowd

namespace Traffic

variable {t : Traffic} {mv : Move} {moves : List Move} {o : Router} {room : RoomId} {s : SessionId}

/-- No router that was closed takes a frame up. -/
def TakesUpOpen (t : Traffic) : Move → Prop
  | .takeUp s _ => ∀ r ∈ t.crowd.routers.get? s, r.closed = false
  | .act _ | .finish _ => True

instance (t : Traffic) : (mv : Move) → Decidable (t.TakesUpOpen mv)
  | .takeUp s _ => inferInstanceAs (Decidable (∀ r ∈ t.crowd.routers.get? s, r.closed = false))
  | .act _ | .finish _ => isTrue trivial

theorem retired_step (h : ∀ s r, t.crowd.routers.get? s = some r → r.closed = true → r.room = none)
    (hopen : t.TakesUpOpen mv) (r : Router) (hr : (t.step mv).crowd.routers.get? s = some r)
    (hclosed : r.closed = true) : r.room = none := by
  cases router_step hr with
  | stayed hrouter => exact h s r hrouter hclosed
  | connected handle user username host hmv hnew => rw [hnew]
  | left r₀ closed hrouter hidle hwas hleft => rw [hleft]
  | entered r₀ raw f entered hrouter hidle hmv hframe hevent hroom hne hentered =>
    subst hmv hentered
    rw [hopen r₀ hrouter] at hclosed
    cases hclosed

theorem orderly_of_start (settings : ChatSettings) (now : Int)
    (hhandles : (moves.filterMap Move.opens?).Nodup) (hopen : Run.Along step TakesUpOpen (start settings now) moves) :
    ((start settings now).run moves).crowd.Orderly := by
  refine ⟨coupled_of_start settings now moves, apart_of_start settings now hhandles, ?_⟩
  clear hhandles
  induction moves using List.reverseRecOn with
  | nil => exact nofun
  | append_singleton moves mv ih =>
    obtain ⟨hbefore, hlast⟩ := Run.along_snoc.1 hopen
    rw [run_snoc]
    exact fun s r => retired_step (ih hbefore) hlast r

/-! ## One move -/

/-- A move changes nothing about where those are who do not act. -/
theorem isIn_step (hc : t.crowd.Coupled) (hs : mv.actor? ≠ some s) :
    (t.step mv).crowd.isIn room s = t.crowd.isIn room s := by
  refine hc.isIn_congr (coupled_step hc mv) ?_
  have hcase := t.step_cases mv
  generalize t.step mv = t' at hcase
  cases hcase with
  | act a => exact t.crowd.router_of_ne hs
  | takeUp s' raw f r => exact (Table.get?_insert ..).trans (if_neg fun h => hs (congrArg some h.symm))
  | finish | idle => rfl

/-- A member of the room is told what the move of another session does to the room. -/
theorem noted_step (h : t.crowd.Orderly) (h' : (t.step mv).crowd.Orderly) (hfresh : t.Fresh mv)
    (hin : t.crowd.Listens o room) (hactor : mv.actor? = some s) (hs : s ≠ o.session) :
    Noted (t.crowd.isIn room s) (notices room (t.sent mv o.handle)) ((t.step mv).crowd.isIn room s) := by
  rw [sent]
  have hcase := t.step_cases mv
  generalize t.step mv = t' at hcase h'
  cases hcase with
  | act a hparts => exact Crowd.noted_act hparts h h' hfresh hin hactor hs
  | takeUp s' raw f r hframe hrouter =>
    cases hactor
    have hother : o.session ≠ r.session := fun hsame => hs ((h.coupled.session s r hrouter).symm.trans hsame.symm)
    have he := h.coupled.shown?_of_listens hin
    have hrouter' : (t.takenUp s f (r.takeUp f t.crowd.server)).crowd.routers.get? s =
        some (r.takeUp f t.crowd.server).router := Table.get?_insert_self ..
    rw [h.isIn_of_router hrouter, h'.isIn_of_router hrouter']
    have htakes := r.takesUp f t.crowd.server
    show Noted _ (notices room (t.crowd.server.mail.since (r.takeUp f t.crowd.server).server.mail o.handle)) _
    generalize r.takeUp f t.crowd.server = u at htakes
    cases htakes with
    | enters entered =>
      rw [(Router.enter_notes h.coupled.shows h.apart he rfl hin.live hother entered).since, r.enter_fst]
      simpa only [Option.some.injEq] using Noted.of_entered
    | leaves =>
      rw [(Router.leave_notes h.coupled.shows h.apart he rfl hin.live hother).since, r.leave_fst]
      exact .of_left
    | complains =>
      have hmail : t.crowd.server.mail.Grows (fun _ f => f.noticeIn? room = none)
          (r.reply (.error emptyMessageText) t.crowd.server).mail := Mailroom.grows_send _ rfl
      rw [(hmail.notes fun _ hn => hn).since]
      exact .nothing _
    | _ =>
      rw [(Mailroom.fades_refl _).since]
      exact .nothing _
  | finish s' task r =>
    have hregistry := r.finish_registry task.rest t.crowd.server
    have hroom : Crowd.isIn ⟨r.finish task.rest t.crowd.server, t.crowd.routers, t.crowd.underway⟩ room s =
        t.crowd.isIn room s := by rw [Crowd.isIn, Crowd.isIn, hregistry]
    rw [Crowd.onServer, hroom, ((r.finish_quiet task.rest t.crowd.server room).notes fun _ hn => hn).since]
    exact .nothing _
  | idle =>
    rw [(Mailroom.fades_refl _).since]
    exact .nothing _

/-- Of somebody's coming and going a move tells nothing, or what its actor tells the others in a room. -/
theorem noticed_step (hc : t.crowd.Coupled) {h : Handle} {fr : Frame} (hfr : fr ∈ t.sent mv h) (room : RoomId) :
    fr.noticeIn? room = none ∨ ∃ s, mv.actor? = some s ∧ Told t.crowd.shown? (some s) h fr := by
  rw [sent] at hfr
  have hcase := t.step_cases mv
  generalize t.step mv = t' at hcase hfr
  cases hcase with
  | act a hparts => exact Crowd.noticed_act hparts hc hfr room
  | takeUp s raw f r hframe hrouter =>
    obtain rfl := hc.session s r hrouter
    have htakes := r.takesUp f t.crowd.server
    rw [takenUp] at hfr
    dsimp only at hfr
    generalize r.takeUp f t.crowd.server = u at htakes hfr
    cases htakes with
    | enters entered =>
      rcases (r.enter_grows hc.shows entered).since h fr hfr with htold | ⟨-, ts, rfl⟩
      · exact .inr ⟨r.session, rfl, htold⟩
      · exact .inl rfl
    | leaves => exact .inr ⟨r.session, rfl, (r.leave_grows hc.shows).since h fr hfr⟩
    | complains =>
      have hmail : t.crowd.server.mail.Grows (fun _ f => f.noticeIn? room = none)
          (r.reply (.error emptyMessageText) t.crowd.server).mail := Mailroom.grows_send _ rfl
      exact .inl (hmail.since h fr hfr)
    | _ =>
      rw [(Mailroom.fades_refl _).since] at hfr
      cases hfr
  | finish s task r => exact .inl ((r.finish_quiet task.rest t.crowd.server room).since h fr hfr)
  | idle =>
    rw [(Mailroom.fades_refl _).since] at hfr
    cases hfr

/-- Whoever is told of coming and going is told of another session that acts. -/
theorem exists_actor_of_notices (h : t.crowd.Orderly) (hin : t.crowd.Listens o room)
    (hsome : notices room (t.sent mv o.handle) ≠ []) : ∃ s, mv.actor? = some s ∧ s ≠ o.session := by
  obtain ⟨notice, hnotice⟩ := List.exists_mem_of_ne_nil _ hsome
  obtain ⟨fr, hfr, hof⟩ := List.mem_filterMap.1 hnotice
  rcases noticed_step h.coupled hfr room with hnone | ⟨s, hactor, htold⟩
  · rw [hnone] at hof
    cases hof
  · refine ⟨s, hactor, fun hs => ?_⟩
    rw [hs] at htold
    exact htold.not_own h.apart (h.coupled.shown?_of_listens hin)

theorem notices_of_own (h : t.crowd.Orderly) (hin : t.crowd.Listens o room)
    (hown : ∀ s, mv.actor? = some s → s = o.session) : notices room (t.sent mv o.handle) = [] := by
  by_contra hsome
  obtain ⟨s, hactor, hs⟩ := exists_actor_of_notices h hin hsome
  exact hs (hown s hactor)

/-- The notices by which a room's member hears of a move are as many more of coming than of leaving as the
move adds to the others in the room. -/
theorem balance_step (h : t.crowd.Orderly) (h' : (t.step mv).crowd.Orderly) (hfresh : t.Fresh mv)
    (hin : t.crowd.Listens o room) :
    ((notices room (t.sent mv o.handle)).count true : Int) - (notices room (t.sent mv o.handle)).count false =
      (t.step mv).crowd.others room o.session - t.crowd.others room o.session := by
  by_cases hactor : ∃ s, mv.actor? = some s ∧ s ≠ o.session
  · obtain ⟨s, hactor, hs⟩ := hactor
    have hothers := h.coupled.others_sub_others room s o.session h'.coupled fun x hx _ =>
      isIn_step h.coupled (by rw [hactor]; exact fun heq => hx (Option.some.inj heq).symm)
    rw [hothers, if_neg hs]
    exact (noted_step h h' hfresh hin hactor hs).count
  · have hown : ∀ s, mv.actor? = some s → s = o.session := by
      intro s hs
      by_contra hne
      exact hactor ⟨s, hs, hne⟩
    have hothers := h.coupled.others_sub_others room o.session o.session h'.coupled fun x hx _ =>
      isIn_step h.coupled fun heq => hx (hown x heq)
    rw [hothers, if_pos rfl, notices_of_own h hin hown]
    rfl

/-- A session that leaves the room is heard of once, as leaving. -/
theorem notices_of_departure (h : t.crowd.Orderly) (h' : (t.step mv).crowd.Orderly) (hfresh : t.Fresh mv)
    (hin : t.crowd.Listens o room) (hs : s ≠ o.session) (hinside : t.crowd.isIn room s = true)
    (hgone : (t.step mv).crowd.isIn room s = false) :
    mv.actor? = some s ∧ notices room (t.sent mv o.handle) = [false] := by
  have hactor : mv.actor? = some s := by
    by_contra hother
    rw [isIn_step h.coupled hother, hinside] at hgone
    cases hgone
  have hnoted := noted_step h h' hfresh hin hactor hs
  rw [hinside, hgone] at hnoted
  generalize notices room (t.sent mv o.handle) = told at hnoted
  cases hnoted
  exact ⟨hactor, rfl⟩

/-! ## Any number of moves -/

/-- The notices of a room that one session causes in a queue. -/
def noticesBy (s : SessionId) (room : RoomId) (h : Handle) (t : Traffic) (moves : List Move) : List Bool :=
  Run.output step (fun t mv => if mv.actor? = some s then notices room (t.sent mv h) else []) t moves

theorem turns_run (horderly : Run.Throughout step (fun t => t.crowd.Orderly) t moves)
    (hfresh : Run.Along step Fresh t moves) (hin : Run.Throughout step (fun t => t.crowd.Listens o room) t moves)
    (hs : s ≠ o.session) :
    TakesTurns (t.crowd.isIn room s) (noticesBy s room o.handle t moves) ((t.run moves).crowd.isIn room s) := by
  induction moves generalizing t with
  | nil => exact .none _
  | cons mv moves ih =>
    have hstep : TakesTurns (t.crowd.isIn room s) (if mv.actor? = some s then notices room (t.sent mv o.handle) else [])
        ((t.step mv).crowd.isIn room s) := by
      split
      · rename_i hactor
        exact (noted_step horderly.1 horderly.2.head hfresh.1 hin.1 hactor hs).takesTurns
      · rename_i hactor
        rw [isIn_step horderly.1.coupled hactor]
        exact .none _
    exact hstep.append (ih horderly.2 hfresh.2 hin.2)

theorem balance_run (horderly : Run.Throughout step (fun t => t.crowd.Orderly) t moves)
    (hfresh : Run.Along step Fresh t moves) (hin : Run.Throughout step (fun t => t.crowd.Listens o room) t moves) :
    ((notices room (arrivals o.handle t moves)).count true : Int) -
        (notices room (arrivals o.handle t moves)).count false =
      (t.run moves).crowd.others room o.session - t.crowd.others room o.session := by
  induction moves generalizing t with
  | nil =>
    show (0 : Int) = t.crowd.others room o.session - t.crowd.others room o.session
    omega
  | cons mv moves ih =>
    have hstep := balance_step horderly.1 horderly.2.head hfresh.1 hin.1
    have hrest := ih horderly.2 hfresh.2 hin.2
    have hnotices : notices room (arrivals o.handle t (mv :: moves)) =
        notices room (t.sent mv o.handle) ++ notices room (arrivals o.handle (t.step mv) moves) := notices_append ..
    have hrun : t.run (mv :: moves) = (t.step mv).run moves := rfl
    rw [hnotices, hrun, List.count_append, List.count_append]
    omega

/-- **Notices of coming and going balance.** Take any run that connects no session and opens no queue twice, in
which no closed router takes a frame up. Take a stretch of it during which a session is in a room, with
somebody receiving. The notices of coming that it is sent for the room, less those of leaving, are the change
in the number of the other members. The notices that any one other session causes take turns, from whether
that session was a member at first to whether it is one in the end. Nothing but the acts of other sessions
causes any, and each departure, however it comes about, causes just one notice of leaving. -/
theorem notices_balance {settings : ChatSettings} {now : Int} {before moves : List Move} {o : Router} {room : RoomId}
    (hsessions : ((before ++ moves).filterMap Move.connects?).Nodup)
    (hhandles : ((before ++ moves).filterMap Move.opens?).Nodup)
    (hopen : Run.Along step TakesUpOpen (start settings now) (before ++ moves))
    (hin : Run.Throughout step (fun t => t.crowd.Listens o room) ((start settings now).run before) moves) :
    let t := (start settings now).run before
    ((notices room (arrivals o.handle t moves)).count true : Int) -
        (notices room (arrivals o.handle t moves)).count false =
      (t.run moves).crowd.others room o.session - t.crowd.others room o.session ∧
    (∀ s, s ≠ o.session →
      TakesTurns (t.crowd.isIn room s) (noticesBy s room o.handle t moves) ((t.run moves).crowd.isIn room s)) ∧
    ∀ early mv late, moves = early ++ mv :: late →
      (notices room ((t.run early).sent mv o.handle) ≠ [] → ∃ s, mv.actor? = some s ∧ s ≠ o.session) ∧
      ∀ s, s ≠ o.session → (t.run early).crowd.isIn room s = true →
        (t.run (early ++ [mv])).crowd.isIn room s = false →
        mv.actor? = some s ∧ notices room ((t.run early).sent mv o.handle) = [false] := by
  intro t
  have hfresh : Run.Along step Fresh t moves :=
    (Run.along_append.1 (fresh_of_nodup settings now hsessions)).2
  have horderly : ∀ early late, moves = early ++ late → (t.run early).crowd.Orderly := by
    intro early late hmoves
    rw [hmoves, ← List.append_assoc] at hhandles hopen
    rw [← run_append]
    rw [List.filterMap_append] at hhandles
    exact orderly_of_start settings now hhandles.of_append_left (Run.along_append.1 hopen).1
  have hthroughout : Run.Throughout step (fun t => t.crowd.Orderly) t moves := Run.throughout_of_forall horderly
  refine ⟨balance_run hthroughout hfresh hin, fun s hs => turns_run hthroughout hfresh hin hs, ?_⟩
  rintro early mv late rfl
  have hnow := horderly early (mv :: late) rfl
  have hnext := horderly (early ++ [mv]) late (by rw [List.append_assoc, List.singleton_append])
  refine ⟨exists_actor_of_notices hnow hin.at, fun s hs hinside hgone => ?_⟩
  rw [run_snoc] at hnext hgone
  exact notices_of_departure hnow hnext hfresh.at hin.at hs hinside hgone

/-- One session comes, joins once more, goes to another room, leaves twice and comes again, while another comes,
is closed twice and dropped. -/
theorem notices_balance_every_way :
    let join := "\x7b\"event\":\"join\",\"room\":\"r\"\x7d"
    let switch := "\x7b\"event\":\"join\",\"room\":\"q\"\x7d"
    let leave := "\x7b\"event\":\"leave\"\x7d"
    let t := (start .default 0).run [.act (.connect 1 10 7 "ann" none), .act (.connect 2 20 8 "bob" none),
      .act (.connect 3 30 9 "cat" none), .takeUp 1 join, .finish 1]
    let moves : List Move := [.takeUp 2 join, .finish 2, .takeUp 2 join, .takeUp 3 join, .finish 2, .takeUp 2 switch,
      .finish 3, .finish 2, .act (.close 3), .takeUp 2 leave, .takeUp 2 leave, .act (.close 3), .takeUp 2 join,
      .act (.drop 3)]
    notices "r" (arrivals 10 t moves) = [true, false, true, true, false, false, true] ∧
      ((notices "r" (arrivals 10 t moves)).count true : Int) - (notices "r" (arrivals 10 t moves)).count false =
        (t.run moves).crowd.others "r" 1 - t.crowd.others "r" 1 ∧
      TakesTurns (t.crowd.isIn "r" 2) (noticesBy 2 "r" 10 t moves) ((t.run moves).crowd.isIn "r" 2) ∧
      TakesTurns (t.crowd.isIn "r" 3) (noticesBy 3 "r" 10 t moves) ((t.run moves).crowd.isIn "r" 3) := by
  intro join switch leave t moves
  let before : List Move := [.act (.connect 1 10 7 "ann" none), .act (.connect 2 20 8 "bob" none),
    .act (.connect 3 30 9 "cat" none), .takeUp 1 join, .finish 1]
  have hsessions : ((before ++ moves).filterMap Move.connects?).Nodup := by decide +kernel +zetaReduce
  have hhandles : ((before ++ moves).filterMap Move.opens?).Nodup := by decide +kernel +zetaReduce
  have hopen : Run.Along step TakesUpOpen (start .default 0) (before ++ moves) := by decide +kernel +zetaReduce
  have hin : Run.Throughout step (fun t => t.crowd.Listens ⟨1, 7, "ann", 10, none, none, false⟩ "r") t moves := by
    decide +kernel +zetaReduce
  obtain ⟨hbalance, hturns, -⟩ := notices_balance hsessions hhandles hopen hin
  refine ⟨?_, hbalance, hturns 2 (by decide), hturns 3 (by decide)⟩
  decide +kernel +zetaReduce

end Traffic

end DirectChat
