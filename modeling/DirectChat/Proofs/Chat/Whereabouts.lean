import DirectChat.Proofs.Chat.Edges
/-!
# Where a notification is

A notification waits until the store is asked for it, and is then underway until it is sent; or it is given
up, or the store fails. Others come and go before it meanwhile, so its place in the queue changes
(`Whereabouts.next`). Following it from move to move (`Whereabouts.after`), it stands where it is said to
stand (`Whereabouts.holds_next`), and one that was sent was asked for, and then sent, in certain moves
(`exists_lookUp_of_sent`, `exists_sendOut_of_sent`).
-/

namespace DirectChat

/-- Where a notification is. -/
inductive Whereabouts
  /-- At a place among those that wait. -/
  | waiting (n : Nat)
  /-- At a place among those that are underway. -/
  | asked (n : Nat)
  | sent
  | lost
deriving DecidableEq, Repr

/-- The place of what stood at `n` when what stood at `k` is gone. -/
def placeAfter (k n : Nat) : Nat := if k < n then n - 1 else n

theorem getElem?_placeAfter {α : Type} {l : List α} {k n : Nat} (h : n ≠ k) :
    (l.eraseIdx k)[placeAfter k n]? = l[n]? := by
  rw [placeAfter, List.getElem?_eraseIdx]
  split
  · rw [if_neg (by omega), Nat.sub_add_cancel (by omega)]
  · rw [if_pos (by omega)]

/-! ## What waits and what is underway -/

namespace Crowd

/-- What a look at the store for a waiting notification puts underway. -/
theorem lookUp_underway {c : Crowd} {k : Nat} {n : Notification} (h : c.server.pending[k]? = some n) :
    (c.lookUp k).underway =
      match n.concerned c.server.store with
      | .ok users => c.underway ++ [(n, users)]
      | .error _ => c.underway := by
  unfold lookUp
  rw [h]
  dsimp only
  have hstore : (c.onServer fun sv => { sv with pending := sv.pending.eraseIdx k }).server.store = c.server.store := rfl
  rw [hstore]
  split <;> simp_all [onServer]

theorem underway_act (c : Crowd) (s : SessionId) (f : Router → Server → Router × Server) :
    (c.act s f).underway = c.underway := by
  unfold Crowd.act
  split <;> rfl

theorem sendOut_underway (c : Crowd) (k : Nat) : (c.sendOut k).underway = c.underway.eraseIdx k := by
  unfold sendOut
  split
  · rename_i h
    rw [List.eraseIdx_of_length_le (List.getElem?_eq_none_iff.1 h)]
  · rfl

end Crowd

namespace Traffic

variable {t : Traffic} {mv : Move}

theorem step_lookUp (t : Traffic) (k : Nat) : t.step (.act (.lookUp k)) = { t with crowd := t.crowd.lookUp k } :=
  t.step_of_no_actor id rfl

theorem step_sendOut (t : Traffic) (k : Nat) : t.step (.act (.sendOut k)) = { t with crowd := t.crowd.sendOut k } :=
  t.step_of_no_actor id rfl

theorem step_giveUp (t : Traffic) (k : Nat) :
    t.step (.act (.giveUp k)) =
      { t with crowd := t.crowd.onServer fun sv => { sv with pending := sv.pending.eraseIdx k } } :=
  t.step_of_no_actor id rfl

/-- How what is underway can have come to be what it is after a move. -/
inductive UnderwayBecame (t : Traffic) (mv : Move) : List (Notification × List UserId) → Prop
  | same (hmv : ∀ k, mv ≠ .act (.sendOut k)) : UnderwayBecame t mv t.crowd.underway
  | asked (k : Nat) (n : Notification) (users : List UserId) (hmv : mv = .act (.lookUp k))
      (hn : t.crowd.server.pending[k]? = some n) (hok : n.concerned t.crowd.server.store = .ok users) :
    UnderwayBecame t mv (t.crowd.underway ++ [(n, users)])
  | sent (k : Nat) (hmv : mv = .act (.sendOut k)) : UnderwayBecame t mv (t.crowd.underway.eraseIdx k)

theorem underway_step (t : Traffic) (mv : Move) : t.UnderwayBecame mv (t.step mv).crowd.underway := by
  have hcase := t.step_cases mv
  generalize t.step mv = t' at hcase
  cases hcase with
  | act a hparts =>
    cases a with
    | text | enter | sendHistory | announceChat | put => exact absurd trivial hparts
    | connect | kill | receive | store | clock | giveUp => exact .same fun k => by simp
    | welcome s | leave s | close s | drop s => exact t.crowd.underway_act s _ ▸ .same fun k => by simp
    | lookUp k =>
      cases hk : t.crowd.server.pending[k]? with
      | none =>
        simp only [Crowd.step, Crowd.lookUp, hk]
        exact .same fun k => by simp
      | some n =>
        rw [Crowd.step, Crowd.lookUp_underway hk]
        split
        · rename_i users hok
          exact .asked k n users rfl hk hok
        · exact .same fun k => by simp
    | sendOut k => exact t.crowd.sendOut_underway k ▸ .sent k rfl
  | takeUp | finish => exact .same fun k => by simp
  | idle _ hact => exact .same fun k h => hact _ h (t.allows_of_no_actor id rfl)

end Traffic

/-! ## Following one of them -/

namespace Whereabouts

/-- Where a notification is after a move. -/
def next (t : Traffic) : Move → Whereabouts → Whereabouts
  | .act (.lookUp k), .waiting n =>
    if n = k then
      match t.crowd.server.pending[n]? with
      | some notification =>
        match notification.concerned t.crowd.server.store with
        | .ok _ => .asked t.crowd.underway.length
        | .error _ => .lost
      | none => .lost
    else .waiting (placeAfter k n)
  | .act (.giveUp k), .waiting n => if n = k then .lost else .waiting (placeAfter k n)
  | .act (.sendOut k), .asked n => if n = k then .sent else .asked (placeAfter k n)
  | _, w => w

/-- Where a notification is after a sequence of moves. -/
def after : Whereabouts → Traffic → List Move → Whereabouts
  | w, _, [] => w
  | w, t, mv :: moves => (w.next t mv).after (t.step mv) moves

/-- The notification stands where it is said to stand, and those whom it is underway to are as said. -/
def Holds (t : Traffic) (n : Notification) (P : List UserId → Prop) : Whereabouts → Prop
  | .waiting i => t.crowd.server.pending[i]? = some n
  | .asked i => ∃ users, t.crowd.underway[i]? = some (n, users) ∧ P users
  | .sent | .lost => True

variable {t : Traffic} {mv : Move} {moves more : List Move} {n : Notification} {P : List UserId → Prop}

theorem after_append (w : Whereabouts) (t : Traffic) (moves more : List Move) :
    w.after t (moves ++ more) = (w.after t moves).after (t.run moves) more := by
  induction moves generalizing w t with
  | nil => rfl
  | cons mv moves ih => exact ih (w.next t mv) (t.step mv)

theorem next_waiting_of_ne (t : Traffic) (i : Nat) (hmv : ∀ k, mv ≠ .act (.lookUp k) ∧ mv ≠ .act (.giveUp k)) :
    next t mv (.waiting i) = .waiting i := by
  cases mv with
  | act a =>
    cases a with
    | lookUp k => exact absurd rfl (hmv k).1
    | giveUp k => exact absurd rfl (hmv k).2
    | _ => rfl
  | _ => rfl

theorem next_asked_of_ne (t : Traffic) (i : Nat) (hmv : ∀ k, mv ≠ .act (.sendOut k)) :
    next t mv (.asked i) = .asked i := by
  cases mv with
  | act a =>
    cases a with
    | sendOut k => exact absurd rfl (hmv k)
    | _ => rfl
  | _ => rfl

theorem next_sent (t : Traffic) (mv : Move) : next t mv .sent = .sent := by
  cases mv with
  | act a => cases a <;> rfl
  | _ => rfl

theorem next_lost (t : Traffic) (mv : Move) : next t mv .lost = .lost := by
  cases mv with
  | act a => cases a <;> rfl
  | _ => rfl

theorem lost_after (t : Traffic) (moves : List Move) : Whereabouts.lost.after t moves = .lost := by
  induction moves generalizing t with
  | nil => rfl
  | cons mv moves ih => rw [after, next_lost, ih]

theorem holds_lookUp {i : Nat} (h : t.crowd.server.pending[i]? = some n)
    (hasked : ∀ users, n.concerned t.crowd.server.store = .ok users → P users) (k : Nat) :
    (next t (.act (.lookUp k)) (.waiting i)).Holds (t.step (.act (.lookUp k))) n P := by
  rw [t.step_lookUp, next]
  split
  · rename_i hi
    subst hi
    have hunderway := Crowd.lookUp_underway h
    cases hok : n.concerned t.crowd.server.store with
    | error e =>
      simp only [h, hok]
      trivial
    | ok users =>
      rw [hok] at hunderway
      simp only [h, hok]
      exact ⟨users, by rw [hunderway]; exact List.getElem?_concat_length, hasked users hok⟩
  · rename_i hi
    show (t.crowd.lookUp k).server.pending[placeAfter k i]? = some n
    rw [Crowd.lookUp_server, getElem?_placeAfter hi, h]

theorem asked_next (mv : Move) {i : Nat} {x : Notification × List UserId} (h : t.crowd.underway[i]? = some x) :
    next t mv (.asked i) = .sent ∧ mv = .act (.sendOut i) ∨
      ∃ j, next t mv (.asked i) = .asked j ∧ (t.step mv).crowd.underway[j]? = some x := by
  have hunderway := t.underway_step mv
  by_cases hmv : ∀ k, mv ≠ .act (.sendOut k)
  · refine .inr ⟨i, next_asked_of_ne t i hmv, ?_⟩
    have hlt := (List.getElem?_eq_some_iff.1 h).1
    generalize (t.step mv).crowd.underway = underway at hunderway
    cases hunderway with
    | same => exact h
    | asked => exact (List.getElem?_append_left hlt).trans h
    | sent k hk => exact (hmv k hk).elim
  · obtain ⟨k, hk⟩ := not_forall.1 hmv
    obtain rfl := not_not.1 hk
    by_cases hi : i = k
    · exact .inl ⟨by rw [next, if_pos hi], by rw [hi]⟩
    · exact .inr ⟨placeAfter k i, by rw [next, if_neg hi],
        by rw [t.step_sendOut, Crowd.sendOut_underway, getElem?_placeAfter hi, h]⟩

/-- A notification stands where it is said to stand. -/
theorem holds_next (hc : t.crowd.Coupled) (hfresh : t.Fresh mv) {w : Whereabouts} (h : w.Holds t n P)
    (hasked : ∀ users, n.concerned t.crowd.server.store = .ok users → P users) :
    (w.next t mv).Holds (t.step mv) n P := by
  cases w with
  | waiting i =>
    have hannounces := Traffic.announces_step hc hfresh
    by_cases hmv : ∀ k, mv ≠ .act (.lookUp k) ∧ mv ≠ .act (.giveUp k)
    · rw [next_waiting_of_ne t i hmv]
      show (t.step mv).crowd.server.pending[i]? = some n
      have hlt := (List.getElem?_eq_some_iff.1 h).1
      generalize (t.step mv).crowd.server.pending = pending at hannounces
      cases hannounces with
      | turned | hinted => exact (List.getElem?_append_left hlt).trans h
      | taken k hk => exact (hk.elim (hmv k).1 (hmv k).2).elim
      | still => exact h
    · obtain ⟨k, hk⟩ := not_forall.1 hmv
      rcases not_and_or.1 hk with hk | hk <;> obtain rfl := not_not.1 hk
      · exact holds_lookUp h hasked k
      · rw [t.step_giveUp, next]
        split
        · trivial
        · rename_i hi
          exact (getElem?_placeAfter hi).trans h
  | asked i =>
    obtain ⟨users, hin, hP⟩ := h
    rcases asked_next mv hin with ⟨hnext, -⟩ | ⟨j, hnext, hj⟩ <;> rw [hnext]
    · trivial
    · exact ⟨users, hj, hP⟩
  | sent =>
    rw [next_sent]
    trivial
  | lost =>
    rw [next_lost]
    trivial

theorem holds_after (hc : t.crowd.Coupled) (hfresh : Run.Along Traffic.step Traffic.Fresh t moves) {w : Whereabouts}
    (h : w.Holds t n P)
    (hasked : Run.Along Traffic.step (fun t _ => ∀ users, n.concerned t.crowd.server.store = .ok users → P users) t
      moves) :
    (w.after t moves).Holds (t.run moves) n P := by
  induction moves generalizing w t with
  | nil => exact h
  | cons mv moves ih =>
    exact ih (Traffic.coupled_step hc mv) hfresh.2 (holds_next hc hfresh.1 h hasked.1) hasked.2

/-! ## How it got there -/

theorem next_waiting_cases (t : Traffic) (mv : Move) (i : Nat) :
    (∃ j, next t mv (.waiting i) = .waiting j) ∨ next t mv (.waiting i) = .lost ∨
      mv = .act (.lookUp i) ∧ next t mv (.waiting i) = .asked t.crowd.underway.length := by
  by_cases hmv : ∀ k, mv ≠ .act (.lookUp k) ∧ mv ≠ .act (.giveUp k)
  · exact .inl ⟨i, next_waiting_of_ne t i hmv⟩
  · obtain ⟨k, hk⟩ := not_forall.1 hmv
    rcases not_and_or.1 hk with hk | hk <;> obtain rfl := not_not.1 hk <;> rw [next] <;> split
    · rename_i hi
      subst hi
      split
      · split
        · exact .inr (.inr ⟨rfl, rfl⟩)
        · exact .inr (.inl rfl)
      · exact .inr (.inl rfl)
    · exact .inl ⟨_, rfl⟩
    · exact .inr (.inl rfl)
    · exact .inl ⟨_, rfl⟩

/-- A notification that was sent was asked for in one of the moves. -/
theorem exists_lookUp_of_sent {i : Nat} (h : (waiting i).after t moves = .sent) :
    ∃ before k rest, moves = before ++ .act (.lookUp k) :: rest ∧ (waiting i).after t before = .waiting k ∧
      (asked (t.run before).crowd.underway.length).after ((t.run before).step (.act (.lookUp k))) rest = .sent := by
  induction moves generalizing i t with
  | nil => cases h
  | cons mv moves ih =>
    rw [after] at h
    rcases next_waiting_cases t mv i with ⟨j, hj⟩ | hlost | ⟨rfl, hasked⟩
    · rw [hj] at h
      obtain ⟨before, k, rest, rfl, hbefore, hrest⟩ := ih h
      exact ⟨mv :: before, k, rest, rfl, by rw [after, hj, hbefore], hrest⟩
    · rw [hlost, lost_after] at h
      cases h
    · rw [hasked] at h
      exact ⟨[], i, moves, rfl, rfl, h⟩

/-- A notification that was underway and is sent now was sent in one of the moves. -/
theorem exists_sendOut_of_sent {i : Nat} {x : Notification × List UserId} (hx : t.crowd.underway[i]? = some x)
    (h : (asked i).after t moves = .sent) :
    ∃ before k rest, moves = before ++ .act (.sendOut k) :: rest ∧ (asked i).after t before = .asked k ∧
      (t.run before).crowd.underway[k]? = some x := by
  induction moves generalizing i t with
  | nil => cases h
  | cons mv moves ih =>
    rw [after] at h
    rcases asked_next mv hx with ⟨-, rfl⟩ | ⟨j, hnext, hj⟩
    · exact ⟨[], i, moves, rfl, rfl, hx⟩
    · rw [hnext] at h
      obtain ⟨before, k, rest, rfl, hbefore, hk⟩ := ih hj h
      exact ⟨mv :: before, k, rest, rfl, by rw [after, hnext, hbefore], hk⟩

/-- No notification is given up, and the store answers for each that is looked up. -/
def Delivers (t : Traffic) : Move → Prop
  | .act (.giveUp _) => False
  | .act (.lookUp k) => ∀ n ∈ t.crowd.server.pending[k]?, (n.concerned t.crowd.server.store).isOk = true
  | _ => True

instance (t : Traffic) (mv : Move) : Decidable (Delivers t mv) := by
  unfold Delivers
  split <;> infer_instance

theorem Delivers.patient (hd : Delivers t mv) (k : Nat) : mv ≠ .act (.giveUp k) := fun h => by
  subst h
  exact hd

theorem Delivers.found {k : Nat} (hd : Delivers t (.act (.lookUp k))) (h : t.crowd.server.pending[k]? = some n) :
    ∃ users, n.concerned t.crowd.server.store = .ok users := by
  have hok := hd n h
  cases hc : n.concerned t.crowd.server.store with
  | error e =>
    rw [hc] at hok
    cases hok
  | ok users => exact ⟨users, rfl⟩

theorem next_ne_lost (hd : Delivers t mv) {w : Whereabouts} (h : w.Holds t n P) (hw : w ≠ .lost) :
    w.next t mv ≠ .lost := by
  cases w with
  | waiting i =>
    by_cases hmv : ∀ k, mv ≠ .act (.lookUp k)
    · rw [next_waiting_of_ne t i fun k => ⟨hmv k, Delivers.patient hd k⟩]
      exact hw
    · obtain ⟨k, hk⟩ := not_forall.1 hmv
      obtain rfl := not_not.1 hk
      rw [next]
      split
      · rename_i hi
        subst hi
        obtain ⟨users, hok⟩ := Delivers.found hd h
        have hin : t.crowd.server.pending[i]? = some n := h
        simp [hin, hok]
      · exact nofun
  | asked i =>
    obtain ⟨users, hin, -⟩ := h
    rcases asked_next mv hin with ⟨hnext, -⟩ | ⟨j, hnext, -⟩ <;> rw [hnext] <;> exact nofun
  | sent =>
    rw [next_sent]
    exact hw
  | lost => exact absurd rfl hw

/-- What is neither given up nor failed, and is nowhere any more, was sent. -/
theorem sent_of_settled (hc : t.crowd.Coupled) (hfresh : Run.Along Traffic.step Traffic.Fresh t moves)
    (hdelivers : Run.Along Traffic.step Delivers t moves) {w : Whereabouts} (h : w.Holds t n fun _ => True)
    (hw : w ≠ .lost) (hpending : n ∉ (t.run moves).crowd.server.pending)
    (hunderway : ∀ users, (n, users) ∉ (t.run moves).crowd.underway) : w.after t moves = .sent := by
  induction moves generalizing w t with
  | nil =>
    cases w with
    | waiting i => exact absurd (List.mem_of_getElem? h) hpending
    | asked i =>
      obtain ⟨users, hin, -⟩ := h
      exact absurd (List.mem_of_getElem? hin) (hunderway users)
    | sent => rfl
    | lost => exact absurd rfl hw
  | cons mv moves ih =>
    exact ih (Traffic.coupled_step hc mv) hfresh.2 hdelivers.2 (holds_next hc hfresh.1 h fun _ _ => trivial)
      (next_ne_lost hdelivers.1 h hw) hpending hunderway

/-- A notification that waits, and that is delivered by the end, is looked up in one of the moves, and sent
in a later one to those whom the store named. -/
theorem delivered_of_settled (hc : t.crowd.Coupled) (hfresh : Run.Along Traffic.step Traffic.Fresh t moves)
    (hdelivers : Run.Along Traffic.step Delivers t moves) {i : Nat} (hi : t.crowd.server.pending[i]? = some n)
    (hpending : n ∉ (t.run moves).crowd.server.pending)
    (hunderway : ∀ users, (n, users) ∉ (t.run moves).crowd.underway) :
    ∃ before k between j rest users,
      moves = before ++ .act (.lookUp k) :: (between ++ .act (.sendOut j) :: rest) ∧
      (waiting i).after t before = .waiting k ∧ n.concerned (t.run before).crowd.server.store = .ok users ∧
      (asked (t.run before).crowd.underway.length).after ((t.run before).step (.act (.lookUp k))) between = .asked j ∧
      (((t.run before).step (.act (.lookUp k))).run between).crowd.underway[j]? = some (n, users) := by
  have hsent := sent_of_settled hc hfresh hdelivers (w := .waiting i) hi nofun hpending hunderway
  obtain ⟨before, k, tail, rfl, hbefore, hasked⟩ := exists_lookUp_of_sent hsent
  have hk : (t.run before).crowd.server.pending[k]? = some n := by
    have hholds := holds_after hc (Run.along_append.1 hfresh).1 (w := .waiting i) (P := fun _ => True) hi
      (Run.along_of_forall fun _ _ _ _ _ _ => trivial)
    rwa [hbefore] at hholds
  obtain ⟨users, hok⟩ := Delivers.found hdelivers.at hk
  have hin : ((t.run before).step (.act (.lookUp k))).crowd.underway[(t.run before).crowd.underway.length]? =
      some (n, users) := by
    have hok' : n.concerned (t.run before).crowd.server.store = .ok users := hok
    rw [Traffic.step_lookUp, Crowd.lookUp_underway hk, hok']
    exact List.getElem?_concat_length
  obtain ⟨between, j, rest, rfl, hbetween, hj⟩ := exists_sendOut_of_sent hin hasked
  exact ⟨before, k, between, j, rest, users, rfl, hbefore, hok, hbetween, hj⟩

end Whereabouts

end DirectChat
