import DirectChat.Proofs.Run
import DirectChat.Proofs.Session.Refinement
import Mathlib.Data.List.Chain
/-!
# Coming online and going offline

An edge of a user is a registration that tells it is the user's first session, or the end of a session
that tells it was the last. As long as no live session is registered again, an edge is told exactly
when the number of the user's sessions leaves or reaches zero (`edge?_eq_true_iff`,
`edge?_eq_false_iff`). So the edges of a run alternate, and the last one says whether the user is
online (`edges_snoc`, `presence_edges`).
-/

namespace DirectChat

/-! ## The number of a user's sessions -/

namespace Roster

theorem countSessions_eq (t : Roster) (user : UserId) :
    t.countSessions user = t.entries.countP fun e => e.2.user = user := List.countP_map ..

theorem isOnline_iff_pos (t : Roster) (user : UserId) : t.isOnline user = true ↔ 0 < t.countSessions user := by
  rw [isOnline, countSessions, List.any_eq_true, List.countP_pos_iff]

/-- Whether a change registers only what is not live. -/
def Fresh (t : Roster) : SessionChange → Prop
  | .register s .. => t.get? s = none
  | _ => True

instance (t : Roster) (c : SessionChange) : Decidable (t.Fresh c) := by
  cases c <;> unfold Fresh <;> infer_instance

theorem countSessions_register (t : Roster) {s : SessionId} (hs : t.get? s = none) (owner user : UserId)
    (username : String) (handle : Handle) :
    (t.change (.register s owner username handle)).countSessions user =
      t.countSessions user + if owner = user then 1 else 0 := by
  rw [countSessions_eq, countSessions_eq, (t.entries_perm_erase hs).countP_eq, change, Table.insert, List.countP_cons]
  simp

theorem countSessions_unregister (t : Roster) (s : SessionId) (user : UserId) :
    t.countSessions user =
      (t.change (.unregister s)).countSessions user + if t.userOf s = some user then 1 else 0 := by
  rw [countSessions_eq, countSessions_eq, change, userOf]
  cases hs : t.get? s with
  | none => simp [(t.entries_perm_erase hs).countP_eq]
  | some e => simp [(t.entries_perm_insert hs).countP_eq, List.countP_cons]

theorem countSessions_modify (t : Roster) (s : SessionId) {g : SessionEntry → SessionEntry}
    (hg : ∀ e, (g e).user = e.user) (user : UserId) :
    Roster.countSessions (t.modify s g) user = t.countSessions user := by
  rw [countSessions_eq, countSessions_eq, Table.modify, Table.mapValues, List.countP_map]
  refine List.countP_congr fun e _ => ?_
  by_cases he : e.1 = s <;> simp [he, hg]

theorem countSessions_join (t : Roster) (room : RoomId) (s : SessionId) (user : UserId) :
    (t.change (.join room s)).countSessions user = t.countSessions user :=
  t.countSessions_modify s (g := fun e => e.joined room) (fun _ => rfl) user

theorem countSessions_leave (t : Roster) (room : RoomId) (s : SessionId) (user : UserId) :
    (t.change (.leave room s)).countSessions user = t.countSessions user := by
  refine t.countSessions_modify s (fun e => ?_) user
  unfold SessionEntry.left
  split <;> rfl

/-- One change makes a difference of at most one session. -/
theorem countSessions_change (t : Roster) {c : SessionChange} (hc : t.Fresh c) (user : UserId) :
    (t.change c).countSessions user ≤ t.countSessions user + 1 ∧
      t.countSessions user ≤ (t.change c).countSessions user + 1 := by
  cases c with
  | register s owner username handle =>
    rw [t.countSessions_register hc owner user username handle]
    split <;> omega
  | unregister s =>
    have h := t.countSessions_unregister s user
    split at h <;> omega
  | join room s => rw [t.countSessions_join]; omega
  | leave room s => rw [t.countSessions_leave]; omega

end Roster

/-! ## Edges -/

namespace Registry

/-- The edge of a user that a change tells of: `true` when they come online, `false` when they go
offline. -/
def edge? (r : Registry) (user : UserId) : SessionChange → Option Bool
  | .register s owner username handle =>
    if owner = user ∧ (r.register s owner username handle).2 = true then some true else none
  | .unregister s =>
    if (r.sessions.get? s).map (·.user) = some user ∧ (r.unregister s).2 = true then some false else none
  | .join .. | .leave .. => none

/-- The edges of a user in a sequence of changes, since the registry was empty. -/
def edges (user : UserId) (cs : List SessionChange) : List Bool :=
  Run.output change (fun r c => (r.edge? user c).toList) .empty cs

/-- Coming online and going offline take turns. Everyone begins offline. -/
def Alternates (edges : List Bool) : Prop := (false :: edges).IsChain (· ≠ ·)

variable {r : Registry} {t : Roster}

theorem register_snd_iff_count (h : r.Shows t.get?) (s : SessionId) (user : UserId) (username : String)
    (handle : Handle) :
    (r.register s user username handle).2 = true ↔
      (t.change (.register s user username handle)).countSessions user = 1 := by
  rw [← (shows_change h (.register s user username handle)).countSessions]
  exact beq_iff_eq

theorem unregister_snd_iff_count (h : r.Shows t.get?) (s : SessionId) :
    (r.unregister s).2 = true ↔
      ∃ user, t.userOf s = some user ∧ (t.change (.unregister s)).countSessions user = 0 := by
  have hr := shows_change h (.unregister s)
  have hstep : ∀ user, (r.change (.unregister s)).isOnline user = false ↔
      (t.change (.unregister s)).countSessions user = 0 := fun user => by
    rw [hr.isOnline, ← Bool.not_eq_true, Roster.isOnline_iff_pos, Nat.pos_iff_ne_zero, not_not]
  obtain ⟨-, howner⟩ := h.remove s
  rw [Roster.userOf, ← howner]
  simp only [← hstep, change, unregister]
  cases hrem : r.remove s with
  | mk r' owner => cases owner <;> simp

theorem edge?_eq_true_iff (h : r.Shows t.get?) {c : SessionChange} (hc : t.Fresh c) (user : UserId) :
    r.edge? user c = some true ↔ t.countSessions user = 0 ∧ (t.change c).countSessions user = 1 := by
  cases c with
  | register s owner username handle =>
    have hcount := t.countSessions_register hc owner user username handle
    have hsnd := register_snd_iff_count h s owner username handle
    by_cases ho : owner = user
    · subst ho
      simp only [edge?, true_and, hsnd, if_true] at hcount ⊢
      split <;> simp <;> omega
    · simp only [edge?, ho, false_and, if_false] at hcount ⊢
      simp; omega
  | unregister s =>
    have hcount := t.countSessions_unregister s user
    simp only [edge?]
    split <;> simp <;> omega
  | join room s => simp [edge?, t.countSessions_join]; omega
  | leave room s => simp [edge?, t.countSessions_leave]; omega

theorem edge?_eq_false_iff (h : r.Shows t.get?) {c : SessionChange} (hc : t.Fresh c) (user : UserId) :
    r.edge? user c = some false ↔ t.countSessions user = 1 ∧ (t.change c).countSessions user = 0 := by
  cases c with
  | register s owner username handle =>
    have hcount := t.countSessions_register hc owner user username handle
    simp only [edge?]
    split <;> simp <;> omega
  | unregister s =>
    have hcount := t.countSessions_unregister s user
    have hsnd := unregister_snd_iff_count h s
    have howner : (r.sessions.get? s).map (·.user) = t.userOf s := by rw [h.entry, Roster.userOf]
    by_cases ho : t.userOf s = some user
    · simp only [edge?, howner, ho, true_and, hsnd, Option.some.injEq, exists_eq_left', if_true] at hcount ⊢
      split <;> simp <;> omega
    · simp only [edge?, howner, ho, false_and, if_false] at hcount ⊢
      simp; omega
  | join room s => simp [edge?, t.countSessions_join]; omega
  | leave room s => simp [edge?, t.countSessions_leave]; omega

/-! ## Runs -/

/-- Every registration in a sequence of changes is of what is not live at that moment. -/
def RegistersFresh (t : Roster) (cs : List SessionChange) : Prop := Run.Along Roster.change Roster.Fresh t cs

instance (t : Roster) (cs : List SessionChange) : Decidable (RegistersFresh t cs) :=
  inferInstanceAs (Decidable (Run.Along Roster.change Roster.Fresh t cs))

theorem edges_snoc (user : UserId) (cs : List SessionChange) (c : SessionChange) :
    edges user (cs ++ [c]) = edges user cs ++ ((after cs).edge? user c).toList := by
  rw [edges, Run.output_append]
  exact congrArg _ (List.append_nil _)

theorem roster_after_snoc (cs : List SessionChange) (c : SessionChange) :
    Roster.after (cs ++ [c]) = (Roster.after cs).change c := by
  simp [Roster.after]

theorem alternates_snoc (l : List Bool) (b : Bool) :
    Alternates (l ++ [b]) ↔ Alternates l ∧ l.getLast?.getD false ≠ b := by
  rw [Alternates, ← List.cons_append, List.isChain_append, Alternates, List.getLast?_cons]
  simp

/-- The edges alternate, and the last one is whether the user is online. -/
theorem edges_alternate {cs : List SessionChange} (hcs : RegistersFresh .empty cs) (user : UserId) :
    Alternates (edges user cs) ∧
      (edges user cs).getLast?.getD false = decide (0 < (Roster.after cs).countSessions user) := by
  induction cs using List.reverseRecOn with
  | nil => exact ⟨List.IsChain.singleton _, by simp [edges, Run.output, Roster.after, Roster.countSessions_eq, Table.empty]⟩
  | append_singleton cs c ih =>
    obtain ⟨hcs, hc⟩ := Run.along_snoc.1 hcs
    obtain ⟨halt, hlast⟩ := ih hcs
    have h := shows_after cs
    have hup := edge?_eq_true_iff h hc user
    have hdown := edge?_eq_false_iff h hc user
    have hdiff := (Roster.after cs).countSessions_change hc user
    rw [edges_snoc, roster_after_snoc]
    cases he : (after cs).edge? user c with
    | none =>
      simp only [he, reduceCtorEq, false_iff, not_and] at hup hdown
      have hsame : 0 < ((Roster.after cs).change c).countSessions user ↔ 0 < (Roster.after cs).countSessions user := by
        omega
      simpa [hsame] using And.intro halt hlast
    | some online =>
      have hturn : (edges user cs).getLast?.getD false ≠ online ∧
          online = decide (0 < ((Roster.after cs).change c).countSessions user) := by
        cases online with
        | true =>
          obtain ⟨hzero, hone⟩ := hup.1 he
          simp [hlast, hzero, hone]
        | false =>
          obtain ⟨hone, hzero⟩ := hdown.1 he
          simp [hlast, hzero, hone]
      rw [Option.toList_some, alternates_snoc, List.getLast?_concat]
      exact ⟨⟨halt, hturn.1⟩, hturn.2⟩

theorem edges_last {cs : List SessionChange} (hcs : RegistersFresh .empty cs) (user : UserId) :
    (after cs).isOnline user = true ↔ (edges user cs).getLast? = some true := by
  have hlast := (edges_alternate hcs user).2
  rw [(shows_after cs).isOnline, Roster.isOnline_iff_pos]
  cases he : (edges user cs).getLast? with
  | none => simpa [he] using hlast
  | some online => simpa [he] using (congrArg (· = true) hlast).symm

/-- **Edges are the moments at which a user's last session goes or first session comes.** In a run that
registers only what is not live, the edges of every user alternate, beginning with coming online. A
change is an edge exactly when it takes the number of the user's sessions from zero to one or from one
to zero, and at every moment the user is online when their last edge says so. Ending what is not live
changes nothing, and nobody comes or goes by joining or leaving a room. -/
theorem presence_edges {cs : List SessionChange} (hcs : RegistersFresh .empty cs) (user : UserId) :
    Alternates (edges user cs) ∧
    ∀ before after', before ++ after' = cs →
      ((after before).isOnline user = true ↔ (edges user before).getLast? = some true) ∧
      (∀ c, after'.head? = some c →
        ((after before).edge? user c = some true ↔
          (Roster.after before).countSessions user = 0 ∧ (Roster.after (before ++ [c])).countSessions user = 1) ∧
        ((after before).edge? user c = some false ↔
          (Roster.after before).countSessions user = 1 ∧ (Roster.after (before ++ [c])).countSessions user = 0)) ∧
      (∀ s, (Roster.after before).get? s = none → (after before).unregister s = (after before, false)) ∧
      (∀ s, ((after before).unregister s).1.unregister s = (((after before).unregister s).1, false)) ∧
      (∀ room s, ((after before).join room s).isOnline user = (after before).isOnline user ∧
        ((after before).leave room s).isOnline user = (after before).isOnline user) := by
  refine ⟨(edges_alternate hcs user).1, ?_⟩
  rintro before after' rfl
  obtain ⟨hbefore, hafter⟩ := Run.along_append.1 hcs
  have h := shows_after before
  refine ⟨edges_last hbefore user, fun c hc => ?_, fun s hs => h.unregister_of_none hs, fun s => ?_, fun room s => ?_⟩
  · obtain ⟨rest, rfl⟩ := List.head?_eq_some_iff.1 hc
    rw [roster_after_snoc]
    exact ⟨edge?_eq_true_iff h hafter.1 user, edge?_eq_false_iff h hafter.1 user⟩
  · exact (h.unregister s).unregister_of_none (Function.update_self ..)
  · have hcount : ∀ c, (∀ u, ((Roster.after before).change c).countSessions u = (Roster.after before).countSessions u) →
        ((after before).change c).isOnline user = (after before).isOnline user := fun c hc => by
      rw [(shows_change h c).isOnline, h.isOnline, Bool.eq_iff_iff, Roster.isOnline_iff_pos, Roster.isOnline_iff_pos, hc]
    exact ⟨hcount (.join room s) (Roster.countSessions_join _ room s),
      hcount (.leave room s) (Roster.countSessions_leave _ room s)⟩

/-- A user with two sessions, one of which comes back after it was ended. -/
def returning : List SessionChange :=
  [.register 1 7 "ann" 1, .register 2 7 "ann" 2, .join "hall" 1, .unregister 1, .register 3 8 "bob" 3,
    .leave "hall" 2, .unregister 2, .unregister 2, .register 1 7 "ann" 4]

theorem presence_edges_returning :
    RegistersFresh .empty returning ∧ edges 7 returning = [true, false, true] ∧ Alternates (edges 7 returning) :=
  ⟨by decide, by decide, (presence_edges (by decide) 7).1⟩

end Registry

end DirectChat
