import DirectChat.Socket.Connection
import Mathlib.Data.List.Basic
/-!
# What a heartbeat has done

The pings that a heartbeat sends, the pongs that come in and the close that it asks for, each with its time, are the
course of a connection. Where the heartbeat stands is decided by the course (`Heartbeat.Fits`), however the pings and
the pongs come (`Pulse.Fits.step`): as long as it rests, it has kept the pongs that came beyond the pings; while it
waits, the last thing was a ping; and when it has stopped, the last ping was not answered in time, unless the connection
was lost before.

So whether a silent client is sent a close is a matter of the pongs that came before the ping
(`Heartbeat.Fits.close_iff`), and a client that answers in time is not (`Heartbeat.Fits.not_closed`).
-/

namespace DirectChat

/-- What passes between a heartbeat and its client. -/
inductive Mark
  | ping
  | pong
  | close
deriving DecidableEq, Repr

/-- What has passed between a heartbeat and its client, each with its time, oldest first. -/
abbrev Course := List (Nat × Mark)

namespace Course

/-- The number of pings. -/
def pings (l : Course) : Nat := l.countP (·.2 = .ping)

/-- The number of pongs. -/
def pongs (l : Course) : Nat := l.countP (·.2 = .pong)

/-- A close was asked for. -/
def Closed (l : Course) : Prop := ∃ t, (t, .close) ∈ l

instance (l : Course) : Decidable l.Closed :=
  decidable_of_iff (∃ m ∈ l, m.2 = .close)
    ⟨fun ⟨⟨t, _⟩, hm, h⟩ => ⟨t, h ▸ hm⟩, fun ⟨t, ht⟩ => ⟨(t, .close), ht, rfl⟩⟩

@[simp] theorem pings_append (l l' : Course) : pings (l ++ l') = pings l + pings l' := List.countP_append ..

@[simp] theorem pongs_append (l l' : Course) : pongs (l ++ l') = pongs l + pongs l' := List.countP_append ..

@[simp] theorem pings_nil : pings [] = 0 := rfl

@[simp] theorem pongs_nil : pongs [] = 0 := rfl

@[simp] theorem pings_cons (t : Nat) (m : Mark) (l : Course) :
    pings ((t, m) :: l) = pings l + if m = .ping then 1 else 0 := by
  simp [pings, List.countP_cons]

@[simp] theorem pongs_cons (t : Nat) (m : Mark) (l : Course) :
    pongs ((t, m) :: l) = pongs l + if m = .pong then 1 else 0 := by
  simp [pongs, List.countP_cons]

@[simp] theorem closed_append (l l' : Course) : Closed (l ++ l') ↔ Closed l ∨ Closed l' := by
  simp only [Closed, List.mem_append, exists_or]

@[simp] theorem closed_cons (t : Nat) (m : Mark) (l : Course) : Closed ((t, m) :: l) ↔ m = .close ∨ Closed l := by
  simp [Closed, exists_or, eq_comm]

@[simp] theorem not_closed_nil : ¬ Closed [] := by
  simp [Closed]

theorem pongs_eq_zero {l : Course} (h : ∀ m ∈ l, m.2 ≠ .pong) : pongs l = 0 :=
  List.countP_eq_zero.2 fun m hm => by simpa using h m hm

end Course

open Course

/-- A ping was sent more than ten seconds ago, and no pong came since. -/
structure Silent (now : Nat) (l before : Course) (sent : Nat) (after : Course) : Prop where
  ping : l = before ++ (sent, .ping) :: after
  silent : ∀ m ∈ after, m.2 ≠ .pong
  overdue : sent + pongTimeout < now

/-- Each ping was answered by a pong in less than ten seconds, or there is still time to. -/
def Answered (now : Nat) (l : Course) : Prop :=
  ∀ before sent after, l = before ++ (sent, .ping) :: after →
    now < sent + pongTimeout ∨ ∃ t, (t, .pong) ∈ after ∧ t < sent + pongTimeout

/-- The last ping was not answered in time, so that a close was asked for. -/
structure TimedOut (now : Nat) (l before : Course) (sent : Nat) (after : Course) : Prop where
  course : l = before ++ (sent, .ping) :: (sent + pongTimeout, .close) :: after
  even : pongs before = pings before
  unclosed : ¬ Closed before
  /-- What comes after that are pongs that come too late. -/
  late : ∀ m ∈ after, m.2 = .pong ∧ sent + pongTimeout ≤ m.1
  past : sent + pongTimeout ≤ now

/-- Where a heartbeat can stand after a course. -/
def Heartbeat.Fits (now : Nat) (l : Course) (lost : Prop) : Heartbeat → Prop
  | .resting next kept => pongs l = pings l + kept ∧ ¬ Closed l ∧ now ≤ next
  | .waiting next deadline => ∃ before sent, l = before ++ [(sent, .ping)] ∧ pongs before = pings before ∧
      ¬ Closed before ∧ deadline = sent + pongTimeout ∧ now ≤ deadline ∧ deadline ≤ next
  | .stopped => (∃ before sent after, TimedOut now l before sent after) ∨ ¬ Closed l ∧ lost

/-- What of a connection its heartbeat depends on. -/
structure Pulse where
  heartbeat : Heartbeat
  /-- Whether the read loop is over. -/
  ended : Bool
  /-- Whether anybody receives what is sent. -/
  heard : Bool

/-- The mark that a beat leaves. -/
def Beat.mark : Beat → Mark
  | .ping => .ping
  | .close => .close

/-- What can become of a connection at a time, with the marks that it leaves. -/
inductive Pulse.Goes (now : Nat) : Option Pulse → List Mark → Option Pulse → Prop
  | absent : Goes now none [] none
  | starts : Goes now none [] (some ⟨.start now, false, true⟩)
  | stays (p : Pulse) (heard : Bool) (h : heard = true → p.heard = true) : Goes now (some p) [] (some { p with heard })
  | pong (p : Pulse) : Goes now (some p) [.pong] (some { p with heartbeat := p.heartbeat.pong })
  | ends (p : Pulse) : Goes now (some p) [] (some ⟨.stopped, true, false⟩)
  | beats (p : Pulse) (b : Beat) (hdue : p.heartbeat.due? = some now) (hb : p.heartbeat.beat.2 = some b) :
    Goes now (some p) [b.mark] (some { p with heartbeat := p.heartbeat.beat.1 })
  /-- Nobody receives any more, so that the heartbeat stops. -/
  | fails (p : Pulse) (hheard : p.heard = false) : Goes now (some p) [] (some { p with heartbeat := .stopped })

/-- What can be so of a connection after a course. -/
def Pulse.Fits (now : Nat) (l : Course) : Option Pulse → Prop
  | none => l = []
  | some p => p.heartbeat.Fits now l (p.ended = true ∨ p.heard = false)

variable {now : Nat} {l before after : Course} {sent : Nat} {lost lost' : Prop} {b : Heartbeat}

namespace Heartbeat

/-- A heartbeat that is due asks for something. -/
theorem exists_asked (hdue : b.due? = some now) : ∃ asked, b.beat.2 = some asked := by
  cases b with
  | resting next kept => cases kept <;> exact ⟨.ping, rfl⟩
  | waiting next deadline => exact ⟨.close, rfl⟩
  | stopped => cases hdue

theorem Fits.mono (h : b.Fits now l lost) (hlost : lost → lost') : b.Fits now l lost' := by
  cases b with
  | resting | waiting => exact h
  | stopped => exact h.imp_right fun h => ⟨h.1, hlost h.2⟩

/-- A heartbeat that has not stopped has not asked for a close. -/
theorem Fits.stop (h : b.Fits now l lost) (hlost : lost') : Heartbeat.stopped.Fits now l lost' := by
  cases b with
  | resting next kept => exact .inr ⟨h.2.1, hlost⟩
  | waiting next deadline =>
    obtain ⟨before, sent, rfl, -, hopen, -⟩ := h
    exact .inr ⟨by simp [hopen], hlost⟩
  | stopped => exact h.imp_right fun h => ⟨h.1, hlost⟩

theorem Fits.pong (h : b.Fits now l lost) : b.pong.Fits now (l ++ [(now, .pong)]) lost := by
  cases b with
  | resting next kept =>
    obtain ⟨hpongs, hopen, hnext⟩ := h
    refine ⟨?_, by simp [hopen], hnext⟩
    simp [hpongs, Nat.add_assoc]
  | waiting next deadline =>
    obtain ⟨before, sent, rfl, heven, hopen, -, hnow, hnext⟩ := h
    refine ⟨?_, by simp [hopen], Nat.le_trans hnow hnext⟩
    simp [heven]
  | stopped =>
    rcases h with ⟨before, sent, after, h⟩ | ⟨hopen, hlost⟩
    · refine .inl ⟨before, sent, after ++ [(now, .pong)], ?_, h.even, h.unclosed, fun m hm => ?_, h.past⟩
      · rw [h.course, List.append_assoc, List.cons_append, List.cons_append]
      · rcases List.mem_append.1 hm with hm | hm
        · exact h.late m hm
        · rw [List.mem_singleton.1 hm]
          exact ⟨rfl, h.past⟩
    · exact .inr ⟨by simp [hopen], hlost⟩

theorem Fits.beat (h : b.Fits now l lost) (hdue : b.due? = some now) {asked : Beat} (hasked : b.beat.2 = some asked) :
    b.beat.1.Fits now (l ++ [(now, asked.mark)]) lost := by
  cases b with
  | resting next kept =>
    obtain ⟨hpongs, hopen, -⟩ := h
    obtain rfl : next = now := Option.some.inj hdue
    cases kept with
    | zero =>
      cases hasked
      exact ⟨l, next, rfl, hpongs, hopen, rfl, Nat.le_add_right _ _, Nat.add_le_add_left (by decide) _⟩
    | succ kept =>
      cases hasked
      refine ⟨?_, by simp [hopen, Beat.mark], Nat.le_add_right _ _⟩
      simp [hpongs, Beat.mark]
      omega
  | waiting next deadline =>
    obtain ⟨before, sent, rfl, heven, hopen, hdeadline, -⟩ := h
    obtain rfl : deadline = now := Option.some.inj hdue
    cases hasked
    refine .inl ⟨before, sent, [], ?_, heven, hopen, nofun, Nat.le_of_eq hdeadline.symm⟩
    rw [hdeadline, List.append_assoc]
    rfl
  | stopped => cases hdue

theorem Fits.later (h : b.Fits now l lost) {millis : Nat} (hdue : ∀ t ∈ b.due?, now + millis ≤ t) :
    b.Fits (now + millis) l lost := by
  cases b with
  | resting next kept => exact ⟨h.1, h.2.1, hdue next rfl⟩
  | waiting next deadline =>
    obtain ⟨before, sent, hl, heven, hopen, hdeadline, -, hnext⟩ := h
    exact ⟨before, sent, hl, heven, hopen, hdeadline, hdue deadline rfl, hnext⟩
  | stopped =>
    refine h.imp_left fun ⟨before, sent, after, h⟩ => ⟨before, sent, after, h.course, h.even, h.unclosed, h.late, ?_⟩
    exact Nat.le_trans h.past (Nat.le_add_right now millis)

end Heartbeat

theorem Pulse.Fits.step {p q : Option Pulse} {ms : List Mark} (h : Pulse.Fits now l p) (hgoes : Pulse.Goes now p ms q) :
    Pulse.Fits now (l ++ ms.map (now, ·)) q := by
  cases hgoes with
  | absent => exact h ▸ rfl
  | starts =>
    obtain rfl : l = [] := h
    exact ⟨rfl, by simp, by simp⟩
  | stays p heard hheard =>
    rw [List.map_nil, List.append_nil]
    refine Heartbeat.Fits.mono h fun hlost => hlost.imp_right fun hdeaf => ?_
    exact Bool.eq_false_iff.2 fun hon => by rw [hheard hon] at hdeaf; cases hdeaf
  | pong p => exact Heartbeat.Fits.pong h
  | ends p =>
    rw [List.map_nil, List.append_nil]
    exact Heartbeat.Fits.stop h (.inl rfl)
  | beats p b hdue hb => exact Heartbeat.Fits.beat h hdue hb
  | fails p hheard =>
    rw [List.map_nil, List.append_nil]
    exact Heartbeat.Fits.stop h (.inr hheard)

/-- Time that does not pass the heartbeat by changes nothing. -/
theorem Pulse.Fits.later {p : Option Pulse} (h : Pulse.Fits now l p) {millis : Nat}
    (hdue : ∀ q ∈ p, ∀ t ∈ q.heartbeat.due?, now + millis ≤ t) : Pulse.Fits (now + millis) l p := by
  cases p with
  | none => exact h
  | some p => exact Heartbeat.Fits.later h (hdue p rfl)

/-! ## What follows for the client -/

/-- A ping is the one that was not answered in time, or came before it. -/
theorem TimedOut.place {before₀ after₀ : Course} {sent₀ : Nat} (h : TimedOut now l before₀ sent₀ after₀)
    (hl : l = before ++ (sent, .ping) :: after) :
    (before = before₀ ∧ sent = sent₀ ∧ after = (sent₀ + pongTimeout, .close) :: after₀) ∨
      ∃ between, before₀ = before ++ (sent, .ping) :: between ∧
        after = between ++ (sent₀, .ping) :: (sent₀ + pongTimeout, .close) :: after₀ := by
  rw [h.course] at hl
  rcases List.append_eq_append_iff.1 hl with ⟨between, hbefore, hrest⟩ | ⟨between, hbefore, hrest⟩
  · cases between with
    | nil =>
      cases hrest
      exact .inl ⟨hbefore.trans (List.append_nil _), rfl, rfl⟩
    | cons m between =>
      -- What comes after the ping that was not answered are a close and pongs.
      rw [List.cons_append, List.cons.injEq] at hrest
      cases between with
      | nil => cases hrest.2
      | cons m' between =>
        have hafter := (List.cons.inj hrest.2).2
        have hlate := (h.late (sent, .ping) (by rw [hafter]; simp)).1
        cases hlate
  · cases between with
    | nil =>
      cases hrest
      exact .inl ⟨(hbefore.trans (List.append_nil _)).symm, rfl, rfl⟩
    | cons m between =>
      obtain ⟨rfl, rfl⟩ := List.cons.inj hrest
      exact .inr ⟨between, hbefore, rfl⟩

namespace Heartbeat

/-- As long as a connection is there, a silent client is sent a close, ten seconds after the ping, unless a pong had
been kept for it. -/
theorem Fits.close_iff (h : b.Fits now l lost) (hthere : ¬ lost) (hsilent : Silent now l before sent after) :
    after.head? = some (sent + pongTimeout, .close) ↔ pongs before ≤ pings before := by
  have hpongs : pongs after = 0 := pongs_eq_zero hsilent.silent
  have hclosed : ∀ {t}, after.head? = some (t, .close) → Closed l := fun {t} hhead => by
    refine ⟨t, hsilent.ping ▸ List.mem_append_right _ (List.mem_cons_of_mem _ (List.mem_of_head? hhead))⟩
  cases b with
  | resting next kept =>
    obtain ⟨heven, hopen, -⟩ := h
    refine iff_of_false (fun hhead => hopen (hclosed hhead)) ?_
    simp [hsilent.ping, hpongs] at heven
    omega
  | waiting next deadline =>
    obtain ⟨before₀, sent₀, hl, heven, hopen, hdeadline, hnow, -⟩ := h
    have hover := hsilent.overdue
    have hplace := hsilent.ping
    rw [hl] at hplace
    rcases List.eq_nil_or_concat' after with rfl | ⟨between, last, rfl⟩
    · -- The last ping is not overdue.
      have hlast : (sent₀, Mark.ping) = (sent, Mark.ping) := by simpa using (List.append_inj' hplace rfl).2
      cases hlast
      omega
    · rw [← List.cons_append, ← List.append_assoc] at hplace
      obtain ⟨hbefore, hlast⟩ := List.append_inj' hplace rfl
      refine iff_of_false (fun hhead => ?_) ?_
      · have hlater := hclosed hhead
        simp [hl, hopen] at hlater
      · simp at hpongs
        simp [hbefore, hpongs] at heven
        omega
  | stopped =>
    rcases h with ⟨before₀, sent₀, after₀, h⟩ | ⟨-, hlost⟩
    · have heven := h.even
      rcases h.place hsilent.ping with ⟨rfl, rfl, rfl⟩ | ⟨between, hbefore, rfl⟩
      · exact iff_of_true rfl (Nat.le_of_eq heven)
      · refine iff_of_false (fun hhead => h.unclosed ?_) ?_
        · cases between with
          | nil => cases hhead
          | cons m between => exact ⟨_, by rw [hbefore, ← Option.some.inj hhead]; simp⟩
        · simp only [pongs_append] at hpongs
          simp [hbefore] at heven
          omega
    · exact absurd hlost hthere

/-- A client that answers in time is not sent a close. -/
theorem Fits.not_closed (h : b.Fits now l lost) (hanswered : Answered now l) : ¬ Closed l := by
  cases b with
  | resting next kept => exact h.2.1
  | waiting next deadline =>
    obtain ⟨before, sent, rfl, -, hopen, -⟩ := h
    simp [hopen]
  | stopped =>
    rcases h with ⟨before, sent, after, h⟩ | ⟨hopen, -⟩
    · -- The answer would have come after the close, and so too late.
      rcases hanswered before sent _ h.course with hnow | ⟨t, ht, hbefore⟩
      · exact absurd h.past (by omega)
      · rcases List.mem_cons.1 ht with heq | hin
        · cases heq
        · exact absurd (h.late _ hin).2 (by dsimp only; omega)
    · exact hopen

end Heartbeat

end DirectChat
