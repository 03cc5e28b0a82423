import Mathlib.Data.List.Basic
import Mathlib.Data.List.Induction
/-!
# Runs

A run carries out one thing after the other. What is said of it here holds for any kind of state and any
kind of thing that can happen: a property of every step with the state in which it is taken (`Along`), or
of some step (`Sometime`), a property of every state from the first to the last (`Throughout`), and all
that the steps put out, in order (`output`). Each is recursive along the run, and each can be asked at any
place of it (`Along.at`, `sometime_iff`, `Throughout.at`, `output_append`).
-/

namespace DirectChat.Run

variable {σ α β : Type} (step : σ → α → σ)

/-- A property of every step of a run, in the state in which the step is taken. -/
def Along (P : σ → α → Prop) : σ → List α → Prop
  | _, [] => True
  | s, a :: as => P s a ∧ Along P (step s a) as

/-- A property of some step of a run, in the state in which the step is taken. -/
def Sometime (P : σ → α → Prop) : σ → List α → Prop
  | _, [] => False
  | s, a :: as => P s a ∨ Sometime P (step s a) as

/-- A property of every state of a run, from the first to the last. -/
def Throughout (P : σ → Prop) : σ → List α → Prop
  | s, [] => P s
  | s, a :: as => P s ∧ Throughout P (step s a) as

/-- What the steps of a run put out, in order. -/
def output (out : σ → α → List β) : σ → List α → List β
  | _, [] => []
  | s, a :: as => out s a ++ output out (step s a) as

instance decidableAlong (P : σ → α → Prop) [∀ s a, Decidable (P s a)] :
    (s : σ) → (as : List α) → Decidable (Along step P s as)
  | _, [] => inferInstanceAs (Decidable True)
  | s, a :: as =>
    have := decidableAlong P (step s a) as
    inferInstanceAs (Decidable (P s a ∧ Along step P (step s a) as))

instance decidableSometime (P : σ → α → Prop) [∀ s a, Decidable (P s a)] :
    (s : σ) → (as : List α) → Decidable (Sometime step P s as)
  | _, [] => inferInstanceAs (Decidable False)
  | s, a :: as =>
    have := decidableSometime P (step s a) as
    inferInstanceAs (Decidable (P s a ∨ Sometime step P (step s a) as))

instance decidableThroughout (P : σ → Prop) [DecidablePred P] :
    (s : σ) → (as : List α) → Decidable (Throughout step P s as)
  | s, [] => inferInstanceAs (Decidable (P s))
  | s, a :: as =>
    have := decidableThroughout P (step s a) as
    inferInstanceAs (Decidable (P s ∧ Throughout step P (step s a) as))

variable {step} {P Q : σ → α → Prop} {R : σ → Prop} {out : σ → α → List β} {s : σ} {a : α} {as bs : List α}

theorem along_append : Along step P s (as ++ bs) ↔ Along step P s as ∧ Along step P (as.foldl step s) bs := by
  induction as generalizing s with
  | nil => simp [Along]
  | cons a as ih => simp only [List.cons_append, Along, List.foldl_cons, ih, and_assoc]

theorem along_snoc : Along step P s (as ++ [a]) ↔ Along step P s as ∧ P (as.foldl step s) a := by
  simp [along_append, Along]

theorem Along.at (h : Along step P s (as ++ a :: bs)) : P (as.foldl step s) a := (along_append.1 h).2.1

theorem along_of_forall (h : ∀ before a after, as = before ++ a :: after → P (before.foldl step s) a) :
    Along step P s as := by
  induction as generalizing s with
  | nil => trivial
  | cons a as ih =>
    refine ⟨h [] a as rfl, ih fun before b after has => ?_⟩
    exact h (a :: before) b after (by rw [has, List.cons_append])

theorem sometime_append :
    Sometime step P s (as ++ bs) ↔ Sometime step P s as ∨ Sometime step P (as.foldl step s) bs := by
  induction as generalizing s with
  | nil => simp [Sometime]
  | cons a as ih => simp only [List.cons_append, Sometime, List.foldl_cons, ih, or_assoc]

theorem sometime_snoc : Sometime step P s (as ++ [a]) ↔ Sometime step P s as ∨ P (as.foldl step s) a := by
  simp [sometime_append, Sometime]

theorem sometime_iff :
    Sometime step P s as ↔ ∃ before a after, as = before ++ a :: after ∧ P (before.foldl step s) a := by
  constructor
  · intro h
    induction as generalizing s with
    | nil => exact h.elim
    | cons a as ih =>
      rcases h with h | h
      · exact ⟨[], a, as, rfl, h⟩
      · obtain ⟨before, b, after, rfl, hb⟩ := ih h
        exact ⟨a :: before, b, after, rfl, hb⟩
  · rintro ⟨before, a, after, rfl, h⟩
    exact sometime_append.2 (.inr (.inl h))

theorem throughout_append :
    Throughout step R s (as ++ a :: bs) ↔ Throughout step R s as ∧ Throughout step R (step (as.foldl step s) a) bs := by
  induction as generalizing s with
  | nil => simp [Throughout]
  | cons b as ih => simp only [List.cons_append, Throughout, List.foldl_cons, ih, and_assoc]

theorem throughout_snoc :
    Throughout step R s (as ++ [a]) ↔ Throughout step R s as ∧ R (step (as.foldl step s) a) := throughout_append

theorem Throughout.head (h : Throughout step R s as) : R s := by
  cases as with
  | nil => exact h
  | cons a as => exact h.1

theorem Throughout.last (h : Throughout step R s as) : R (as.foldl step s) := by
  induction as generalizing s with
  | nil => exact h
  | cons a as ih => exact ih h.2

theorem Throughout.drop (h : Throughout step R s (as ++ bs)) : Throughout step R (as.foldl step s) bs := by
  induction as generalizing s with
  | nil => exact h
  | cons a as ih => exact ih h.2

theorem Throughout.at (h : Throughout step R s (as ++ bs)) : R (as.foldl step s) := h.drop.head

theorem throughout_of_forall (h : ∀ before after, as = before ++ after → R (before.foldl step s)) :
    Throughout step R s as := by
  induction as generalizing s with
  | nil => exact h [] [] rfl
  | cons a as ih =>
    refine ⟨h [] (a :: as) rfl, ih fun before after has => ?_⟩
    exact h (a :: before) after (by rw [has, List.cons_append])

variable (step) in
/-- What can be so or not so stays as it was at first, or changes at some step for the last time. -/
theorem exists_last_change (b : σ → Bool) (s : σ) (as : List α) :
    Throughout step (fun x => b x = b s) s as ∨
      ∃ before a after, as = before ++ a :: after ∧
        b (before.foldl step s) = !b (step (before.foldl step s) a) ∧
        Throughout step (fun x => b x = b (step (before.foldl step s) a)) (step (before.foldl step s) a) after := by
  induction as using List.reverseRecOn with
  | nil => exact .inl rfl
  | append_singleton as a ih =>
    by_cases hsame : b (step (as.foldl step s) a) = b (as.foldl step s)
    · rcases ih with hnever | ⟨before, c, after, rfl, hchange, hlasts⟩
      · exact .inl (throughout_snoc.2 ⟨hnever, hsame.trans hnever.last⟩)
      · refine .inr ⟨before, c, after ++ [a], by rw [List.append_assoc, List.cons_append], hchange, ?_⟩
        rw [List.foldl_append, List.foldl_cons] at hsame
        exact throughout_snoc.2 ⟨hlasts, hsame.trans hlasts.last⟩
    · refine .inr ⟨as, a, [], rfl, ?_, rfl⟩
      revert hsame
      cases b (as.foldl step s) <;> cases b (step (as.foldl step s) a) <;> simp

theorem output_append :
    output step out s (as ++ bs) = output step out s as ++ output step out (as.foldl step s) bs := by
  induction as generalizing s with
  | nil => rfl
  | cons a as ih => simp only [List.cons_append, output, List.foldl_cons, ih, List.append_assoc]

theorem mem_output {b : β} :
    b ∈ output step out s as ↔ ∃ before a after, as = before ++ a :: after ∧ b ∈ out (before.foldl step s) a := by
  induction as generalizing s with
  | nil => simp [output]
  | cons a as ih =>
    rw [output, List.mem_append, ih]
    constructor
    · rintro (hb | ⟨before, a', after, rfl, hb⟩)
      · exact ⟨[], a, as, rfl, hb⟩
      · exact ⟨a :: before, a', after, rfl, hb⟩
    · rintro ⟨before, a', after, has, hb⟩
      cases before with
      | nil =>
        obtain ⟨rfl, rfl⟩ := List.cons.inj has
        exact .inl hb
      | cons c before =>
        obtain ⟨rfl, rfl⟩ := List.cons.inj has
        exact .inr ⟨before, a', after, rfl, hb⟩

theorem filterMap_output {γ : Type} (f : β → Option γ) :
    (output step out s as).filterMap f = output step (fun s a => (out s a).filterMap f) s as := by
  induction as generalizing s with
  | nil => rfl
  | cons a as ih => rw [output, List.filterMap_append, ih, output]

/-- A relation holds between what is put out earlier and later when it holds within each step, and between what a step
puts out and what any later one does. -/
theorem pairwise_output {R : β → β → Prop}
    (hwithin : ∀ before a after, as = before ++ a :: after → (out (before.foldl step s) a).Pairwise R)
    (hacross : ∀ before a between b after, as = before ++ a :: (between ++ b :: after) →
      ∀ x ∈ out (before.foldl step s) a, ∀ y ∈ out ((before ++ a :: between).foldl step s) b, R x y) :
    (output step out s as).Pairwise R := by
  induction as generalizing s with
  | nil => exact .nil
  | cons a as ih =>
    rw [output, List.pairwise_append]
    refine ⟨hwithin [] a as rfl, ih (fun before b after has => ?_) fun before b between c after has => ?_,
      fun x hx y hy => ?_⟩
    · exact hwithin (a :: before) b after (by rw [has, List.cons_append])
    · exact hacross (a :: before) b between c after (by rw [has, List.cons_append])
    · obtain ⟨between, b, after, rfl, hb⟩ := mem_output.1 hy
      exact hacross [] a between b after rfl x hx y hb

end DirectChat.Run
