import Errand.Proofs.Dialogue.Play

/-!
# How long a run takes

Time passes in a run only where its dialogue pauses and where its partner lets
an act wait. This file bounds it from both sides: no run goes back in time, and
none goes beyond its deadline.

A partner `Answers` if none of its acts breaks down, and it answers `AtOnce` if
none of them takes any time either. Without a deadline nothing is broken off,
so a dialogue with a partner that answers ends by itself, with a value or with
trouble.

## Main results

* `Dialogue.play_within`: a run that begins before its deadline ends between
  the two.
* `Dialogue.ending_ne_breakdown`, `Dialogue.concludes_of_answers`: with a
  partner that answers, no run breaks down, and without a deadline every
  dialogue ends by itself.
* `Partner.AtOnce.settle`: a question to a partner that answers at once is
  settled without a wait.
-/

namespace Errand

variable {Q σ ε α β : Type} {A : Q → Type}

/-! ## Partners that answer -/

/-- The act ends with an answer, be it a value or trouble. -/
def Act.Answers : Act σ α → Prop
  | .finish (.answer _) _ => True
  | .finish .breakdown _ => False
  | .wait _ _ next => next.Answers

/-- The act ends with an answer, and takes no time. -/
def Act.AtOnce : Act σ α → Prop
  | .finish (.answer _) _ => True
  | .finish .breakdown _ => False
  | .wait _ d next => d = 0 ∧ next.AtOnce

/-- The partner never breaks down. -/
def Partner.Answers (p : Partner A σ) : Prop :=
  ∀ q now s, (p.perform q now s).Answers

/-- The partner never breaks down, and it never takes any time. -/
def Partner.AtOnce (p : Partner A σ) : Prop :=
  ∀ q now s, (p.perform q now s).AtOnce

theorem Act.AtOnce.answers {act : Act σ α} (h : act.AtOnce) : act.Answers := by
  induction act with
  | finish reply s =>
      cases reply with
      | answer r => trivial
      | breakdown => exact h.elim
  | wait s d next ih => exact ih h.2

theorem Partner.AtOnce.answers {p : Partner A σ} (h : p.AtOnce) : p.Answers :=
  fun q now s => (h q now s).answers

/-- An act that answers is settled by its answer, or it is broken off. -/
theorem Act.Answers.settle_ne_breakdown {act : Act σ α} (h : act.Answers)
    (deadline : Option Time) (now : Time) :
    (act.settle deadline now).reply ≠ some .breakdown := by
  induction act generalizing now with
  | finish reply s =>
      cases reply with
      | answer r =>
          intro hReply
          cases hReply
      | breakdown => exact h.elim
  | wait s d next ih =>
      by_cases hPast : isPast deadline (now + d) = true
      · simp only [Act.settle, hPast, if_true]
        intro hReply
        cases hReply
      · simp only [Act.settle, hPast, if_false, Bool.false_eq_true]
        exact ih h (now + d)

/-- Without a deadline an act that answers is settled by its answer. -/
theorem Act.Answers.settle_none {act : Act σ α} (h : act.Answers) (now : Time) :
    ∃ r now' s', act.settle none now = ⟨some (.answer r), now', s'⟩ := by
  obtain ⟨reply, now', s', hSettled⟩ := act.exists_settle_none now
  cases reply with
  | answer r => exact ⟨r, now', s', hSettled⟩
  | breakdown =>
      have hReply := h.settle_ne_breakdown none now
      rw [hSettled] at hReply
      exact absurd rfl hReply

/-- An act that answers at once is settled by the same answer under every
deadline. -/
theorem Act.AtOnce.settle {act : Act σ α} (h : act.AtOnce) (now : Time) :
    ∃ r s', ∀ deadline, isPast deadline now = false →
      act.settle deadline now = ⟨some (.answer r), now, s'⟩ := by
  induction act with
  | finish reply s =>
      cases reply with
      | answer r => exact ⟨r, s, fun _ _ => rfl⟩
      | breakdown => exact h.elim
  | wait s d next ih =>
      obtain ⟨rfl, hNext⟩ := h
      obtain ⟨r, s', hSettle⟩ := ih hNext
      refine ⟨r, s', fun deadline hNow => ?_⟩
      rw [← hSettle deadline hNow]
      show (if isPast deadline (now + 0) then _ else _) = _
      rw [Nat.add_zero, hNow]
      rfl

/-- A question to a partner that answers at once is settled without a wait,
whatever the deadline. -/
theorem Partner.AtOnce.settle {p : Partner A σ} (h : p.AtOnce) (q : Q)
    {deadline : Option Time} {now : Time}
    (hNow : isPast deadline now = false) (s : σ) :
    ∃ r s', (p.perform q now s).settle deadline now =
      ⟨some (.answer r), now, s'⟩ := by
  obtain ⟨r, s', hSettle⟩ := (h q now s).settle now
  exact ⟨r, s', hSettle deadline hNow⟩

/-! ## The course of time -/

theorem isPast_some (deadline t : Time) :
    isPast (some deadline) t = decide (deadline < t) :=
  rfl

theorem not_past_none (t : Time) : isPast none t = false := rfl

/-- Time that is cut off at the deadline stays within it. -/
theorem within_of_past {deadline : Option Time} {now later : Time}
    (hNow : isPast deadline now = false)
    (hLater : isPast deadline later = true) :
    now ≤ deadline.getD now ∧ isPast deadline (deadline.getD now) = false := by
  cases deadline with
  | none =>
      exact absurd hLater (by rw [not_past_none]; exact Bool.false_ne_true)
  | some d =>
      rw [isPast_some, decide_eq_false_iff_not] at hNow
      exact ⟨Nat.le_of_not_lt hNow, decide_eq_false (Nat.lt_irrefl d)⟩

/-- An act that begins within the deadline ends within it. -/
theorem Act.settle_within (act : Act σ α) {deadline : Option Time} {now : Time}
    (hNow : isPast deadline now = false) :
    now ≤ (act.settle deadline now).now ∧
    isPast deadline (act.settle deadline now).now = false := by
  induction act generalizing now with
  | finish reply s => exact ⟨Nat.le_refl now, hNow⟩
  | wait s d next ih =>
      by_cases hPast : isPast deadline (now + d) = true
      · simp only [Act.settle, hPast, if_true]
        exact within_of_past hNow hPast
      · have hLater : isPast deadline (now + d) = false :=
          Bool.eq_false_iff.mpr hPast
        simp only [Act.settle, hLater, if_false, Bool.false_eq_true]
        obtain ⟨hLe, hEnd⟩ := ih hLater
        exact ⟨Nat.le_trans (Nat.le_add_right now d) hLe, hEnd⟩

namespace Dialogue

/-- **A run does not go back in time, and it does not go beyond its
deadline.** -/
theorem play_within (p : Partner A σ) {deadline : Option Time}
    (d : Dialogue A ε α) {now : Time}
    (hNow : isPast deadline now = false) (s : σ) :
    now ≤ (d.play p deadline now s).now ∧
    isPast deadline (d.play p deadline now s).now = false := by
  induction d generalizing now s with
  | done a => exact ⟨Nat.le_refl now, hNow⟩
  | fail t => exact ⟨Nat.le_refl now, hNow⟩
  | ask q next ih =>
      have hWithin := (p.perform q now s).settle_within hNow
      rcases hSettled : (p.perform q now s).settle deadline now
        with ⟨reply, now', s'⟩
      rw [hSettled] at hWithin
      rw [play_ask, hSettled]
      rcases reply with _ | r | _
      · exact hWithin
      · obtain ⟨hLe, hEnd⟩ := ih r hWithin.2 s'
        exact ⟨Nat.le_trans hWithin.1 hLe, hEnd⟩
      · exact hWithin
  | pause d next ih =>
      by_cases hPast : isPast deadline (now + d) = true
      · simp only [play, hPast, if_true]
        exact within_of_past hNow hPast
      · have hLater : isPast deadline (now + d) = false :=
          Bool.eq_false_iff.mpr hPast
        simp only [play, hLater, if_false, Bool.false_eq_true]
        obtain ⟨hLe, hEnd⟩ := ih hLater s
        exact ⟨Nat.le_trans (Nat.le_add_right now d) hLe, hEnd⟩
  | clock next ih => exact ih now hNow s
  | note e next ih => exact ih hNow s

/-- A partner that answers does not break down in the course of a run. -/
theorem ending_ne_breakdown {p : Partner A σ} (hp : p.Answers)
    (deadline : Option Time) (d : Dialogue A ε α) (now : Time) (s : σ) :
    (d.play p deadline now s).ending ≠ .breakdown := by
  induction d generalizing now s with
  | done a =>
      intro hEnd
      cases hEnd
  | fail t =>
      intro hEnd
      cases hEnd
  | ask q next ih =>
      have hSettle := (hp q now s).settle_ne_breakdown deadline now
      rcases hSettled : (p.perform q now s).settle deadline now
        with ⟨reply, now', s'⟩
      rw [hSettled] at hSettle
      rw [play_ask, hSettled]
      rcases reply with _ | r | _
      · intro hEnd
        cases hEnd
      · exact ih r now' s'
      · exact absurd rfl hSettle
  | pause d next ih =>
      by_cases hPast : isPast deadline (now + d) = true
      · simp only [play, hPast, if_true]
        intro hEnd
        cases hEnd
      · simp only [play, hPast, if_false, Bool.false_eq_true]
        exact ih (now + d) s
  | clock next ih => exact ih now now s
  | note e next ih => exact ih now s

/-- Without a deadline, and with a partner that answers, a dialogue ends by
itself. -/
theorem concludes_of_answers {p : Partner A σ} (hp : p.Answers)
    (d : Dialogue A ε α) (now : Time) (s : σ) :
    (∃ a, (d.play p none now s).ending = .done a) ∨
    ∃ t, (d.play p none now s).ending = .failed t := by
  induction d generalizing now s with
  | done a => exact .inl ⟨a, rfl⟩
  | fail t => exact .inr ⟨t, rfl⟩
  | ask q next ih =>
      obtain ⟨r, now', s', hSettled⟩ := (hp q now s).settle_none now
      rw [play_ask, hSettled]
      exact ih r now' s'
  | pause d next ih => exact ih (now + d) s
  | clock next ih => exact ih now now s
  | note e next ih => exact ih now s

end Dialogue

/-- A run that ended by itself answers as an act. -/
theorem Run.act_answers {r : Run Q σ ε α} (start : Time)
    (h : (∃ a, r.ending = .done a) ∨ ∃ t, r.ending = .failed t) :
    (r.act start).Answers := by
  unfold Run.act Run.reply
  rcases h with ⟨a, hEnd⟩ | ⟨t, hEnd⟩ <;> simp only [hEnd] <;> trivial

end Errand
