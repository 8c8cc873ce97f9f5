import Errand.Proofs.Dialogue.Timing
import Errand.Session.Waiting

/-!
# Waits end when their time is over

A wait is written with a bound on its rounds, so that it is a finite dialogue.
The bound is never what ends it. Every round but the last pauses for the poll
interval; if that takes time at all, the deadline has come before the rounds
are used up, whatever the partner answers and however long it takes. So a wait
that is allowed more rounds has the same run, and a wait ends with success or
at its deadline.

## Main results

* `play_pollUntil_succ`: one round more makes no difference, once the rounds
  reach the deadline.
* `play_awaitFound_add`: the rounds of a wait do reach its deadline.
-/

namespace Errand

/-- Two continuations that agree behind the value of a run are the same behind
the run. -/
theorem Run.andThen_congr {Q σ ε α β : Type} {r : Run Q σ ε α}
    {k k' : α → Time → σ → Run Q σ ε β}
    (h : ∀ a, r.ending = .done a → k a r.now r.state = k' a r.now r.state) :
    r.andThen k = r.andThen k' := by
  unfold Run.andThen
  cases hEnd : r.ending with
  | done a => simp only [h a hEnd]
  | failed t => rfl
  | cutOff => rfl
  | breakdown => rfl

namespace Dialogue

variable {Q : Type} {A : Q → Type} {σ ε α μ : Type} (p : Partner A σ)
  {limit : Option Time} (look : μ → Dialogue A ε (α ⊕ μ))
  (timedOut : μ → Trouble) {poll : Duration} {deadline : Time}

/-- Behind the deadline it makes no difference what would be done before it. -/
theorem play_unlessPast_of_le {again again' : μ → Dialogue A ε α}
    (found : α ⊕ μ) {now : Time} (hDue : deadline ≤ now) (s : σ) :
    (unlessPast deadline timedOut again found).play p limit now s =
      (unlessPast deadline timedOut again' found).play p limit now s := by
  cases found with
  | inl a => rfl
  | inr m => simp only [unlessPast, play, hDue, if_true]

/-- **One round more makes no difference**, once the pauses of the rounds reach
the deadline. The induction is on the rounds: every pause brings the deadline
nearer by as much as it takes a round from what is left. -/
theorem play_pollUntil_succ (rounds : Nat) (m : μ) {now : Time}
    (hNow : isPast limit now = false)
    (hReach : deadline ≤ now + rounds * poll) (s : σ) :
    (pollUntil look timedOut poll deadline (rounds + 1) m).play p limit now s =
      (pollUntil look timedOut poll deadline rounds m).play p limit now s := by
  induction rounds generalizing m now s with
  | zero =>
      rw [pollUntil, pollUntil, play_bind, play_bind]
      refine Run.andThen_congr fun found _ => ?_
      have hLater := (play_within p (look m) hNow s).1
      rw [Nat.zero_mul, Nat.add_zero] at hReach
      exact play_unlessPast_of_le p timedOut found
        (Nat.le_trans hReach hLater) _
  | succ rounds ih =>
      rw [pollUntil, play_bind]
      conv => rhs; rw [pollUntil, play_bind]
      refine Run.andThen_congr fun found _ => ?_
      obtain ⟨hLater, hWithin⟩ := play_within p (look m) hNow s
      generalize (look m).play p limit now s = r at hLater hWithin
      by_cases hDue : deadline ≤ r.now
      · exact play_unlessPast_of_le p timedOut found hDue r.state
      · cases found with
        | inl a => rfl
        | inr m' =>
            have hLeft : deadline ≤ r.now + poll + rounds * poll :=
              calc deadline ≤ now + (rounds + 1) * poll := hReach
                _ ≤ r.now + (rounds + 1) * poll := Nat.add_le_add_right hLater _
                _ = r.now + poll + rounds * poll := by
                  rw [Nat.succ_mul, Nat.add_comm (rounds * poll), Nat.add_assoc]
            simp only [unlessPast, play, hDue, if_false]
            by_cases hPast : isPast limit (r.now + poll) = true
            · simp only [hPast, if_true]
            · simp only [hPast, if_false, Bool.false_eq_true]
              exact ih m' (Bool.eq_false_iff.mpr hPast) hLeft r.state

/-- The rounds of a wait reach its time limit. -/
theorem le_rounds_mul (hPoll : 0 < poll) (timeLimit : Duration) :
    timeLimit ≤ rounds timeLimit poll * poll := by
  have hLt := Nat.lt_mul_div_succ timeLimit hPoll
  rw [Nat.mul_comm] at hLt
  unfold rounds
  rw [Nat.max_eq_left hPoll]
  exact Nat.le_of_lt hLt

/-- **The bound on the rounds of a wait is never what ends it**: with any
number of rounds more the wait has the same run. -/
theorem play_awaitFound_add (hPoll : 0 < poll) (timeLimit : Duration) (m : μ)
    (extra : Nat) {now : Time} (hNow : isPast limit now = false) (s : σ) :
    (Dialogue.clock fun start =>
        pollUntil look timedOut poll (start + timeLimit)
          (rounds timeLimit poll + extra) m).play
        p limit now s =
      (awaitFound look timedOut timeLimit poll m).play p limit now s := by
  show (pollUntil look timedOut poll (now + timeLimit)
        (rounds timeLimit poll + extra) m).play
      p limit now s = (pollUntil look timedOut poll (now + timeLimit)
        (rounds timeLimit poll) m).play
      p limit now s
  induction extra with
  | zero => rfl
  | succ extra ih =>
      rw [← ih]
      have hReach : timeLimit ≤ (rounds timeLimit poll + extra) * poll :=
        Nat.le_trans (le_rounds_mul hPoll timeLimit)
          (Nat.mul_le_mul_right poll (Nat.le_add_right _ extra))
      exact play_pollUntil_succ p look timedOut _ m hNow
        (Nat.add_le_add_left hReach now) s

end Dialogue

end Errand
