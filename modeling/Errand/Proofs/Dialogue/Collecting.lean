import Errand.Proofs.Dialogue.Play

/-!
# What a partner hands over

Some answers are worth keeping. `Partner.collecting` is a partner together with
a list of what it has handed over so far: an answer that is worth something
adds to the list at the moment it is given. An act that is broken off before
its end hands over nothing, and being watched in this way changes nothing else.

A dialogue `Enters` what it is handed if it enters each thing into the log
before anything else happens, and enters nothing else of that kind. Then the
log and the list cannot differ, wherever the run ends: whatever comes next, be
it trouble, a breakdown or the deadline, comes behind the entry.

## Main results

* `play_collecting`: the run of a dialogue with a partner that is watched is
  its run with the partner.
* `Enters.play`: the list grows by what the run enters.
-/

namespace Errand

variable {Q σ τ ε α β γ : Type} {A : Q → Type}

/-! ## Watching a partner -/

/-- The act together with a list, to which it adds what its answer is worth. -/
def Act.collecting (worth : α → Option γ) (kept : List γ) :
    Act σ α → Act (σ × List γ) α
  | .finish reply s =>
  .finish reply (s, kept ++ (reply.value?.bind worth).toList)
  | .wait s d next => .wait (s, kept) d (next.collecting worth kept)

/-- The partner together with a list of what it has handed over, in order. -/
def Partner.collecting (p : Partner A σ) (worth : (q : Q) → A q → Option γ) :
    Partner A (σ × List γ) where
  perform q now s := (p.perform q now s.1).collecting (worth q) s.2

/-- Only an act that comes to its end adds to the list. -/
theorem Act.settle_collecting (worth : α → Option γ) (kept : List γ)
    (act : Act σ α) (deadline : Option Time) (now : Time) :
    (act.collecting worth kept).settle deadline now =
      ⟨(act.settle deadline now).reply, (act.settle deadline now).now,
        ((act.settle deadline now).state, kept ++
          (((act.settle deadline now).reply.bind Reply.value?).bind
            worth).toList)⟩ := by
  induction act generalizing now with
  | finish reply s => rfl
  | wait s d next ih =>
      by_cases hPast : isPast deadline (now + d) = true
      · simp [collecting, settle, hPast]
      · simp only [collecting, settle, hPast, if_false, Bool.false_eq_true]
        exact ih (now + d)

/-- The run with its state seen as a part of another one. -/
def Run.mapState (f : σ → τ) (r : Run Q σ ε α) : Run Q τ ε α :=
  ⟨r.ending, r.now, f r.state, r.trace⟩

namespace Dialogue

/-- **Being watched changes nothing.** -/
theorem play_collecting (p : Partner A σ) (worth : (q : Q) → A q → Option γ)
    (deadline : Option Time) (d : Dialogue A ε α) (now : Time) (s : σ)
    (kept : List γ) :
    (d.play (p.collecting worth) deadline now (s, kept)).mapState Prod.fst =
      d.play p deadline now s := by
  induction d generalizing now s kept with
  | done a => rfl
  | fail t => rfl
  | ask q next ih =>
      have hSettled :=
        (p.perform q now s).settle_collecting (worth q) kept deadline now
      rw [play_ask, play_ask]
      simp only [Partner.collecting, hSettled]
      rcases (p.perform q now s).settle deadline now with ⟨reply, now', s'⟩
      rcases reply with _ | r | _
      · rfl
      · exact congrArg (Run.preceded [.asked now q]) (ih r now' s' _)
      · rfl
  | pause d next ih =>
      by_cases hPast : isPast deadline (now + d) = true
      · simp only [play, hPast, if_true, Run.mapState]
      · simp only [play, hPast, if_false, Bool.false_eq_true]
        exact ih (now + d) s kept
  | clock next ih => exact ih now now s kept
  | note e next ih => exact congrArg (Run.preceded [.noted e]) (ih now s kept)

/-! ## Entering what is handed over -/

/-- What the dialogue is handed it enters at once, and it enters nothing else
of that kind; `owed` is what it has been handed and has still to enter. -/
def Enters (worth : (q : Q) → A q → Option γ) (shown : ε → Option γ) :
    (owed : Option γ) → Dialogue A ε α → Prop
  | owed, .done _ => owed = none
  | owed, .fail _ => owed = none
  | owed, .ask q next =>
  owed = none ∧ ∀ r, (next r).Enters worth shown
    ((Reply.answer r).value?.bind (worth q))
  | owed, .pause _ next => owed = none ∧ next.Enters worth shown none
  | owed, .clock next => owed = none ∧ ∀ t, (next t).Enters worth shown none
  | owed, .note e next => shown e = owed ∧ next.Enters worth shown none

namespace Enters

variable {worth : (q : Q) → A q → Option γ} {shown : ε → Option γ}

theorem bind {owed : Option γ} {d : Dialogue A ε α} {k : α → Dialogue A ε β}
    (hd : d.Enters worth shown owed) (hk : ∀ a, (k a).Enters worth shown none) :
    (d.bind k).Enters worth shown owed := by
  induction d generalizing owed with
  | done a =>
      have hOwed : owed = none := hd
      rw [hOwed]
      exact hk a
  | fail t => exact hd
  | ask q next ih => exact ⟨hd.1, fun r => ih r (hd.2 r)⟩
  | pause d next ih => exact ⟨hd.1, ih hd.2⟩
  | clock next ih => exact ⟨hd.1, fun t => ih t (hd.2 t)⟩
  | note e next ih => exact ⟨hd.1, ih hd.2⟩

theorem attempt {owed : Option γ} {d : Dialogue A ε α}
    (hd : d.Enters worth shown owed) : d.attempt.Enters worth shown owed := by
  induction d generalizing owed with
  | done a => exact hd
  | fail t => exact hd
  | ask q next ih => exact ⟨hd.1, fun r => ih r (hd.2 r)⟩
  | pause d next ih => exact ⟨hd.1, ih hd.2⟩
  | clock next ih => exact ⟨hd.1, fun t => ih t (hd.2 t)⟩
  | note e next ih => exact ⟨hd.1, ih hd.2⟩

/-- A dialogue that asks for nothing of worth and enters nothing of that kind
has nothing to enter. -/
theorem of_confined {d : Dialogue A ε α}
    (hd : d.Confined (fun q => ∀ a, worth q a = none)
      (fun e => shown e = none)) : d.Enters worth shown none := by
  induction d with
  | done a => rfl
  | fail t => rfl
  | ask q next ih =>
      refine ⟨rfl, fun r => ?_⟩
      have hNothing : (Reply.answer r).value?.bind (worth q) = none := by
        cases r with
        | ok a => exact hd.1 a
        | error t => rfl
      rw [hNothing]
      exact ih r (hd.2 r)
  | pause d next ih => exact ⟨rfl, ih hd⟩
  | clock next ih => exact ⟨rfl, fun t => ih t (hd t)⟩
  | note e next ih => exact ⟨hd.1, ih hd.2⟩

/-- **The list grows by what the run enters**, wherever the run ends. What is
owed is on the list already. -/
theorem play {owed : Option γ} {d : Dialogue A ε α}
    (hd : d.Enters worth shown owed) (p : Partner A σ) (deadline : Option Time)
    (now : Time) (s : σ) (kept : List γ) :
    (d.play (p.collecting worth) deadline now
      (s, kept ++ owed.toList)).state.2 =
      kept ++ (d.play p deadline now s).entries.filterMap shown := by
  induction d generalizing owed now s kept with
  | done a =>
      have hOwed : owed = none := hd
      rw [hOwed]
      rfl
  | fail t =>
      have hOwed : owed = none := hd
      rw [hOwed]
      rfl
  | ask q next ih =>
      obtain ⟨rfl, hNext⟩ := hd
      have hSettled :=
        (p.perform q now s).settle_collecting (worth q) kept deadline now
      rw [play_ask, play_ask, Option.toList_none, List.append_nil]
      simp only [Partner.collecting, hSettled]
      rcases (p.perform q now s).settle deadline now with ⟨reply, now', s'⟩
      rcases reply with _ | r | _
      · simp [Run.entries]
      · exact ih r (hNext r) now' s' kept
      · simp [Run.entries, Reply.value?]
  | pause d next ih =>
      obtain ⟨rfl, hNext⟩ := hd
      by_cases hPast : isPast deadline (now + d) = true
      · simp [Dialogue.play, hPast, Run.entries]
      · simp only [Dialogue.play, hPast, if_false, Bool.false_eq_true]
        exact ih hNext (now + d) s kept
  | clock next ih =>
      obtain ⟨rfl, hNext⟩ := hd
      exact ih now (hNext now) now s kept
  | note e next ih =>
      obtain ⟨rfl, hNext⟩ := hd
      have hRest := ih hNext now s (kept ++ (shown e).toList)
      rw [Option.toList_none, List.append_nil, List.append_assoc] at hRest
      refine hRest.trans ?_
      rw [Run.entries_eq, Run.entries_eq]
      show _ = kept ++ List.filterMap shown (e :: _)
      rw [List.filterMap_cons]
      cases shown e <;> rfl

end Enters

end Dialogue

end Errand
