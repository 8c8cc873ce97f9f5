import Errand.Proofs.Dialogue.Timing

/-!
# What a deadline does to a run

A dialogue never looks at its deadline. All that an earlier one can do is to
break the run off at some wait that goes beyond it, and until that wait the run
is the same question by question. So of two runs that differ in their deadlines
only, the one with the earlier deadline is either the same run or ends at its
deadline with a part of the other's trace.

The entries of a trace carry no times. `Dialogue.stamped` is the dialogue that
notes with each entry what the clock says; otherwise it is played as the
dialogue is. What holds of every dialogue, as the above does, so also holds of
the times at which entries are made.

## Main results

* `play_earlier`: an earlier deadline cuts the run short or makes no difference.
* `play_of_ne_cutOff`: a deadline that does not cut a run off makes no
  difference.
* `play_of_inTime`: nor does one that does not come before the end of the run.
* `play_stamped`: without the times the stamped dialogue has the run of the
  dialogue.
-/

namespace Errand

variable {Q σ ε δ α : Type} {A : Q → Type}

/-! ## Earlier deadlines -/

theorem not_past_of_earlier {early late t : Time} (hLe : early ≤ late)
    (h : isPast (some early) t = false) : isPast (some late) t = false := by
  rw [isPast_some, decide_eq_false_iff_not] at h ⊢
  exact fun hLate => h (Nat.lt_of_le_of_lt hLe hLate)

/-- An act is settled by an earlier deadline as by a later one, or it is broken
off at the earlier. -/
theorem Act.settle_earlier (act : Act σ α) {early late : Time}
    (hLe : early ≤ late) (now : Time) :
    act.settle (some early) now = act.settle (some late) now ∨
      ∃ s, act.settle (some early) now = ⟨none, early, s⟩ := by
  induction act generalizing now with
  | finish reply s => exact .inl rfl
  | wait s d next ih =>
      by_cases hPast : isPast (some early) (now + d) = true
      · refine .inr ⟨s, ?_⟩
        simp only [Act.settle, hPast, if_true, Option.getD_some]
      · have hLater : isPast (some late) (now + d) = false :=
          not_past_of_earlier hLe (Bool.eq_false_iff.mpr hPast)
        simp only [Act.settle, hPast, hLater, if_false, Bool.false_eq_true]
        exact ih (now + d)

/-- An act that is not broken off is settled as it is without a deadline. -/
theorem Act.settle_of_ne_none (act : Act σ α) {deadline : Option Time}
    {now : Time} (h : (act.settle deadline now).reply ≠ none) :
    act.settle deadline now = act.settle none now := by
  induction act generalizing now with
  | finish reply s => rfl
  | wait s d next ih =>
      by_cases hPast : isPast deadline (now + d) = true
      · simp only [Act.settle, hPast, if_true] at h
        exact absurd rfl h
      · simp only [Act.settle, hPast, if_false, Bool.false_eq_true] at h ⊢
        exact ih h

/-- Time that is not past the deadline, nor is any time before it. -/
theorem not_past_of_le {deadline : Option Time} {t later : Time}
    (hLe : t ≤ later) (h : isPast deadline later = false) :
    isPast deadline t = false := by
  cases deadline with
  | none => rfl
  | some d =>
      rw [isPast_some, decide_eq_false_iff_not] at h ⊢
      exact fun hPast => h (Nat.lt_of_lt_of_le hPast hLe)

/-- An act that would end within the deadline is settled as it is without
one. -/
theorem Act.settle_of_inTime (act : Act σ α) {deadline : Option Time}
    {now : Time} (h : isPast deadline (act.settle none now).now = false) :
    act.settle deadline now = act.settle none now := by
  induction act generalizing now with
  | finish reply s => rfl
  | wait s d next ih =>
      have hLater : isPast deadline (now + d) = false :=
        not_past_of_le (next.settle_within (not_past_none (now + d))).1 h
      simp only [Act.settle, hLater, not_past_none, if_false,
        Bool.false_eq_true]
      exact ih h

/-- The run is the other one, or it is what was left of it when it was cut off
at a time. -/
def Run.CutFrom (at_ : Time) (r whole : Run Q σ ε α) : Prop :=
  r = whole ∨ r.ending = .cutOff ∧ r.now = at_ ∧ r.trace <+: whole.trace

namespace Run.CutFrom

variable {at_ : Time} {r whole : Run Q σ ε α}

theorem preceded (h : r.CutFrom at_ whole) (earlier : List (Happening Q ε)) :
    (r.preceded earlier).CutFrom at_ (whole.preceded earlier) := by
  rcases h with rfl | ⟨hEnd, hNow, hTrace⟩
  · exact .inl rfl
  · exact .inr ⟨hEnd, hNow, (List.prefix_append_right_inj earlier).mpr hTrace⟩

theorem trace_initial (h : r.CutFrom at_ whole) : r.trace <+: whole.trace := by
  rcases h with rfl | ⟨-, -, hTrace⟩
  · exact List.prefix_rfl
  · exact hTrace

/-- A run that was not cut off is the whole. -/
theorem eq_of_ne_cutOff (h : r.CutFrom at_ whole) (hEnd : r.ending ≠ .cutOff) :
    r = whole := by
  rcases h with rfl | ⟨hCut, -, -⟩
  · rfl
  · exact absurd hCut hEnd

end Run.CutFrom

namespace Dialogue

/-- Whatever comes of a question, it stands at the front of the trace. -/
theorem asked_initial (p : Partner A σ) (deadline : Option Time) (q : Q)
    (next : Except Trouble (A q) → Dialogue A ε α) (now : Time) (s : σ) :
    [.asked now q] <+: ((Dialogue.ask q next).play p deadline now s).trace := by
  rw [play_ask]
  rcases (p.perform q now s).settle deadline now with ⟨reply, now', s'⟩
  rcases reply with _ | _ | _
  · exact List.prefix_rfl
  · exact List.prefix_append _ _
  · exact List.prefix_rfl

/-- **An earlier deadline cuts a run short or makes no difference.** The
induction is on the dialogue; up to the first wait that goes beyond the earlier
deadline both runs are at the same place, at the same time and in the same
state. -/
theorem play_earlier (p : Partner A σ) {early late : Time} (hLe : early ≤ late)
    (d : Dialogue A ε α) (now : Time) (s : σ) :
    (d.play p (some early) now s).CutFrom early
      (d.play p (some late) now s) := by
  induction d generalizing now s with
  | done a => exact .inl rfl
  | fail t => exact .inl rfl
  | ask q next ih =>
      rcases (p.perform q now s).settle_earlier hLe now with hSame | ⟨s', hCut⟩
      · rw [play_ask, play_ask, hSame]
        rcases (p.perform q now s).settle (some late) now with ⟨reply, now', s'⟩
        rcases reply with _ | r | _
        · exact .inl rfl
        · exact (ih r now' s').preceded _
        · exact .inl rfl
      · have hAsked := asked_initial p (some late) q next now s
        rw [play_ask, hCut]
        exact .inr ⟨rfl, rfl, hAsked⟩
  | pause d next ih =>
      by_cases hPast : isPast (some early) (now + d) = true
      · have hCut : (Dialogue.pause d next).play p (some early) now s =
              ⟨.cutOff, early, s, []⟩ := by
          simp only [play, hPast, if_true, Option.getD_some]
        rw [hCut]
        exact .inr ⟨rfl, rfl, List.nil_prefix⟩
      · have hLater : isPast (some late) (now + d) = false :=
          not_past_of_earlier hLe (Bool.eq_false_iff.mpr hPast)
        simp only [play, hPast, hLater, if_false, Bool.false_eq_true]
        exact ih (now + d) s
  | clock next ih => exact ih now now s
  | note e next ih => exact (ih now s).preceded [.noted e]

/-- **A run that is not cut off is the run without a deadline.** -/
theorem play_of_ne_cutOff (p : Partner A σ) {deadline : Option Time}
    (d : Dialogue A ε α) {now : Time} {s : σ}
    (hEnd : (d.play p deadline now s).ending ≠ .cutOff) :
    d.play p deadline now s = d.play p none now s := by
  induction d generalizing now s with
  | done a => rfl
  | fail t => rfl
  | ask q next ih =>
      have hSettle :=
        @Act.settle_of_ne_none σ (A q) (p.perform q now s) deadline now
      rw [play_ask] at hEnd ⊢
      rw [play_ask]
      rcases hSettled : (p.perform q now s).settle deadline now
        with ⟨reply, now', s'⟩
      rw [hSettled] at hEnd hSettle
      rcases reply with _ | r | _
      · exact absurd rfl hEnd
      · rw [← hSettle nofun]
        exact congrArg (Run.preceded _) (ih r hEnd)
      · rw [← hSettle nofun]
  | pause d next ih =>
      by_cases hPast : isPast deadline (now + d) = true
      · simp only [play, hPast, if_true] at hEnd
        exact absurd rfl hEnd
      · simp only [play, hPast, if_false, Bool.false_eq_true] at hEnd ⊢
        exact ih hEnd
  | clock next ih => exact ih now hEnd
  | note e next ih => exact congrArg (Run.after (.noted e)) (ih hEnd)

/-- **A deadline that does not come before the end makes no difference.** -/
theorem play_of_inTime (p : Partner A σ) {deadline : Option Time}
    (d : Dialogue A ε α) {now : Time} {s : σ}
    (h : isPast deadline (d.play p none now s).now = false) :
    d.play p deadline now s = d.play p none now s := by
  induction d generalizing now s with
  | done a => rfl
  | fail t => rfl
  | ask q next ih =>
      have hSettle :=
        @Act.settle_of_inTime σ (A q) (p.perform q now s) deadline now
      rw [play_ask] at h
      rw [play_ask, play_ask]
      rcases hSettled : (p.perform q now s).settle none now
        with ⟨reply, now', s'⟩
      rw [hSettled] at h hSettle
      rcases reply with _ | r | _
      · rw [hSettle h]
      · have hAnswered :=
          not_past_of_le (play_within p (next r) (not_past_none now') s').1 h
        rw [hSettle hAnswered]
        exact congrArg (Run.preceded _) (ih r h)
      · rw [hSettle h]
  | pause d next ih =>
      have hLater : isPast deadline (now + d) = false :=
        not_past_of_le (play_within p next (not_past_none (now + d)) s).1 h
      simp only [play, hLater, not_past_none, if_false, Bool.false_eq_true]
      exact ih h
  | clock next ih => exact ih now h
  | note e next ih => exact congrArg (Run.after (.noted e)) (ih h)

end Dialogue

/-! ## Entries with their times -/

/-- The same happening with its entry, if it is one, changed. -/
def Happening.mapEntry (f : ε → δ) : Happening Q ε → Happening Q δ
  | .asked t q => .asked t q
  | .noted e => .noted (f e)

/-- The same run with all its entries changed. -/
def Run.mapEntries (f : ε → δ) (r : Run Q σ ε α) : Run Q σ δ α :=
  { r with trace := r.trace.map (Happening.mapEntry f) }

theorem Run.entries_mapEntries (f : ε → δ) (r : Run Q σ ε α) :
    (r.mapEntries f).entries = r.entries.map f := by
  rw [entries_eq, entries_eq, List.map_filterMap]
  show (r.trace.map (Happening.mapEntry f)).filterMap Happening.entry? = _
  rw [List.filterMap_map]
  refine congrArg (fun g => r.trace.filterMap g) (funext fun h => ?_)
  cases h <;> rfl

theorem Run.mapEntries_preceded (f : ε → δ) (earlier : List (Happening Q ε))
    (r : Run Q σ ε α) :
    (r.preceded earlier).mapEntries f =
      (r.mapEntries f).preceded (earlier.map (Happening.mapEntry f)) := by
  unfold mapEntries preceded
  rw [List.map_append]

namespace Dialogue

/-- The dialogue that notes with each entry what the clock says. -/
def stamped : Dialogue A ε α → Dialogue A (Time × ε) α
  | .done a => .done a
  | .fail t => .fail t
  | .ask q next => .ask q fun r => (next r).stamped
  | .pause d next => .pause d next.stamped
  | .clock next => .clock fun t => (next t).stamped
  | .note e next => .clock fun t => .note (t, e) next.stamped

/-- **Without its times the stamped dialogue has the run of the dialogue.** -/
theorem play_stamped (p : Partner A σ) (deadline : Option Time)
    (d : Dialogue A ε α) (now : Time) (s : σ) :
    (d.stamped.play p deadline now s).mapEntries Prod.snd =
      d.play p deadline now s := by
  induction d generalizing now s with
  | done a => rfl
  | fail t => rfl
  | ask q next ih =>
      rw [stamped, play_ask, play_ask]
      rcases (p.perform q now s).settle deadline now with ⟨reply, now', s'⟩
      rcases reply with _ | r | _
      · rfl
      · show (((next r).stamped.play p deadline now' s').preceded _).mapEntries
              Prod.snd = _
        rw [Run.mapEntries_preceded, ih r now' s']
        rfl
      · rfl
  | pause d next ih =>
      by_cases hPast : isPast deadline (now + d) = true
      · simp only [stamped, play, hPast, if_true]
        rfl
      · simp only [stamped, play, hPast, if_false, Bool.false_eq_true]
        exact ih (now + d) s
  | clock next ih => exact ih now now s
  | note e next ih =>
      show ((next.stamped.play p deadline now s).preceded
            [.noted (now, e)]).mapEntries Prod.snd =
        (next.play p deadline now s).preceded [.noted e]
      rw [Run.mapEntries_preceded, ih now s]
      rfl

end Dialogue

end Errand
