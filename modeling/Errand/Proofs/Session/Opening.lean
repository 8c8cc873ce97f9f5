import Errand.Proofs.Session.Closing

/-!
# What stops a session

A session with optional steps only is not stopped by any of them: whatever the
browser answers, it does not end with trouble of a step. What can still stop it
lies before the steps. The browser may not be there, and the address to start
from may not load. Neither is a step of the session, so neither is optional,
also if the first step is to load that same address.

## Main results

* `openingRun_of_load`: how the opening ends, told by how the address to start
  from loads.
* `play_driveFrom_optional`: optional steps do not end with trouble.
* `play_drive_optional`: once the session is open, they come to their end.
* `report_of_optional`: the report of a session with optional steps only.
-/

namespace Errand.Session

open Dialogue

variable {σ : Type}

/-! ## The opening -/

section Opening

variable {b : Browser σ} {o : Options} {target : Option String}
  {start : Time} {s : σ}

/-- A browser that is there gets the address to load. -/
theorem openingRun_of_launched {u : Unit} {now₁ : Time} {s₁ : σ}
    (hLaunch : (b.perform .launch start s).settle
      (some (start + o.sessionTimeout)) start =
      ⟨some (.answer (.ok u)), now₁, s₁⟩) :
    openingRun b o target start s =
      ((loadTarget target).play b (some (start + o.sessionTimeout)) now₁
        s₁).preceded
        [.asked start .launch, .noted .opened] := by
  unfold openingRun
  rw [opening_eq, play_ask, hLaunch]
  rfl

/-- Without the browser the opening is over. -/
theorem openingRun_of_unlaunched
    (hLaunch : ∀ u,
      ((b.perform .launch start s).settle (some (start + o.sessionTimeout))
        start).reply ≠
      some (.answer (.ok u))) :
    (openingRun b o target start s).trace = [.asked start .launch] ∧
      ∀ u, (openingRun b o target start s).ending ≠ .done u := by
  unfold openingRun
  rw [opening_eq, play_ask]
  rcases hSettled : (b.perform .launch start s).settle
    (some (start + o.sessionTimeout)) start with
    ⟨reply, now₁, s₁⟩
  rw [hSettled] at hLaunch
  rcases reply with _ | r | _
  · exact ⟨rfl, nofun⟩
  · cases r with
    | ok u => exact absurd rfl (hLaunch u)
    | error t => exact ⟨rfl, nofun⟩
  · exact ⟨rfl, nofun⟩

/-- **The opening ends as the address to start from loads.** -/
theorem openingRun_of_load {url : String} {u : Unit} {now₁ now₂ : Time}
    {s₁ s₂ : σ} {r : Except Trouble Unit}
    (hLaunch : (b.perform .launch start s).settle
      (some (start + o.sessionTimeout)) start =
      ⟨some (.answer (.ok u)), now₁, s₁⟩)
    (hLoad : (b.perform (.goto url) now₁ s₁).settle
      (some (start + o.sessionTimeout)) now₁ =
      ⟨some (.answer r), now₂, s₂⟩) :
    (∀ v, r = .ok v → (openingRun b o (some url) start s).ending = .done ()) ∧
      ∀ t, r = .error t → (openingRun b o (some url) start s).ending =
        .failed t := by
  rw [openingRun_of_launched hLaunch, loadTarget_some, Run.ending_preceded,
    play_ask, hLoad]
  exact ⟨fun v hv => by rw [hv]; rfl, fun t ht => by rw [ht]; rfl⟩

/-- In a session that is not cut off, a browser that never breaks down says
what became of the load. -/
theorem exists_load {url : String} (hb : b.Answers) {u : Unit} {now₁ : Time}
    {s₁ : σ}
    (hLaunch : (b.perform .launch start s).settle
      (some (start + o.sessionTimeout)) start =
      ⟨some (.answer (.ok u)), now₁, s₁⟩)
    {steps : List Step}
    (hTime : (course b o (some url) steps start s).steps.ending ≠ .cutOff) :
    ∃ r now₂ s₂, (b.perform (.goto url) now₁ s₁).settle
      (some (start + o.sessionTimeout)) now₁ =
      ⟨some (.answer r), now₂, s₂⟩ := by
  have hWhole :=
    (hb (.goto url) now₁ s₁).settle_ne_breakdown
      (some (start + o.sessionTimeout)) now₁
  rcases hSettled : (b.perform (.goto url) now₁ s₁).settle
    (some (start + o.sessionTimeout)) now₁ with
    ⟨reply, now₂, s₂⟩
  rw [hSettled] at hWhole
  rcases reply with _ | r | _
  · have hCut : (openingRun b o (some url) start s).ending = .cutOff := by
      rw [openingRun_of_launched hLaunch, loadTarget_some, Run.ending_preceded,
        play_ask, hSettled]
    rw [steps_course, play_drive] at hTime
    simp only [Run.andThen, hCut, ne_eq, not_true_eq_false] at hTime
  · exact ⟨r, now₂, s₂, rfl⟩
  · exact absurd rfl hWhole

end Opening

/-! ## Optional steps -/

/-- The trouble of an optional step does not end the session. -/
theorem Leg.ending_of_optional {l : Leg σ} (h : l.step.optional = true)
    (t : Trouble) : l.ending ≠ .failed t := by
  unfold ending
  cases l.run.ending with
  | done did => exact nofun
  | failed t' => simp only [h, if_true]; exact nofun
  | cutOff => exact nofun
  | breakdown => exact nofun

/-- **Optional steps do not end with trouble**, whatever the browser answers. -/
theorem play_driveFrom_optional (b : Browser σ) (o : Options)
    (deadline : Option Time) {steps : List Step}
    (h : ∀ step ∈ steps, step.optional = true) (index : Nat)
    (loaded : Option String) (now : Time) (s : σ) (t : Trouble) :
    ((driveFrom o index loaded steps).play b deadline now s).ending ≠
      .failed t := by
  rw [play_driveFrom]
  unfold runOf
  cases hLast : (legsFrom b o deadline index loaded steps now s).getLast? with
  | none => exact nofun
  | some l =>
      have hMem := List.mem_of_getLast? hLast
      obtain ⟨k, hk⟩ := List.mem_iff_getElem?.mp hMem
      have hStep :=
        (legsFrom_getElem? b o deadline steps index loaded now s k l hk).2
      exact l.ending_of_optional (h l.step (List.mem_of_getElem? hStep)) t

/-- Once the session is open, optional steps that are not cut off come to their
end. -/
theorem play_drive_optional {b : Browser σ} (hb : b.Answers) {o : Options}
    {target : Option String} {steps : List Step}
    (h : ∀ step ∈ steps, step.optional = true) {start : Time} {s : σ}
    (hOpened : (openingRun b o target start s).ending = .done ())
    (hTime : ((drive o target steps).play b (some (start + o.sessionTimeout))
        start s).ending ≠ .cutOff) :
    ((drive o target steps).play b (some (start + o.sessionTimeout)) start
      s).ending = .done () := by
  cases hEnd :
    ((drive o target steps).play b (some (start + o.sessionTimeout)) start
      s).ending with
  | done u => rfl
  | failed t =>
      rw [play_drive, Run.andThen_of_done hOpened, Run.ending_preceded,
        ← play_driveFrom] at hEnd
      exact absurd hEnd (play_driveFrom_optional b o _ h 0 target _ _ t)
  | cutOff => exact absurd hEnd hTime
  | breakdown => exact absurd hEnd (ending_ne_breakdown hb _ _ start s)

/-- Trouble of the opening is trouble of the session, and no step is reached. -/
theorem play_drive_of_failed {b : Browser σ} {o : Options}
    {target : Option String} {start : Time} {s : σ} {t : Trouble}
    (hFailed : (openingRun b o target start s).ending = .failed t)
    (steps : List Step) :
    ((drive o target steps).play b (some (start + o.sessionTimeout)) start
      s).ending = .failed t ∧
      legs b o target steps start s = [] := by
  rcases legs_cases b o target steps start s with ⟨hDone, -⟩ | ⟨-, hLegs⟩
  · rw [hFailed] at hDone
    cases hDone
  · refine ⟨?_, hLegs⟩
    rw [play_drive]
    unfold Run.andThen
    rw [hFailed]

/-- **The report of a session with optional steps only.** If the browser never
breaks down and the steps are not cut off, they are all executed once the
session is open. If it is not, for the trouble of its opening, none is. -/
theorem report_of_optional {b : Browser σ} (hb : b.Answers) (o : Options)
    (target : Option String) {instructions : List Instruction}
    (hOptional : ∀ i ∈ instructions, (Step.ofInstruction i).optional = true)
    (start : Time) (s : σ)
    (hTime : (run b o target instructions start s).steps.ending ≠ .cutOff) :
    let r := (run b o target instructions start s).report o instructions.length
    ((openingRun b o target start s).ending = .done () →
        r.success = true ∧ r.stepsExecuted = instructions.length ∧
        r.error = none) ∧
      ∀ t, (openingRun b o target start s).ending = .failed t →
        r.success = false ∧ r.stepsExecuted = 0 ∧ r.error = some t.full := by
  intro r
  let steps := instructions.map Step.ofInstruction
  have hSteps : (run b o target instructions start s).steps =
      (drive o target steps).play b (some (start + o.sessionTimeout)) start s :=
    steps_course b o target steps start s
  obtain ⟨hSuccess, -, hCount⟩ := report_counts b o target instructions start s
  have hError : r.error = errorOf o r.stepsExecuted instructions.length
      (run b o target instructions start s).steps.ending := rfl
  rw [hSteps] at hTime hError
  constructor
  · intro hOpened
    have hAllOptional : ∀ step ∈ steps, step.optional = true := by
      intro step hMem
      obtain ⟨i, hi, rfl⟩ := List.mem_map.mp hMem
      exact hOptional i hi
    rw [play_drive_optional hb hAllOptional hOpened hTime] at hError
    exact ⟨hSuccess.mpr hError, hCount (hSuccess.mpr hError), hError⟩
  · intro t hFailed
    obtain ⟨hEnd, hLegs⟩ := play_drive_of_failed hFailed steps
    have hExecuted : r.stepsExecuted =
        executed
          (recordsOf (run b o target instructions start s).steps.entries) := rfl
    rw [hSteps, recordsOf_legs, hLegs] at hExecuted
    rw [hEnd] at hError
    refine ⟨Bool.eq_false_iff.mpr fun h => ?_, hExecuted, hError⟩
    cases hError.symm.trans (hSuccess.mp h)

end Errand.Session
