import Errand.Proofs.Dialogue.Deadline
import Errand.Proofs.Session.Account

/-!
# The time limit only truncates a session

Two sessions with the same instructions, the same browser and options that
differ in the time limit of the steps alone do the same things at the same
times, up to the moment at which the shorter limit strikes. The steps
themselves know nothing of that limit (`drive_within`), so this is what an
earlier deadline does to any dialogue. A session that the shorter limit did not
cut is the same session altogether, its closing included, and has the same
report.

The records of a session carry no times, so they are told with them by
`timedRecords`: each with the time at which it was made.

## Main results

* `drive_within`: what a session does up to the end of its steps does not
  depend on its limit.
* `run_truncated`: a shorter limit leaves a first part of the calls and of the
  records, or everything.
-/

namespace Errand.Session

open Dialogue

variable {σ : Type}

/-- The same time limits but for that of all steps together. -/
def Options.within (o : Options) (limit : Duration) : Options :=
  { o with sessionTimeout := limit }

/-! ## The steps know nothing of the limit -/

theorem perform_within (o : Options) (limit : Duration) (step : Step) :
    step.perform (o.within limit) = step.perform o := rfl

theorem driveFrom_within (o : Options) (limit : Duration) (steps : List Step)
    (index : Nat) (loaded : Option String) :
    driveFrom (o.within limit) index loaded steps =
      driveFrom o index loaded steps := by
  induction steps generalizing index loaded with
  | nil => rfl
  | cons step rest ih =>
      unfold driveFrom
      simp only [perform_within, ih]

/-- What a session does up to the end of its steps does not depend on its
limit. -/
theorem drive_within (o : Options) (limit : Duration) (target : Option String)
    (steps : List Step) :
    drive (o.within limit) target steps = drive o target steps := by
  unfold drive
  simp only [driveFrom_within]

/-! ## Records with their times -/

/-- The records among entries with their times. -/
def timedRecordsOf (entries : List (Time × Entry)) : List (Time × Record) :=
  entries.filterMap fun
    | (t, .ended r) => some (t, r)
    | _ => none

theorem map_snd_timedRecordsOf (entries : List (Time × Entry)) :
    (timedRecordsOf entries).map Prod.snd =
      recordsOf (entries.map Prod.snd) := by
  unfold timedRecordsOf recordsOf
  rw [List.map_filterMap, List.filterMap_map]
  refine congrArg (fun f => entries.filterMap f) (funext fun ⟨t, e⟩ => ?_)
  cases e <;> rfl

/-- The records of a session, each with the time at which it was made. -/
def timedRecords (b : Browser σ) (o : Options) (target : Option String)
    (steps : List Step) (start : Time) (s : σ) : List (Time × Record) :=
  timedRecordsOf
    ((drive o target steps).stamped.play b (some (start + o.sessionTimeout))
        start s).entries

/-- They are the records of the report. -/
theorem map_snd_timedRecords (b : Browser σ) (o : Options)
    (target : Option String) (steps : List Step) (total : Nat)
    (start : Time) (s : σ) :
    (timedRecords b o target steps start s).map Prod.snd =
      ((course b o target steps start s).report o total).records := by
  show _ = recordsOf (course b o target steps start s).steps.entries
  rw [steps_course, ← play_stamped, Run.entries_mapEntries]
  exact map_snd_timedRecordsOf _

/-! ## Two limits -/

/-- The error of a session does not tell its limit unless the limit ended it. -/
theorem errorOf_within (o : Options) (short long : Duration) (steps total : Nat)
    {ending : Ending Unit} (h : ending ≠ .cutOff) :
    errorOf (o.within short) steps total ending =
      errorOf (o.within long) steps total ending := by
  cases ending with
  | cutOff => exact absurd rfl h
  | done u => rfl
  | failed t => rfl
  | breakdown => rfl

theorem report_within (o : Options) (short long : Duration) (total : Nat)
    {c : Course σ} (h : c.steps.ending ≠ .cutOff) :
    c.report (o.within short) total = c.report (o.within long) total := by
  unfold Course.report reportOf
  simp only [errorOf_within o short long _ total h]

/-- Sessions whose steps have the same run are the same, whatever their
limits. -/
theorem course_within (b : Browser σ) (o : Options) (short long : Duration)
    (target : Option String) (steps : List Step) (start : Time) (s : σ)
    (h : (drive o target steps).play b (some (start + short)) start s =
      (drive o target steps).play b (some (start + long)) start s) :
    course b (o.within short) target steps start s =
      course b (o.within long) target steps start s := by
  have hShort : (o.within short).sessionTimeout = short := rfl
  have hLong : (o.within long).sessionTimeout = long := rfl
  have hConclude : conclude (o.within short) = conclude (o.within long) := rfl
  unfold course
  rw [drive_within, drive_within, hShort, hLong, h, hConclude]

/-- **A shorter time limit only truncates a session.** The calls up to the end
of the steps, each with its time, and the records, each with the time at which
it was made, are a first part of those under the longer limit. A session that
the shorter limit did not cut is the same under the longer one, and so is its
report. -/
theorem run_truncated (b : Browser σ) (o : Options) {short long : Duration}
    (hLimit : short ≤ long) (target : Option String)
    (instructions : List Instruction) (start : Time) (s : σ) :
    let steps := instructions.map Step.ofInstruction
    let c₁ := run b (o.within short) target instructions start s
    let c₂ := run b (o.within long) target instructions start s
    let report₁ := c₁.report (o.within short) instructions.length
    let report₂ := c₂.report (o.within long) instructions.length
    let records₁ := timedRecords b (o.within short) target steps start s
    let records₂ := timedRecords b (o.within long) target steps start s
    c₁.steps.questions <+: c₂.steps.questions ∧
      (records₁ <+: records₂ ∧ records₁.map Prod.snd = report₁.records ∧
        records₂.map Prod.snd = report₂.records) ∧
      report₁.records <+: report₂.records ∧
      (c₁.steps.ending ≠ .cutOff → c₁ = c₂ ∧ report₁ = report₂) := by
  intro steps c₁ c₂ report₁ report₂ records₁ records₂
  have hDeadline : start + short ≤ start + long :=
    Nat.add_le_add_left hLimit start
  have hSteps : ∀ limit,
      (run b (o.within limit) target instructions start s).steps =
      (drive o target steps).play b (some (start + limit)) start s := by
    intro limit
    exact (steps_course b (o.within limit) target steps start s).trans
      (by rw [drive_within]; rfl)
  have hCut : c₁.steps.CutFrom (start + short) c₂.steps := by
    rw [hSteps short, hSteps long]
    exact play_earlier b hDeadline (drive o target steps) start s
  -- the stamped dialogues are the same for both limits too, so their entries
  -- are cut like the calls
  have hRecords : records₁ <+: records₂ := by
    have hStamped :=
      (play_earlier b hDeadline (drive o target steps).stamped start
          s).trace_initial
    show timedRecords _ _ _ _ _ _ <+: timedRecords _ _ _ _ _ _
    unfold timedRecords
    rw [drive_within, drive_within]
    exact (hStamped.filterMap _).filterMap _
  have hTimed₁ : records₁.map Prod.snd = report₁.records :=
    map_snd_timedRecords _ _ _ _ _ _ _
  have hTimed₂ : records₂.map Prod.snd = report₂.records :=
    map_snd_timedRecords _ _ _ _ _ _ _
  refine ⟨hCut.trace_initial.filterMap _, ⟨hRecords, hTimed₁, hTimed₂⟩, ?_,
    fun hEnd => ?_⟩
  · rw [← hTimed₁, ← hTimed₂]
    exact hRecords.map _
  · have hSame : c₁ = c₂ := by
      refine course_within b o short long target steps start s ?_
      rw [← hSteps short, ← hSteps long]
      exact hCut.eq_of_ne_cutOff hEnd
    refine ⟨hSame, ?_⟩
    show c₁.report _ _ = c₂.report _ _
    rw [← hSame]
    exact report_within o short long instructions.length hEnd

open Duration in
/-- A browser that takes two milliseconds for every call; all it can do is to
launch. -/
def sluggish : Browser Unit where
  perform
    | .launch, _, s => .wait s (ofMillis 2) (.finish (.answer (.ok ())) s)
    | _, _, s =>
      .wait s (ofMillis 2) (.finish (.answer (.error (.plain "gone"))) s)

open Duration in
/-- Two steps of which each presses a key, under limits of five, six and nine
milliseconds: the first limit strikes in the second step, the second at its
very end, so that the session is not cut. -/
theorem run_truncated_sluggish :
    let press :=
      Instruction.make "press_global" [("key", .str "Enter"),
        ("optional", .bool true)]
    let o : Options := ⟨ofMillis 1, 0, 0, ofMillis 1, ofMillis 1, ofMillis 1⟩
    let steps : List Instruction := [press, press]
    let course (limit : Nat) : Course Unit :=
      run sluggish (o.within (ofMillis limit)) none steps 0 ()
    let report (limit : Nat) : Report :=
      (course limit).report (o.within (ofMillis limit)) steps.length
    (ofMillis 5 ≤ ofMillis 9 ∧
        (course 5).steps.questions <+: (course 9).steps.questions ∧
        (report 5).records <+: (report 9).records) ∧
      ((course 5).steps.questions.length = 3 ∧ (report 5).records.length = 1) ∧
      ofMillis 6 ≤ ofMillis 9 ∧ (course 6).steps.ending ≠ .cutOff ∧
      report 6 = report 9 := by
  intro press o steps course report
  have hCut : ofMillis 5 ≤ ofMillis 9 := by decide
  have hWhole : ofMillis 6 ≤ ofMillis 9 := by decide
  obtain ⟨hCalls, -, hRecords, -⟩ :=
    run_truncated sluggish o hCut none steps 0 ()
  obtain ⟨-, -, -, hUncut⟩ := run_truncated sluggish o hWhole none steps 0 ()
  have hCounts : (course 5).steps.questions.length = 3 ∧
      (report 5).records.length = 1 := by
    decide +kernel
  have hEnd : (course 6).steps.ending ≠ .cutOff := by decide +kernel
  dsimp only [course, report] at hCounts hEnd ⊢
  exact ⟨⟨hCut, hCalls, hRecords⟩, hCounts, hWhole, hEnd, (hUncut hEnd).2⟩

end Errand.Session
