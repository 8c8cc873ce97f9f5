import Errand.Proofs.Plan.Vocabulary
import Errand.Proofs.Session.Closing

/-!
# Unknown steps are inert

A step whose tag is not in the vocabulary does nothing: it asks nothing of the
browser, takes no time and ends well. So a session with such a step put in
anywhere is the session without it, but for one record, and for the numbers of
the steps behind it.

There are two ways in which an unknown step is not inert, and both are left out
here. A step that is flagged to open a page of its own is followed by a look
for that page, even if the step did nothing; the look is a call, takes time,
and can fail. And only the very first step can find its address loaded already,
so an unknown step in front of it makes the session load the address a second
time (`unknown_step_acts`).

## Main results

* `legsFrom_unknown`: the leg of an unknown step is an idle one.
* `extended_driveFrom`: up to the end of the steps, nothing but a record is
  added.
* `run_insert_unknown`: the whole session, its closing included, and its report.
-/

namespace Errand.Session

open Dialogue

variable {σ : Type}

/-! ## Legs and their numbers -/

/-- What a record says, but for the number of its step. -/
def Record.account (r : Record) : String × StepResult :=
  (r.description, r.result)

/-- The same leg as that of the next step. -/
def Leg.next (l : Leg σ) : Leg σ := { l with index := l.index + 1 }

theorem legsFrom_succ (b : Browser σ) (o : Options) (deadline : Option Time)
    (steps : List Step) (index : Nat) (loaded : Option String)
    (now : Time) (s : σ) :
    legsFrom b o deadline (index + 1) loaded steps now s =
      (legsFrom b o deadline index loaded steps now s).map Leg.next := by
  induction steps generalizing index loaded now s with
  | nil => rfl
  | cons step rest ih =>
      unfold legsFrom
      dsimp only
      rw [List.map_cons, ih (index + 1)]
      congr 1
      rw [apply_ite (List.map Leg.next)]
      rfl

/-- A happening seen without the number of its step. -/
def Numberless {γ : Type} (g : Happening Call Entry → Option γ) : Prop :=
  ∀ (r : Record) (n : Nat), g (.noted (.ended { r with index := n })) =
    g (.noted (.ended r))

theorem Leg.filterMap_next {γ : Type} {g : Happening Call Entry → Option γ}
    (hg : Numberless g) (l : Leg σ) :
    l.next.trace.filterMap g = l.trace.filterMap g := by
  have hRecord : l.next.record? = l.record?.map fun r =>
      { r with index := l.index + 1 } := by
    unfold Leg.record?
    rw [Option.map_map]
    rfl
  unfold Leg.trace
  rw [List.filterMap_append, List.filterMap_append, hRecord]
  refine congrArg _ ?_
  cases l.record? with
  | none => rfl
  | some r =>
      show [_].filterMap g = [_].filterMap g
      rw [List.filterMap_cons, List.filterMap_cons, hg r]

theorem filterMap_next {γ : Type} {g : Happening Call Entry → Option γ}
    (hg : Numberless g) (ls : List (Leg σ)) :
    ((ls.map Leg.next).flatMap Leg.trace).filterMap g =
      (ls.flatMap Leg.trace).filterMap g := by
  induction ls with
  | nil => rfl
  | cons l rest ih =>
      rw [List.map_cons, List.flatMap_cons, List.flatMap_cons,
        List.filterMap_append, List.filterMap_append, ih, l.filterMap_next hg]

/-! ## One record more -/

/-- What the record says that was made, if it was one. -/
def accountOf : Happening Call Entry → Option (String × StepResult)
  | .noted (.ended r) => some r.account
  | _ => none

/-- The entry that was made, if it was one and no record. -/
def remarkOf : Happening Call Entry → Option Entry
  | .noted (.ended _) => none
  | .noted e => some e
  | .asked _ _ => none

theorem numberless_question? : Numberless Happening.question? := fun _ _ => rfl

theorem numberless_accountOf : Numberless accountOf := fun _ _ => rfl

theorem numberless_remarkOf : Numberless remarkOf := fun _ _ => rfl

/-- How a run ended, without the words of its trouble. -/
def outline : Ending Unit → Ending Unit
  | .failed _ => .failed (.plain "")
  | ending => ending

theorem outline_eq_iff {e e' : Ending Unit} (hWords : ∀ t, e ≠ .failed t) :
    outline e' = e ↔ e' = e := by
  cases e' with
  | failed t =>
      exact iff_of_false (fun h => hWords _ h.symm) fun h => hWords t h.symm
  | done a => exact Iff.rfl
  | cutOff => exact Iff.rfl
  | breakdown => exact Iff.rfl

/-- The second run is the first but for one record at a place, if it comes so
far, that says `added`. -/
structure Extended (place : Nat) (added : String × StepResult)
    (r r' : Run Call σ Entry Unit) : Prop where
  now : r'.now = r.now
  state : r'.state = r.state
  ending : outline r'.ending = outline r.ending
  calls : r'.trace.filterMap Happening.question? =
    r.trace.filterMap Happening.question?
  remarks : r'.trace.filterMap remarkOf = r.trace.filterMap remarkOf
  records : (r'.trace.filterMap accountOf).eraseIdx place =
    r.trace.filterMap accountOf
  added : ∀ account ∈ (r'.trace.filterMap accountOf)[place]?, account = added

namespace Extended

variable {place : Nat} {added : String × StepResult}
  {r r' : Run Call σ Entry Unit}

/-- A run that does not come so far is the same. -/
theorem of_length_le (h : (r.trace.filterMap accountOf).length ≤ place) :
    Extended place added r r where
  now := rfl
  state := rfl
  ending := rfl
  calls := rfl
  remarks := rfl
  records := List.eraseIdx_of_length_le h
  added := by
    intro account hMem
    rw [List.getElem?_eq_none h] at hMem
    cases hMem

theorem preceded (h : Extended place added r r')
    (earlier : List (Happening Call Entry)) :
    Extended ((earlier.filterMap accountOf).length + place) added
      (r.preceded earlier)
      (r'.preceded earlier) where
  now := h.now
  state := h.state
  ending := h.ending
  calls := by
    rw [Run.trace_preceded, Run.trace_preceded, List.filterMap_append,
      List.filterMap_append, h.calls]
  remarks := by
    rw [Run.trace_preceded, Run.trace_preceded, List.filterMap_append,
      List.filterMap_append, h.remarks]
  records := by
    rw [Run.trace_preceded, Run.trace_preceded, List.filterMap_append,
      List.filterMap_append, List.eraseIdx_append_of_length_le
      (Nat.le_add_right _ _), Nat.add_sub_cancel_left, h.records]
  added := by
    rw [Run.trace_preceded, List.filterMap_append,
      List.getElem?_append_right (Nat.le_add_right _ _),
      Nat.add_sub_cancel_left]
    exact h.added

end Extended

/-! ## Idle legs -/

theorem Leg.outline_next (l : Leg σ) :
    outline l.next.ending = outline l.ending := by
  have hRun : l.next.run = l.run := rfl
  have hStep : l.next.step = l.step := rfl
  unfold Leg.ending
  rw [hRun, hStep]
  cases l.run.ending with
  | done did => rfl
  | failed t => cases l.step.optional <;> rfl
  | cutOff => rfl
  | breakdown => rfl

/-- What is noted of an unknown step. -/
def idleNote (tag : String) : String := "ignored unknown action '" ++ tag ++ "'"

/-- The leg of a step that does nothing. -/
def idleLeg (index : Nat) (step : Step) (tag : String) (now : Time)
    (s : σ) : Leg σ :=
  ⟨index, step, ⟨.done (idleNote tag), now, s, []⟩⟩

/-- Putting an idle leg in front adds its record and nothing else. -/
theorem extended_idleLeg (index : Nat) (unknown : Step) (tag : String)
    (now : Time) (s : σ) (ls : List (Leg σ)) :
    Extended 0 (unknown.describe, .done (idleNote tag)) (runOf now s ls)
      (runOf now s (idleLeg index unknown tag now s :: ls.map Leg.next)) := by
  have hLast : (ls.map Leg.next).getLast? = ls.getLast?.map Leg.next :=
    List.getLast?_map
  have hTrace : (idleLeg index unknown tag now s).trace =
      [.noted (.ended ⟨index, unknown.describe, .done (idleNote tag)⟩)] := rfl
  rw [runOf_cons rfl, hTrace]
  refine
    { now := ?_
      state := ?_
      ending := ?_
      calls := filterMap_next numberless_question? ls
      remarks := filterMap_next numberless_remarkOf ls
      records := filterMap_next numberless_accountOf ls
      added := ?_ }
  · show ((ls.map Leg.next).getLast?.map fun l => l.run.now).getD now = _
    rw [hLast, Option.map_map]
    rfl
  · show ((ls.map Leg.next).getLast?.map fun l => l.run.state).getD s = _
    rw [hLast, Option.map_map]
    rfl
  · show outline (((ls.map Leg.next).getLast?.map Leg.ending).getD (.done ())) =
      outline ((ls.getLast?.map Leg.ending).getD (.done ()))
    rw [hLast]
    cases ls.getLast? with
    | none => rfl
    | some l => exact l.outline_next
  · rintro account ⟨rfl⟩
    rfl

section Unknown

variable {unknown : Step} {tag : String}

/-- There is nothing to do for an unknown step that is not expected to open a
page. -/
theorem stepTalk_unknown (hKind : unknown.kind = .unknown tag)
    (hPage : unknown.newPage = false) (o : Options) (loaded : Option String) :
    stepTalk o loaded unknown = .done (idleNote tag) := by
  unfold stepTalk isLoaded Step.perform Step.performKind
  simp only [hKind, hPage, if_false, Bool.false_eq_true]
  rfl

/-- **The leg of an unknown step is an idle one.** -/
theorem legsFrom_unknown (hKind : unknown.kind = .unknown tag)
    (hPage : unknown.newPage = false) (b : Browser σ) (o : Options)
    (deadline : Option Time) (index : Nat) (loaded : Option String)
    (rest : List Step) (now : Time) (s : σ) :
    legsFrom b o deadline index loaded (unknown :: rest) now s =
      idleLeg index unknown tag now s ::
        (legsFrom b o deadline index none rest now s).map Leg.next := by
  obtain ⟨⟨i, step, run⟩, hIndex, hStep, hRun, hLegs⟩ :=
    legsFrom_cons b o deadline index loaded unknown rest now s
  dsimp only at hIndex hStep hRun
  rw [stepTalk_unknown hKind hPage] at hRun
  subst hIndex hStep hRun
  rw [hLegs, ← legsFrom_succ]
  rfl

/-- An address that is loaded makes no difference but to a first step that
loads it. -/
theorem legsFrom_loaded (b : Browser σ) (o : Options) (deadline : Option Time)
    (index : Nat) {loaded : Option String} {steps : List Step}
    (h : ∀ first ∈ steps.head?, isLoaded loaded first = false)
    (now : Time) (s : σ) :
    legsFrom b o deadline index loaded steps now s =
      legsFrom b o deadline index none steps now s := by
  cases steps with
  | nil => rfl
  | cons first rest =>
      have hTalk : stepTalk o loaded first = stepTalk o none first := by
        unfold stepTalk
        rw [h first rfl, isLoaded_none]
      unfold legsFrom
      rw [hTalk]

end Unknown

/-! ## A session with one step more -/

/-- The accounts in a trace are those of its records. -/
theorem filterMap_accountOf (trace : List (Happening Call Entry)) :
    trace.filterMap accountOf =
      (recordsOf (trace.filterMap Happening.entry?)).map Record.account := by
  unfold recordsOf
  rw [List.filterMap_filterMap, List.map_filterMap]
  refine congrArg (fun g => trace.filterMap g) (funext fun h => ?_)
  rcases h with _ | e
  · rfl
  · cases e <;> rfl

theorem Leg.accounts_trace {l : Leg σ}
    (hPage : ∀ x ∈ l.run.trace, x.Within OnPage IsCapture) :
    l.trace.filterMap accountOf = l.record?.toList.map Record.account := by
  rw [filterMap_accountOf, Leg.recordsOf_trace hPage]

/-- The run of the steps begins with the leg of the first one. -/
theorem play_driveFrom_cons (b : Browser σ) (o : Options)
    (deadline : Option Time) (index : Nat) (loaded : Option String)
    (step : Step) (now : Time) (s : σ) :
    ∃ l : Leg σ, (∀ x ∈ l.run.trace, x.Within OnPage IsCapture) ∧
      ∀ rest, (driveFrom o index loaded (step :: rest)).play b deadline now s =
        if l.goesOn then
          ((driveFrom o (index + 1) none rest).play b deadline l.run.now
            l.run.state).preceded l.trace
        else ⟨l.ending, l.run.now, l.run.state, l.trace⟩ := by
  refine ⟨⟨index, step, (stepTalk o loaded step).play b deadline now s⟩,
    (StaysOnPage.stepTalk o loaded step).play b deadline now s, fun rest => ?_⟩
  rw [play_driveFrom]
  unfold legsFrom
  dsimp only
  split
  · next hGoesOn => rw [runOf_cons hGoesOn, play_driveFrom]
  · rw [runOf_singleton]

section Inserted

variable {unknown : Step} {tag : String}

/-- **Up to the end of the steps, an unknown step adds its record and nothing
else.** The induction is on the steps before it: each is the same leg in both
runs, and makes one record if the session goes on behind it. If it does not,
neither run comes to the unknown step. -/
theorem extended_driveFrom (hKind : unknown.kind = .unknown tag)
    (hPage : unknown.newPage = false) (b : Browser σ) (o : Options)
    (deadline : Option Time) (before after : List Step) (index : Nat)
    (loaded : Option String)
    (hLoaded : before = [] → ∀ first ∈ after.head?,
      isLoaded loaded first = false) (now : Time) (s : σ) :
    Extended before.length (unknown.describe, .done (idleNote tag))
      ((driveFrom o index loaded (before ++ after)).play b deadline now s)
      ((driveFrom o index loaded (before ++ unknown :: after)).play b deadline
        now s) := by
  induction before generalizing index loaded now s with
  | nil =>
      rw [List.nil_append, List.nil_append, play_driveFrom, play_driveFrom,
        legsFrom_unknown hKind hPage,
        legsFrom_loaded b o deadline index (hLoaded rfl)]
      exact extended_idleLeg index unknown tag now s _
  | cons step rest ih =>
      obtain ⟨l, hOnPage, hPlay⟩ :=
        play_driveFrom_cons b o deadline index loaded step now s
      have hAccounts := Leg.accounts_trace hOnPage
      rw [List.cons_append, List.cons_append, hPlay, hPlay]
      cases hGoesOn : l.goesOn with
      | true =>
          obtain ⟨record, hRecord⟩ := Leg.exists_record?_of_goesOn hGoesOn
          have hOne : (l.trace.filterMap accountOf).length = 1 := by
            rw [hAccounts, hRecord]
            rfl
          have hRest :=
            (ih (index + 1) none (fun _ first _ => isLoaded_none first)
              l.run.now l.run.state).preceded l.trace
          rw [hOne, Nat.add_comm] at hRest
          exact hRest
      | false =>
          refine Extended.of_length_le ?_
          show (l.trace.filterMap accountOf).length ≤ rest.length + 1
          rw [hAccounts, List.length_map]
          cases l.record? <;> simp

theorem extended_drive (hKind : unknown.kind = .unknown tag)
    (hPage : unknown.newPage = false) (b : Browser σ) (o : Options)
    (target : Option String) (before after : List Step)
    (hLoaded : before = [] → ∀ first ∈ after.head?,
      isLoaded target first = false) (start : Time) (s : σ) :
    Extended before.length (unknown.describe, .done (idleNote tag))
      ((drive o target (before ++ after)).play b
        (some (start + o.sessionTimeout)) start s)
      ((drive o target (before ++ unknown :: after)).play b
        (some (start + o.sessionTimeout)) start
        s) := by
  -- nothing is recorded before the first step, so places are counted from there
  have hNone : (openingRun b o target start s).trace.filterMap accountOf =
        [] := by
    rw [filterMap_accountOf, recordsOf_opening]
    rfl
  rw [drive_eq, drive_eq, play_bind, play_bind]
  change Extended _ _ ((openingRun b o target start s).andThen _)
    ((openingRun b o target start s).andThen _)
  cases hEnd : (openingRun b o target start s).ending with
  | done a =>
      have hSteps :=
        (extended_driveFrom hKind hPage b o (some (start + o.sessionTimeout))
          before after 0 target hLoaded (openingRun b o target start s).now
          (openingRun b o target start s).state).preceded
            (openingRun b o target start s).trace
      rw [hNone, List.length_nil, Nat.zero_add] at hSteps
      rw [Run.andThen_of_done hEnd, Run.andThen_of_done hEnd]
      exact hSteps
  | failed t | cutOff | breakdown =>
      unfold Run.andThen
      rw [hEnd]
      exact Extended.of_length_le
        (by dsimp only; rw [hNone]; exact Nat.zero_le _)

end Inserted

namespace Extended

variable {place : Nat} {added : String × StepResult}
  {r r' : Run Call σ Entry Unit}

/-- The runs end alike, but for the words of their trouble. -/
theorem ending_iff (h : Extended place added r r') {ending : Ending Unit}
    (hWords : ∀ t, ending ≠ .failed t) : r'.ending = ending ↔
    r.ending = ending := by
  rw [← outline_eq_iff hWords, h.ending, outline_eq_iff hWords]

theorem breakdown_iff (h : Extended place added r r') :
    r'.ending = .breakdown ↔ r.ending = .breakdown :=
  h.ending_iff fun _ => nofun

theorem done_iff (h : Extended place added r r') : r'.ending = .done () ↔
    r.ending = .done () :=
  h.ending_iff fun _ => nofun

/-- The browser was there in both runs or in neither. -/
theorem opened_iff (h : Extended place added r r') :
    Entry.opened ∈ r'.entries ↔ Entry.opened ∈ r.entries := by
  have hRemark : ∀ x : Run Call σ Entry Unit,
      Entry.opened ∈ x.entries ↔ Entry.opened ∈ x.trace.filterMap remarkOf := by
    intro x
    rw [Run.entries_eq, List.mem_filterMap, List.mem_filterMap]
    refine exists_congr fun happening => and_congr_right fun _ => ?_
    rcases happening with _ | e
    · exact iff_of_false nofun nofun
    · cases e <;> simp [Happening.entry?, remarkOf]
  rw [hRemark, hRemark, h.remarks]

/-- The report tells of the same screenshots. -/
theorem screenshots (h : Extended place added r r') :
    screenshotsOf r'.entries = screenshotsOf r.entries := by
  have hRemark : ∀ x : Run Call σ Entry Unit,
      screenshotsOf x.entries = screenshotsOf (x.trace.filterMap remarkOf) := by
    intro x
    unfold screenshotsOf
    rw [Run.entries_eq, List.filterMap_filterMap, List.filterMap_filterMap]
    refine congrArg (fun g => x.trace.filterMap g) (funext fun happening => ?_)
    rcases happening with _ | e
    · rfl
    · cases e <;> rfl
  rw [hRemark, hRemark, h.remarks]

theorem accounts (h : Extended place added r r') :
    ((recordsOf r'.entries).map Record.account).eraseIdx place =
        (recordsOf r.entries).map Record.account ∧
      ∀ record ∈ (recordsOf r'.entries)[place]?, record.account = added := by
  have hRecords := h.records
  have hAdded := h.added
  rw [filterMap_accountOf, filterMap_accountOf, ← Run.entries_eq,
    ← Run.entries_eq] at hRecords
  rw [filterMap_accountOf, ← Run.entries_eq, List.getElem?_map] at hAdded
  exact ⟨hRecords, fun record hMem =>
    hAdded _ (Option.mem_map_of_mem Record.account hMem)⟩

end Extended

section Course

variable {b : Browser σ} {o : Options} {target : Option String}
  {start : Time} {s : σ}

/-- A session is concluded like one with a record less. -/
theorem Extended.conclusion {place : Nat} {added : String × StepResult}
    {steps steps' : List Step}
    (h : Extended place added (course b o target steps start s).steps
      (course b o target steps' start s).steps) :
    (course b o target steps' start s).conclusion =
      (course b o target steps start s).conclusion := by
  rw [steps_course, steps_course] at h
  by_cases hEnd :
    ((drive o target steps).play b (some (start + o.sessionTimeout)) start
      s).ending =
      .breakdown
  · unfold course
    dsimp only
    rw [hEnd, h.breakdown_iff.mpr hEnd]
  · rw [course_of_opened rfl hEnd,
      course_of_opened rfl (mt h.breakdown_iff.mp hEnd), h.now, h.state]
    by_cases hOpened : Entry.opened ∈
        ((drive o target steps).play b (some (start + o.sessionTimeout)) start
          s).entries
    · rw [if_pos hOpened, if_pos (h.opened_iff.mpr hOpened)]
    · rw [if_neg hOpened, if_neg (mt h.opened_iff.mp hOpened)]

end Course

/-- **Unknown steps are inert.** An instruction whose tag is not in the
vocabulary, and which is not flagged to open a page, can be put in anywhere:
the calls and their times stay the same, and so do the success, the last
address, the screenshots and what is said of every other step. Its own record
says that it was ignored. The one exception is the place in front of a first
step that finds its address loaded already. -/
theorem run_insert_unknown (b : Browser σ) (o : Options)
    (target : Option String) (before after : List Instruction) {i : Instruction}
    (hTag : Step.normalTag i.tag ∉ Step.vocabulary)
    (hPage : i.flag "new_page" = false) (hLoaded : before = [] →
      ∀ next ∈ after.head?, isLoaded target (Step.ofInstruction next) = false)
    (start : Time) (s : σ) :
    let c := run b o target (before ++ after) start s
    let c' := run b o target (before ++ i :: after) start s
    let report := c.report o (before ++ after).length
    let report' := c'.report o (before ++ i :: after).length
    c'.calls = c.calls ∧ c'.now = c.now ∧ c'.state = c.state ∧
      report'.success = report.success ∧
      report'.finalUrl = report.finalUrl ∧
      report'.screenshots = report.screenshots ∧
      (report'.records.map Record.account).eraseIdx before.length =
        report.records.map Record.account ∧
      ∀ record ∈ report'.records[before.length]?, record.account =
        ("unknown " ++ Step.normalTag i.tag,
          .done (idleNote (Step.normalTag i.tag))) := by
  intro c c' report report'
  have hKind := Step.kind_ofInstruction_unknown hTag
  have hDescribe : (Step.ofInstruction i).describe =
        "unknown " ++ Step.normalTag i.tag := by
    unfold Step.describe
    rw [hKind]
  have hSteps : Extended before.length
      ("unknown " ++ Step.normalTag i.tag,
        .done (idleNote (Step.normalTag i.tag)))
      c.steps c'.steps := by
    have hDrive :=
      extended_drive hKind hPage b o target (before.map Step.ofInstruction)
      (after.map Step.ofInstruction) (fun hNil first hFirst => ?_) start s
    · rw [hDescribe, List.length_map, ← List.map_append, ← List.map_cons,
        ← List.map_append] at hDrive
      rw [show c.steps = _ from steps_course b o target _ start s,
        show c'.steps = _ from steps_course b o target _ start s]
      exact hDrive
    · rw [List.head?_map] at hFirst
      obtain ⟨next, hNext, rfl⟩ := Option.map_eq_some_iff.mp hFirst
      exact hLoaded (List.map_eq_nil_iff.mp hNil) next hNext
  have hConclusion : c'.conclusion = c.conclusion := hSteps.conclusion
  obtain ⟨hRecords, hAdded⟩ := hSteps.accounts
  refine ⟨?_, ?_, ?_, ?_, ?_, hSteps.screenshots, hRecords, hAdded⟩
  · unfold Course.calls Course.trace
    rw [List.filterMap_append, List.filterMap_append, hConclusion, hSteps.calls]
  · unfold Course.now
    rw [hConclusion, hSteps.now]
  · unfold Course.state
    rw [hConclusion, hSteps.state]
  · rw [Bool.eq_iff_iff]
    show (errorOf _ _ _ _).isNone = true ↔ (errorOf _ _ _ _).isNone = true
    rw [Option.isNone_iff_eq_none, Option.isNone_iff_eq_none, errorOf_eq_none,
      errorOf_eq_none]
    exact hSteps.done_iff
  · show c'.finalUrl = c.finalUrl
    unfold Course.finalUrl
    rw [hConclusion]

/-- A step of an unknown tag between two that press a key: three records, and
the calls of two steps. -/
theorem run_insert_unknown_lost :
    let press :=
      Instruction.make "press_global" [("key", .str "Enter"),
        ("optional", .bool true)]
    let dance :=
      Instruction.make "dance" [("selector", .str "#floor"),
        ("timeout", .num (.int 5))]
    let plain := run lost brief none [press, press] 0 ()
    let longer := run lost brief none [press, dance, press] 0 ()
    (Step.normalTag dance.tag ∉ Step.vocabulary ∧
        dance.flag "new_page" = false) ∧
      longer.calls = plain.calls ∧
      plain.calls = [(0, .launch), (0, .press none "Enter"),
        (0, .press none "Enter"), (0, .currentUrl), (brief.dwell, .close)] ∧
      (longer.report brief 3).success = (plain.report brief 2).success ∧
      (longer.report brief 3).records.map Record.account =
        [("press Enter on page", .skipped "gone"),
          ("unknown dance", .done "ignored unknown action 'dance'"),
          ("press Enter on page", .skipped "gone")] := by
  intro press dance plain longer
  have hTag : Step.normalTag dance.tag ∉ Step.vocabulary := by decide +kernel
  have hPage : dance.flag "new_page" = false := by decide +kernel
  obtain ⟨hCalls, -, -, hSuccess, -⟩ :=
    run_insert_unknown lost brief none [press] [press] hTag hPage nofun 0 ()
  exact ⟨⟨hTag, hPage⟩, hCalls, by decide +kernel, hSuccess, by decide +kernel⟩

/-- A browser that can be launched and can load addresses, and fails in
everything else. -/
def viewer : Browser Unit where
  perform
    | .launch, _, s | .goto _, _, s => .finish (.answer (.ok ())) s
    | _, _, s => .finish (.answer (.error (.plain "gone"))) s

/-- Two steps of an unknown tag that are not inert. Flagged to open a page,
such a step makes the session look for the page and fail; put in front of the
step that finds its address loaded, it makes the session load the address
again. -/
theorem unknown_step_acts :
    let dance := Instruction.make "dance" []
    let danceAway := Instruction.make "dance" [("new_page", .bool true)]
    let navigate := Instruction.make "navigate" [("url", .str "about:blank")]
    Step.normalTag dance.tag ∉ Step.vocabulary ∧
      Step.normalTag danceAway.tag ∉ Step.vocabulary ∧
      ((run viewer brief none [] 0 ()).calls =
          [(0, .launch), (0, .currentUrl), (brief.dwell, .close)] ∧
        ((run viewer brief none [] 0 ()).report brief 0).success = true ∧
        (run viewer brief none [danceAway] 0 ()).calls =
          [(0, .launch), (0, .adopt brief.newPageWait), (0, .currentUrl),
            (brief.dwell, .close)] ∧
        ((run viewer brief none [danceAway] 0 ()).report brief 1).success =
          false) ∧
      (run viewer brief (some "about:blank") [navigate] 0 ()).calls =
        [(0, .launch), (0, .goto "about:blank"), (0, .currentUrl),
          (brief.dwell, .close)] ∧
      (run viewer brief (some "about:blank") [dance, navigate] 0 ()).calls =
        [(0, .launch), (0, .goto "about:blank"), (0, .goto "about:blank"),
          (0, .currentUrl), (brief.dwell, .close)] := by
  decide +kernel

end Errand.Session
