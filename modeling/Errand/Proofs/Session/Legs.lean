import Errand.Proofs.Session.Steps
import Errand.Session.Report

/-!
# The legs of a session

A session is one dialogue, and its run is one trace. This file cuts the trace
into the part that opens the session and one **leg** for each step that was
begun: the step, its number, and the run of what there was to do for it. A leg
starts at the time and in the state in which the one before it ended, and
nothing else happens between them, so the trace of the steps is the legs'
traces one after the other, each followed by the record of its step.

The legs go on after a step that was done or that failed and is optional. They
stop behind a required step that failed, and behind one that the time limit or
the browser cut short; the latter has no record.

## Main results

* `play_driveFrom`, `play_drive`: the run of the steps is that of its legs.
* `legsFrom_shape`: every leg but the last one goes on, and the last one does
  so only if no step is left.
* `recordsOf_legs`: the records of a session are those of its legs.
-/

namespace Errand.Session

open Dialogue

variable {σ : Type}

/-- A step that was begun: its number, and the run of what there was to do for
it. -/
structure Leg (σ : Type) where
  index : Nat
  step : Step
  run : Run Call σ Entry String

namespace Leg

/-- How the step ended; nothing if it was cut short. -/
def result? (l : Leg σ) : Option StepResult :=
  match l.run.ending with
  | .done did => some (.done did)
  | .failed t =>
    some (if l.step.optional then .skipped t.full else .failed t.full)
  | .cutOff | .breakdown => none

/-- The record of the step, if it came to an end. -/
def record? (l : Leg σ) : Option Record :=
  l.result?.map fun result => ⟨l.index, l.step.describe, result⟩

/-- The session goes on after the step. -/
def goesOn (l : Leg σ) : Bool :=
  match l.run.ending with
  | .done _ => true
  | .failed _ => l.step.optional
  | .cutOff | .breakdown => false

/-- How a session ends whose last step this is. -/
def ending (l : Leg σ) : Ending Unit :=
  match l.run.ending with
  | .done _ => .done ()
  | .failed t =>
    if l.step.optional then .done ()
    else
      .failed
        (t.within ("step " ++ Decimal.text (l.index + 1) ++ " (" ++
          l.step.describe ++ ") failed"))
  | .cutOff => .cutOff
  | .breakdown => .breakdown

/-- What happened in the course of the step, and behind it its record. -/
def trace (l : Leg σ) : List (Happening Call Entry) :=
  l.run.trace ++ l.record?.toList.map fun record => .noted (.ended record)

/-! ### The ways for a step to end -/

theorem record?_of_done {l : Leg σ} {did : String}
    (h : l.run.ending = .done did) :
    l.record? = some ⟨l.index, l.step.describe, .done did⟩ := by
  simp only [record?, result?, h, Option.map_some]

theorem record?_of_optional {l : Leg σ} {t : Trouble}
    (h : l.run.ending = .failed t) (hOptional : l.step.optional = true) :
    l.record? = some ⟨l.index, l.step.describe, .skipped t.full⟩ := by
  simp only [record?, result?, h, hOptional, if_true, Option.map_some]

theorem record?_of_required {l : Leg σ} {t : Trouble}
    (h : l.run.ending = .failed t) (hRequired : l.step.optional = false) :
    l.record? = some ⟨l.index, l.step.describe, .failed t.full⟩ := by
  simp only [record?, result?, h, hRequired, if_false, Bool.false_eq_true,
    Option.map_some]

theorem record?_of_cut {l : Leg σ}
    (h : l.run.ending = .cutOff ∨ l.run.ending = .breakdown) :
    l.record? = none := by
  rcases h with hEnd | hEnd <;>
    simp only [record?, result?, hEnd, Option.map_none]

theorem trace_of_record? {l : Leg σ} {record : Record}
    (h : l.record? = some record) :
    l.trace = l.run.trace ++ [.noted (.ended record)] := by
  simp only [trace, h, Option.toList_some, List.map_cons, List.map_nil]

theorem trace_of_cut {l : Leg σ} (h : l.record? = none) :
    l.trace = l.run.trace := by
  simp only [trace, h, Option.toList_none, List.map_nil, List.append_nil]

theorem ending_of_goesOn {l : Leg σ} (h : l.goesOn = true) :
    l.ending = .done () := by
  unfold goesOn at h
  unfold ending
  cases hEnd : l.run.ending with
  | done did => rfl
  | failed t =>
      simp only [hEnd] at h
      simp only [h, if_true]
  | cutOff => simp only [hEnd, Bool.false_eq_true] at h
  | breakdown => simp only [hEnd, Bool.false_eq_true] at h

end Leg

/-- The legs of the steps from number `index` on. -/
def legsFrom (b : Browser σ) (o : Options) (deadline : Option Time) :
    (index : Nat) → (loaded : Option String) → List Step → Time → σ →
    List (Leg σ)
  | _, _, [], _, _ => []
  | index, loaded, step :: rest, now, s =>
    let l : Leg σ :=
      ⟨index, step, (stepTalk o loaded step).play b deadline now s⟩
    l ::
      if l.goesOn then
        legsFrom b o deadline (index + 1) none rest l.run.now l.run.state
      else []

/-- The run that legs make up, if they are begun at a time and in a state. -/
def runOf (now : Time) (s : σ) (legs : List (Leg σ)) :
    Run Call σ Entry Unit where
  ending := (legs.getLast?.map Leg.ending).getD (.done ())
  now := (legs.getLast?.map fun l => l.run.now).getD now
  state := (legs.getLast?.map fun l => l.run.state).getD s
  trace := legs.flatMap Leg.trace

/-! ## Cutting the run of the steps -/

/-- A leg that goes on stands in front of the run of those that follow it. -/
theorem runOf_cons {l : Leg σ} (hGoesOn : l.goesOn = true) (now : Time) (s : σ)
    (legs : List (Leg σ)) :
    runOf now s (l :: legs) = (runOf l.run.now l.run.state legs).preceded
      l.trace := by
  cases legs with
  | nil => simp [runOf, Run.preceded, Leg.ending_of_goesOn hGoesOn]
  | cons l' rest =>
      simp only [runOf, Run.preceded, List.getLast?_cons_cons,
        List.flatMap_cons]
      rw [List.getLast?_eq_some_getLast (List.cons_ne_nil l' rest)]
      rfl

theorem runOf_singleton (now : Time) (s : σ) (l : Leg σ) :
    runOf now s [l] = ⟨l.ending, l.run.now, l.run.state, l.trace⟩ := by
  simp only [runOf, List.getLast?_singleton, Option.map_some, Option.getD_some,
    List.flatMap_cons, List.flatMap_nil, List.append_nil]

/-- What is played behind a step: its record, and the rest of the steps if the
session goes on. -/
private def behind (o : Options) (index : Nat) (step : Step)
    (rest : List Step) :
    Except Trouble String → Talk Unit
  | .ok did =>
  .note (.ended ⟨index, step.describe, .done did⟩)
    (driveFrom o (index + 1) none rest)
  | .error t =>
    if step.optional then
      .note (.ended ⟨index, step.describe, .skipped t.full⟩)
        (driveFrom o (index + 1) none rest)
    else
      .note (.ended ⟨index, step.describe, .failed t.full⟩)
        (.fail
          (t.within ("step " ++ Decimal.text (index + 1) ++ " (" ++
              step.describe ++ ") failed")))

private theorem driveFrom_cons (o : Options) (index : Nat)
    (loaded : Option String) (step : Step) (rest : List Step) :
    driveFrom o index loaded (step :: rest) =
      (stepTalk o loaded step).attempt.bind (behind o index step rest) := by
  unfold driveFrom
  refine congrArg _ (funext fun r => ?_)
  cases r <;> rfl

/-- **The run of the steps is that of their legs.** The induction is on the
steps; a leg that goes on hands its time and state to the one after it, and
behind any other leg there is nothing left to play. -/
theorem play_driveFrom (b : Browser σ) (o : Options) (deadline : Option Time)
    (steps : List Step) (index : Nat) (loaded : Option String)
    (now : Time) (s : σ) :
    (driveFrom o index loaded steps).play b deadline now s =
      runOf now s (legsFrom b o deadline index loaded steps now s) := by
  induction steps generalizing index loaded now s with
  | nil => rfl
  | cons step rest ih =>
      obtain ⟨l, hl⟩ : ∃ l : Leg σ,
          l = ⟨index, step, (stepTalk o loaded step).play b deadline now s⟩ :=
        ⟨_, rfl⟩
      have hIndex : l.index = index := by rw [hl]
      have hStep : l.step = step := by rw [hl]
      have hLegs : legsFrom b o deadline index loaded (step :: rest) now s =
          l ::
            if l.goesOn then
              legsFrom b o deadline (index + 1) none rest l.run.now l.run.state
            else [] := by
        rw [hl]; rfl
      have hPlay : (driveFrom o index loaded (step :: rest)).play b
            deadline now s =
          l.run.caught.andThen fun r now s =>
            (behind o index step rest r).play b deadline now s := by
        rw [driveFrom_cons, play_bind, play_attempt, hl]
      rw [hLegs, hPlay]
      cases hEnd : l.run.ending with
      | done did =>
          have hGoesOn : l.goesOn = true := by simp only [Leg.goesOn, hEnd]
          rw [hGoesOn, if_pos rfl, runOf_cons hGoesOn, ← ih,
            Leg.trace_of_record? (Leg.record?_of_done hEnd),
            ← Run.preceded_preceded, hIndex, hStep]
          simp only [Run.caught, Run.andThen, hEnd]
          rfl
      | failed t =>
          cases hOptional : step.optional with
          | true =>
              have hGoesOn : l.goesOn = true := by
                simp only [Leg.goesOn, hEnd, hStep, hOptional]
              rw [hGoesOn, if_pos rfl, runOf_cons hGoesOn, ← ih,
                Leg.trace_of_record? (Leg.record?_of_optional hEnd
                  (hStep ▸ hOptional)),
                ← Run.preceded_preceded, hIndex, hStep]
              simp only [Run.caught, Run.andThen, hEnd, behind,
                hOptional, if_true]
              rfl
          | false =>
              have hStops : l.goesOn = false := by
                simp only [Leg.goesOn, hEnd, hStep, hOptional]
              rw [hStops, if_neg Bool.false_ne_true, runOf_singleton,
                Leg.trace_of_record? (Leg.record?_of_required hEnd
                  (hStep ▸ hOptional))]
              simp only [Run.caught, Run.andThen, hEnd, behind, hOptional,
                if_false, Leg.ending, hIndex, hStep, Bool.false_eq_true]
              rfl
      | cutOff =>
          have hStops : l.goesOn = false := by simp only [Leg.goesOn, hEnd]
          have hCut := Leg.record?_of_cut (.inl hEnd)
          rw [hStops, if_neg Bool.false_ne_true, runOf_singleton,
            Leg.trace_of_cut hCut]
          simp only [Run.caught, Run.andThen, hEnd, Leg.ending]
      | breakdown =>
          have hStops : l.goesOn = false := by simp only [Leg.goesOn, hEnd]
          have hCut := Leg.record?_of_cut (.inr hEnd)
          rw [hStops, if_neg Bool.false_ne_true, runOf_singleton,
            Leg.trace_of_cut hCut]
          simp only [Run.caught, Run.andThen, hEnd, Leg.ending]

/-! ## The order of the legs -/

section Order

variable (b : Browser σ) (o : Options) (deadline : Option Time)

theorem legsFrom_cons (index : Nat) (loaded : Option String) (step : Step)
    (rest : List Step) (now : Time) (s : σ) :
    ∃ l : Leg σ, l.index = index ∧ l.step = step ∧
      l.run = (stepTalk o loaded step).play b deadline now s ∧
      legsFrom b o deadline index loaded (step :: rest) now s =
        l ::
          if l.goesOn then
            legsFrom b o deadline (index + 1) none rest l.run.now l.run.state
          else [] :=
  ⟨⟨index, step, _⟩, rfl, rfl, rfl, rfl⟩

/-- Nothing comes after a leg that does not go on. -/
theorem goesOn_of_later {first : Leg σ} {later : List (Leg σ)}
    (h : (if first.goesOn then later else []) ≠ []) : first.goesOn = true := by
  cases hGoesOn : first.goesOn with
  | true => rfl
  | false =>
      rw [hGoesOn] at h
      exact absurd rfl h

/-- **Every leg but the last goes on.** Either all do, and then there is one
for every step, or the last one alone does not. -/
theorem legsFrom_shape (steps : List Step) (index : Nat)
    (loaded : Option String) (now : Time) (s : σ) :
    let legs := legsFrom b o deadline index loaded steps now s
    ((∀ l ∈ legs, l.goesOn = true) ∧ legs.length = steps.length) ∨
      ∃ before last, legs = before ++ [last] ∧ (∀ l ∈ before, l.goesOn = true) ∧
        last.goesOn = false ∧ legs.length ≤ steps.length := by
  induction steps generalizing index loaded now s with
  | nil => exact Or.inl ⟨fun l hl => (List.not_mem_nil hl).elim, rfl⟩
  | cons step rest ih =>
      obtain ⟨l, -, -, -, hLegs⟩ :=
        legsFrom_cons b o deadline index loaded step rest now s
      cases hGoesOn : l.goesOn with
      | false =>
          rw [hGoesOn, if_neg Bool.false_ne_true] at hLegs
          refine Or.inr ⟨[], l, hLegs, fun l hl => (List.not_mem_nil hl).elim,
            hGoesOn, ?_⟩
          rw [hLegs]
          exact Nat.succ_le_succ (Nat.zero_le _)
      | true =>
          rw [hGoesOn, if_pos rfl] at hLegs
          rw [hLegs]
          rcases ih (index + 1) none l.run.now l.run.state
            with ⟨hAll, hLength⟩ |
            ⟨before, last, hEq, hBefore, hLast, hLength⟩
          · exact Or.inl ⟨List.forall_mem_cons.mpr ⟨hGoesOn, hAll⟩,
              congrArg Nat.succ hLength⟩
          · refine Or.inr ⟨l :: before, last, by rw [hEq, List.cons_append],
              List.forall_mem_cons.mpr ⟨hGoesOn, hBefore⟩, hLast,
              Nat.succ_le_succ hLength⟩

/-- The legs are numbered like their steps. -/
theorem legsFrom_getElem? (steps : List Step) (index : Nat)
    (loaded : Option String) (now : Time) (s : σ) (k : Nat) (l : Leg σ)
    (h : (legsFrom b o deadline index loaded steps now s)[k]? = some l) :
    l.index = index + k ∧ steps[k]? = some l.step := by
  induction steps generalizing index loaded now s k with
  | nil => cases h
  | cons step rest ih =>
      obtain ⟨first, hIndex, hStep, -, hLegs⟩ :=
        legsFrom_cons b o deadline index loaded step rest now s
      rw [hLegs] at h
      cases k with
      | zero =>
          obtain rfl := Option.some.inj h
          exact ⟨hIndex, congrArg some hStep.symm⟩
      | succ k =>
          rw [List.getElem?_cons_succ] at h
          have hGoesOn :=
            goesOn_of_later (List.ne_nil_of_mem (List.mem_of_getElem? h))
          rw [if_pos hGoesOn] at h
          obtain ⟨hk, hRest⟩ :=
            ih (index + 1) none first.run.now first.run.state k h
          exact ⟨by omega, hRest⟩

/-- Every leg is the run of what there was to do for its step: the first from
where the legs begin, any other from where the one before it ended. -/
theorem legsFrom_run (steps : List Step) (index : Nat) (loaded : Option String)
    (now : Time) (s : σ) (k : Nat) (l : Leg σ)
    (h : (legsFrom b o deadline index loaded steps now s)[k]? = some l) :
    (k = 0 → l.run = (stepTalk o loaded l.step).play b deadline now s) ∧
      ∀ j previous, k = j + 1 →
        (legsFrom b o deadline index loaded steps now s)[j]? = some previous →
          l.run = (stepTalk o none l.step).play b deadline previous.run.now
            previous.run.state := by
  induction steps generalizing index loaded now s k with
  | nil => cases h
  | cons step rest ih =>
      obtain ⟨first, -, hStep, hRun, hLegs⟩ :=
        legsFrom_cons b o deadline index loaded step rest now s
      rw [hLegs] at h ⊢
      cases k with
      | zero =>
          obtain rfl := Option.some.inj h
          exact ⟨fun _ => by rw [hRun, hStep],
            fun j previous hj => absurd hj (Nat.succ_ne_zero j).symm⟩
      | succ k =>
          refine ⟨fun hk => absurd hk (Nat.succ_ne_zero k),
            fun j previous hj hPrevious => ?_⟩
          obtain rfl := Nat.succ.inj hj
          rw [List.getElem?_cons_succ] at h
          have hGoesOn :=
            goesOn_of_later (List.ne_nil_of_mem (List.mem_of_getElem? h))
          rw [if_pos hGoesOn] at h hPrevious
          obtain ⟨hZero, hSucc⟩ :=
            ih (index + 1) none first.run.now first.run.state k h
          cases k with
          | zero =>
              obtain rfl := Option.some.inj hPrevious
              exact hZero rfl
          | succ k => exact hSucc k previous rfl hPrevious

/-- What happens in the course of a leg stays on the page. -/
theorem legsFrom_onPage (steps : List Step) (index : Nat)
    (loaded : Option String) (now : Time) (s : σ) :
    ∀ l ∈ legsFrom b o deadline index loaded steps now s,
      ∀ h ∈ l.run.trace, h.Within OnPage IsCapture := by
  induction steps generalizing index loaded now s with
  | nil => intro l hl; cases hl
  | cons step rest ih =>
      obtain ⟨first, -, -, hRun, hLegs⟩ :=
        legsFrom_cons b o deadline index loaded step rest now s
      intro l hl
      rw [hLegs] at hl
      rcases List.mem_cons.mp hl with rfl | hLater
      · rw [hRun]
        exact (StaysOnPage.stepTalk o loaded step).play b deadline now s
      · rw [if_pos (goesOn_of_later (List.ne_nil_of_mem hLater))] at hLater
        exact ih (index + 1) none first.run.now first.run.state l hLater

end Order

/-! ## The run of a whole session -/

/-- What comes before the steps: the browser is launched, and the address to
start from is loaded.
-/
def opening (target : Option String) : Talk Unit := do
  call .launch
  enter .opened
  if let some url := target then call (.goto url)

/-- Loading the address to start from, if there is one. -/
def loadTarget : Option String → Talk Unit
  | some url => call (.goto url)
  | none => .done ()

theorem loadTarget_some (url : String) :
    loadTarget (some url) = .ask (.goto url) fun
      | .ok _ => .done ()
      | .error t => .fail t := by
  refine congrArg (Dialogue.ask (Call.goto url)) (funext fun r => ?_)
  cases r <;> rfl

theorem opening_eq (target : Option String) :
    opening target = .ask .launch fun
      | .ok _ => .note .opened (loadTarget target)
      | .error t => .fail t := by
  unfold opening
  refine congrArg (Dialogue.ask Call.launch) (funext fun r => ?_)
  cases r with
  | error t => rfl
  | ok u => cases target <;> rfl

/-- The run of what comes before the steps, under the time limit of the
session. -/
def openingRun (b : Browser σ) (o : Options) (target : Option String)
    (start : Time) (s : σ) : Run Call σ Entry Unit :=
  (opening target).play b (some (start + o.sessionTimeout)) start s

/-- The legs of a session; there are none if it could not be opened. -/
def legs (b : Browser σ) (o : Options) (target : Option String)
    (steps : List Step) (start : Time) (s : σ) : List (Leg σ) :=
  let opened := openingRun b o target start s
  match opened.ending with
  | .done _ =>
    legsFrom b o (some (start + o.sessionTimeout)) 0 target steps opened.now
      opened.state
  | _ => []

theorem legs_cases (b : Browser σ) (o : Options) (target : Option String)
    (steps : List Step) (start : Time) (s : σ) :
    let opened := openingRun b o target start s
    (opened.ending = .done () ∧
        legs b o target steps start s =
          legsFrom b o (some (start + o.sessionTimeout)) 0 target steps
            opened.now opened.state) ∨
      ((∀ a, opened.ending ≠ .done a) ∧
        legs b o target steps start s = []) := by
  intro opened
  cases hEnd : opened.ending with
  | done a => exact Or.inl ⟨rfl, by simp only [legs, opened, hEnd]⟩
  | failed t => exact Or.inr ⟨nofun, by simp only [legs, opened, hEnd]⟩
  | cutOff => exact Or.inr ⟨nofun, by simp only [legs, opened, hEnd]⟩
  | breakdown => exact Or.inr ⟨nofun, by simp only [legs, opened, hEnd]⟩

theorem drive_eq (o : Options) (target : Option String) (steps : List Step) :
    drive o target steps = (opening target).bind fun _ =>
      driveFrom o 0 target steps := by
  cases target with
  | none => exact (Dialogue.bind_assoc (call .launch) _ _).symm
  | some url =>
      exact (Dialogue.bind_assoc (call .launch)
          (fun _ => .note .opened (call (.goto url)))
        (fun _ => driveFrom o 0 (some url) steps)).symm

/-- **The run of a session is that of its opening and its legs.** -/
theorem play_drive (b : Browser σ) (o : Options) (target : Option String)
    (steps : List Step) (start : Time) (s : σ) :
    (drive o target steps).play b (some (start + o.sessionTimeout)) start s =
      (openingRun b o target start s).andThen fun _ now s =>
        runOf now s (legsFrom b o (some (start + o.sessionTimeout)) 0 target
            steps now s) := by
  rw [drive_eq, play_bind]
  refine congrArg _ (funext fun _ => funext fun now => funext fun s => ?_)
  exact play_driveFrom b o _ steps 0 target now s

/-- The trace of a session up to the end of its steps: that of the opening, and
then those of the legs. -/
theorem trace_play_drive (b : Browser σ) (o : Options) (target : Option String)
    (steps : List Step) (start : Time) (s : σ) :
    ((drive o target steps).play b (some (start + o.sessionTimeout)) start
      s).trace =
      (openingRun b o target start s).trace ++
        (legs b o target steps start s).flatMap Leg.trace := by
  rw [play_drive]
  rcases legs_cases b o target steps start s
    with ⟨hOpened, hLegs⟩ | ⟨hClosed, hLegs⟩
  · rw [Run.andThen_of_done hOpened, hLegs]
    rfl
  · rw [Run.trace_andThen_of_not_done hClosed, hLegs, List.flatMap_nil,
      List.append_nil]

/-! ## The records of a session -/

private theorem recordsOf_append (xs ys : List Entry) :
    recordsOf (xs ++ ys) = recordsOf xs ++ recordsOf ys := List.filterMap_append

/-- Nothing that happens on the page is a record. -/
theorem recordsOf_onPage {trace : List (Happening Call Entry)}
    (h : ∀ x ∈ trace, x.Within OnPage IsCapture) :
    recordsOf (trace.filterMap Happening.entry?) = [] := by
  unfold recordsOf
  rw [List.filterMap_filterMap, List.filterMap_eq_nil_iff]
  intro x hx
  have hWithin := h x hx
  cases x with
  | asked t q => rfl
  | noted e =>
      obtain ⟨path, rfl⟩ := hWithin
      rfl

/-- The opening makes no entry but that the browser is there. -/
theorem opening_confined (target : Option String) :
    (opening target).Confined (fun c => c = .launch ∨
      target.map Call.goto = some c)
      (· = .opened) := by
  refine Confined.bind (Confined.question (Or.inl rfl)) fun _ => ⟨rfl, ?_⟩
  cases target with
  | none => trivial
  | some url => exact Confined.question (Or.inr rfl)

theorem recordsOf_opening (b : Browser σ) (o : Options) (target : Option String)
    (start : Time) (s : σ) :
    recordsOf ((openingRun b o target start s).trace.filterMap
        Happening.entry?) = [] := by
  unfold recordsOf
  rw [List.filterMap_filterMap, List.filterMap_eq_nil_iff]
  intro x hx
  have hWithin :=
    (opening_confined target).play b (some (start + o.sessionTimeout))
      start s x hx
  cases x with
  | asked t q => rfl
  | noted e =>
      obtain rfl := hWithin
      rfl

/-- The record of a leg is the only one in its trace. -/
theorem Leg.recordsOf_trace {l : Leg σ}
    (h : ∀ x ∈ l.run.trace, x.Within OnPage IsCapture) :
    recordsOf (l.trace.filterMap Happening.entry?) = l.record?.toList := by
  unfold Leg.trace
  rw [List.filterMap_append, recordsOf_append, recordsOf_onPage h,
    List.nil_append]
  cases l.record? with
  | none => rfl
  | some record => rfl

theorem legs_onPage (b : Browser σ) (o : Options) (target : Option String)
    (steps : List Step) (start : Time) (s : σ) :
    ∀ l ∈ legs b o target steps start s, ∀ x ∈ l.run.trace,
    x.Within OnPage IsCapture := by
  rcases legs_cases b o target steps start s with ⟨-, hLegs⟩ | ⟨-, hLegs⟩
  · rw [hLegs]
    exact legsFrom_onPage b o _ steps 0 target _ _
  · rw [hLegs]
    intro l hl
    cases hl

/-- **The records of a session are those of its legs**, in their order. -/
theorem recordsOf_legs (b : Browser σ) (o : Options) (target : Option String)
    (steps : List Step) (start : Time) (s : σ) :
    recordsOf ((drive o target steps).play b (some (start + o.sessionTimeout))
      start s).entries =
      (legs b o target steps start s).filterMap Leg.record? := by
  have hLegs : ∀ ls : List (Leg σ),
      (∀ l ∈ ls, ∀ x ∈ l.run.trace, x.Within OnPage IsCapture) →
      recordsOf ((ls.flatMap Leg.trace).filterMap Happening.entry?) =
        ls.filterMap Leg.record? := by
    intro ls hls
    induction ls with
    | nil => rfl
    | cons l rest ih =>
        rw [List.flatMap_cons, List.filterMap_append, recordsOf_append,
          Leg.recordsOf_trace (hls l List.mem_cons_self),
          ih fun l' hl' => hls l' (List.mem_cons_of_mem l hl')]
        cases hRecord : l.record? with
        | none => rw [List.filterMap_cons_none hRecord]; rfl
        | some record => rw [List.filterMap_cons_some hRecord]; rfl
  rw [Run.entries_eq, trace_play_drive, List.filterMap_append, recordsOf_append,
    recordsOf_opening, List.nil_append]
  exact hLegs _ (legs_onPage b o target steps start s)

end Errand.Session
