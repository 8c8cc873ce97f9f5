import Errand.Proofs.Session.Opening

/-!
# What a session loads

A session loads addresses in two places. The opening loads the one to start
from, and each step that navigates loads its own when it is reached. The
opening and the first step are often about the same address, which is then
loaded once: the step finds it loaded and has nothing to do. That is so for the
first step only; behind it every step that navigates loads its address, loaded
before or not.

`Course.loads` are the addresses that were loaded in a session, one for each
call. They are told here by the steps that were reached, whatever the browser
answers and wherever the session ends.

## Main results

* `loads_stepTalk`: what a step loads.
* `loads_legsFrom`: what the steps load that are reached.
* `loads_run`: what a session loads.
* `records_run_loaded`: the record of a first step that finds its address
  loaded.
-/

namespace Errand

/-- The address that a call loads, if it loads one. -/
def Call.load? : Call → Option String
  | .goto url => some url
  | _ => none

namespace Session

open Dialogue

variable {σ : Type}

/-! ## Loads in a trace -/

/-- The address that was loaded, if one was. -/
def load? : Happening Call Entry → Option String
  | .asked _ c => c.load?
  | .noted _ => none

/-- The addresses that were loaded, in their order. -/
def loadsOf (trace : List (Happening Call Entry)) : List String :=
  trace.filterMap load?

theorem filterMap_cons_toList {α β : Type} (f : α → Option β) (a : α)
    (as : List α) : (a :: as).filterMap f = (f a).toList ++ as.filterMap f := by
  cases hFound : f a with
  | none => exact List.filterMap_cons_none hFound
  | some b => exact List.filterMap_cons_some hFound

theorem loadsOf_append (xs ys : List (Happening Call Entry)) :
    loadsOf (xs ++ ys) = loadsOf xs ++ loadsOf ys := List.filterMap_append

/-- A trace of calls that load nothing. -/
theorem loadsOf_eq_nil {trace : List (Happening Call Entry)}
    {asks : Call → Prop} {notes : Entry → Prop}
    (h : ∀ x ∈ trace, x.Within asks notes)
    (hAsks : ∀ c, asks c → c.load? = none) : loadsOf trace = [] := by
  apply List.filterMap_eq_nil_iff.mpr
  intro x hx
  have hWithin := h x hx
  cases x with
  | asked t c => exact hAsks c hWithin
  | noted e => rfl

theorem InPlace.load? {c : Call} (h : InPlace c) : c.load? = none := by
  cases c with
  | goto url => exact absurd rfl (h.2 url)
  | _ => rfl

section Play

variable (b : Browser σ) (o : Options) (deadline : Option Time)

/-- Behind a call that leaves the page where it is, only that call can have
loaded something. -/
theorem loads_ask {α : Type} {c : Call}
    {next : Except Trouble c.Answer → Talk α} (h : ∀ r, StaysPut (next r))
    (now : Time) (s : σ) :
    loadsOf ((Dialogue.ask c next).play b deadline now s).trace =
      c.load?.toList := by
  have hOnly : loadsOf [.asked now c] = c.load?.toList :=
    (filterMap_cons_toList Session.load? (.asked now c) []).trans
      (List.append_nil _)
  rw [play_ask]
  rcases (b.perform c now s).settle deadline now with ⟨reply, now', s'⟩
  rcases reply with _ | r | _
  · exact hOnly
  · have hNext := loadsOf_eq_nil ((h r).play b deadline now' s') fun _ =>
      InPlace.load?
    rw [Run.trace_preceded, loadsOf_append, hOnly, hNext, List.append_nil]
  · exact hOnly

/-! ## Steps -/

/-- A step loads the address that it navigates to, once, and nothing else. -/
theorem loads_perform (step : Step) (now : Time) (s : σ) :
    loadsOf ((step.perform o).play b deadline now s).trace =
      step.address?.toList := by
  cases hAddress : step.address? with
  | none =>
      have hStays :=
        (StaysPut.performKind o hAddress).bind (StaysPut.behindKind o step)
      exact loadsOf_eq_nil (hStays.play b deadline now s) fun _ => InPlace.load?
  | some url =>
      rw [perform_navigate o hAddress]
      apply loads_ask
      intro r
      cases r with
      | ok _ => exact StaysPut.behindKind o step _
      | error t => trivial

theorem isLoaded_iff {loaded : Option String} {step : Step} :
    isLoaded loaded step = true ↔ ∃ url, step.address? = some url ∧
    loaded = some url := by
  unfold isLoaded Step.address?
  cases step.kind with
  | navigate url => simp
  | _ => simp

/-- What a step loads when an address has just been loaded. -/
def loadsOfStep (loaded : Option String) (step : Step) : List String :=
  if isLoaded loaded step then [] else step.address?.toList

theorem loads_stepTalk (loaded : Option String) (step : Step)
    (now : Time) (s : σ) :
    loadsOf ((stepTalk o loaded step).play b deadline now s).trace =
      loadsOfStep loaded step := by
  unfold stepTalk loadsOfStep
  by_cases hLoaded : isLoaded loaded step = true
  · simp only [hLoaded, if_true]
    rfl
  · simp only [hLoaded, if_false, Bool.false_eq_true]
    exact loads_perform b o deadline step now s

/-- What steps load that are all reached, the first of them when an address has
just been loaded. -/
def loadsOfSteps (loaded : Option String) : List Step → List String
  | [] => []
  | first :: rest => loadsOfStep loaded first ++ rest.filterMap Step.address?

/-- Steps the first of which has something to do load all that they navigate
to. -/
theorem loadsOfSteps_of_not_loaded {loaded : Option String} {steps : List Step}
    (h : ∀ first ∈ steps.head?, isLoaded loaded first = false) :
    loadsOfSteps loaded steps = steps.filterMap Step.address? := by
  cases steps with
  | nil => rfl
  | cons first rest =>
      have hFirst : loadsOfStep loaded first = first.address?.toList :=
        if_neg (by rw [h first rfl]; exact Bool.false_ne_true)
      rw [filterMap_cons_toList]
      exact congrArg (· ++ rest.filterMap Step.address?) hFirst

theorem loadsOfSteps_none (steps : List Step) :
    loadsOfSteps none steps = steps.filterMap Step.address? :=
  loadsOfSteps_of_not_loaded fun first _ => isLoaded_none first

/-- A first step that finds its address loaded leaves the loading to the
others. -/
theorem loadsOfSteps_of_loaded {loaded : Option String} {steps : List Step}
    (h : ∀ first ∈ steps.head?, isLoaded loaded first = true) :
    loadsOfSteps loaded steps = steps.tail.filterMap Step.address? := by
  cases steps with
  | nil => rfl
  | cons first rest =>
      have hFirst : loadsOfStep loaded first = [] := if_pos (h first rfl)
      exact congrArg (· ++ rest.filterMap Step.address?) hFirst

/-- The record of a step loads nothing. -/
theorem Leg.loads_trace (l : Leg σ) :
    loadsOf l.trace = loadsOf l.run.trace := by
  have hRecord : loadsOf (l.record?.toList.map fun record =>
        .noted (.ended record)) = [] := by
    cases l.record? <;> rfl
  unfold trace
  rw [loadsOf_append, hRecord, List.append_nil]

/-- **What the steps load that are reached.** The induction is on the steps;
only the first of them can find its address loaded. -/
theorem loads_legsFrom (steps : List Step) (index : Nat)
    (loaded : Option String) (now : Time) (s : σ) :
    loadsOf ((legsFrom b o deadline index loaded steps now s).flatMap
      Leg.trace) =
      loadsOfSteps loaded ((legsFrom b o deadline index loaded steps now s).map
        Leg.step) := by
  induction steps generalizing index loaded now s with
  | nil => rfl
  | cons step rest ih =>
      obtain ⟨l, -, hStep, hRun, hLegs⟩ :=
        legsFrom_cons b o deadline index loaded step rest now s
      have hFirst : loadsOf l.trace = loadsOfStep loaded step := by
        rw [l.loads_trace, hRun]
        exact loads_stepTalk b o deadline loaded step now s
      rw [hLegs, List.flatMap_cons, List.map_cons, loadsOf_append,
        hFirst, hStep]
      refine congrArg (loadsOfStep loaded step ++ ·) ?_
      cases hGoesOn : l.goesOn with
      | false => rfl
      | true =>
          rw [if_pos rfl, ih (index + 1) none l.run.now l.run.state]
          exact loadsOfSteps_none _

end Play

/-! ## Whole sessions -/

/-- The steps of a session that are reached. -/
def reached (b : Browser σ) (o : Options) (target : Option String)
    (steps : List Step) (start : Time) (s : σ) : List Step :=
  (legs b o target steps start s).map Leg.step

section Session

variable (b : Browser σ) (o : Options) (target : Option String)

theorem legsFrom_initial (deadline : Option Time) (steps : List Step)
    (index : Nat) (loaded : Option String) (now : Time) (s : σ) :
    (legsFrom b o deadline index loaded steps now s).map Leg.step <+:
      steps := by
  induction steps generalizing index loaded now s with
  | nil => exact List.nil_prefix
  | cons step rest ih =>
      obtain ⟨l, -, hStep, -, hLegs⟩ :=
        legsFrom_cons b o deadline index loaded step rest now s
      rw [hLegs, List.map_cons, hStep]
      apply List.cons_prefix_cons.mpr
      refine ⟨rfl, ?_⟩
      cases l.goesOn with
      | false => exact List.nil_prefix
      | true => exact ih (index + 1) none l.run.now l.run.state

/-- The steps that are reached are the first ones of the session. -/
theorem reached_initial (steps : List Step) (start : Time) (s : σ) :
    reached b o target steps start s <+: steps := by
  unfold reached
  rcases legs_cases b o target steps start s with ⟨-, hLegs⟩ | ⟨-, hLegs⟩
  · rw [hLegs]
    exact legsFrom_initial b o _ steps 0 target _ _
  · rw [hLegs]
    exact List.nil_prefix

theorem reached_of_unopened {steps : List Step} {start : Time} {s : σ}
    (h : ∀ u, (openingRun b o target start s).ending ≠ .done u) :
    reached b o target steps start s = [] := by
  unfold reached
  rcases legs_cases b o target steps start s with ⟨hDone, -⟩ | ⟨-, hLegs⟩
  · exact absurd hDone (h ())
  · rw [hLegs]
    rfl

/-- What is loaded behind the opening. -/
theorem loads_legs (steps : List Step) (start : Time) (s : σ) :
    loadsOf ((legs b o target steps start s).flatMap Leg.trace) =
      loadsOfSteps target (reached b o target steps start s) := by
  unfold reached
  rcases legs_cases b o target steps start s with ⟨-, hLegs⟩ | ⟨-, hLegs⟩
  · rw [hLegs]
    exact loads_legsFrom b o _ steps 0 target _ _
  · rw [hLegs]
    rfl

/-- **The opening** loads the address to start from if the browser is there. If
it is not, the opening is over. -/
theorem loads_openingRun (start : Time) (s : σ) :
    let r := openingRun b o target start s
    (Entry.opened ∈ r.entries ∧ loadsOf r.trace = target.toList) ∨
      (Entry.opened ∉ r.entries ∧ loadsOf r.trace = [] ∧
        ∀ u, r.ending ≠ .done u) := by
  intro r
  rcases hSettled : (b.perform .launch start s).settle
    (some (start + o.sessionTimeout)) start with
    ⟨reply, now₁, s₁⟩
  by_cases hThere : ∃ u, reply = some (.answer (.ok u))
  · obtain ⟨u, rfl⟩ := hThere
    have hRun : r = _ := openingRun_of_launched hSettled
    have hTarget :
        loadsOf ((loadTarget target).play b (some (start + o.sessionTimeout))
          now₁ s₁).trace =
        target.toList := by
      cases target with
      | none => rfl
      | some url =>
          rw [loadTarget_some]
          apply loads_ask
          intro r
          cases r <;> trivial
    left
    rw [hRun, Run.entries_eq, Run.trace_preceded, List.filterMap_append,
      loadsOf_append, hTarget]
    exact ⟨List.mem_append_left _ List.mem_cons_self, rfl⟩
  · right
    have hNot :
        ∀ u,
        ((b.perform .launch start s).settle (some (start + o.sessionTimeout))
          start).reply ≠
        some (.answer (.ok u)) := by
      intro u hReply
      rw [hSettled] at hReply
      exact hThere ⟨u, hReply⟩
    obtain ⟨hTrace, hEnd⟩ := @openingRun_of_unlaunched σ b o target start s hNot
    rw [Run.entries_eq, hTrace]
    exact ⟨List.not_mem_nil, rfl, hEnd⟩

/-- Nothing behind the opening says that the browser is there. -/
theorem opened_mem_steps_iff (steps : List Step) (start : Time) (s : σ) :
    Entry.opened ∈ (course b o target steps start s).steps.entries ↔
      Entry.opened ∈ (openingRun b o target start s).entries := by
  have hLegs :
      Entry.opened ∉
        ((legs b o target steps start s).flatMap Leg.trace).filterMap
      Happening.entry? := by
    intro hMem
    obtain ⟨x, hx, hEntry⟩ := List.mem_filterMap.mp hMem
    obtain ⟨l, hl, hLeg⟩ := List.mem_flatMap.mp hx
    rcases List.mem_append.mp hLeg with hRun | hRecord
    · have hWithin := legs_onPage b o target steps start s l hl x hRun
      cases x with
      | asked t c => cases hEntry
      | noted e =>
          obtain rfl := Option.some.inj hEntry
          obtain ⟨path, hPath⟩ := hWithin
          cases hPath
    · obtain ⟨record, -, rfl⟩ := List.mem_map.mp hRecord
      cases hEntry
  rw [steps_course, Run.entries_eq, Run.entries_eq, trace_play_drive,
    List.filterMap_append, List.mem_append]
  exact or_iff_left hLegs

end Session

/-- The addresses that were loaded in a session, one for each call. -/
def Course.loads (c : Course σ) : List String := loadsOf c.trace

/-- **What a session loads.** If the browser is there, the address to start
from is loaded, and then one for each step that is reached and navigates, but
for a first one that finds its address loaded. If it is not, nothing is loaded
and no step is reached. -/
theorem loads_run (b : Browser σ) (o : Options) (target : Option String)
    (instructions : List Instruction) (start : Time) (s : σ) :
    let c := run b o target instructions start s
    let steps :=
      reached b o target (instructions.map Step.ofInstruction) start s
    (Entry.opened ∈ c.steps.entries →
        c.loads = target.toList ++ loadsOfSteps target steps) ∧
      (Entry.opened ∉ c.steps.entries → c.loads = [] ∧ steps = []) := by
  intro c steps
  let opened := openingRun b o target start s
  have hConclusion : loadsOf ((c.conclusion.map Run.trace).getD []) = [] := by
    apply loadsOf_eq_nil (conclusion_course b o target
        (instructions.map Step.ofInstruction) start s)
    rintro call (rfl | rfl) <;> rfl
  have hLoads : c.loads = loadsOf opened.trace ++
        loadsOfSteps target steps := by
    have hTrace : c.steps.trace = opened.trace ++ _ :=
      (congrArg Run.trace (steps_course b o target _ start s)).trans
        (trace_play_drive b o target
          (instructions.map Step.ofInstruction) start s)
    show loadsOf (c.steps.trace ++ _) = _
    rw [loadsOf_append, hConclusion, hTrace, loadsOf_append, loads_legs,
      List.append_nil]
  have hThere : Entry.opened ∈ c.steps.entries ↔
      Entry.opened ∈ opened.entries :=
    opened_mem_steps_iff b o target _ start s
  rw [hThere, hLoads]
  rcases loads_openingRun b o target start s with
      ⟨hIs, hOpening⟩ | ⟨hNot, hOpening, hEnd⟩
  · exact ⟨fun _ => congrArg (· ++ _) hOpening, fun h => absurd hIs h⟩
  · refine ⟨fun h => absurd h hNot, fun _ => ?_⟩
    have hNone : steps = [] := reached_of_unopened b o target hEnd
    rw [hNone]
    exact ⟨congrArg (· ++ _) hOpening, rfl⟩

/-- A first step that finds its address loaded is recorded so. -/
theorem records_run_loaded (b : Browser σ) (o : Options)
    {target : Option String} {first : Instruction}
    (hLoaded : isLoaded target (Step.ofInstruction first) = true)
    (rest : List Instruction) (start : Time) (s : σ)
    (hReached : reached b o target ((first :: rest).map Step.ofInstruction)
      start s ≠ []) :
    ((run b o target (first :: rest) start s).report o
      (first :: rest).length).records[0]? =
      some ⟨0, (Step.ofInstruction first).describe,
        .done "already loaded"⟩ := by
  obtain ⟨hAccount, -, -, hChained⟩ :=
    run_account b o target (first :: rest) start s
  unfold reached at hReached
  obtain ⟨l, ls, hLegs⟩ :=
    List.exists_cons_of_ne_nil (mt List.map_eq_nil_iff.mpr hReached)
  have hFirst :
      (legs b o target ((first :: rest).map Step.ofInstruction) start s)[0]? =
        some l := by
    rw [hLegs]
    rfl
  have hStep : l.step = Step.ofInstruction first :=
    (Option.some.inj (hAccount.numbered 0 l hFirst).2).symm
  have hRun := (hChained 0 l hFirst).1 rfl
  have hEnd : l.run.ending = .done "already loaded" := by
    rw [hRun, hStep, stepTalk, if_pos hLoaded]
    rfl
  rw [← hStep]
  exact (hAccount.done 0 l _ hFirst hEnd).1

end Session

end Errand
