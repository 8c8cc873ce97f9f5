import Errand.Proofs.Dialogue.Deadline
import Errand.Proofs.Session.Looks
import Errand.Session.Performance

/-!
# Steps with several candidates

A step that clicks an element or waits for one may name several selectors. This
file says what such a step does, for every browser, however its elements change
and however long its calls take. A `Trial` is what happened to one candidate:
the looks at it, over its own window. A trial ends with success as soon as a
look finds the element in the wanted state; it ends in vain with the first look
that is answered when the candidate's share of the step's time is over, and not
before.

The candidates are tried one after the other in their order. The first trial
that succeeds commits the step: what follows is about that candidate and no
other, even if it fails.

## Main results

* `play_firstSuccessFrom`: the trials of candidates, in order.
* `play_resolve`: how a step settles for a candidate.
* `commits_to_first`: everything that a step with candidates looks at and
  clicks.
-/

namespace Errand

variable {Q : Type} {A : Q → Type} {σ ε α β : Type}

namespace Run.Concluded

/-- A run that goes on after another one concludes only if that one does. -/
theorem of_andThen {r : Run Q σ ε α} {k : α → Time → σ → Run Q σ ε β}
    (h : (r.andThen k).Concluded) : r.Concluded := by
  unfold Run.andThen at h
  constructor <;> intro hEnd <;> simp only [hEnd] at h
  · exact h.1 rfl
  · exact h.2 rfl

theorem of_caught {r : Run Q σ ε α} (h : r.caught.Concluded) : r.Concluded := by
  unfold Run.caught at h
  constructor <;> intro hEnd <;> simp only [hEnd] at h
  · exact h.1 rfl
  · exact h.2 rfl

end Run.Concluded

namespace Session

open Dialogue

/-! ## Trials -/

/-- The trial of a candidate: when it began, and its looks, the last of which
ended it. -/
structure Trial where
  candidate : String
  began : Time
  earlier : List (Look ElementState)
  last : Look ElementState

namespace Trial

/-- All looks of the trial. -/
def looks (t : Trial) : List (Look ElementState) := t.earlier ++ [t.last]

/-- What is in a trace of the trial: probes of the candidate. -/
def trace (t : Trial) : List (Happening Call Entry) :=
  t.looks.map fun l => .asked l.asked (.probe t.candidate)

/-- What is said of the candidate if the trial was in vain. -/
def rejection (wanted : WaitState) (share : Duration) (t : Trial) : String :=
  t.candidate ++ ": " ++ (stateLate t.candidate wanted share
      (t.looks.map Look.reply)).message

/-- The browser was probed for the candidate, over and over from one state to
the other. Every look but the last was answered before the candidate's share of
time was over, and did not find what is wanted. -/
structure Ran (b : Browser σ) (wanted : WaitState) (share poll : Duration)
    (t : Trial) (s s' : σ) : Prop where
  looks : Looks b (.probe t.candidate) poll t.began s t.looks s'
  missed : ∀ l ∈ t.earlier, wanted.verdict l.reply = none ∧
    l.answered < t.began + share

/-- The trial found the candidate in the wanted state at its last look. -/
structure Succeeded (b : Browser σ) (wanted : WaitState) (share poll : Duration)
    (t : Trial) (s s' : σ) : Prop extends t.Ran b wanted share poll s s' where
  met : ∃ state, t.last.reply = .ok state ∧ wanted.holds state = true

/-- The trial was in vain at every look, the last of which was answered when
the share was over. -/
structure Failed (b : Browser σ) (wanted : WaitState) (share poll : Duration)
    (t : Trial) (s s' : σ) : Prop extends t.Ran b wanted share poll s s' where
  unmet : wanted.verdict t.last.reply = none
  due : t.began + share ≤ t.last.answered

end Trial

/-- Trials in vain, one right after the other, from a time and a state on. -/
inductive Rejections (b : Browser σ) (wanted : WaitState)
    (share poll : Duration) : Time → σ → List Trial → Time → σ → Prop where
  | nil {now : Time} {s : σ} : Rejections b wanted share poll now s [] now s
  | cons {s s' s'' : σ} {t : Trial} {rest : List Trial} {now'' : Time}
      (hFailed : t.Failed b wanted share poll s s')
      (hRest : Rejections b wanted share poll t.last.answered s' rest
        now'' s'') :
      Rejections b wanted share poll t.began s (t :: rest) now'' s''

/-- Of these candidates some were rejected, in their order, and the next was
chosen: its trial began when the last of the others had ended, and it
succeeded. -/
structure Chosen (b : Browser σ) (wanted : WaitState) (share poll : Duration)
    (candidates : List String) (now : Time) (s : σ) (rejected : List Trial)
    (chosen : Trial) (s' : σ) : Prop where
  listed : rejected.map Trial.candidate ++ [chosen.candidate] <+: candidates
  tried : ∃ between, Rejections b wanted share poll now s rejected
    chosen.began between ∧
    chosen.Succeeded b wanted share poll between s'

/-- What is said if no candidate was chosen: every candidate with the reason of
its rejection, in order. -/
def noneChosen (wanted : WaitState) (share : Duration) (rejected : List Trial) :
    Trouble :=
  .plain ("no candidate resolved [" ++
    "; ".intercalate (rejected.map (Trial.rejection wanted share)) ++ "]")

/-! ## Trying candidates -/

theorem WaitState.verdict_eq_some {wanted : WaitState}
    {r : Except Trouble ElementState} {outcome : Except Trouble Unit}
    (h : wanted.verdict r = some outcome) :
    outcome = .ok () ∧ ∃ state, r = .ok state ∧ wanted.holds state = true := by
  cases r with
  | error t => cases h
  | ok state =>
      unfold WaitState.verdict at h
      by_cases hHolds : wanted.holds state = true
      · simp only [hHolds, if_true] at h
        exact ⟨(Option.some.inj h).symm, state, rfl, hHolds⟩
      · simp only [hHolds, if_false, reduceCtorEq, Bool.false_eq_true] at h

section Browser

variable {b : Browser σ} {wanted : WaitState} {share poll : Duration}

/-- The run of a wait for a candidate is a trial of it, which either succeeds
or is in vain. -/
theorem play_trial (hPoll : 0 < poll) (candidate : String) (now : Time) (s : σ)
    (hEnd : ((awaitState candidate wanted share poll : Talk Unit).play b
        none now s).Concluded) :
    ∃ (t : Trial) (s' : σ), (t.candidate = candidate ∧ t.began = now) ∧
      (t.Succeeded b wanted share poll s s' ∧
          (awaitState candidate wanted share poll : Talk Unit).play b
            none now s =
            ⟨.done (), t.last.answered, s', t.trace⟩ ∨
        t.Failed b wanted share poll s s' ∧
          (awaitState candidate wanted share poll : Talk Unit).play b
            none now s =
            ⟨.failed (stateLate candidate wanted share
                (t.looks.map Look.reply)), t.last.answered, s', t.trace⟩) := by
  obtain ⟨earlier, last, hPolled⟩ :=
    play_awaitState hPoll candidate wanted rfl hEnd
  obtain ⟨hLooks, hTrace, hNow, hPassed, hEnding, hDue⟩ := hPolled
  generalize (awaitState candidate wanted share poll : Talk Unit).play b
    none now s = run at *
  obtain ⟨ending, _, s', _⟩ := run
  refine ⟨⟨candidate, now, earlier, last⟩, s', ⟨rfl, rfl⟩, ?_⟩
  dsimp only at hNow hTrace hEnding hLooks
  subst hNow hTrace
  cases hVerdict : wanted.verdict last.reply with
  | none =>
      rw [hVerdict] at hEnding
      subst hEnding
      exact .inr ⟨⟨⟨hLooks, hPassed⟩, hVerdict, hDue hVerdict⟩, rfl⟩
  | some outcome =>
      obtain ⟨rfl, hMet⟩ := WaitState.verdict_eq_some hVerdict
      rw [hVerdict] at hEnding
      subst hEnding
      exact .inl ⟨⟨⟨hLooks, hPassed⟩, hMet⟩, rfl⟩

/-- **Candidates are tried in order, up to the first that succeeds.** The
induction is on the candidates; each trial begins when the one before it has
ended. -/
theorem play_firstSuccessFrom (hPoll : 0 < poll) (candidates : List String)
    (index : Nat) (reasons : List String) {now : Time} {s : σ}
    {run : Run Call σ Entry (Nat × Unit)}
    (hRun : (firstSuccessFrom (fun c => awaitState c wanted share poll) index
        reasons candidates).play
      b none now s = run) (hEnd : run.Concluded) :
    (∃ rejected chosen s', Chosen b wanted share poll candidates now s rejected
      chosen s' ∧
        run = ⟨.done (index + rejected.length, ()), chosen.last.answered, s',
          rejected.flatMap Trial.trace ++ chosen.trace⟩) ∨
      ∃ rejected now' s', Rejections b wanted share poll now s
        rejected now' s' ∧
        candidates = rejected.map Trial.candidate ∧
        run = ⟨.failed (.plain ("no candidate resolved [" ++ "; ".intercalate
            (reasons.reverse ++ rejected.map (Trial.rejection wanted share)) ++
              "]")),
          now', s', rejected.flatMap Trial.trace⟩ := by
  induction candidates generalizing index reasons now s run with
  | nil =>
      refine .inr ⟨[], now, s, .nil, rfl, ?_⟩
      rw [List.map_nil, List.append_nil]
      exact hRun.symm
  | cons c rest ih =>
      rw [firstSuccessFrom, play_bind, play_attempt] at hRun
      subst hRun
      obtain ⟨t, s', ⟨rfl, rfl⟩, ⟨hTrial, hRun⟩ | ⟨hTrial, hRun⟩⟩ :=
        play_trial hPoll c now s hEnd.of_andThen.of_caught
      · refine .inl ⟨[], t, s', ⟨⟨rest, rfl⟩, s, .nil, hTrial⟩, ?_⟩
        simp [hRun, Run.andThen, Run.caught, play, Run.preceded]
      · rw [hRun] at hEnd ⊢
        obtain ⟨rejected, chosen, s'',
            ⟨hListed, between, hRejections, hSucceeded⟩, hRest⟩ |
            ⟨rejected, now'', s'', hRejections, rfl, hRest⟩ :=
          ih (index + 1) (t.rejection wanted share :: reasons) rfl hEnd
        · refine .inl ⟨t :: rejected, chosen, s'',
            ⟨(List.prefix_cons_inj t.candidate).mpr hListed, between,
              .cons hTrial hRejections, hSucceeded⟩,
            (congrArg (Run.preceded _) hRest).trans ?_⟩
          simp [Run.preceded, Run.caught, Nat.add_assoc, Nat.add_comm 1]
        · refine .inr ⟨t :: rejected, now'', s'', .cons hTrial hRejections, rfl,
            (congrArg (Run.preceded _) hRest).trans ?_⟩
          simp [Run.preceded, Run.caught]

/-- **How a step settles for a candidate.** -/
theorem play_resolve {o : Options} (hPoll : 0 < o.poll) (step : Step)
    (candidates : List String) (wanted : WaitState) (now : Time) (s : σ)
    (hEnd : ((step.resolve o candidates wanted).play b none now s).Concluded) :
    let share := candidateShare o (step.limit o) candidates.length
    (∃ rejected chosen s', Chosen b wanted share o.poll candidates now s
        rejected chosen s' ∧
        (step.resolve o candidates wanted).play b none now s =
          ⟨.done chosen.candidate, chosen.last.answered, s',
            rejected.flatMap Trial.trace ++ chosen.trace⟩) ∨
      ∃ rejected now' s', Rejections b wanted share o.poll now s
        rejected now' s' ∧
        candidates = rejected.map Trial.candidate ∧
        (step.resolve o candidates wanted).play b none now s =
          ⟨.failed (noneChosen wanted share rejected), now', s',
            rejected.flatMap Trial.trace⟩ := by
  intro share
  have hResolve : (step.resolve o candidates wanted).play b none now s =
      ((firstSuccessFrom (fun c => awaitState c wanted share o.poll) 0
          [] candidates : Talk _).play
        b none now s).andThen fun found now s =>
          ⟨.done (candidates.getD found.1 ""), now, s, []⟩ :=
    play_bind b none _ _ now s
  rw [hResolve] at hEnd ⊢
  rcases play_firstSuccessFrom hPoll candidates 0 [] rfl hEnd.of_andThen with
    ⟨rejected, chosen, s', hChosen, hRun⟩ | ⟨rejected, now', s', hRejections,
      hAll, hRun⟩
  · have hFound : candidates.getD rejected.length "" = chosen.candidate := by
      obtain ⟨rest, hRest⟩ := hChosen.listed
      simp [← hRest]
    refine .inl ⟨rejected, chosen, s', hChosen, ?_⟩
    rw [hRun, Run.andThen_of_done rfl]
    simp only [Nat.zero_add, hFound, Run.preceded, List.append_nil]
  · refine .inr ⟨rejected, now', s', hRejections, hAll, ?_⟩
    rw [hRun]
    rfl

end Browser

/-! ## Steps with candidates -/

/-- What a step with candidates is about: the candidates, the state that one of
them has to be in, and whether that one is then clicked. -/
structure Choice where
  candidates : List String
  wanted : WaitState
  clicks : Bool
deriving DecidableEq, Repr

end Session

namespace Step

open Session Dialogue

/-- What the step is about, if it is one with candidates. -/
def choice? (step : Step) : Option Choice :=
  match step.kind with
  | .click selectors => some ⟨selectors, .visible, true⟩
  | .wait selectors state => some ⟨selectors, state, false⟩
  | .video .clickPlay => some ⟨playControls, .visible, true⟩
  | _ => none

/-- What a step goes on with when it has done something: it follows a new page
if it is flagged to. -/
def goOn (o : Options) (step : Step) (did : String) : Talk String :=
  if step.newPage then followNewPage o did else .done did

/-- What a step does about the candidate that was chosen. -/
def useChosen (o : Options) (step : Step) (clicks : Bool)
    (chosen did : String) : Talk String :=
  if clicks then (call (.click chosen)).bind fun _ => step.goOn o did
  else step.goOn o did

/-- A step with candidates settles for one of them and then does something
about that one. -/
theorem perform_of_choice {o : Options} {step : Step} {choice : Choice}
    (h : step.choice? = some choice) :
    ∃ note : String → String, step.perform o =
      (step.resolve o choice.candidates choice.wanted).bind fun chosen =>
        step.useChosen o choice.clicks chosen (note chosen) := by
  have hPerform : step.perform o = (step.performKind o).bind (step.goOn o) :=
    rfl
  have hClick : ∀ (candidates : List String) (note : String → String),
      ((step.resolve o candidates .visible).bind fun chosen =>
          (call (.click chosen)).bind fun _ =>
            .done (note chosen)).bind (step.goOn o) =
        (step.resolve o candidates .visible).bind fun chosen =>
          step.useChosen o true chosen (note chosen) :=
    fun candidates note => (Dialogue.bind_assoc _ _ _).trans
      (congrArg _ (funext fun chosen => Dialogue.bind_assoc _ _ _))
  unfold choice? at h
  split at h
  · next selectors hKind =>
      obtain rfl := Option.some.inj h
      refine ⟨("clicked " ++ ·), ?_⟩
      rw [hPerform, performKind, hKind]
      exact hClick selectors _
  · next selectors state hKind =>
      obtain rfl := Option.some.inj h
      refine ⟨(· ++ " is " ++ state.name), ?_⟩
      rw [hPerform, performKind, hKind]
      exact Dialogue.bind_assoc _ _ _
  · next hKind =>
      obtain rfl := Option.some.inj h
      refine ⟨("clicked play control " ++ ·), ?_⟩
      rw [hPerform, performKind, hKind]
      exact hClick playControls _
  · cases h

end Step

/-- The element that a call probes or clicks, if it does. -/
def Call.element? : Call → Option String
  | .probe selector | .click selector => some selector
  | _ => none

namespace Session

open Dialogue

/-- No element is probed or clicked, and nothing is noted. -/
def LeavesElements (trace : List (Happening Call Entry)) : Prop :=
  ∀ x ∈ trace, x.Within (fun c => c.element? = none) fun _ => False

/-- What is done about the candidate that was chosen. A step that clicks clicks
it, once; if the click fails the step fails with it, and there is nothing more.
No other element is probed or clicked. -/
def Uses (b : Browser σ) (clicks : Bool) (chosen : String) (now : Time) (s : σ)
    (trace : List (Happening Call Entry)) (ending : Ending String) : Prop :=
  if clicks then
    ∃ reply now' s' rest,
      (b.perform (.click chosen) now s).settle none now =
        ⟨some (.answer reply), now', s'⟩ ∧
        trace = .asked now (.click chosen) :: rest ∧ LeavesElements rest ∧
        ∀ t, reply = .error t → rest = [] ∧ ending = .failed t
  else LeavesElements trace

theorem leavesElements_goOn (b : Browser σ) (o : Options) (step : Step)
    (did : String) (now : Time) (s : σ) :
    LeavesElements ((step.goOn o did).play b none now s).trace := by
  refine Confined.play ?_ b none now s
  unfold Step.goOn
  split
  · refine Confined.bind (Confined.question rfl) fun adopted => ?_
    cases adopted with
    | false => trivial
    | true => exact Confined.bind (Confined.tried rfl) fun _ => trivial
  · trivial

theorem uses_useChosen {b : Browser σ} (o : Options) (step : Step)
    (clicks : Bool) (chosen did : String) {now : Time} {s : σ}
    {run : Run Call σ Entry String}
    (hRun : (step.useChosen o clicks chosen did).play b none now s = run)
    (hEnd : run.Concluded) :
    Uses b clicks chosen now s run.trace run.ending := by
  subst hRun
  cases clicks with
  | false => exact leavesElements_goOn b o step did now s
  | true =>
      have hPlay : (step.useChosen o true chosen did).play b none now s =
          (Dialogue.ask (Call.click chosen) fun
            | .ok _ => step.goOn o did
            | .error t => .fail t).play b none now s := by
        refine congrArg (fun d : Talk String => d.play b none now s) ?_
        refine congrArg (Dialogue.ask (Call.click chosen)) (funext fun r => ?_)
        cases r <;> rfl
      rw [hPlay, play_ask] at hEnd ⊢
      obtain ⟨reply, now', s', hSettled⟩ :=
        (b.perform (.click chosen) now s).exists_settle_none now
      rw [hSettled] at hEnd ⊢
      rcases reply with (t | u) | _
      · exact ⟨.error t, now', s', [], hSettled, rfl, nofun,
          fun t' h => by cases h; exact ⟨rfl, rfl⟩⟩
      · exact ⟨.ok u, now', s', _, hSettled, rfl,
          leavesElements_goOn b o step did now' s', nofun⟩
      · exact absurd rfl hEnd.2

/-- **A step with candidates commits itself to the first that resolves.**
Unless the session's time runs out, the candidates are tried in their order,
each until it is in the wanted state or its share of the step's time is over.
With the first trial that succeeds the step is committed: all that it still
does is to click that candidate if it is a step that clicks. If that fails the
step fails; no candidate behind is ever probed or clicked. If no trial succeeds
nothing is clicked, and the step fails with a message that gives every
candidate in order. -/
theorem commits_to_first (b : Browser σ) (o : Options) (hPoll : 0 < o.poll)
    (step : Step) {choice : Choice} (hChoice : step.choice? = some choice)
    (deadline : Option Time) (now : Time) (s : σ)
    (hEnd : ((step.perform o).play b deadline now s).Concluded) :
    let share := candidateShare o (step.limit o) choice.candidates.length
    let run := (step.perform o).play b deadline now s
    (∃ rejected chosen s' later,
        Chosen b choice.wanted share o.poll choice.candidates now s rejected
          chosen s' ∧
        run.trace = rejected.flatMap Trial.trace ++ chosen.trace ++ later ∧
        Uses b choice.clicks chosen.candidate chosen.last.answered s' later
          run.ending) ∨
      ∃ rejected now' s', Rejections b choice.wanted share o.poll now s
        rejected now' s' ∧
        choice.candidates = rejected.map Trial.candidate ∧
        run = ⟨.failed (noneChosen choice.wanted share rejected), now', s',
          rejected.flatMap Trial.trace⟩ := by
  intro share run
  obtain ⟨note, hPerform⟩ := Step.perform_of_choice (o := o) hChoice
  have hRun :
      run =
        ((step.resolve o choice.candidates choice.wanted).play b none now
          s).andThen fun chosen now s =>
            (step.useChosen o choice.clicks chosen (note chosen)).play b
              none now s := by
    rw [← play_bind, ← hPerform]
    exact play_of_ne_cutOff b _ hEnd.1
  change run.Concluded at hEnd
  rw [hRun] at hEnd ⊢
  rcases play_resolve hPoll step choice.candidates choice.wanted now s
    hEnd.of_andThen with
    ⟨rejected, chosen, s', hChosen, hResolve⟩ | ⟨rejected, now', s',
      hRejections, hAll, hResolve⟩
  · rw [hResolve] at hEnd ⊢
    exact .inl ⟨rejected, chosen, s', _, hChosen, rfl,
      uses_useChosen o step _ _ _ rfl hEnd⟩
  · rw [hResolve]
    exact .inr ⟨rejected, now', s', hRejections, hAll, rfl⟩

/-- A page with three buttons. The second comes up between the first and the
second look at it, the third is there from the beginning, and both are covered,
so that they cannot be clicked. -/
def crowded : Browser Nat where
  perform
    | .probe selector, _, n =>
      if selector = "#b" then
        .finish (.answer (.ok (if n = 0 then .hidden else .visible))) (n + 1)
      else
        .finish (.answer (.ok (if selector = "#c" then .visible else .hidden)))
          n
    | _, _, n => .finish (.answer (.error (.plain "covered"))) n

open Duration in
/-- A step that may click any of the three has 450 ms, 150 ms for each of them.
It looks at the first button for its share, commits itself to the second at the
second look, and fails with the click. The third is never looked at. -/
theorem commits_to_first_crowded :
    let step := Step.ofInstruction
      (Instruction.make "click_any"
          [("selectors", Json.ofTexts ["#a", "#b", "#c"])])
    let share := ofMillis 150
    let poll := ofMillis 100
    let o : Options :=
      ⟨ofMillis 450, ofMillis 1000, 0, ofMillis 1, poll, ofMillis 1⟩
    let run := (step.perform o).play crowded (some o.sessionTimeout) 0 0
    let candidates := ["#a", "#b", "#c"]
    let looks := fun selector => List.map fun ms =>
      (ofMillis ms, Call.probe selector)
    (0 < o.poll ∧ step.choice? = some ⟨candidates, .visible, true⟩ ∧
        run.Concluded) ∧
      ((∃ rejected chosen s' later,
          Chosen crowded .visible share poll candidates 0 0 rejected chosen s' ∧
          run.trace = rejected.flatMap Trial.trace ++ chosen.trace ++ later ∧
          Uses crowded true chosen.candidate chosen.last.answered s' later
            run.ending) ∨
        ∃ rejected now' s', Rejections crowded .visible share poll 0 0
          rejected now' s' ∧
          candidates = rejected.map Trial.candidate ∧
          run = ⟨.failed (noneChosen .visible share rejected), now', s',
            rejected.flatMap Trial.trace⟩) ∧
      run.questions = looks "#a" [0, 100, 200] ++ looks "#b" [200, 300] ++
        [(ofMillis 300, .click "#b")] := by
  intro step share poll o run candidates looks
  have hPoll : 0 < o.poll := by decide
  have hChoice : step.choice? = some ⟨candidates, .visible, true⟩ := by
    decide +kernel
  have hEnd : run.Concluded := by decide +kernel
  have hShare : candidateShare o (step.limit o) candidates.length = share := by
    decide +kernel
  have hCommits :=
    commits_to_first crowded o hPoll step hChoice
      (some o.sessionTimeout) 0 0 hEnd
  rw [hShare] at hCommits
  exact ⟨⟨hPoll, hChoice, hEnd⟩, hCommits, by decide +kernel⟩

end Session

end Errand
