import Errand.Proofs.Session.Account
import Errand.Proofs.Session.Polling

/-!
# Every session is closed

Whatever ends the steps of a session, be it their end, an address that does not
load, a required step that fails or the time limit, the browser is closed again
if it was there. This file says so for browsers that answer at once, and says
when: the steps are over by the time limit, the closing begins with a last look
at the address, and the dwell lies between the two calls of it. So the whole
session takes no longer than the time limit and the dwell together.

The launch comes first and only once. If it fails, there is nothing to close,
and nothing else is asked of the browser.

## Main results

* `play_drive_launched`, `play_drive_unlaunched`: what happens up to the end of
  the steps.
* `play_conclude`: what closing a session consists of.
* `run_closes`: the calls and the times of every session.
-/

namespace Errand

/-- The question that was put, with its time, if it was one. -/
def Happening.question? {Q ε : Type} : Happening Q ε → Option (Time × Q)
  | .asked t q => some (t, q)
  | .noted _ => none

namespace Session

open Dialogue

variable {σ : Type}

/-! ## Up to the end of the steps -/

/-- What comes behind the launch: loading the address to start from, and the
steps. -/
def behindLaunch (o : Options) (target : Option String) (steps : List Step) :
    Talk Unit :=
  (match target with
    | some url => call (.goto url)
    | none => .done () : Talk Unit).bind fun _ => driveFrom o 0 target steps

/-- A dialogue about the page, which may make any entry. -/
def AsksOnPage {α : Type} (d : Talk α) : Prop := d.Confined OnPage fun _ => True

theorem asksOnPage_driveFrom (o : Options) (steps : List Step) (index : Nat)
    (loaded : Option String) : AsksOnPage (driveFrom o index loaded steps) := by
  induction steps generalizing index loaded with
  | nil => trivial
  | cons step rest ih =>
      have hStep : AsksOnPage (stepTalk o loaded step).attempt :=
        Confined.attempt ((StaysOnPage.stepTalk o loaded step).weaken
            (fun _ h => h) fun _ _ => trivial)
      refine Confined.bind hStep fun r => ?_
      cases r with
      | ok did => exact ⟨trivial, ih (index + 1) none⟩
      | error t =>
          cases hOptional : step.optional with
          | true => simp only [if_true]; exact ⟨trivial, ih (index + 1) none⟩
          | false =>
              simp only [if_false, Bool.false_eq_true]
              exact ⟨trivial, trivial⟩

theorem asksOnPage_behindLaunch (o : Options) (target : Option String)
    (steps : List Step) : AsksOnPage (behindLaunch o target steps) := by
  refine Confined.bind ?_ fun _ => asksOnPage_driveFrom o steps 0 target
  cases target with
  | none => trivial
  | some url => exact Confined.question ⟨by simp, by simp⟩

theorem drive_eq_ask (o : Options) (target : Option String)
    (steps : List Step) :
    drive o target steps = .ask .launch fun
      | .ok _ => .note .opened (behindLaunch o target steps)
      | .error t => .fail t := by
  rw [drive_eq, opening_eq]
  refine congrArg (Dialogue.ask Call.launch) (funext fun r => ?_)
  cases r with
  | error t => rfl
  | ok u => cases target <;> rfl

section Browser

variable {b : Browser σ} {o : Options} {target : Option String}
  {steps : List Step} {start : Time} {s s₁ : σ}

theorem play_drive_unlaunched {deadline : Option Time} {t : Trouble}
    (hLaunch : (b.perform .launch start s).settle deadline start =
      ⟨some (.answer (.error t)), start, s₁⟩) :
    (drive o target steps).play b deadline start s =
      ⟨.failed t, start, s₁, [.asked start .launch]⟩ := by
  rw [drive_eq_ask, play_ask, hLaunch]
  rfl

theorem play_drive_launched {deadline : Option Time} {u : Unit}
    (hLaunch : (b.perform .launch start s).settle deadline start =
      ⟨some (.answer (.ok u)), start, s₁⟩) :
    (drive o target steps).play b deadline start s =
      ((behindLaunch o target steps).play b deadline start s₁).preceded
        [.asked start .launch, .noted .opened] := by
  rw [drive_eq_ask, play_ask, hLaunch]
  rfl

/-! ## Closing -/

/-- Closing asks for the address, dwells, and closes the browser, whatever the
two calls come to. -/
theorem play_conclude (hb : b.AtOnce) (o : Options) (now : Time) (s : σ) :
    ∃ url s', (conclude o).play b none now s =
      ⟨.done url, now + o.dwell, s',
        [.asked now .currentUrl, .asked (now + o.dwell) .close]⟩ := by
  obtain ⟨url, s₁, hUrl⟩ := hb.settle .currentUrl (not_past_none now) s
  obtain ⟨closed, s₂, hClose⟩ :=
    hb.settle .close (not_past_none (now + o.dwell)) s₁
  show ∃ url s', (Dialogue.ask Call.currentUrl _).play b none now s = _
  rw [play_ask, hUrl]
  show ∃ url s',
      ((Dialogue.ask Call.close _).play b none (now + o.dwell) s₁).preceded _ =
        _
  rw [play_ask, hClose]
  exact ⟨_, s₂, rfl⟩

end Browser

/-! ## The whole session -/

namespace Course

/-- The calls of the session, each with its time. -/
def calls (c : Course σ) : List (Time × Call) :=
  c.trace.filterMap Happening.question?

theorem brokeDown_eq_false {c : Course σ} (hSteps : c.steps.ending ≠ .breakdown)
    (hConclusion : ∀ r, c.conclusion = some r → r.ending ≠ .breakdown) :
    c.brokeDown = false := by
  unfold brokeDown
  rw [Bool.or_eq_false_iff]
  constructor
  · split
    · next hEnd => exact absurd hEnd hSteps
    · rfl
  · split
    · next hEnd =>
        obtain ⟨r, hSome, hBreakdown⟩ := Option.map_eq_some_iff.mp hEnd
        exact absurd hBreakdown (hConclusion r hSome)
    · rfl

end Course

/-- If the steps did not break down, a session is concluded exactly if the
browser was there. -/
theorem course_of_opened {b : Browser σ} {o : Options} {target : Option String}
    {steps : List Step} {start : Time} {s : σ} {driven : Run Call σ Entry Unit}
    (hDriven : (drive o target steps).play b (some (start + o.sessionTimeout))
      start s = driven) (hEnd : driven.ending ≠ .breakdown) :
    course b o target steps start s =
      if Entry.opened ∈ driven.entries then
        ⟨driven, some ((conclude o).play b none driven.now driven.state)⟩
      else ⟨driven, none⟩ := by
  unfold course
  subst hDriven
  dsimp only
  split
  · next h => exact absurd h hEnd
  · rfl

/-- The calls behind the launch are neither launches nor closes. -/
theorem onPage_questions {trace : List (Happening Call Entry)}
    (h : ∀ x ∈ trace, x.Within OnPage fun _ => True) :
    ∀ x ∈ trace.filterMap Happening.question?, OnPage x.2 := by
  intro x hx
  obtain ⟨happening, hMem, hQuestion⟩ := List.mem_filterMap.mp hx
  have hWithin := h happening hMem
  cases happening with
  | asked t q =>
      obtain rfl := Option.some.inj hQuestion
      exact hWithin
  | noted e => cases hQuestion

/-- A session whose launch fails makes no other call, and ends at once. -/
theorem course_of_unlaunched {b : Browser σ} {o : Options}
    {target : Option String} {steps : List Step} {start : Time} {s s₁ : σ}
    {t : Trouble}
    (hLaunch : (b.perform .launch start s).settle
      (some (start + o.sessionTimeout)) start =
      ⟨some (.answer (.error t)), start, s₁⟩) :
    course b o target steps start s =
      ⟨⟨.failed t, start, s₁, [.asked start .launch]⟩, none⟩ := by
  rw [course_of_opened (play_drive_unlaunched hLaunch) nofun]
  exact if_neg nofun

/-- A session that was launched makes the calls of its steps and then those
that close it. -/
theorem course_of_launched {b : Browser σ} (hb : b.AtOnce) {o : Options}
    (target : Option String) (steps : List Step) {start : Time} {s s₁ : σ}
    {u : Unit}
    (hLaunch : (b.perform .launch start s).settle
      (some (start + o.sessionTimeout)) start =
      ⟨some (.answer (.ok u)), start, s₁⟩) :
    let r :=
      (behindLaunch o target steps).play b
        (some (start + o.sessionTimeout)) start s₁
    (course b o target steps start s).steps.now = r.now ∧
      (course b o target steps start s).now = r.now + o.dwell ∧
      (course b o target steps start s).brokeDown = false ∧
      (course b o target steps start s).calls =
        (start, .launch) :: r.trace.filterMap Happening.question? ++
          [(r.now, .currentUrl), (r.now + o.dwell, .close)] := by
  intro r
  have hEnd : r.ending ≠ .breakdown := ending_ne_breakdown hb.answers _ _ _ s₁
  have hOpened : Entry.opened ∈
        (r.preceded [.asked start .launch, .noted .opened]).entries := by
    rw [Run.entries_eq]
    exact List.mem_cons_self
  obtain ⟨url, s', hConclude⟩ := play_conclude hb o r.now r.state
  have hCourse : course b o target steps start s =
      ⟨r.preceded [.asked start .launch, .noted .opened],
        some ⟨.done url, r.now + o.dwell, s',
          [.asked r.now .currentUrl, .asked (r.now + o.dwell) .close]⟩⟩ := by
    rw [course_of_opened (play_drive_launched hLaunch) hEnd, if_pos hOpened]
    exact congrArg _ (congrArg some hConclude)
  rw [hCourse]
  refine ⟨rfl, rfl, ?_, ?_⟩
  · refine Course.brokeDown_eq_false hEnd fun conclusion hSome => ?_
    obtain rfl := Option.some.inj hSome
    exact nofun
  · unfold Course.calls Course.trace
    simp only [Run.trace_preceded, Option.map_some, Option.getD_some,
      List.filterMap_append]
    rfl

/-- **Every session that was launched is closed, once, as the last thing and in
time.** With a browser that answers at once, the launch is the first call and
the only one of its kind. If it works, the last two calls are a look at the
address, when the steps have ended, and the close, a dwell later, and there is
no other close; that is so whatever ended the steps. If it fails, there is no
other call. The steps end by the time limit, and no wait of theirs is cut short
by its bound on rounds. -/
theorem run_closes {b : Browser σ} (hb : b.AtOnce) (o : Options)
    (hPoll : 0 < o.poll) (target : Option String)
    (instructions : List Instruction) (start : Time) (s : σ) :
    let c := run b o target instructions start s
    let launch := ((b.perform .launch start s).settle none start).reply
    c.calls.filter (fun x => x.2 = .launch) = [(start, .launch)] ∧
      ((∃ u, launch = some (.answer (.ok u)) ∧
          (∃ before, c.calls =
              before ++ [(c.steps.now, .currentUrl),
                (c.steps.now + o.dwell, .close)] ∧
            ∀ x ∈ before, x.2 ≠ .close) ∧
          c.now = c.steps.now + o.dwell) ∨
        ∃ t, launch = some (.answer (.error t)) ∧ c.calls = [(start, .launch)] ∧
        c.now = start) ∧
      c.brokeDown = false ∧ start ≤ c.steps.now ∧
      c.steps.now ≤ start + o.sessionTimeout ∧
      c.now ≤ start + o.sessionTimeout + o.dwell ∧
      ∀ {α μ : Type} (look : μ → Talk (α ⊕ μ)) (timedOut : μ → Trouble)
        (limit : Duration) (m : μ)
        (extra : Nat) (deadline : Option Time) (now : Time) (s : σ),
        isPast deadline now = false →
        (Dialogue.clock fun t =>
            pollUntil look timedOut o.poll (t + limit)
              (rounds limit o.poll + extra) m).play
            b deadline now s =
          (awaitFound look timedOut limit o.poll m).play b deadline now s := by
  intro c launch
  have hStart : isPast (some (start + o.sessionTimeout)) start = false :=
    decide_eq_false (Nat.not_lt.mpr (Nat.le_add_right start _))
  obtain ⟨reply, s₁, hSettle⟩ := (hb .launch start s).settle start
  have hLaunch := hSettle _ hStart
  have hReply : launch = some (.answer reply) :=
    congrArg Settled.reply (hSettle none (not_past_none start))
  have hWaits :=
    fun {α μ : Type} (look : μ → Talk (α ⊕ μ)) (timedOut : μ → Trouble)
      (limit : Duration) (m : μ) (extra : Nat) (deadline : Option Time)
      (now : Time) (s : σ) (hNow : isPast deadline now = false) =>
    play_awaitFound_add b look timedOut hPoll limit m extra hNow s
  cases reply with
  | error t =>
      have hCourse : c = ⟨⟨.failed t, start, s₁, [.asked start .launch]⟩,
          none⟩ :=
        course_of_unlaunched hLaunch
      rw [hCourse]
      refine ⟨by simp [Course.calls, Course.trace, Happening.question?],
        Or.inr ⟨t, hReply, rfl, rfl⟩, rfl, Nat.le_refl start,
        Nat.le_add_right start _, ?_, hWaits⟩
      exact Nat.le_trans (Nat.le_add_right start _) (Nat.le_add_right _ _)
  | ok u =>
      obtain ⟨hSteps, hNow, hBroke, hCalls⟩ :=
        course_of_launched hb target
          (instructions.map Step.ofInstruction) hLaunch
      change c.steps.now = _ at hSteps
      change c.now = _ at hNow
      change c.brokeDown = false at hBroke
      change c.calls = _ at hCalls
      obtain ⟨hLe, hWithin⟩ := play_within b
        (behindLaunch o target (instructions.map Step.ofInstruction)) hStart s₁
      have hPage := onPage_questions ((asksOnPage_behindLaunch o target
        (instructions.map Step.ofInstruction)).play b
          (some (start + o.sessionTimeout)) start s₁)
      have hEnd :
          ((behindLaunch o target (instructions.map Step.ofInstruction)).play b
            (some (start + o.sessionTimeout)) start s₁).now ≤
              start + o.sessionTimeout :=
        Nat.not_lt.mp (of_decide_eq_false hWithin)
      rw [← hSteps] at hLe hEnd hNow hCalls
      refine ⟨?_, Or.inl ⟨u, hReply, ⟨_, hCalls, ?_⟩, hNow⟩, hBroke, hLe, hEnd,
        ?_, hWaits⟩
      · rw [hCalls, List.filter_append, List.filter_cons_of_pos (by simp),
          List.filter_eq_nil_iff.mpr fun x hx => by simpa using (hPage x hx).1]
        rfl
      · intro x hx
        rcases List.mem_cons.mp hx with rfl | hx
        · exact nofun
        · exact (hPage x hx).2
      · rw [hNow]
        exact Nat.add_le_add_right hEnd o.dwell

/-- A browser that can be launched and then fails in everything. -/
def lost : Browser Unit where
  perform
    | .launch, _, s => .finish (.answer (.ok ())) s
    | _, _, s => .finish (.answer (.error (.plain "gone"))) s

open Duration in
/-- The time limits of a short session. -/
def brief : Options :=
  ⟨ofMillis 10, ofMillis 30, ofMillis 20, ofMillis 10, ofMillis 10, ofMillis 10⟩

theorem lost_atOnce : lost.AtOnce := by
  intro c _ _
  cases c <;> trivial

/-- The session of a browser that fails in everything is closed all the same. -/
theorem run_closes_lost :
    lost.AtOnce ∧ 0 < brief.poll ∧
      (run lost brief (some "about:blank") [] 0 ()).calls =
        [(0, .launch), (0, .goto "about:blank"), (0, .currentUrl),
          (brief.dwell, .close)] ∧
      (run lost brief (some "about:blank") [] 0 ()).calls.filter
        (fun x => x.2 = .launch) =
        [(0, .launch)] ∧
      (run lost brief (some "about:blank") [] 0 ()).brokeDown = false ∧
      (run lost brief (some "about:blank") [] 0 ()).now ≤
        Duration.ofMillis 50 := by
  have hPoll : 0 < brief.poll := by decide
  obtain ⟨hLaunches, -, hBroke, -, -, hNow, -⟩ :=
    run_closes lost_atOnce brief hPoll (some "about:blank") [] 0 ()
  exact ⟨lost_atOnce, hPoll, by decide +kernel, hLaunches, hBroke, hNow⟩

end Session

end Errand
