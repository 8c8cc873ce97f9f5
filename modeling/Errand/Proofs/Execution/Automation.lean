import Errand.Proofs.Execution.Soundness
import Errand.Proofs.Session.Inert
import Errand.Proofs.Session.Loads
import Errand.Proofs.Text.Blank
import Errand.Proofs.Text.Occurrence

/-!
# Automation and its opening page

The tools carry out an automation in one session, which starts from the address
that the first navigating step asks for. When that is the very first step, the
session is about the same page twice: it is loaded before the steps, and then
the first step asks for it again.

Two things follow from the way this is done, and neither is what the steps
alone would suggest.

* The address to start from has a scheme, and a step has its address as it is
  spelled. So the first step finds its address loaded exactly if it is spelled
  with a scheme. Otherwise the page is loaded a second time, and that as it is
  spelled.
* The load before the steps is not one of them. So it is not optional, even if
  the step that asks for the address is, and even if every step is.

## Main results

* `withScheme_eq_self_iff`: which addresses stay as they are.
* `isLoaded_withScheme_iff`: when the first step finds its address loaded.
* `toolsRun_automate_eq`: an automation is one session, and its outcome is the
  session's record.
* `automation_loads`: what is loaded in an automation that begins with a
  navigation.
* `optional_steps_run_on`: what stops an automation with optional steps only.
-/

namespace Errand

/-! ## Addresses -/

/-- The address says how it is to be loaded. -/
def HasScheme (url : String) : Prop :=
  Text.contains "://" url = true ∨ Text.startsWith "about:" url = true ∨
    Text.startsWith "data:" url = true

instance (url : String) : Decidable (HasScheme url) := by
  unfold HasScheme
  infer_instance

/-- **An address stays as it is exactly if it has a scheme**, as far as blanks
at its ends are none of its. -/
theorem withScheme_eq_self_iff {url : String} (hTrim : Text.trim url = url) :
    withScheme url = url ↔ HasScheme url := by
  have hChars : Chars.trim url.toList = url.toList := by
    have hList := congrArg String.toList hTrim
    rwa [Text.trim, String.toList_ofList] at hList
  unfold withScheme
  rw [hChars]
  constructor
  · intro hSame
    dsimp only at hSame
    split at hSame
    · next h =>
      rw [Bool.or_eq_true, Bool.or_eq_true] at h
      exact or_assoc.mp h
    · next h =>
      -- An address that got its scheme only now would hold the mark of one.
      left
      have hUrl : url.toList = "https".toList ++ "://".toList ++
            Chars.dropLeads ['/', '/'] url.toList :=
        (congrArg String.toList hSame).symm.trans String.toList_ofList
      exact Chars.contains_iff.mpr ⟨"https".toList,
        Chars.dropLeads ['/', '/'] url.toList, hUrl.symm⟩
  · intro hScheme
    have hKept :
        (Chars.contains "://".toList url.toList ||
          Chars.startsWith "about:".toList url.toList ||
          Chars.startsWith "data:".toList url.toList) = true := by
      rw [Bool.or_eq_true, Bool.or_eq_true]
      exact or_assoc.mpr hScheme
    rw [if_pos hKept, String.ofList_toList]

theorem Instruction.trim_usable? {s url : String}
    (h : Instruction.usable? s = some url) : Text.trim url = url := by
  unfold Instruction.usable? at h
  dsimp only at h
  split at h
  · cases h
  · obtain rfl := Option.some.inj h
    exact Text.trim_trim s

/-- Only a navigation has an address, and it reads it from its parameters. -/
theorem Step.firstText?_of_kindOf? {tag url : String} {i : Instruction}
    (h : Step.kindOf? tag i = some (.navigate url)) :
    i.firstText? ["url", "link"] = some url := by
  unfold Step.kindOf? at h
  split at h
  case h_1 =>
    cases hText : i.firstText? ["url", "link"] with
    | none =>
        rw [hText] at h
        cases h
    | some found =>
        rw [hText] at h
        exact congrArg some (StepKind.navigate.inj (Option.some.inj h))
  -- Any other kind is told by the word, up to what becomes of a parameter that
  -- is missing.
  case h_8 | h_9 =>
    dsimp only at h
    split at h
    · cases h
    · split at h
      · cases h
      · cases h
  case h_11 | h_13 | h_14 | h_15 | h_16 | h_17 | h_18 | h_19 => cases h
  all_goals
    dsimp only at h
    split at h
    · cases h
    · cases h

/-- The address of a step has no blanks at its ends. -/
theorem Step.trim_address? {i : Instruction} {url : String}
    (h : (Step.ofInstruction i).address? = some url) : Text.trim url = url := by
  have hKind : Step.kindOf? (Step.normalTag i.tag) i =
        some (.navigate url) := by
    unfold Step.ofInstruction Step.address? at h
    dsimp only at h
    cases hKind : Step.kindOf? (Step.normalTag i.tag) i with
    | none => rw [hKind] at h; cases h
    | some kind =>
        rw [hKind, Option.getD_some] at h
        cases kind with
        | navigate found => rw [Option.some.inj h]
        | _ => cases h
  obtain ⟨key, -, hFound⟩ :=
    List.exists_of_findSome?_eq_some (Step.firstText?_of_kindOf? hKind)
  obtain ⟨spelled, -, hUsable⟩ := Option.bind_eq_some_iff.mp hFound
  exact Instruction.trim_usable? hUsable

/-- Steps that begin with a navigation start from its address, with a scheme. -/
theorem automationTarget_of_first {first : Instruction} {url : String}
    (h : (Step.ofInstruction first).address? = some url) (p : Plan)
    (rest : List Instruction) :
    automationTarget p (first :: rest) = some (withScheme url) := by
  unfold automationTarget
  rw [List.findSome?_cons, h]

/-- **The first step finds its address loaded exactly if it is spelled with a
scheme.** -/
theorem isLoaded_withScheme_iff {first : Instruction} {url : String}
    (h : (Step.ofInstruction first).address? = some url) :
    Session.isLoaded (some (withScheme url)) (Step.ofInstruction first) = true ↔
    HasScheme url := by
  rw [Session.isLoaded_iff, ← withScheme_eq_self_iff (Step.trim_address? h)]
  constructor
  · rintro ⟨found, hFound, hStart⟩
    rw [h] at hFound
    exact (Option.some.inj hStart).trans (Option.some.inj hFound).symm
  · intro hSame
    exact ⟨url, h, congrArg some hSame⟩

/-! ## An automation as a session -/

section Automation

open Local

variable {σ : Type} (d : Directory) (results : Nat) {p : Plan}
  {own : List Instruction}

/-- **An automation is one session**: all that the tools are asked is to drive
it, and the outcome is the record of its report, unless the browser broke
down. -/
theorem toolsRun_automate_eq (t : Toolbox σ)
    (hPlan : p.operation = .automate own) (request : String)
    (now : Time) (s : σ) :
    let driven := ServiceCall.stepsOf d p request own
    let target := automationTarget p driven
    let c := Session.run t.browser t.limits target driven now s
    toolsRun d results t.partner p request now s =
      ⟨if c.brokeDown then .breakdown
        else .done (sessionRecord p target (c.report t.limits driven.length)),
        now + (c.now - now), c.state, [.asked now (.drive target driven)]⟩ := by
  intro driven target c
  obtain ⟨next, hAsk, hNext⟩ : ∃ next,
      carryOut d results p request = .ask (.drive target driven) next ∧
      ∀ report : Session.Report,
      next (.ok report) = .done (sessionRecord p target report) := by
    unfold carryOut
    rw [hPlan]
    exact ⟨_, rfl, fun _ => rfl⟩
  have hSettled : (t.partner.perform (.drive target driven) now s).settle
        none now =
      ⟨some (if c.brokeDown then .breakdown
          else .answer (.ok (c.report t.limits driven.length))),
        now + (c.now - now), c.state⟩ := rfl
  unfold toolsRun
  rw [hAsk, Dialogue.play_ask, hSettled]
  cases hBroke : c.brokeDown with
  | true => rfl
  | false =>
      simp only [Bool.false_eq_true, if_false, hNext]
      rfl

/-- The session of an automation, and its record. -/
theorem toolsRun_automate (t : Toolbox σ) (hPlan : p.operation = .automate own)
    (request : String) (now : Time) (s : σ) :
    let driven := ServiceCall.stepsOf d p request own
    let target := automationTarget p driven
    let c := Session.run t.browser t.limits target driven now s
    let r := toolsRun d results t.partner p request now s
    r.trace = [.asked now (.drive target driven)] ∧
      (c.brokeDown = false →
        r.ending =
          .done (sessionRecord p target
            (c.report t.limits driven.length))) := by
  intro driven target c r
  unfold r
  rw [toolsRun_automate_eq d results t hPlan request now s]
  refine ⟨rfl, fun hBroke => ?_⟩
  show (if c.brokeDown then _ else _) = _
  rw [hBroke]
  rfl

variable {request : String} {first : Instruction} {rest : List Instruction}
  {url : String}

/-- **What is loaded in an automation that begins with a navigation**, be the
steps its own or those of a platform, and whatever the browser answers. Without
a browser nothing is loaded. With it the address to start from is loaded, once,
and then every step that is reached and navigates loads its address once, also
one that was loaded before. The first step is left out, and recorded as already
loaded, if its address is spelled with a scheme. If not, it loads the address a
second time, as it is spelled. -/
theorem automation_loads (t : Toolbox σ) (hPlan : p.operation = .automate own)
    (hSteps : ServiceCall.stepsOf d p request own = first :: rest)
    (hFirst : (Step.ofInstruction first).address? = some url)
    (now : Time) (s : σ) :
    let target := withScheme url
    let c := Session.run t.browser t.limits (some target) (first :: rest) now s
    let report := c.report t.limits (first :: rest).length
    let steps := (first :: rest).map Step.ofInstruction
    let reached := Session.reached t.browser t.limits (some target) steps now s
    let r := toolsRun d results t.partner p request now s
    (r.trace = [.asked now (.drive (some target) (first :: rest))] ∧
        (c.brokeDown = false → r.ending =
          .done (sessionRecord p (some target) report))) ∧
      reached <+: steps ∧
      (.opened ∉ c.steps.entries → c.loads = [] ∧ reached = []) ∧
      (HasScheme url → target = url ∧
        (.opened ∈ c.steps.entries →
          c.loads = url :: reached.tail.filterMap Step.address?) ∧
        (reached ≠ [] → report.records[0]? =
          some ⟨0, (Step.ofInstruction first).describe,
            .done "already loaded"⟩)) ∧
      (¬HasScheme url → target ≠ url ∧
        (.opened ∈ c.steps.entries →
          c.loads = target :: reached.filterMap Step.address?)) := by
  intro target c report steps reached r
  have hTarget : automationTarget p (first :: rest) = some target :=
    automationTarget_of_first hFirst p rest
  have hRun := toolsRun_automate d results t hPlan request now s
  rw [hSteps] at hRun
  dsimp only at hRun
  rw [hTarget] at hRun
  have hInitial : reached <+: steps :=
    Session.reached_initial t.browser t.limits (some target) steps now s
  have hHead : ∀ x ∈ reached.head?, x = Step.ofInstruction first := by
    intro x hx
    obtain ⟨more, hMore⟩ := List.head?_eq_some_iff.mp hx
    rw [hMore] at hInitial
    exact (List.cons_prefix_cons.mp hInitial).1
  obtain ⟨hOpened, hUnopened⟩ :=
    Session.loads_run t.browser t.limits (some target) (first :: rest) now s
  have hSame := withScheme_eq_self_iff (Step.trim_address? hFirst)
  refine ⟨hRun, hInitial, hUnopened, fun hScheme => ?_, fun hNone => ?_⟩
  · have hUrl : target = url := hSame.mpr hScheme
    have hLoaded : Session.isLoaded (some target) (Step.ofInstruction first) =
          true :=
      (isLoaded_withScheme_iff hFirst).mpr hScheme
    refine ⟨hUrl, fun hThere => ?_, fun hSome => ?_⟩
    · have hRest : Session.loadsOfSteps (some target) reached =
            reached.tail.filterMap Step.address? :=
        Session.loadsOfSteps_of_loaded fun x hx => by
          rw [hHead x hx]
          exact hLoaded
      rw [hOpened hThere, hRest, hUrl]
      rfl
    · exact Session.records_run_loaded t.browser t.limits hLoaded rest
        now s hSome
  · have hUrl : target ≠ url := mt hSame.mp hNone
    have hFresh : Session.isLoaded (some target) (Step.ofInstruction first) =
          false :=
      Bool.eq_false_iff.mpr (mt (isLoaded_withScheme_iff hFirst).mp hNone)
    refine ⟨hUrl, fun hThere => ?_⟩
    have hAll : Session.loadsOfSteps (some target) reached =
          reached.filterMap Step.address? :=
      Session.loadsOfSteps_of_not_loaded fun x hx => by
        rw [hHead x hx]
        exact hFresh
    rw [hOpened hThere, hAll]
    rfl

/-- A page that all of three steps ask for is loaded three times, the first
time before the steps. -/
theorem automation_loads_thrice :
    let url := "https://shop.test"
    let first := Directory.navigateTo url
    let p : Plan := ⟨.automate [first, first, first], "shop.test", ""⟩
    let t : Toolbox Unit := { Executor.offline with browser := Session.viewer }
    let c :=
      Session.run t.browser t.limits (some url) [first, first, first] 0 ()
    p.operation = .automate [first, first, first] ∧
      ServiceCall.stepsOf [] p "go" [first, first, first] =
        [first, first, first] ∧
      (Step.ofInstruction first).address? = some url ∧ HasScheme url ∧
      (toolsRun [] 5 t.partner p "go" 0 ()).trace =
        [.asked 0 (.drive (some url) [first, first, first])] ∧
      c.loads = [url, url, url] ∧
      (c.report t.limits 3).records[0]? =
        some ⟨0, "navigate https://shop.test", .done "already loaded"⟩ := by
  intro url first p t c
  have hFirst : (Step.ofInstruction first).address? = some url := by
    decide +kernel
  have hScheme : HasScheme url := by decide +kernel
  have hPlan : p.operation = .automate [first, first, first] := rfl
  have hSteps : ServiceCall.stepsOf [] p "go" [first, first, first] =
        [first, first, first] := rfl
  obtain ⟨⟨hTrace, -⟩, -, -, hSpelled, -⟩ :=
    automation_loads [] 5 t hPlan hSteps hFirst 0 ()
  obtain ⟨hUrl, hLoads, hRecord⟩ := hSpelled hScheme
  rw [hUrl] at hTrace hLoads hRecord
  have hReached : Session.reached t.browser t.limits (some url)
        ([first, first, first].map Step.ofInstruction)
      0 () = [first, first, first].map Step.ofInstruction := by
    decide +kernel
  rw [hReached] at hLoads hRecord
  have hThere : .opened ∈ c.steps.entries := by decide +kernel
  refine ⟨hPlan, hSteps, hFirst, hScheme, hTrace,
    (hLoads hThere).trans (by decide +kernel), ?_⟩
  exact (hRecord (List.cons_ne_nil _ _)).trans (by decide +kernel)

/-- An address without a scheme is loaded twice, first with one and then
without. -/
theorem automation_loads_spelled :
    let first := Directory.navigateTo "shop.test"
    let p : Plan := ⟨.automate [first], "shop.test", ""⟩
    let t : Toolbox Unit := { Executor.offline with browser := Session.viewer }
    let target := automationTarget p [first]
    let c := Session.run t.browser t.limits target [first] 0 ()
    p.operation = .automate [first] ∧
      ServiceCall.stepsOf [] p "go" [first] = [first] ∧
      (Step.ofInstruction first).address? = some "shop.test" ∧
      target = some "https://shop.test" ∧
      (toolsRun [] 5 t.partner p "go" 0 ()).trace =
        [.asked 0 (.drive target [first])] ∧
      c.loads = ["https://shop.test", "shop.test"] ∧
      (c.report t.limits 1).records =
        [⟨0, "navigate shop.test", .done "loaded shop.test"⟩] := by
  intro first p t target c
  have hPlan : p.operation = .automate [first] := rfl
  have hTrace := (toolsRun_automate [] 5 t hPlan "go" 0 ()).1
  exact ⟨hPlan, rfl, by decide +kernel, by decide +kernel, hTrace,
    by decide +kernel, by decide +kernel⟩

/-! ## Optional steps -/

/-- **What stops an automation with optional steps only.** They begin with a
navigation, the browser is there and never breaks down, and the session is not
cut off. Then there is an outcome, and the address to start from was loaded or
was not. If it was, every step is executed, whatever became of it. If it was
not, the automation failed with that trouble and without a step. -/
theorem optional_steps_run_on {t : Toolbox σ} (hAnswers : t.browser.Answers)
    (hPlan : p.operation = .automate own)
    (hSteps : ServiceCall.stepsOf d p request own = first :: rest)
    (hFirst : (Step.ofInstruction first).address? = some url)
    (hOptional : ∀ i ∈ first :: rest, (Step.ofInstruction i).optional = true)
    {now now₁ : Time} {s s₁ : σ} {u : Unit}
    (hLaunch : (t.browser.perform .launch now s).settle
      (some (now + t.limits.sessionTimeout)) now =
      ⟨some (.answer (.ok u)), now₁, s₁⟩)
    (hTime : (Session.run t.browser t.limits (some (withScheme url))
        (first :: rest) now s).steps.ending ≠
      .cutOff) :
    ∃ o loaded, (toolsRun d results t.partner p request now s).ending =
      .done o ∧
      ((t.browser.perform (.goto (withScheme url)) now₁ s₁).settle
        (some (now + t.limits.sessionTimeout)) now₁).reply =
          some (.answer loaded) ∧
      (∀ v, loaded = .ok v →
        o.success = true ∧ o.steps = (first :: rest).length ∧ o.error = none) ∧
      ∀ trouble, loaded = .error trouble →
        o.success = false ∧ o.steps = 0 ∧ o.error = some trouble.full := by
  have hRun := (toolsRun_automate d results t hPlan request now s).2
  rw [hSteps] at hRun
  rw [automationTarget_of_first hFirst p rest] at hRun
  have hBroke :=
    Session.brokeDown_run hAnswers t.limits (some (withScheme url))
      (first :: rest) now s
  obtain ⟨loaded, now₂, s₂, hLoad⟩ := Session.exists_load hAnswers hLaunch hTime
  obtain ⟨hOk, hError⟩ := Session.openingRun_of_load hLaunch hLoad
  obtain ⟨hOpen, hClosed⟩ :=
    Session.report_of_optional hAnswers t.limits
      (some (withScheme url)) hOptional now s hTime
  refine ⟨_, loaded, hRun hBroke, congrArg Settled.reply hLoad, fun v hv => ?_,
    fun trouble ht => ?_⟩
  · exact hOpen (hOk v hv)
  · exact hClosed trouble (hError trouble ht)

/-- The steps to look at a page and to keep a picture of it, both optional. -/
def optionalVisit (url : String) : List Instruction :=
  [.make "navigate" [("url", .str url), ("optional", .bool true)],
    .make "screenshot" [("optional", .bool true)]]

theorem viewer_answers : Session.viewer.Answers := by
  intro c now s
  cases c <;> trivial

/-- The picture cannot be taken, and the automation goes on. -/
theorem optional_steps_run_on_unseen :
    let steps := optionalVisit "https://shop.test"
    let p : Plan := ⟨.automate steps, "shop.test", ""⟩
    let t : Toolbox Unit := { Executor.offline with browser := Session.viewer }
    t.browser.Answers ∧ ServiceCall.stepsOf [] p "go" steps = steps ∧
      (∀ i ∈ steps, (Step.ofInstruction i).optional = true) ∧
      ∃ o, (toolsRun [] 5 t.partner p "go" 0 ()).ending = .done o ∧
      o.success = true ∧ o.steps = 2 := by
  intro steps p t
  have hAnswers : t.browser.Answers := viewer_answers
  have hPlan : p.operation = .automate steps := rfl
  have hSteps : ServiceCall.stepsOf [] p "go" steps = steps := rfl
  have hFirst :
      (Step.ofInstruction (steps.head (List.cons_ne_nil _ _))).address? =
      some "https://shop.test" := by
    decide +kernel
  have hOptional : ∀ i ∈ steps, (Step.ofInstruction i).optional = true := by
    decide +kernel
  let c :=
    Session.run t.browser t.limits (some (withScheme "https://shop.test"))
      steps 0 ()
  have hError : Session.errorOf t.limits
        (c.report t.limits steps.length).stepsExecuted steps.length
      c.steps.ending = none := by
    decide +kernel
  have hTime : c.steps.ending ≠ .cutOff := by
    rw [Session.errorOf_eq_none.mp hError]
    exact nofun
  obtain ⟨o, loaded, hEnd, hLoad, hOk, -⟩ :=
    optional_steps_run_on [] 5 hAnswers hPlan hSteps hFirst hOptional rfl hTime
  have hLoaded : .ok () = loaded := Reply.answer.inj (Option.some.inj hLoad)
  obtain ⟨hSuccess, hCount, -⟩ := hOk () hLoaded.symm
  exact ⟨hAnswers, hSteps, hOptional, o, hEnd, hSuccess, hCount⟩

/-- The page cannot be loaded, and the automation fails although both of its
steps are optional. The browser is there, and no time has passed. -/
theorem optional_opening_stops :
    let steps := optionalVisit "https://shop.test"
    let p : Plan := ⟨.automate steps, "shop.test", ""⟩
    let t := Executor.offline
    let c :=
      Session.run t.browser t.limits (automationTarget p steps) steps 0 ()
    ServiceCall.stepsOf [] p "go" steps = steps ∧
      (∀ i ∈ steps, (Step.ofInstruction i).optional = true) ∧
      steps.head?.bind (fun i => (Step.ofInstruction i).address?) =
        some "https://shop.test" ∧
      .opened ∈ c.steps.entries ∧ c.steps.now = 0 ∧
      t.limits.sessionTimeout = Duration.ofMillis 30 ∧
      (toolsRun [] 5 t.partner p "go" 0 ()).reply.value?.map
        (fun o => (o.success, o.steps, o.error)) =
        some (false, 0, some "gone") := by
  intro steps p t c
  exact ⟨rfl, by decide +kernel, by decide +kernel, by decide +kernel,
    by decide +kernel, rfl, by decide +kernel⟩

end Automation

end Errand
