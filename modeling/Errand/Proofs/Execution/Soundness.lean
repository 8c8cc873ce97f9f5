import Errand.Proofs.Execution.Agreement
import Errand.Proofs.Execution.Kind
import Errand.Proofs.Execution.Tiers
import Errand.Proofs.Session.Closing

/-!
# Outcomes are sound

The answer to the user is written from an outcome, so an outcome must not
contradict itself. This file proves that none does, whatever the browser, the
tools and the action service come to, as long as none of them breaks down: it
reports success exactly if it has no error, it speaks of the plan that it is
the outcome of, and success comes with evidence.

Seven functions make records, one for each kind of plan and tool and two for
the service. Each of them is sound by itself; only that of a session relies on
more, namely on the report of the session. What is sound stays so when it is
tagged with a tier, and the trouble of a tier is put on a sound record.

## Main results

* `Outcome.Sound`: what an outcome promises about its plan.
* `yields_sound_tools`, `yields_sound_service`, `yields_sound_tiers`: the
  outcomes of the tools, of the service and of the two as tiers are sound.
* `tiered_sound`: the outcomes of the whole.
-/

namespace Errand

/-- A run that ended with a value settles, as an act, with this value. -/
theorem Run.settle_act {Q σ ε α : Type} {r : Run Q σ ε α} {a : α}
    (h : r.ending = .done a) (start : Time) :
    (r.act start).settle none start =
      ⟨some (.answer (.ok a)), start + (r.now - start), r.state⟩ := by
  have hReply : r.reply = .answer (.ok a) := by simp only [Run.reply, h]
  show (⟨some r.reply, start + (r.now - start), r.state⟩ : Settled σ α) = _
  rw [hReply]

/-! ## Records -/

namespace Outcome

/-- The outcome does not contradict itself, and it is the outcome of this
plan. -/
structure Sound (p : Plan) (o : Outcome) : Prop where
  success_iff : o.success = true ↔ o.error = none
  kind : o.kind = p.kind
  platform : o.platform = p.platform
  evidence : o.success = true → o.evidence ≠ []

namespace Sound

variable {p : Plan}

/-- A record that has a reason exactly if there is no success is sound, if it
has any evidence. -/
theorem ofErrorUnless {success : Bool} {reason : String}
    {evidence : List Evidence} {steps : Nat} {source : Option Source}
    (h : evidence ≠ []) :
    Sound p ⟨success, evidence, p.kind, p.platform, steps,
      Local.errorUnless success reason, source⟩ where
  success_iff := by cases success <;> simp [Local.errorUnless]
  kind := rfl
  platform := rfl
  evidence _ := h

theorem failed (reason : String) : Sound p (Outcome.failed p reason) :=
  ⟨⟨nofun, nofun⟩, rfl, rfl, nofun⟩

theorem tagged {o : Outcome} (h : Sound p o) (source : Source) :
    Sound p (o.tagged source) :=
  ⟨h.success_iff, h.kind, h.platform, h.evidence⟩

theorem recorded {r : Except Trouble Outcome} (h : ∀ o, r = .ok o → Sound p o) :
    Sound p (Tier.recorded p r) := by
  cases r with
  | ok o => exact h o rfl
  | error t => exact failed t.full

theorem answerRecord : Sound p (Local.answerRecord p) :=
  ⟨⟨fun _ => rfl, fun _ => rfl⟩, rfl, rfl, fun _ => List.cons_ne_nil _ _⟩

/-- The record of a session is as sound as the session's report. -/
theorem sessionRecord (target : Option String) {r : Session.Report}
    (h : r.success = true ↔ r.error = none) :
    Sound p (Local.sessionRecord p target r) :=
  ⟨h, rfl, rfl, fun _ => List.cons_ne_nil _ _⟩

theorem payloadEvidence_ne_nil (call : ServiceCall) (payload : Json) :
    payloadEvidence call payload ≠ [] := by
  unfold payloadEvidence
  split
  · exact List.cons_ne_nil _ _
  · next hItems => exact fun hNil => hItems hNil

theorem ofResponse (call : ServiceCall) (r : ServiceResponse) :
    Sound p (Outcome.ofResponse p call r) := by
  unfold Outcome.ofResponse
  by_cases hSuccess : r.success = true
  · simp only [hSuccess, if_true]
    exact ⟨⟨fun _ => rfl, fun _ => rfl⟩, rfl, rfl,
      fun _ => payloadEvidence_ne_nil call _⟩
  · simp only [hSuccess, if_false, Bool.false_eq_true]
    exact failed _

end Sound

/-- The steps of an outcome are counted among those that its plan has the tools
carry out: there are no more, and with success there are as many. -/
def Counted (d : Directory) (p : Plan) (request : String)
    (o : Outcome) : Prop :=
  ∀ steps, p.operation = .automate steps →
    let driven := ServiceCall.stepsOf d p request steps
    o.steps ≤ driven.length ∧ (o.success = true → o.steps = driven.length)

theorem counted_of_ne {d : Directory} {p : Plan} {request : String}
    {o : Outcome} (h : ∀ steps, p.operation ≠ .automate steps) :
    o.Counted d p request :=
  fun steps hSteps => absurd hSteps (h steps)

theorem counted_failed (d : Directory) (p : Plan) (request reason : String) :
    (failed p reason).Counted d p request :=
  fun _ _ => ⟨Nat.zero_le _, nofun⟩

end Outcome

/-! ## Reports of sessions -/

namespace Session

variable {σ : Type}

/-- A session with a browser that answers does not break down. -/
theorem brokeDown_run {b : Browser σ} (hb : b.Answers) (o : Options)
    (target : Option String) (instructions : List Instruction)
    (start : Time) (s : σ) :
    (run b o target instructions start s).brokeDown = false := by
  have hDriven :=
    Dialogue.ending_ne_breakdown hb (some (start + o.sessionTimeout))
    (drive o target (instructions.map Step.ofInstruction)) start s
  unfold run
  rw [course_of_opened rfl hDriven]
  split
  · refine Course.brokeDown_eq_false hDriven fun r hSome => ?_
    obtain rfl := Option.some.inj hSome
    exact Dialogue.ending_ne_breakdown hb none _ _ _
  · exact Course.brokeDown_eq_false hDriven nofun

end Session

/-! ## The tools -/

namespace Toolbox

variable {σ : Type}

/-- No tool breaks down, and neither does the browser. -/
structure Answers (t : Toolbox σ) : Prop where
  openTarget : ∀ target now s, (t.openTarget target now s).Answers
  search : ∀ words limit now s, (t.search words limit now s).Answers
  fetch : ∀ url now s, (t.fetch url now s).Answers
  browser : t.browser.Answers

theorem Answers.partner {t : Toolbox σ} (h : t.Answers) :
    t.partner.Answers := by
  intro q now s
  cases q with
  | openTarget target => exact h.openTarget target now s
  | search words limit => exact h.search words limit now s
  | fetch url => exact h.fetch url now s
  | drive target steps =>
      unfold Toolbox.partner Session.Course.act
      simp only [Session.brokeDown_run h.browser, Bool.false_eq_true, if_false]
      trivial

/-- What the tools promise about the report of a session. -/
def ReportKept : (q : Tool) → Tool.Answer q → Prop
  | .drive _ steps, r =>
  (Session.Report.success r = true ↔ Session.Report.error r = none) ∧
      Session.Report.stepsExecuted r ≤ steps.length ∧
      (Session.Report.success r = true →
        Session.Report.stepsExecuted r = steps.length)
  | _, _ => True

theorem partner_keepsReport (t : Toolbox σ) : t.partner.Keeps ReportKept := by
  intro q now s
  cases q with
  | openTarget target => exact Act.keeps_true _
  | search words limit => exact Act.keeps_true _
  | fetch url => exact Act.keeps_true _
  | drive target steps =>
      unfold Toolbox.partner Session.Course.act
      by_cases hBroke :
        (Session.run t.browser t.limits target steps now s).brokeDown = true
      · simp only [hBroke, if_true]
        trivial
      · simp only [hBroke, Bool.false_eq_true, if_false]
        exact Session.report_counts t.browser t.limits target steps now s

end Toolbox

namespace Executor

open Outcome

variable {σ : Type}

/-- The outcomes of the tools are sound, and their steps are counted. -/
theorem yields_sound_tools (d : Directory) (results : Nat) (p : Plan)
    (request : String) :
    (Local.carryOut d results p request).Yields Toolbox.ReportKept fun o =>
      o.Sound p ∧ o.Counted d p request := by
  unfold Local.carryOut
  cases hOperation : p.operation with
  | search =>
      have hCounted : ∀ o : Outcome, o.Counted d p request := fun o =>
        counted_of_ne fun steps h => by cases hOperation.symm.trans h
      cases p.isBrowser with
      | true =>
          exact yields_opening _ fun opened found hr =>
            ⟨Sound.ofErrorUnless (List.cons_ne_nil _ _), hCounted _⟩
      | false =>
          exact yields_opening _ fun opened =>
            ⟨Sound.ofErrorUnless (List.cons_ne_nil _ _), hCounted _⟩
  | browse url =>
      have hCounted : ∀ o : Outcome, o.Counted d p request := fun o =>
        counted_of_ne fun steps h => by cases hOperation.symm.trans h
      cases url with
      | none => exact ⟨Sound.failed _, hCounted _⟩
      | some url =>
          exact yields_opening _ fun opened fetched hr =>
            ⟨Sound.ofErrorUnless (List.cons_ne_nil _ _), hCounted _⟩
  | automate steps =>
      intro r hr
      cases r with
      | error t => trivial
      | ok report =>
          obtain ⟨hSuccess, hLe, hAll⟩ := hr report rfl
          refine ⟨Sound.sessionRecord _ hSuccess, fun own hOwn => ?_⟩
          obtain rfl := Operation.automate.inj (hOperation.symm.trans hOwn)
          exact ⟨hLe, hAll⟩
  | answer =>
      exact ⟨Sound.answerRecord,
        counted_of_ne fun steps h => by cases hOperation.symm.trans h⟩

/-- The outcomes of the service are sound. -/
theorem yields_sound_service (d : Directory) (results : Nat) (p : Plan)
    (request : String) :
    (Preferred.carryOut d results p request).Yields (fun _ _ => True) fun o =>
      o.Sound p :=
  yields_ofResponse d results Sound.ofResponse request

/-- What the tiers promise about the plans that are handed to them: sound
outcomes, and with the tools counted steps. -/
def AssignmentSound (d : Directory) (a : Assignment)
    (o : Assignment.Answer a) : Prop :=
  Sound a.plan o ∧ (a.tier = .localTier → Counted d a.plan a.request o)

/-- The outcome of two tiers is sound and names its tier, and if that is the
second one, the steps are counted. -/
theorem yields_sound_tiers (d : Directory) (supports : Plan → Bool) (p : Plan)
    (request : String) :
    (Tier.carryOut supports p request).Yields (AssignmentSound d) fun o =>
      o.Sound p ∧ o.source.isSome = true ∧
        (o.source = some .localTier → o.Counted d p request) := by
  refine yields_ofTiers (fun o hSound => ⟨hSound.1.tagged _, rfl, nofun⟩)
    (fun r hr => ?_) supports
  refine ⟨(Sound.recorded fun o ho => (hr o ho).1).tagged _, rfl, fun _ => ?_⟩
  cases r with
  | ok o => exact (hr o rfl).2 rfl
  | error t => exact counted_failed d p request t.full

/-! ## Plans without an address -/

theorem settled_ofTools_of_no_address (d : Directory) (results : Nat)
    (t : Toolbox σ) {p : Plan} (h : p.operation = .browse none)
    (request : String) (now : Time) (s : σ) :
    (ofTools d results t).settled p request now s =
      ⟨some (.answer (.ok (failed p ServiceCall.Unsuited.noAddress.message))),
        now, s⟩ := by
  have hCarryOut : Local.carryOut d results p request =
      .done (failed p ServiceCall.Unsuited.noAddress.message) := by
    simp only [Local.carryOut, h]
  show (((Local.carryOut d results p request).play t.partner none now s).act
        now).settle none now = _
  rw [hCarryOut]
  refine (Run.settle_act rfl now).trans ?_
  show (⟨_, now + (now - now), s⟩ : Settled σ Outcome) = _
  rw [Nat.sub_self, Nat.add_zero]

theorem ofPlan_of_no_address (d : Directory) (results : Nat) {p : Plan}
    (h : p.operation = .browse none) (request : String) :
    ∃ u, ServiceCall.ofPlan d results p request = .error u :=
  (ServiceCall.exists_error_iff d results p request).mpr (.inr h)

/-- A plan for a page without an address asks nothing of anyone. -/
theorem tierRun_of_no_address (d : Directory) (results : Nat) (t : Toolbox σ)
    (service : Option (Partner ServiceRequest.Answer σ)) {p : Plan}
    (h : p.operation = .browse none) (request : String) (now : Time) (s : σ) :
    ∃ trace, tierRun (service.map (ofService d results))
      (ofTools d results t) p request now s =
      ⟨.done ((failed p ServiceCall.Unsuited.noAddress.message).tagged
          .localTier), now, s, trace⟩ := by
  have hTools := settled_ofTools_of_no_address d results t h request now s
  cases service with
  | none =>
      rw [Option.map_none, tierRun_of_unsupported rfl,
        play_locally _ _ _ _ _ _ hTools]
      exact ⟨_, rfl⟩
  | some b =>
      obtain ⟨u, hPlan⟩ := ofPlan_of_no_address d results h request
      have hSupports : (ofService d results b).supports p = true := by
        show decide (p.operation.kind ≠ .answer) = true
        rw [h]
        rfl
      have hService : (ofService d results b).settled p request now s =
          ⟨some (.answer (.error (.plain u.message))), now, s⟩ := by
        show ((serviceRun d results b p request now s).act now).settle
              none now = _
        rw [serviceRun_of_unsuited d results hPlan]
        show (⟨_, now + (now - now), s⟩ : Settled σ Outcome) = _
        rw [Nat.sub_self, Nat.add_zero]
        rfl
      rw [Option.map_some, tierRun_of_failure hSupports
        (fun o h => by cases h) hService, play_locally _ _ _ _ _ _ hTools]
      exact ⟨_, rfl⟩

/-! ## The whole -/

/-- Two tiers that answer end with an outcome. -/
theorem exists_done_tierRun {preferred : Option (Executor σ)}
    {fallback : Executor σ} (hPreferred : ∀ e, preferred = some e → e.Answers)
    (hFallback : fallback.Answers) (p : Plan) (request : String)
    (now : Time) (s : σ) :
    ∃ o, (tierRun preferred fallback p request now s).ending = .done o := by
  by_cases hPrevails : ∃ o, Prevails preferred p request now s o
  · obtain ⟨o, h⟩ := hPrevails
    exact ⟨_, (tierRun_of_prevails hPreferred h).1⟩
  · obtain ⟨r, -, hEnd, -⟩ :=
      tierRun_of_not_prevails hPreferred hFallback fun o h => hPrevails ⟨o, h⟩
    exact ⟨_, hEnd⟩

theorem ofTools_answers (d : Directory) (results : Nat) {t : Toolbox σ}
    (ht : t.Answers) : (ofTools d results t).Answers :=
  fun _ _ now s =>
    Run.act_answers now (Dialogue.concludes_of_answers ht.partner _ now s)

/-- Each of the tiers keeps its promise. -/
theorem partner_sound (d : Directory) (results : Nat) (t : Toolbox σ)
    (service : Option (Partner ServiceRequest.Answer σ)) :
    (partner ((service.map (ofService d results)).getD (ofTools d results t))
      (ofTools d results t)).Keeps (AssignmentSound d) := by
  have hTools : ∀ p request now s o,
      ((Local.carryOut d results p request).play t.partner none now s).ending =
        .done o →
        o.Sound p ∧ o.Counted d p request := fun p request now s o hEnd =>
    (yields_sound_tools d results p request).play t.partner_keepsReport
      none now s hEnd
  intro a now s
  obtain ⟨tier, p, request⟩ := a
  cases tier with
  | localTier =>
      refine Run.keeps_act now fun o hEnd => ?_
      exact ⟨(hTools p request now s o hEnd).1,
        fun _ => (hTools p request now s o hEnd).2⟩
  | preferred =>
      cases service with
      | none =>
          refine Run.keeps_act now fun o hEnd => ?_
          exact ⟨(hTools p request now s o hEnd).1, nofun⟩
      | some b =>
          refine Run.keeps_act now fun o hEnd => ⟨?_, nofun⟩
          exact (yields_sound_service d results p request).play
            (fun _ _ _ => Act.keeps_true _)
            none now s hEnd

/-- **The outcomes of the whole are sound.** Whatever the tools, the browser
and the action service come to, if there is one, as long as none of them breaks
down, there is an outcome: it has an error exactly if there is no success, it
is that of the plan, it names its tier, and success comes with evidence. For a
plan to look at a page without an address there is no evidence, and neither the
service nor the tools are asked anything. The steps of a plan that the tools
carry out are counted. -/
theorem tiered_sound (d : Directory) (results : Nat) {t : Toolbox σ}
    {service : Option (Partner ServiceRequest.Answer σ)} (hTools : t.Answers)
    (hService : ∀ b, service = some b → b.Answers) (p : Plan) (request : String)
    (now : Time) (s : σ) :
    let whole :=
      tiered (service.map (ofService d results)) (ofTools d results t)
    ∃ o now' s', whole.settled p request now s =
      ⟨some (.answer (.ok o)), now', s'⟩ ∧
      (o.success = true ↔ o.error = none) ∧ o.kind = p.kind ∧
      o.platform = p.platform ∧
      o.source.isSome = true ∧ (o.success = true → o.evidence ≠ []) ∧
      (p.operation = .browse none → o.evidence = [] ∧ now' = now ∧ s' = s ∧
        (Local.toolsRun d results t.partner p request now s).trace = [] ∧
        ∀ b, service = some b → (serviceRun d results b p request now s).trace =
          []) ∧
      ∀ steps, p.operation = .automate steps → o.source = some .localTier →
        let driven := ServiceCall.stepsOf d p request steps
        o.steps ≤ driven.length ∧ (o.success = true →
          o.steps = driven.length) := by
  intro whole
  let r :=
    tierRun (service.map (ofService d results))
      (ofTools d results t) p request now s
  have hPreferred : ∀ e, service.map (ofService d results) = some e →
      e.Answers := by
    intro e he
    obtain ⟨b, hb, rfl⟩ := Option.map_eq_some_iff.mp he
    exact ofService_answers d results (hService b hb)
  obtain ⟨o, hEnd⟩ :=
    exists_done_tierRun hPreferred (ofTools_answers d results hTools) p
      request now s
  obtain ⟨hSound, hSource, hCounted⟩ :=
    (yields_sound_tiers d _ p request).play (partner_sound d results t service)
      none now s hEnd
  have hSettled : whole.settled p request now s =
      ⟨some (.answer (.ok o)), now + (r.now - now), r.state⟩ :=
    Run.settle_act hEnd now
  refine ⟨o, _, _, hSettled, hSound.success_iff, hSound.kind, hSound.platform,
    hSource, hSound.evidence, fun hPage => ?_,
    fun steps hSteps hLocal => hCounted hLocal steps hSteps⟩
  obtain ⟨trace, hRun⟩ :=
    tierRun_of_no_address d results t service hPage request now s
  change r = _ at hRun
  have hOutcome : o = (failed p ServiceCall.Unsuited.noAddress.message).tagged
        .localTier := by
    have hSame : r.ending = .done o := hEnd
    rw [hRun] at hSame
    exact (Ending.done.inj hSame).symm
  rw [hRun, hOutcome]
  refine ⟨rfl, ?_, rfl, ?_, fun b hb => ?_⟩
  · show now + (now - now) = now
    rw [Nat.sub_self, Nat.add_zero]
  · unfold Local.toolsRun Local.carryOut
    rw [hPage]
    rfl
  · obtain ⟨u, hPlan⟩ := ofPlan_of_no_address d results hPage request
    rw [serviceRun_of_unsuited d results hPlan]

/-- Tools that are all offline, with a browser that can be launched and then
fails in everything. -/
def offline : Toolbox Unit where
  openTarget _ _ s := .finish (.answer (.error (.plain "offline"))) s
  search _ _ _ s := .finish (.answer (.error (.plain "offline"))) s
  fetch _ _ s := .finish (.answer (.error (.plain "offline"))) s
  browser := Session.lost
  limits := Session.brief

theorem offline_answers : offline.Answers :=
  ⟨fun _ _ _ => trivial, fun _ _ _ _ => trivial, fun _ _ _ => trivial,
    Session.lost_atOnce.answers⟩

/-- Where neither the service nor any tool can do anything, the outcome says
what went wrong last. -/
theorem tiered_sound_offline :
    let b : Partner ServiceRequest.Answer Unit :=
      ⟨fun _ _ s => .finish (.answer (.error (.plain "no server"))) s⟩
    let p : Plan :=
      ⟨.automate [Directory.navigateTo "https://shop.test"], "browser", ""⟩
    offline.Answers ∧ (∀ b', some b = some b' → b'.Answers) ∧
      ∃ o now' s',
      (tiered ((some b).map (ofService [] 5)) (ofTools [] 5 offline)).settled p
        "go" 0 () =
          ⟨some (.answer (.ok o)), now', s'⟩ ∧
        o.error = some "gone" ∧ o.success = false ∧ o.source = some .localTier ∧
        o.steps ≤ 1 := by
  intro b p
  have hService : ∀ b', some b = some b' → b'.Answers := by
    rintro b' hb
    obtain rfl := Option.some.inj hb
    exact fun _ _ _ => trivial
  obtain ⟨o, now', s', hSettled, hSuccess, -, -, -, -, -, hSteps⟩ :=
    tiered_sound [] 5 offline_answers hService p "go" 0 ()
  have hValue :
      (((tiered ((some b).map (ofService [] 5)) (ofTools [] 5 offline)).settled
        p "go" 0 ()).reply.bind Reply.value?).map
          (fun o => (o.error, o.source)) =
        some (some "gone", some .localTier) := by
    decide +kernel
  rw [hSettled] at hValue
  obtain ⟨hError, hSource⟩ := Prod.mk.inj (Option.some.inj hValue)
  refine ⟨offline_answers, hService, o, now', s', hSettled, hError, ?_, hSource,
    (hSteps _ rfl hSource).1⟩
  refine Bool.eq_false_iff.mpr fun h => ?_
  cases hError.symm.trans (hSuccess.mp h)

end Executor

end Errand
