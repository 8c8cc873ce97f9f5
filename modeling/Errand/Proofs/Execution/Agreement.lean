import Errand.Proofs.Dialogue.Timing
import Errand.Execution.Executor

/-!
# Both tiers act on the same things

A plan can be carried out by the action service, in one call, or by the tools,
in a dialogue. The two are built apart from each other, and each computes for
itself what to act on: the words to search for, the address to open, the steps
and the address that they start from. This file proves that they agree on it,
so that a plan which the service does not carry out goes on where it would have
gone.

What the tools act on is read off the trace: it is the list of what they are
asked in a run, and it does not depend on what they answer. What the service
acts on is read out of the parameters of its call. The two are never compared
by the functions that compute them.

Playing the first result of a search is left out, for it has no counterpart
among the tools.

## Main results

* `asked_toolsRun`: what the tools are asked for a plan, whatever they answer.
* `concord_ofPlan`: the call for a plan acts on what the tools are asked.
* `cannedSteps_eq_cons`: the steps of a platform begin where a search on it
  would go.
* `tiers_act_alike`: all of it, for every plan.
-/

namespace Errand

/-! ## What the tools are asked -/

namespace Local

open Dialogue

variable {σ : Type} (d : Directory) (results : Nat) (t : Partner Tool.Answer σ)
  (p : Plan) (request : String) (now : Time) (s : σ)

/-- The run in which the tools carry out a plan. -/
def toolsRun : Run Tool σ Empty Outcome :=
  (carryOut d results p request).play t none now s

/-- What the tools are asked in a run. -/
def asked (r : Run Tool σ Empty Outcome) : List Tool := r.questions.map Prod.snd

/-- What a plan has the tools do. -/
def subjects : List Tool :=
  match p.operation with
  | .search =>
    if p.isBrowser then [.openTarget request, .search request (max results 1)]
    else [.openTarget (d.searchUrl p.platform request)]
  | .browse (some url) =>
    [.openTarget (withScheme url), .fetch (withScheme url)]
  | .browse none => []
  | .automate steps =>
    let steps := ServiceCall.stepsOf d p request steps
    [.drive (automationTarget p steps) steps]
  | .answer => []

variable {t}

/-- A question to tools that answer is put, and the dialogue goes on with some
answer. -/
theorem asked_ask (ht : t.Answers) (q : Tool)
    {next : Except Trouble (Tool.Answer q) → Work Outcome} {rest : List Tool}
    (hNext : ∀ r now s, asked ((next r).play t none now s) = rest) :
    asked ((Dialogue.ask q next).play t none now s) = q :: rest := by
  obtain ⟨r, now', s', hSettled⟩ := (ht q now s).settle_none now
  rw [play_ask, hSettled]
  exact congrArg (q :: ·) (hNext r now' s')

theorem asked_opening (ht : t.Answers) (target : String)
    {k : Bool → Work Outcome} {rest : List Tool}
    (hNext : ∀ opened now s, asked ((k opened).play t none now s) = rest) :
    asked ((opening target k).play t none now s) =
      .openTarget target :: rest := by
  refine asked_ask now s ht (.openTarget target) fun r now s => ?_
  cases r with
  | ok opened => exact hNext opened now s
  | error trouble => exact hNext false now s

/-- **What the tools are asked does not depend on what they answer**, as long
as they do. -/
theorem asked_toolsRun (ht : t.Answers) :
    asked (toolsRun d results t p request now s) =
      subjects d results p request := by
  unfold toolsRun carryOut subjects
  cases p.operation with
  | search =>
      by_cases hBrowser : p.isBrowser = true
      · simp only [hBrowser, if_true]
        refine asked_opening now s ht request fun opened now s => ?_
        exact asked_ask now s ht (.search request (max results 1)) fun _ _ _ =>
          rfl
      · simp only [hBrowser, if_false, Bool.false_eq_true]
        exact asked_opening now s ht _ fun _ _ _ => rfl
  | browse url =>
      cases url with
      | none => rfl
      | some url =>
          refine asked_opening now s ht (withScheme url) fun opened now s => ?_
          exact asked_ask now s ht (.fetch (withScheme url)) fun _ _ _ => rfl
  | automate steps =>
      refine asked_ask now s ht (.drive _ _) fun r _ _ => ?_
      cases r with
      | ok report => rfl
      | error trouble => rfl
  | answer => rfl

end Local

/-! ## What the service is asked -/

namespace ServiceCall

/-- There is no call exactly for plans that act on nothing: an answer, and a
page without an address. -/
theorem exists_error_iff (d : Directory) (results : Nat) (p : Plan)
    (request : String) :
    (∃ u, ofPlan d results p request = .error u) ↔
      p.operation = .answer ∨ p.operation = .browse none := by
  cases hPlay : wantsPlayback d p request with
  | true =>
      have hKind : p.kind = .search ∨ p.kind = .automate := by
        simp only [wantsPlayback, Bool.and_eq_true, Bool.or_eq_true,
          decide_eq_true_eq] at hPlay
        exact hPlay.1.1.1
      have hCall : ofPlan d results p request =
            .ok (playFirst d p request) := by
        simp only [ofPlan, hPlay, if_true]
      rw [hCall]
      refine ⟨nofun, fun h => ?_⟩
      rcases h with h | h <;> simp [Plan.kind, Operation.kind, h] at hKind
  | false =>
      simp only [ofPlan, hPlay, Bool.false_eq_true, if_false]
      cases p.operation with
      | search => by_cases hBrowser : p.isBrowser = true <;> simp [hBrowser]
      | browse url => cases url <;> simp
      | automate steps => simp
      | answer => simp

/-- Instructions that were written as values read back as they were. -/
theorem map_ofJson?_toJson (steps : List Instruction) :
    (steps.map Instruction.toJson).map Instruction.ofJson? =
      steps.map some := by
  rw [List.map_map]
  exact List.map_congr_left fun _ _ => rfl

/-- The call of the service for a plan and what the tools are asked for it act
on the same things. -/
structure Concord (d : Directory) (p : Plan) (request : String)
    (c : ServiceCall) (asked : List Tool) : Prop where
  /-- A search in the browser: the same words, and the same bound on the
  results. -/
  search : p.operation = .search → p.isBrowser = true → c.name = "search_web" ∧
    ∃ words limit, asked = [.openTarget request, .search words limit] ∧
      c.params.get? "query" = some (.str words) ∧
      c.params.get? "max_results" = some (Json.ofNat limit)
  /-- A search on a platform: the same address. -/
  visit : p.operation = .search → p.isBrowser = false →
    c.name = "automate_page" ∧
    ∃ url, asked = [.openTarget url] ∧ c.params.get? "url" = some (.str url)
  /-- A page: the service gets the address that is both opened and fetched. -/
  page : ∀ spelled, p.operation = .browse (some spelled) →
    c.name = "fetch_page" ∧
    ∃ url, asked = [.openTarget url, .fetch url] ∧
    c.params.get? "url" = some (.str url)
  /-- Steps: those that the service gets read back as those that the session is
  given, which are the plan's own or, if it has none, those of the platform;
  and the service gets the address that the session is to start from, or null
  exactly if there is none. -/
  drive : ∀ steps, p.operation = .automate steps → c.name = "automate_page" ∧
    ∃ target driven items, asked = [.drive target driven] ∧
      driven = (if steps = [] then d.cannedSteps p.platform request
        else steps) ∧
      c.params.get? "steps" = some (.arr items) ∧
      items.map Instruction.ofJson? = driven.map some ∧
      c.params.get? "url" = some (Json.ofText? target) ∧
      (c.params.get? "url" = some .null ↔ target = none)

theorem stepsOf_eq (d : Directory) (p : Plan) (request : String)
    (steps : List Instruction) :
    stepsOf d p request steps =
      if steps = [] then d.cannedSteps p.platform request else steps := by
  cases steps with
  | nil => rfl
  | cons step rest => simp [stepsOf]

/-- The parameters of a call that carries out steps say which steps, and where
they start. -/
theorem concord_automatePage (target : Option String)
    (steps : List Instruction) :
    ∃ items, (automatePage target steps).params.get? "steps" =
      some (.arr items) ∧
      items.map Instruction.ofJson? = steps.map some ∧
      (automatePage target steps).params.get? "url" =
        some (Json.ofText? target) ∧
      ((automatePage target steps).params.get? "url" = some .null ↔
        target = none) := by
  refine ⟨steps.map Instruction.toJson, rfl, map_ofJson?_toJson steps, rfl, ?_⟩
  show some (Json.ofText? target) = some .null ↔ target = none
  cases target <;> simp [Json.ofText?]

/-- **The call for a plan acts on what the tools are asked for it.** -/
theorem concord_ofPlan (d : Directory) {results : Nat} (hResults : 1 ≤ results)
    {p : Plan} {request : String} (hPlay : wantsPlayback d p request = false)
    {c : ServiceCall} (hCall : ofPlan d results p request = .ok c) :
    Concord d p request c (Local.subjects d results p request) := by
  have hLimit : max results 1 = results := Nat.max_eq_left hResults
  simp only [ofPlan, hPlay, Bool.false_eq_true, if_false] at hCall
  unfold Local.subjects
  obtain ⟨operation, platform, context⟩ := p
  cases operation with
  | search =>
      refine ⟨fun _ hBrowser => ?_, fun _ hPlatform => ?_, nofun, nofun⟩
      · simp only [hBrowser, if_true] at hCall ⊢
        obtain rfl := Except.ok.inj hCall
        exact ⟨rfl, request, results, by rw [hLimit], rfl, rfl⟩
      · simp only [hPlatform, if_false, Bool.false_eq_true] at hCall ⊢
        obtain rfl := Except.ok.inj hCall
        exact ⟨rfl, _, rfl, rfl⟩
  | browse url =>
      cases url with
      | none => cases hCall
      | some url =>
          obtain rfl := Except.ok.inj hCall
          exact ⟨nofun, nofun, fun _ _ => ⟨rfl, withScheme url, rfl, rfl⟩,
            nofun⟩
  | automate steps =>
      obtain rfl := Except.ok.inj hCall
      refine ⟨nofun, nofun, nofun, fun own hOwn => ⟨rfl, ?_⟩⟩
      obtain rfl := Operation.automate.inj hOwn
      obtain ⟨items, hItems⟩ := concord_automatePage _ _
      exact ⟨_, _, items, rfl, stepsOf_eq d _ request steps, hItems⟩
  | answer => cases hCall

end ServiceCall

/-! ## The steps of a platform -/

namespace Directory

/-- The steps of a platform begin with a step to the address of the search. -/
theorem cannedSteps_eq_cons (d : Directory) (platform request : String) :
    ∃ rest, d.cannedSteps platform request =
      navigateTo (d.searchUrl platform request) :: rest := by
  unfold cannedSteps searchUrl searchUrl?
  cases d.resolve platform request with
  | none => exact ⟨[], rfl⟩
  | some entry => exact ⟨entry.resultSteps, rfl⟩

theorem text?_navigateTo (url : String) :
    (navigateTo url).text? "url" = some url :=
  rfl

theorem tag_navigateTo (url : String) : (navigateTo url).tag = "navigate" := rfl

/-- A session reads the address without its outer blanks, as it reads every
address. -/
theorem address?_navigateTo (url : String) :
    (Step.ofInstruction (navigateTo url)).address? =
      Instruction.usable? url := by
  have hTag : Step.normalTag (navigateTo url).tag = "navigate" := by
    rw [tag_navigateTo]
    decide
  have hText : (navigateTo url).firstText? ["url", "link"] =
        Instruction.usable? url := by
    have hUrl : (navigateTo url).text? "url" = some url := rfl
    have hLink : (navigateTo url).text? "link" = none := rfl
    simp only [Instruction.firstText?, List.findSome?_cons, hUrl, hLink,
      Option.bind_some, Option.bind_none, List.findSome?_nil]
    cases Instruction.usable? url <;> rfl
  unfold Step.ofInstruction Step.address?
  rw [hTag]
  cases hUsable : Instruction.usable? url with
  | some usable =>
      have hNavigate : Step.kindOf? "navigate" (navigateTo url) =
            some (.navigate usable) := by
        show some _ = some _
        rw [hText, hUsable]
      simp only [hNavigate, Option.getD_some]
  | none =>
      have hInvalid : Step.kindOf? "navigate" (navigateTo url) =
          some (.invalid "navigate" "navigate requires 'url'") := by
        show some _ = some _
        rw [hText, hUsable]
      simp only [hInvalid, Option.getD_some]

end Directory

/-! ## The agreement of the tiers -/

open Local ServiceCall in
/-- **The two tiers agree on what they act on.** For every plan that does not
ask for a video to be played, the service has no call exactly for an answer and
for a page without an address, and the call that it has for any other plan acts
on what the tools are asked for it, in every run in which they answer. And the
steps that a platform has for a plan without any begin with a step to the
address at which a search on it is opened. -/
theorem tiers_act_alike (d : Directory) {results : Nat} (hResults : 1 ≤ results)
    (p : Plan) (request : String) (hPlay : wantsPlayback d p request = false) :
    ((∃ u, ofPlan d results p request = .error u) ↔
        p.operation = .answer ∨ p.operation = .browse none) ∧
      (∀ c, ofPlan d results p request = .ok c →
        ∀ (σ : Type) (t : Partner Tool.Answer σ), t.Answers → ∀ now s,
          Concord d p request c
            (asked (toolsRun d results t p request now s))) ∧
      ∀ platform words, ∃ first rest,
        d.cannedSteps platform words = first :: rest ∧
        first.tag = "navigate" ∧
        first.text? "url" = some (d.searchUrl platform words) ∧
        (Step.ofInstruction first).address? =
          Instruction.usable? (d.searchUrl platform words) := by
  refine ⟨exists_error_iff d results p request, fun c hCall σ t ht now s => ?_,
    fun platform words => ?_⟩
  · rw [asked_toolsRun d results p request now s ht]
    exact concord_ofPlan d hResults hPlay hCall
  · obtain ⟨rest, hSteps⟩ := d.cannedSteps_eq_cons platform words
    exact ⟨_, rest, hSteps, Directory.tag_navigateTo _,
      Directory.text?_navigateTo _, Directory.address?_navigateTo _⟩

open Local ServiceCall in
/-- A plan without steps for a shop, and tools that are all offline: the
session is to start from the search for what the request is after, and that is
where the service is sent. -/
theorem tiers_act_alike_offline :
    let d : Directory :=
      [⟨"shop", "shop.test", ["shoptest"],
          "https://shop.test/?term=\x7bquery\x7d", .page, []⟩]
    let p : Plan := ⟨.automate [], "shop.test", ""⟩
    let request := "search blue socks on shoptest"
    let t : Partner Tool.Answer Nat :=
      ⟨fun _ _ n => .finish (.answer (.error (.plain "offline"))) (n + 1)⟩
    1 ≤ 5 ∧ wantsPlayback d p request = false ∧ t.Answers ∧
      ∃ c target driven, ofPlan d 5 p request = .ok c ∧
        asked (toolsRun d 5 t p request 0 0) = [.drive target driven] ∧
        c.params.get? "url" = some (Json.ofText? target) ∧
        automationTarget p driven =
          some "https://shop.test/?term=blue%20socks" := by
  intro d p request t
  have hPlay : wantsPlayback d p request = false := by decide +kernel
  have ht : t.Answers := fun _ _ _ => trivial
  have hResults : 1 ≤ 5 := by decide
  refine ⟨hResults, hPlay, ht, ?_⟩
  obtain ⟨hError, hAlike, -⟩ := tiers_act_alike d hResults p request hPlay
  cases hCall : ofPlan d 5 p request with
  | error u => rcases hError.mp ⟨u, hCall⟩ with h | h <;> cases h
  | ok c =>
      obtain ⟨-, target, driven, items, hAsked, hDriven, -, -, hUrl, -⟩ :=
        (hAlike c hCall Nat t ht 0 0).drive [] rfl
      refine ⟨c, target, driven, rfl, hAsked, hUrl, ?_⟩
      rw [hDriven]
      decide +kernel

end Errand
