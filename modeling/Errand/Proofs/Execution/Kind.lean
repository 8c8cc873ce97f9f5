import Errand.Proofs.Dialogue.Play
import Errand.Setup

/-!
# Outcomes are of the kind of their plan

Whatever becomes of a plan, its outcome says what kind of plan it was. That is
so for the tools, for the action service and for the two as tiers, since every
record is made from the plan. So an agent that is set up from settings can rely
on it.

## Main results

* `Executor.ofTools_keepsKind`, `Executor.ofService_keepsKind`: an executor
  keeps the kind of the plan.
* `Executor.tiered_keepsKind`: two tiers keep it if each of them does.
-/

namespace Errand

/-- An act that goes on as a run does ends with a value that the run ends
with. -/
theorem Run.keeps_act {Q σ ε α : Type} {P : α → Prop} {r : Run Q σ ε α}
    (start : Time) (h : ∀ a, r.ending = .done a → P a) :
    (r.act start).Keeps P := by
  unfold Run.act Run.reply
  cases hEnd : r.ending with
  | done a => exact h a hEnd
  | failed t => trivial
  | cutOff => trivial
  | breakdown => trivial

/-- There is nothing to keep where nothing is promised. -/
theorem Act.keeps_true {σ α : Type} (act : Act σ α) : act.Keeps fun _ =>
    True := by
  induction act with
  | finish reply s =>
      cases reply with
      | answer r => cases r <;> trivial
      | breakdown => trivial
  | wait s d next ih => exact ih

namespace Executor

variable {σ : Type}

/-- The outcomes of the executor are of the kind of the plan that it was
given. -/
def KeepsKind (e : Executor σ) : Prop :=
  ∀ p request now s, (e.execute p request now s).Keeps fun o => o.kind = p.kind

/-- Whether a target opened or not, the dialogue behind it says what there is
in the end. -/
theorem yields_opening {promise : (q : Tool) → q.Answer → Prop}
    {P : Outcome → Prop} (target : String) {k : Bool → Local.Work Outcome}
    (hk : ∀ opened, (k opened).Yields promise P) :
    (Local.opening target k).Yields promise P := by
  intro r hr
  cases r with
  | ok opened => exact hk opened
  | error t => exact hk false

/-- Carrying out a plan with the tools makes a record of that plan. -/
theorem yields_tools (d : Directory) (results : Nat) (p : Plan)
    (request : String) :
    (Local.carryOut d results p request).Yields (fun _ _ => True) fun o =>
      o.kind = p.kind := by
  unfold Local.carryOut
  cases p.operation with
  | search =>
      cases p.isBrowser with
      | true => exact yields_opening _ fun opened r hr => rfl
      | false => exact yields_opening _ fun opened => rfl
  | browse url =>
      cases url with
      | none => exact rfl
      | some url => exact yields_opening _ fun opened r hr => rfl
  | automate steps =>
      intro r hr
      cases r with
      | ok report => exact rfl
      | error t => trivial
  | answer => exact rfl

theorem ofTools_keepsKind (d : Directory) (results : Nat) (t : Toolbox σ) :
    (ofTools d results t).KeepsKind := by
  intro p request now s
  refine Run.keeps_act now fun o hEnd => ?_
  exact (yields_tools d results p request).play (fun _ _ _ => Act.keeps_true _)
    none now s hEnd

/-- The service comes to nothing but the record of a response. -/
theorem yields_ofResponse {P : Outcome → Prop} (d : Directory) (results : Nat)
    {p : Plan} (h : ∀ call response, P (Outcome.ofResponse p call response))
    (request : String) :
    (Preferred.carryOut d results p request).Yields (fun _ _ => True) P := by
  unfold Preferred.carryOut
  cases ServiceCall.ofPlan d results p request with
  | error u => trivial
  | ok c =>
      intro started hStarted
      cases started with
      | error t => trivial
      | ok u =>
          intro r hr
          cases r with
          | error t => trivial
          | ok response => exact h c response

theorem kind_ofResponse (p : Plan) (call : ServiceCall)
    (response : ServiceResponse) :
    (Outcome.ofResponse p call response).kind = p.kind := by
  unfold Outcome.ofResponse
  split
  · rfl
  · rfl

/-- Carrying out a plan with the service makes a record of that plan, if it
makes one. -/
theorem yields_service (d : Directory) (results : Nat) (p : Plan)
    (request : String) :
    (Preferred.carryOut d results p request).Yields (fun _ _ => True) fun o =>
      o.kind = p.kind :=
  yields_ofResponse d results (kind_ofResponse p) request

theorem ofService_keepsKind (d : Directory) (results : Nat)
    (b : Partner ServiceRequest.Answer σ) :
    (ofService d results b).KeepsKind := by
  intro p request now s
  refine Run.keeps_act now fun o hEnd => ?_
  exact (yields_service d results p request).play
    (fun _ _ _ => Act.keeps_true _) none now s hEnd

/-- What the tiers promise about the plans that are handed to them. -/
def AssignmentKept (a : Assignment) (o : Assignment.Answer a) : Prop :=
  Outcome.kind o = a.plan.kind

theorem kind_recorded {p : Plan} {r : Except Trouble Outcome}
    (h : ∀ o, r = .ok o → o.kind = p.kind) :
    (Tier.recorded p r).kind = p.kind := by
  cases r with
  | ok o => exact h o rfl
  | error t => rfl

/-- **Two tiers come to what one of them came to**: the outcome of the
preferred tier, or the record of what the local tier made of the plan. -/
theorem yields_ofTiers {promise : (a : Assignment) → a.Answer → Prop}
    {P : Outcome → Prop} {p : Plan} {request : String}
    (hPreferred : ∀ o, promise ⟨.preferred, p, request⟩ o →
      P (Outcome.tagged o .preferred))
    (hLocal : ∀ r : Except Trouble Outcome,
      (∀ o, r = .ok o → promise ⟨.localTier, p, request⟩ o) →
      P ((Tier.recorded p r).tagged .localTier)) (supports : Plan → Bool) :
    (Tier.carryOut supports p request).Yields promise P := by
  have hLocally : (Tier.locally p request).Yields promise P := hLocal
  unfold Tier.carryOut
  by_cases hSupports : supports p = true
  · simp only [hSupports, if_true]
    intro r hr
    cases r with
    | error t => exact hLocally
    | ok o =>
        by_cases hSuccess : Outcome.success o = true
        · simp only [hSuccess, if_true]
          exact hPreferred o (hr o rfl)
        · simp only [hSuccess, if_false, Bool.false_eq_true]
          exact hLocally
  · simp only [hSupports, if_false, Bool.false_eq_true]
    exact hLocally

/-- The outcome of either tier is the outcome of the plan. -/
theorem yields_tiers (supports : Plan → Bool) (p : Plan) (request : String) :
    (Tier.carryOut supports p request).Yields AssignmentKept fun o =>
      o.kind = p.kind :=
  yields_ofTiers (fun _ hKind => hKind) (fun _ hr => kind_recorded hr) supports

theorem tiered_keepsKind {preferred : Option (Executor σ)}
    {fallback : Executor σ} (hPreferred : ∀ e, preferred = some e → e.KeepsKind)
    (hFallback : fallback.KeepsKind) :
    (tiered preferred fallback).KeepsKind := by
  have hFirst : (preferred.getD fallback).KeepsKind := by
    cases preferred with
    | none => exact hFallback
    | some e => exact hPreferred e rfl
  have hKeeps : (partner (preferred.getD fallback) fallback).Keeps
        AssignmentKept := by
    intro a now s
    unfold partner
    cases hTier : a.tier with
    | preferred =>
        simp only [hTier]
        exact hFirst a.plan a.request now s
    | localTier =>
        simp only [hTier]
        exact hFallback a.plan a.request now s
  intro p request now s
  refine Run.keeps_act now fun o hEnd => ?_
  exact (yields_tiers _ p request).play hKeeps none now s hEnd

end Executor

/-- The executor of an agent that is set up from settings. -/
theorem Setup.executor_keepsKind {σ : Type} (s : Setup) (o : Setup.Outside σ) :
    (Executor.tiered (s.service.map fun _ =>
        Executor.ofService s.directory s.searchResults o.service)
      (.ofTools s.directory s.searchResults o.tools)).KeepsKind := by
  refine Executor.tiered_keepsKind (fun e he => ?_)
    (Executor.ofTools_keepsKind _ _ _)
  obtain ⟨d, -, rfl⟩ := Option.map_eq_some_iff.mp he
  exact Executor.ofService_keepsKind _ _ _

end Errand
