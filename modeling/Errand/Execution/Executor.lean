import Errand.Execution.Local
import Errand.Execution.Preferred
import Errand.Execution.Tier

/-!
# Executors

An `Executor` carries out plans: with the tools, with the action service, or in
two tiers of which each is an executor. It says which plans it has the
capabilities for.
-/

namespace Errand

/-- Something that carries out plans, where `σ` is the state of everything
outside. -/
structure Executor (σ : Type) where
  supports : Plan → Bool
  execute : (p : Plan) → (request : String) → Time → σ → Act σ Outcome

namespace Executor

variable {σ : Type}

/-- The executor that uses the tools. -/
def ofTools (d : Directory) (results : Nat) (t : Toolbox σ) : Executor σ where
  supports _ := true
  execute p request now s :=
    ((Local.carryOut d results p request).play t.partner none now s).act now

/-- The executor that uses the action service. -/
def ofService (d : Directory) (results : Nat)
    (b : Partner ServiceRequest.Answer σ) : Executor σ where
  supports := ServiceCall.supports
  execute p request now s :=
    ((Preferred.carryOut d results p request).play b none now s).act now

/-- Two executors as tiers: a plan for the preferred tier goes to the first,
any other to the second. -/
def partner (preferred fallback : Executor σ) :
    Partner Assignment.Answer σ where
  perform a now s :=
    match a.tier with
    | .preferred => preferred.execute a.plan a.request now s
    | .localTier => fallback.execute a.plan a.request now s

/-- The plans that go to the preferred tier, if there is one. -/
def supportedBy (preferred : Option (Executor σ)) (p : Plan) : Bool :=
  preferred.any (·.supports p)

/-- The executor of two tiers, the first of which may be missing. -/
def tiered (preferred : Option (Executor σ)) (fallback : Executor σ) :
    Executor σ where
  supports _ := true
  execute p request now s :=
    ((Tier.carryOut (supportedBy preferred) p request).play
      (partner (preferred.getD fallback) fallback) none now s).act now

end Executor

end Errand
