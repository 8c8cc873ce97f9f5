import Errand.Dialogue
import Errand.Execution.Outcome

/-!
# Two tiers

A plan is handed to the preferred tier if that supports it. What the preferred
tier carries out with success is the outcome; in every other case, be it no
support, trouble or an outcome without success, the same plan is handed to the
local tier, once. Trouble there is put on record, so there always is an
outcome, and it names the tier that it comes from.
-/

namespace Errand

/-- A plan handed to a tier, with the request it was made for. -/
structure Assignment where
  tier : Source
  plan : Plan
  request : String
deriving BEq, Repr

/-- Every assignment is answered with the outcome. -/
def Assignment.Answer (_ : Assignment) : Type := Outcome

namespace Tier

/-- A dialogue with the tiers. -/
abbrev Work (α : Type) := Dialogue Assignment.Answer Empty α

/-- The outcome that trouble with a plan amounts to. -/
def recorded (p : Plan) : Except Trouble Outcome → Outcome
  | .ok o => o
  | .error t => Outcome.failed p t.full

/-- Hands the plan to the local tier. -/
def locally (p : Plan) (request : String) : Work Outcome :=
  .ask ⟨.localTier, p, request⟩ fun r =>
    .done ((recorded p r).tagged .localTier)

/-- The dialogue that carries out a plan, where `supports` says which plans the
preferred tier takes. -/
def carryOut (supports : Plan → Bool) (p : Plan) (request : String) :
    Work Outcome :=
  if supports p then
    .ask ⟨.preferred, p, request⟩ fun
      | .ok o =>
        if o.success then .done (o.tagged .preferred) else locally p request
      | .error _ => locally p request
  else locally p request

end Tier

end Errand
