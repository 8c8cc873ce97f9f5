import Errand.Dialogue
import Errand.Execution.ServiceCall

/-!
# Carrying out plans with the action service

The preferred tier turns a plan into one call of the action service, starts the
service and makes the call. A plan that needs no call, a service that does not
start and a call that does not come back are trouble; whatever the service
answers is put on record.
-/

namespace Errand

/-- What the action service is asked. -/
inductive ServiceRequest where
  /-- To be there; a service that has been started stays. -/
  | start
  | execute (c : ServiceCall)
deriving BEq, Repr

/-- What the action service answers. -/
def ServiceRequest.Answer : ServiceRequest → Type
  | .start => Unit
  | .execute _ => ServiceResponse

namespace Preferred

/-- The dialogue that carries out a plan. -/
def carryOut (d : Directory) (results : Nat) (p : Plan) (request : String) :
    Dialogue ServiceRequest.Answer Empty Outcome :=
  match ServiceCall.ofPlan d results p request with
  | .error u => .fail (.plain u.message)
  | .ok c =>
    (Dialogue.question ServiceRequest.start).bind fun () =>
      (Dialogue.question (ServiceRequest.execute c)).bind fun r =>
        .done (Outcome.ofResponse p c r)

end Preferred

end Errand
