import Errand.Execution.Summary
import Errand.Failure
import Errand.Gate

/-!
# Responses

What the user gets back for a request. There are three ways for a request to
end: it is carried out, it is turned away by the gate, or it is rejected as no
query. Everything else that a response shows follows from that.

Only a rejection carries an error; what goes wrong while a request is carried
out is part of its outcome.
-/

namespace Errand

/-- What comes back for a request. -/
inductive Response where
  /-- A plan of a kind was carried out with this outcome, and this is what the
  user is told. -/
  | completed (kind : OperationKind) (outcome : Outcome) (answer : String)
  | turnedAway (reason : Gate.Skip)
  | rejected (reason : Query.Rejection)
deriving DecidableEq, Repr

/-- What tells one response from another: a name of its own and the time it was
made. -/
structure Stamp where
  id : String
  createdAt : String
deriving DecidableEq, Repr

namespace Response

/-- The response to a request whose run broke down. -/
def interrupted (request : String) : Response :=
  let p := Plan.fallback request
  let o := Outcome.failed p "internal error during execution"
  .completed p.kind o (o.summary request)

/-- The failure that a rejection is. -/
def failureOf (reason : Query.Rejection) : Failure :=
  ⟨.validation, reason.message⟩

/-- How the request ended, as a word. -/
def status : Response → String
  | .completed _ _ _ => "completed"
  | .turnedAway .duplicate => "skipped"
  | .turnedAway .busy => "busy"
  | .rejected _ => "rejected"

/-- The kind of the plan that was carried out, or how the request ended without
one. -/
def plan : Response → String
  | .completed kind _ _ => kind.name
  | r => r.status

/-- What the user is told. -/
def answer : Response → String
  | .completed _ _ answer => answer
  | .turnedAway .duplicate => "Same request was just handled; skipped."
  | .turnedAway .busy => "Another request is still running; try again shortly."
  | .rejected reason => (failureOf reason).message

/-- The outcome of what was carried out. -/
def outcome? : Response → Option Outcome
  | .completed _ o _ => some o
  | _ => none

/-- The error of a response that is one. -/
def error? : Response → Option String
  | .rejected reason => some (failureOf reason).message
  | _ => none

/-- How many pieces of evidence there are. -/
def evidenceCount (r : Response) : Nat :=
  (r.outcome?.map fun o => o.evidence.length).getD 0

/-- The fields of a response after its name and before its time; what is absent
is left out. -/
def fields (r : Response) : Json.Fields :=
  [("status", .str r.status), ("plan", .str r.plan), ("answer", .str r.answer),
    ("evidence_count", Json.ofNat r.evidenceCount)] ++
    (r.outcome?.map fun o => ("execution", o.toJson)).toList ++
    (r.error?.map fun e => ("error", Json.str e)).toList

/-- The response with its stamp as a value. -/
def toJson (r : Response) (stamp : Stamp) : Json :=
  .obj (("request_id", .str stamp.id) :: r.fields ++
      [("created_at", .str stamp.createdAt)])

end Response

end Errand
