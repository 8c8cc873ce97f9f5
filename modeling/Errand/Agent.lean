import Errand.Execution.Executor
import Errand.Planner
import Errand.Response

/-!
# The agent

The agent takes requests. A request is cleaned and asks the gate for the
permit; with it, the request is planned, carried out and answered, by two
questions to the language model and one to the executor between them
(`Agent.run`). Whatever the model or the executor reports leads on: an unusable
plan to the fallback plan, trouble in the execution to a record of it, a
missing answer to a summary.

`Agent.arrive` decides about a request in one moment, `Agent.leave` gives the
permit back when the run has ended, also by a breakdown. Between the two other
requests may arrive. `Agent.handleAll` handles requests that arrive at one
moment: a run that takes no time is over before the next request arrives, any
other run keeps the permit while the rest of them arrive.
-/

namespace Errand

/-- What the language model is asked for. -/
inductive Purpose where
  | plan
  | answer
deriving DecidableEq, Repr

/-- The instructions that the language model gets for a purpose. -/
def Purpose.instructions : Purpose → String
  | .plan => Prompt.planning
  | .answer => Prompt.answering

/-- What the agent asks while it handles a request. -/
inductive Consultation where
  /-- The language model, with a message. -/
  | complete (purpose : Purpose) (message : String)
  /-- The executor, with the plan and the request it was made for. -/
  | execute (p : Plan) (request : String)
deriving BEq, Repr

/-- What the agent is answered. -/
def Consultation.Answer : Consultation → Type
  | .complete _ _ => String
  | .execute _ _ => Outcome

/-- The limits that an agent works under. -/
structure Agent where
  /-- How long the gate turns away what repeats the last request. -/
  window : Duration
  /-- The most characters that a query may have. -/
  queryLimit : Nat
deriving DecidableEq, Repr

namespace Agent

/-- A dialogue with the model and the executor. -/
abbrev Work (α : Type) := Dialogue Consultation.Answer Empty α

/-- What a language model does with instructions and a message. -/
abbrev Model (σ : Type) := (purpose : Purpose) → (message : String) → Time → σ →
    Act σ String

/-- The partner that a model and an executor make. -/
def partner {σ : Type} (m : Model σ) (e : Executor σ) :
    Partner Consultation.Answer σ where
  perform
    | .complete purpose message, now, s => m purpose message now s
    | .execute p request, now, s => e.execute p request now s

/-- The plan for a request, given what the model said. -/
def planFrom (request : String) : Except Trouble String → Plan
  | .ok text => Planner.planOf text request
  | .error _ => .fallback request

/-- What the user is told of an outcome, given what the model said: its text,
or else the summary. -/
def answerFrom (request : String) (o : Outcome) : Except Trouble String → String
  | .ok text => if Text.isBlank text then o.summary request else Text.trim text
  | .error _ => o.summary request

/-- The dialogue that handles a request which has the permit. -/
def run (request : String) : Work Response :=
  .ask (.complete .plan (Prompt.planMessage request)) fun planned =>
    let p := planFrom request planned
    .ask (.execute p request) fun executed =>
      let o := Tier.recorded p executed
      .ask
        (.complete .answer (Prompt.answerMessage request (Prompt.recordOf o)))
        fun answered =>
          .done (.completed p.kind o (answerFrom request o answered))

/-- The response that a run amounts to. -/
def responseOf (request : String) : Ending Response → Response
  | .done r => r
  | .failed _ | .cutOff | .breakdown => .interrupted request

/-! ### The permit -/

/-- What becomes of a request when it arrives. -/
inductive Arrival where
  | answered (r : Response)
  /-- The request goes on with the permit that is known by this signature. -/
  | admitted (q : Query) (signature : String)
deriving DecidableEq, Repr

/-- The decision about a request at a time of the gate's clock. -/
def arrive (a : Agent) (g : Gate) (raw : String) (at_ : Time) :
    Arrival × Gate :=
  match Query.clean raw a.queryLimit with
  | .error reason => (.answered (.rejected reason), g)
  | .ok q =>
    match g.acquire a.window q.text at_ with
    | (.skip reason, g) => (.answered (.turnedAway reason), g)
    | (.proceed signature, g) => (.admitted q signature, g)

/-- The gate after the run of a request has ended. -/
def leave (g : Gate) (signature : String) (at_ : Time) : Gate :=
  g.release signature at_

/-! ### Handling requests -/

/-- The responses to some requests, and how things stand afterwards. -/
structure Handled (σ : Type) where
  responses : List Response
  gate : Gate
  now : Time
  state : σ

/-- Requests that arrive at one moment, handled with a partner. The gate may go
by a clock of its own, which shows `gateClock t` at time `t`. -/
def handleAll {σ : Type} (a : Agent) (p : Partner Consultation.Answer σ)
    (gateClock : Time → Time) :
    List String → Gate → Time → σ → Handled σ
  | [], g, now, s => ⟨[], g, now, s⟩
  | raw :: rest, g, now, s =>
    match a.arrive g raw (gateClock now) with
    | (.answered r, g) =>
      let h := a.handleAll p gateClock rest g now s
      { h with responses := r :: h.responses }
    | (.admitted q signature, g) =>
      let course := (run q.text).play p none now s
      let r := responseOf q.text course.ending
      if course.now = now then
        let h :=
          a.handleAll p gateClock rest (leave g signature (gateClock now)) now
            course.state
        { h with responses := r :: h.responses }
      else
        let h := a.handleAll p gateClock rest g now course.state
        { h with
          responses := r :: h.responses
          gate := leave h.gate signature (gateClock course.now)
          now := course.now }

end Agent

/-- The rules in place of a language model. -/
def Rules.model {σ : Type} (d : Directory) : Agent.Model σ :=
  fun purpose message _ s =>
    let r := (Rules.complete d purpose.instructions message).mapError fun
      | .mismatch m => Trouble.plain m.message
      | .fault _ => Trouble.plain "not JSON"
    .finish (.answer r) s

end Errand
