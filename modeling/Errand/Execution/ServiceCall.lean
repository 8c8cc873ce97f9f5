import Errand.Execution.Outcome
import Errand.Execution.Target
import Errand.Platform.Visit

/-!
# Plans for the action service

The action service offers four capabilities: search the web, fetch a page,
carry out steps on a page, and play the first result of a search on a video
platform. `ServiceCall.ofPlan` says which of them a plan needs and with which
parameters; `Outcome.ofResponse` makes the record of the execution from what
the service answers.
-/

namespace Errand

/-- One use of a capability of the service. -/
structure ServiceCall where
  name : String
  params : Json.Fields
deriving BEq, Repr

/-- What the service answers to a call. -/
structure ServiceResponse where
  success : Bool
  result : Option Json
  error : Option String
deriving BEq, Repr

namespace ServiceCall

/-- Words that ask for something to be played. -/
def playMarkers : List String := ["play", "watch", "播放"]

/-- The plan asks for a video to be played on a platform that has videos. -/
def wantsPlayback (d : Directory) (p : Plan) (request : String) : Bool :=
  (p.kind = .search || p.kind = .automate) && !p.isBrowser &&
    d.isVideo p.platform request &&
    playMarkers.any fun m =>
      Chars.contains m.toList (Chars.lower request.toList)

/-- Why a plan needs no capability of the service. -/
inductive Unsuited where
  | noAddress
  | answer
deriving DecidableEq, Repr

/-- The reason in words. -/
def Unsuited.message : Unsuited → String
  | .noAddress => "browse plan has no url"
  | .answer => "answer plans need no service call"

/-- Playing the first result of a search. -/
def playFirst (d : Directory) (p : Plan) (request : String) : ServiceCall :=
  let platform := ((d.find p.platform).map Platform.name).getD p.platform
  ⟨"play_first_result", [("keyword", .str (d.searchWords request)),
      ("platform", .str platform)]⟩

/-- Searching the web. -/
def searchWeb (request : String) (results : Nat) : ServiceCall :=
  ⟨"search_web", [("max_results", Json.ofNat results), ("query", .str request)]⟩

/-- Fetching a page. -/
def fetchPage (url : String) : ServiceCall :=
  ⟨"fetch_page", [("url", .str url)]⟩

/-- Carrying out steps, from an address if there is one. -/
def automatePage (url : Option String) (steps : List Instruction) :
    ServiceCall :=
  ⟨"automate_page", [("steps", .arr (steps.map Instruction.toJson)),
      ("url", Json.ofText? url)]⟩

/-- The steps of a plan: its own, or those of the platform where it has none. -/
def stepsOf (d : Directory) (p : Plan) (request : String)
    (steps : List Instruction) : List Instruction :=
  if steps.isEmpty then d.cannedSteps p.platform request else steps

/-- The call that carries out a plan. -/
def ofPlan (d : Directory) (results : Nat) (p : Plan) (request : String) :
    Except Unsuited ServiceCall :=
  if wantsPlayback d p request then .ok (playFirst d p request)
  else
    match p.operation with
    | .search =>
      if p.isBrowser then .ok (searchWeb request results)
      else .ok (automatePage (some (d.searchUrl p.platform request)) [])
    | .browse (some url) => .ok (fetchPage (withScheme url))
    | .browse none => .error .noAddress
    | .automate steps =>
      let steps := stepsOf d p request steps
      .ok (automatePage (automationTarget p steps) steps)
    | .answer => .error .answer

/-- Plans that the service has a capability for. -/
def supports (p : Plan) : Bool := p.kind ≠ .answer

end ServiceCall

namespace Outcome

/-- The first string among several fields of a value; empty if there is none. -/
def textField (item : Json) (keys : List String) : String :=
  (keys.findSome? fun k => (item.get? k).bind Json.text?).getD ""

/-- A piece of evidence from an item of a list of results. -/
def itemEvidence (item : Json) : Evidence :=
  ⟨textField item ["title", "name"], textField item ["href", "url", "link"],
    textField item ["body", "snippet", "description"]⟩

/-- The text that a payload amounts to. -/
def payloadText : Json → String
  | .str s => s
  | .null => "done"
  | payload =>
    (((payload.get? "summary").or (payload.get? "text")).bind Json.text?).getD
      payload.compress

/-- The evidence in a payload: its list of results, or else the payload
itself. -/
def payloadEvidence (call : ServiceCall) (payload : Json) : List Evidence :=
  match (((payload.get? "results").bind Json.items?).getD []).map
    itemEvidence with
  | [] =>
    let asked := ((call.params.get? "url").bind Json.text?).getD ""
    let href := ((payload.get? "url").bind Json.text?).getD asked
    [⟨"Action service: " ++ call.name, href, payloadText payload⟩]
  | items => items

/-- The number of steps that a payload or else the call speaks of. -/
def payloadSteps (call : ServiceCall) (payload : Json) : Nat :=
  match (payload.get? "steps_executed").bind Json.nat? with
  | some n => n
  | none =>
    (((call.params.get? "steps").bind Json.items?).map List.length).getD 1

/-- The record of a plan that the service carried out with this response. -/
def ofResponse (p : Plan) (call : ServiceCall) (r : ServiceResponse) :
    Outcome :=
  if r.success then
    let payload := r.result.getD .null
    { blank p with
      success := true
      evidence := payloadEvidence call payload
      steps := payloadSteps call payload }
  else failed p (r.error.getD (call.name ++ " reported failure"))

end Outcome

end Errand
