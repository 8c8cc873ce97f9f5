import Errand.Agent
import Errand.Execution.Executor
import Errand.Rehearsal.Page

/-!
# Collaborators that follow a script

A `World` holds a script for every collaborator of the agent and a record of
what each was asked: the browser, the tools for the web, the action service,
executors that have their outcomes ready, and the language model.
-/

namespace Errand.Rehearsal

/-- What the tools for the web answer, whatever they are asked. -/
structure Web where
  opens : Bool
  search : Cue (List Hit)
  fetch : Cue String

/-- What the action service answers. A service that has no reply left succeeds
with an empty object. -/
structure Service where
  startError : Option Trouble
  replies : List (Cue ServiceResponse)

/-- An executor with outcomes at hand; none stands for bare success, and so
does an empty list. -/
structure Hand where
  results : List (Cue (Option Outcome))
  delay : Duration
  /-- The plans it was given, each with its request. -/
  plans : List (Plan × String)

/-- All collaborators, with what each was asked. -/
structure World where
  page : Page
  calls : List (Time × Call)
  web : Web
  tools : List Tool
  service : Service
  requests : List ServiceRequest
  preferred : Hand
  fallback : Hand
  replies : List (Cue String)
  prompts : List (Purpose × String)

namespace World

/-- The browser. -/
def browser : Browser World :=
  Page.browser.recorded.within (fun w => (w.page, w.calls))
    (fun s w => { w with page := s.1, calls := s.2 })

/-- The world after a tool was used. -/
def used (tool : Tool) (w : World) : World :=
  { w with tools := w.tools ++ [tool] }

/-- The tools, with time limits for sessions. -/
def toolbox (limits : Session.Options) : Toolbox World where
  openTarget target _ w :=
    .finish (.answer (.ok w.web.opens)) (w.used (.openTarget target))
  search words limit _ w :=
    .finish (w.web.search.reply id) (w.used (.search words limit))
  fetch url _ w := .finish (w.web.fetch.reply id) (w.used (.fetch url))
  browser := browser
  limits

/-- The action service. -/
def actions : Partner ServiceRequest.Answer World where
  perform
    | .start, _, w =>
      .finish (.answer (Page.orTrouble w.service.startError))
        { w with requests := w.requests ++ [ServiceRequest.start] }
    | .execute c, _, w =>
      let w := { w with requests := w.requests ++ [ServiceRequest.execute c] }
      match w.service.replies with
      | [] => .finish (.answer (.ok ⟨true, some (.obj []), none⟩)) w
      | cue :: rest =>
        .finish (cue.reply id)
          { w with service := { w.service with replies := rest } }

/-- The language model. -/
def model : Agent.Model World := fun purpose message _ w =>
  let w := { w with prompts := w.prompts ++ [(purpose, message)] }
  match w.replies with
  | [] => .finish (.answer (.error (.plain "no scripted reply left"))) w
  | cue :: rest => .finish (cue.reply id) { w with replies := rest }

/-- The outcome of bare success with a plan. -/
def bareSuccess (p : Plan) : Outcome := { Outcome.blank p with success := true }

end World

namespace Hand

/-- An executor carrying out a plan. -/
def execute (p : Plan) (request : String) (h : Hand) : Act Hand Outcome :=
  let h := { h with plans := h.plans ++ [(p, request)] }
  let reply := match h.results with
    | [] => .finish (.answer (.ok (World.bareSuccess p))) h
    | cue :: rest =>
      .finish (cue.reply fun o => o.getD (World.bareSuccess p))
        { h with results := rest }
  .wait h h.delay reply

end Hand

namespace World

/-- The preferred executor that follows a script, which supports all plans or
none. -/
def preferredHand (supports : Bool) : Executor World where
  supports _ := supports
  execute p request _ w := (w.preferred.execute p request).mapState fun h =>
    { w with preferred := h }

/-- The other executor that follows a script. -/
def fallbackHand : Executor World where
  supports _ := true
  execute p request _ w := (w.fallback.execute p request).mapState fun h =>
    { w with fallback := h }

end World

end Errand.Rehearsal
