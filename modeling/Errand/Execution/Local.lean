import Errand.Execution.ServiceCall
import Errand.Session.Report
import Errand.Web.Results
import Errand.Web.Target

/-!
# Carrying out plans locally

The local tier carries out a plan with tools of its own: it opens addresses in
the user's browser, searches and fetches pages, and drives a browser session.
`Local.carryOut` is the dialogue with the tools; what they answer is put on
record by one function for each kind of plan.

* A search in the plain browser opens the search and searches itself, in this
  order and always both (`searchRecord`).
* A search on a platform opens the platform's page of results (`visitRecord`).
* Browsing opens the page and fetches its text (`pageRecord`).
* Automation runs a session and records its transcript and its screenshots
  (`sessionRecord`).
* An answer needs no tool (`answerRecord`).

Whatever a tool reports goes into the record, and the dialogue goes on.
-/

namespace Errand

/-- What carrying out a plan asks of the tools. -/
inductive Tool where
  /-- Opens an address, or a web search for a text, in the user's browser. -/
  | openTarget (target : String)
  /-- Searches the web for at most `limit` pages. -/
  | search (words : String) (limit : Nat)
  /-- Fetches the readable text of a page. -/
  | fetch (url : String)
  /-- Carries out steps in a browser session, from an address if there is
  one. -/
  | drive (target : Option String) (steps : List Instruction)
deriving BEq, Repr

/-- What the tools answer. -/
def Tool.Answer : Tool → Type
  | .openTarget _ => Bool
  | .search _ _ => List Hit
  | .fetch _ => String
  | .drive _ _ => Session.Report

namespace Local

/-- A dialogue with the tools. -/
abbrev Work (α : Type) := Dialogue Tool.Answer Empty α

/-! ### Records -/

/-- What is found in place of results: a note where there are none, and the
trouble where there is some. -/
def searchEvidence (limit : Nat) (url : String) : Except Trouble (List Hit) →
    List Evidence
  | .ok [] => [⟨"Web search", url, "Search returned no results"⟩]
  | .ok hits => (hits.take limit).map fun h => ⟨h.title, h.href, h.body⟩
  | .error t => [⟨"Web search failed", url, t.full⟩]

/-- Whether a tool did its work. -/
def worked {α : Type} (r : Except Trouble α) : Bool :=
  match r with
  | .ok _ => true
  | .error _ => false

/-- The error of a record, for a reason that counts only if the plan was not
carried out. -/
def errorUnless (success : Bool) (reason : String) : Option String :=
  if success then none else some reason

/-- The record of a search in the plain browser. -/
def searchRecord (p : Plan) (request : String) (limit : Nat) (opened : Bool)
    (found : Except Trouble (List Hit)) : Outcome :=
  let url := Target.url request
  let note :=
    if opened then "Opened a browser window for '"
    else "Could not open a browser window for '"
  let success := opened || worked found
  { Outcome.blank p with
    success
    evidence :=
      ⟨"Opened browser search", url, note ++ request ++ "'"⟩ ::
        searchEvidence limit url found
    steps := 2
    error := errorUnless success "browser open and web search both failed" }

/-- The record of a search on a platform. -/
def visitRecord (p : Plan) (url : String) (opened : Bool) : Outcome :=
  let note :=
    if opened then "Opened search results"
    else "Could not open search results"
  { Outcome.blank p with
    success := opened
    evidence := [⟨"Search on " ++ p.platform, url, note⟩]
    steps := 1
    error := errorUnless opened ("failed to open " ++ url) }

/-- The text that is recorded of a page: its own, or why it is not there. -/
def pageText (opened : Bool) : Except Trouble String → String
  | .ok text => text
  | .error t =>
    if opened then
      "Page opened in browser; content unavailable (" ++ t.full ++ ")"
    else t.full

/-- The record of looking at a page. -/
def pageRecord (p : Plan) (url : String) (opened : Bool)
    (fetched : Except Trouble String) : Outcome :=
  let success := opened || worked fetched
  { Outcome.blank p with
    success
    evidence := [⟨"Opened " ++ url, url, pageText opened fetched⟩]
    steps := 1
    error := errorUnless success ("could not open or fetch " ++ url) }

/-- The record of a session. -/
def sessionRecord (p : Plan) (target : Option String) (r : Session.Report) :
    Outcome :=
  let title :=
    "Automation on " ++ p.platform ++ ": " ++
      Decimal.text r.stepsExecuted ++ "/" ++ Decimal.text r.totalSteps ++
      " steps"
  let href := (r.finalUrl.or target).getD ""
  { Outcome.blank p with
    success := r.success
    evidence := ⟨title, href, Session.transcript r.records⟩ ::
      r.screenshots.map fun path =>
        ⟨"Screenshot", "file://" ++ path, "Captured page"⟩
    steps := r.stepsExecuted
    error := r.error }

/-- The record of a plan that needs no tool. -/
def answerRecord (p : Plan) : Outcome :=
  { Outcome.blank p with
    success := true
    evidence := [⟨"Answer", "", "No browsing needed; answered directly."⟩] }

/-! ### The dialogue -/

/-- Opens a target and goes on with whether that worked. -/
def opening (target : String) (k : Bool → Work Outcome) : Work Outcome :=
  .ask (.openTarget target) fun
    | .ok opened => k opened
    | .error _ => k false

/-- Looks at a page. -/
def lookAt (p : Plan) (url : String) : Work Outcome :=
  opening url fun opened =>
    .ask (.fetch url) fun fetched => .done (pageRecord p url opened fetched)

/-- The dialogue that carries out a plan; at most `results` search results are
wanted, but at least one. -/
def carryOut (d : Directory) (results : Nat) (p : Plan) (request : String) :
    Work Outcome :=
  match p.operation with
  | .search =>
    if p.isBrowser then
      let limit := max results 1
      opening request fun opened =>
        .ask (.search request limit) fun found =>
          .done (searchRecord p request limit opened found)
    else
      let url := d.searchUrl p.platform request
      opening url fun opened => .done (visitRecord p url opened)
  | .browse (some url) => lookAt p (withScheme url)
  | .browse none =>
    .done (Outcome.failed p ServiceCall.Unsuited.noAddress.message)
  | .automate steps =>
    let steps := ServiceCall.stepsOf d p request steps
    let target := automationTarget p steps
    .ask (.drive target steps) fun
      | .ok report => .done (sessionRecord p target report)
      | .error t => .fail t
  | .answer => .done (answerRecord p)

end Local

/-- The tools of a process: those for the web, and sessions with a browser
under time limits. -/
structure Toolbox (σ : Type) where
  openTarget : String → Time → σ → Act σ Bool
  search : String → Nat → Time → σ → Act σ (List Hit)
  fetch : String → Time → σ → Act σ String
  browser : Browser σ
  limits : Session.Options

/-- The report of a session as one act. -/
def Session.Course.act {σ : Type} (o : Session.Options) (total : Nat)
    (start : Time) (c : Session.Course σ) : Act σ Session.Report :=
  let reply :=
    if c.brokeDown then .breakdown
    else .answer (.ok (c.report o total))
  .wait c.state (c.now - start) (.finish reply c.state)

/-- The partner that answers with the tools. -/
def Toolbox.partner {σ : Type} (t : Toolbox σ) : Partner Tool.Answer σ where
  perform
    | .openTarget target, now, s => t.openTarget target now s
    | .search words limit, now, s => t.search words limit now s
    | .fetch url, now, s => t.fetch url now s
    | .drive target steps, now, s =>
      (Session.run t.browser t.limits target steps now s).act t.limits
        steps.length now

end Errand
