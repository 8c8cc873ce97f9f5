import Errand.LanguageModel
import Errand.Platform.Builtin
import Errand.Settings.Basic
import Errand.ToolServer.Connection
import Errand.Web.Client

/-!
# Setting up the agent

`Setup.prepare` turns settings into an agent with its collaborators. It reads
two files, the table of platforms and the definition of the action service, and
writes the first text of each where there is none. Only the access to the
language model can fail: without a key the agent works with the offline planner
or not at all. A file that cannot be used never stops the agent: the built-in
table takes the place of the one, and without the other there is no preferred
tier.
-/

namespace Errand

/-- The two files, each its text or none if it is absent. -/
structure Files where
  platforms : Option String
  service : Option String
deriving DecidableEq, Repr

/-- Who plans and answers. -/
inductive Planning where
  | rules
  | remote (m : LanguageModel)
deriving DecidableEq, Repr

/-- An agent with what it needs to work. -/
structure Setup where
  agent : Agent
  directory : Directory
  planning : Planning
  searchResults : Nat
  browser : BrowserSettings
  /-- The definition of the action service, if there is a preferred tier. -/
  service : Option ToolServer.Definition
deriving DecidableEq, Repr

namespace Setup

/-- The failure of settings with which nothing can be planned. -/
def noKey : Failure :=
  ⟨.config,
    "OPENAI_API_KEY is not set (set AGENT_OFFLINE_PLANNER=1 to run without a model)"⟩

/-- The key to use, if any: offline, none is. -/
def keyFor (s : Settings) : Except Failure (Option String) :=
  if s.offlinePlanner then .ok none
  else match s.apiKey with
    | some key => .ok (some key)
    | none => .error noKey

/-- Who plans, given the key. -/
def planningWith (s : Settings) : Option String → Except Failure Planning
  | none => .ok .rules
  | some key =>
    match LanguageModel.connect key s.model with
    | .ok m => .ok (.remote m)
    | .error t => .error ⟨.config, t.full⟩

/-- The action service, if it is to be used and its definition can be, and the
file afterwards. -/
def serviceOf (s : Settings) (file : Option String) :
    Option ToolServer.Definition × Option String :=
  if s.serviceEnabled then
    let (d, text) := ToolServer.Definition.load s.servicePath file
    (d.toOption, some text)
  else (none, file)

/-- The setup that settings make, and the files afterwards. -/
def prepare (s : Settings) (f : Files) : Except Failure Setup × Files :=
  match keyFor s with
  | .error e => (.error e, f)
  | .ok key =>
    let (directory, platforms) := Directory.load Directory.builtin f.platforms
    let f := { f with platforms := some platforms }
    match planningWith s key with
    | .error e => (.error e, f)
    | .ok planning =>
      let (service, text) := serviceOf s f.service
      (.ok ⟨⟨s.dedupWindow, s.maxQueryChars⟩, directory, planning,
          s.searchResults, s.browser, service⟩,
        { f with service := text })

/-- What the agent needs from outside. -/
structure Outside (σ : Type) where
  tools : Toolbox σ
  chat : Partner ChatRequest.Answer σ
  service : Partner ServiceRequest.Answer σ

/-- The partner that the agent works with. -/
def partner {σ : Type} (s : Setup) (o : Outside σ) :
    Partner Consultation.Answer σ :=
  let model := match s.planning with
    | .rules => Rules.model s.directory
    | .remote m => m.model o.chat
  let preferred := s.service.map fun _ =>
    Executor.ofService s.directory s.searchResults o.service
  Agent.partner model (.tiered preferred
      (.ofTools s.directory s.searchResults o.tools))

end Setup

/-- A partner that cannot be reached: every question ends in trouble. -/
def Partner.unreachable {Q σ : Type} {A : Q → Type} (t : Trouble) :
    Partner A σ where
  perform _ _ s := .finish (.answer (.error t)) s

namespace Setup

/-- Why there is no browser: the one that the settings name is not there, or
none was found. -/
def noBrowser (b : BrowserSettings) : Trouble :=
  match b.executable with
  | some _ =>
    (Trouble.plain "No such file or directory (os error 2)").within
      "No such file or directory (os error 2)" |>.within
        "Failed to launch Chromium"
  | none =>
    .plain "browser config error: Could not auto detect a chrome executable"

/-- The tools of a process that has neither an opener nor a network nor a
browser. -/
def toolsAlone {σ : Type} (b : BrowserSettings) : Toolbox σ :=
  let web : Partner WebRequest.Answer σ :=
    .unreachable (.plain "error sending request")
  { openTarget := fun _ _ s => .finish (.answer (.ok (WebClient.opened none))) s
    search := fun words limit now s =>
      ((WebClient.search words limit).play web none now s).act now
    fetch := fun url now s =>
      ((WebClient.fetch url).play web none now s).act now
    browser := .unreachable (noBrowser b)
    limits := b.limits }

/-- The outside of a process that can reach nothing but a tool server: `turns`
is what a server does that is started, none if it cannot be started. -/
def outsideWith (b : BrowserSettings) (turns : Option (List ToolServer.Turn)) :
    Outside ToolServer.Client where
  tools := toolsAlone b
  chat := .unreachable (.plain "error sending request")
  service := ToolServer.Client.partner turns

/-- The client of the action service before it is used. -/
def client (s : Setup) : ToolServer.Client :=
  .ofDefinition (s.service.getD ToolServer.Definition.initial)

end Setup

end Errand
