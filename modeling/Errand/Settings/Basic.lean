import Errand.Session.Performance
import Errand.Settings.Environment
import Errand.Settings.Path

/-!
# Settings

Everything about a run of the program that the user can choose. Every setting
has a value even in an empty environment, except the key for the language
model, without which only the offline planner works.
-/

namespace Errand

/-- How the browser is run. -/
structure BrowserSettings where
  headless : Bool
  sessionTimeout : Duration
  stepTimeout : Duration
  dwell : Duration
  /-- Where the browser is, if it is not to be looked for. -/
  executable : Option String
deriving DecidableEq, Repr

/-- The settings of the program. -/
structure Settings where
  /-- How long a repetition of the last request is skipped. -/
  dedupWindow : Duration
  maxQueryChars : Nat
  searchResults : Nat
  browser : BrowserSettings
  serviceEnabled : Bool
  /-- Where the definition of the action service is kept. -/
  servicePath : String
  /-- Where the table of platforms is kept. -/
  platformsPath : String
  apiKey : Option String
  model : String
  offlinePlanner : Bool
deriving DecidableEq, Repr

namespace Settings

/-- A path in the program's own directory in the user's home. -/
def ownPath (env : Environment) (name : String) : String :=
  Path.join (Path.join ((env.get? "HOME").getD "") ".steer") name

/-- The names that settings are read from. -/
def names : List String :=
  ["HOME", "AGENT_DEDUP_WINDOW_MS", "AGENT_MAX_QUERY_CHARS",
    "AGENT_SEARCH_RESULTS", "BROWSER_HEADLESS", "BROWSER_SESSION_TIMEOUT_MS",
    "BROWSER_STEP_TIMEOUT_MS", "BROWSER_DWELL_MS", "BROWSER_EXECUTABLE",
    "ACTION_SERVICE_ENABLED", "ACTION_SERVICE_CONFIG", "AGENT_PLATFORMS_FILE",
    "OPENAI_API_KEY", "OPENAI_MODEL", "AGENT_OFFLINE_PLANNER"]

/-- The settings that an environment makes. -/
def ofEnvironment (env : Environment) : Settings where
  dedupWindow := Duration.ofMillis (env.count "AGENT_DEDUP_WINDOW_MS" 4000)
  maxQueryChars := env.count "AGENT_MAX_QUERY_CHARS" 2000
  searchResults := max (env.count "AGENT_SEARCH_RESULTS" 5) 1
  browser := {
    headless := env.flag "BROWSER_HEADLESS" true
    sessionTimeout :=
      Duration.ofMillis (env.count "BROWSER_SESSION_TIMEOUT_MS" 120000)
    stepTimeout := Duration.ofMillis (env.count "BROWSER_STEP_TIMEOUT_MS" 10000)
    dwell := Duration.ofMillis (env.count "BROWSER_DWELL_MS" 0)
    executable := env.text? "BROWSER_EXECUTABLE" }
  serviceEnabled := env.flag "ACTION_SERVICE_ENABLED" true
  servicePath :=
    (env.text? "ACTION_SERVICE_CONFIG").getD (ownPath env "action_service.json")
  platformsPath :=
    (env.text? "AGENT_PLATFORMS_FILE").getD (ownPath env "platforms.json")
  apiKey := env.text? "OPENAI_API_KEY"
  model := (env.text? "OPENAI_MODEL").getD "gpt-4o"
  offlinePlanner := env.flag "AGENT_OFFLINE_PLANNER" false

end Settings

namespace BrowserSettings

/-- How long a request to the browser may take: as long as a step, but at least
five seconds. -/
def requestTimeout (b : BrowserSettings) : Duration :=
  max b.stepTimeout (Duration.ofSeconds 5)

/-- The time limits of sessions. -/
def limits (b : BrowserSettings) : Session.Options where
  stepTimeout := b.stepTimeout
  sessionTimeout := b.sessionTimeout
  dwell := b.dwell
  newPageWait := Duration.ofSeconds 5
  poll := Duration.ofMillis 100
  minCandidate := Duration.ofSeconds 1

end BrowserSettings

end Errand
