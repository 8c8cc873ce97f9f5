import Errand.Json.Printer
import Errand.Session.PageScript
import Errand.Session.Waiting

/-!
# Performing steps

`Step.perform` is the dialogue that carries out one step; its value is a note
on what was done. A step with several selectors commits itself to the first
that resolves, each getting an equal share of the step's time but not less than
a floor.

`Session.drive` is the dialogue of a whole session up to its end: launching the
browser, loading the address to start from, and the steps in their order. It
logs a record of every step that has come to an end. A step that fails ends the
session unless it is optional.
-/

namespace Errand

namespace Session

/-- The time limits of a session. -/
structure Options where
  /-- The limit of a step that sets none. -/
  stepTimeout : Duration
  /-- The limit of all steps together. -/
  sessionTimeout : Duration
  /-- How long the browser stays open after the steps. -/
  dwell : Duration
  /-- How long a page that a step opens is waited for. -/
  newPageWait : Duration
  /-- The pause between probes. -/
  poll : Duration
  /-- The least share of a step's time that each of several candidates gets. -/
  minCandidate : Duration
deriving DecidableEq, Repr

/-- How a step ended, with a note or a reason. -/
inductive StepResult where
  | done (note : String)
  | skipped (reason : String)
  | failed (reason : String)
deriving DecidableEq, Repr

/-- The record of a step that has come to an end. -/
structure Record where
  index : Nat
  description : String
  result : StepResult
deriving DecidableEq, Repr

/-- An entry in the log of a session. -/
inductive Entry where
  /-- The browser is there. -/
  | opened
  | captured (path : String)
  | ended (record : Record)
deriving DecidableEq, Repr

/-- A dialogue of a session. -/
abbrev Talk (α : Type) := Dialogue Call.Answer Entry α

/-- A call whose trouble is the trouble of the dialogue. -/
def call (c : Call) : Talk c.Answer := Dialogue.question c

/-- A call in either case. -/
def tryCall (c : Call) : Talk (Except Trouble c.Answer) := Dialogue.tried c

/-- Play controls of the common players, the most specific first. -/
def playControls : List String :=
  [".bpx-player-ctrl-play", ".ytp-play-button", ".xgplayer-play",
    "button[aria-label*='Play']", "video"]

/-- The most characters of a script's value that a note shows. -/
def previewLength : Nat := 80

/-- The value of a script as a note shows it. -/
def preview (j : Json) : String :=
  let cs := match j with
    | .str s => s.toList
    | j => j.render
  if previewLength < cs.length then
    String.ofList (cs.take previewLength ++ ['…'])
  else String.ofList cs

/-- The share of a time limit that each of several candidates gets: an equal
part, but not less than the floor nor more than the limit. -/
def candidateShare (o : Options) (limit : Duration) (candidates : Nat) :
    Duration :=
  if candidates ≤ 1 then limit
  else max (limit / candidates) (min o.minCandidate limit)

end Session

namespace Step

open Session Dialogue

/-- The time limit of a step. -/
def limit (o : Options) (s : Step) : Duration := s.timeout.getD o.stepTimeout

/-- The first of the selectors that comes into the state. -/
def resolve (o : Options) (s : Step) (selectors : List String)
    (wanted : WaitState) : Talk String :=
  do
  let share := candidateShare o (s.limit o) selectors.length
  let (index, ()) ← firstSuccess selectors fun sel =>
      awaitState sel wanted share o.poll
  pure (selectors.getD index "")

/-- Gets the video of the page playing. -/
def performVideo (o : Options) (s : Step) : VideoAction → Talk String
  | .play => startVideo PageScript.play
  | .forcePlay => startVideo PageScript.forcePlay
  | .clickPlay => do
    let chosen ← s.resolve o playControls .visible
    call (.click chosen)
    pure ("clicked play control " ++ chosen)
  | .keyboardPlay => do
    call (.press none " ")
    pure "sent play key"
  | .waitReady => do
    awaitScript PageScript.videoReady
      (.plain ("video not ready within " ++ Duration.text (s.limit o)))
        (s.limit o) o.poll
    pure "video ready"
where
  /-- Runs a script that says whether there is a video to play. -/
  startVideo (script : String) : Talk String := do
    let j ← call (.evaluate script)
    if Json.text? j = some "ok" then pure "playback requested"
    else .fail (.plain "no video element on page")

/-- What the step itself does, as a note. -/
def performKind (o : Options) (s : Step) : Talk String :=
  match s.kind with
  | .navigate url => do
    call (.goto url)
    pure ("loaded " ++ url)
  | .click selectors => do
    let chosen ← s.resolve o selectors .visible
    call (.click chosen)
    pure ("clicked " ++ chosen)
  | .type selector text clear => do
    if let some sel := selector then awaitState sel .visible (s.limit o) o.poll
    call (.type selector text clear)
    pure ("typed " ++ Decimal.text text.length ++ " chars")
  | .press selector key => do
    if let some sel := selector then awaitState sel .attached (s.limit o) o.poll
    call (.press selector key)
    pure ("pressed " ++ key)
  | .wait selectors state => do
    let chosen ← s.resolve o selectors state
    pure (chosen ++ " is " ++ state.name)
  | .waitUrl includes => do
    let url ← awaitUrl includes (s.limit o) o.poll
    pure ("url is " ++ url)
  | .sleep ms => do
    rest (Duration.ofMillis ms)
    pure ("slept " ++ Decimal.text ms ++ "ms")
  | .evaluate script => do
    let j ← call (.evaluate script)
    pure ("script returned " ++ preview j)
  | .screenshot => do
    let path : String ← call .screenshot
    enter (.captured path)
    pure ("saved " ++ path)
  | .video action => performVideo o s action
  | .invalid _ reason => .fail (.plain reason)
  | .unknown tag => pure ("ignored unknown action '" ++ tag ++ "'")

/-- Goes on in the page that the step opened, if it opened one, and adds that
to the note `did`. -/
def followNewPage (o : Options) (did : String) : Talk String := do
  let adopted : Bool ← call (.adopt o.newPageWait)
  if adopted then
    let url : Except Trouble String ← tryCall .currentUrl
    let shown := match url with
      | .ok url => url
      | .error _ => ""
    pure (did ++ "; switched to new tab " ++ shown)
  else pure did

/-- The dialogue that carries out a step. -/
def perform (o : Options) (s : Step) : Talk String := do
  let did ← performKind o s
  if s.newPage then followNewPage o did else pure did

end Step

namespace Session

open Dialogue

/-- The step loads the address that has just been loaded. -/
def isLoaded (loaded : Option String) (s : Step) : Bool :=
  match s.kind with
  | .navigate url => loaded = some url
  | _ => false

/-- The steps from number `index` on. An address in `loaded` has just been
loaded, so a step that loads it again has nothing to do. -/
def driveFrom (o : Options) : (index : Nat) → (loaded : Option String) →
    List Step → Talk Unit
  | _, _, [] => .done ()
  | index, loaded, s :: rest =>
    let performed : Talk String :=
      if isLoaded loaded s then .done "already loaded" else s.perform o
    performed.attempt.bind fun
      | .ok did =>
        .note (.ended ⟨index, s.describe, .done did⟩)
          (driveFrom o (index + 1) none rest)
      | .error t =>
        if s.optional then
          .note (.ended ⟨index, s.describe, .skipped t.full⟩)
            (driveFrom o (index + 1) none rest)
        else
          .note (.ended ⟨index, s.describe, .failed t.full⟩)
            (.fail
              (t.within ("step " ++ Decimal.text (index + 1) ++ " (" ++
                s.describe ++ ") failed")))

/-- The dialogue of a session up to the end of its steps. -/
def drive (o : Options) (target : Option String) (steps : List Step) :
    Talk Unit :=
  do
  call .launch
  enter .opened
  if let some url := target then call (.goto url)
  driveFrom o 0 target steps

/-- The dialogue that ends a session: a last look at the address, the dwell,
and closing the browser, come what may. Its value is the address, if there is
one. -/
def conclude (o : Options) : Talk (Option String) := do
  let url : Except Trouble String ← tryCall .currentUrl
  rest o.dwell
  let _ ← tryCall .close
  pure (url.toOption.filter fun u => !u.isEmpty)

end Session

end Errand
