import Errand.Duration
import Errand.Plan.Instruction

/-!
# Steps

A `Step` is an instruction that has been understood: what to do, with the
parameters that this takes, whether it may fail without harm, whether it is
expected to open a page of its own, and how long it may take.

`Step.ofInstruction` understands every instruction. A tag of the vocabulary
whose parameters are missing gives an `invalid` step that says what is missing,
and a tag outside the vocabulary an `unknown` one, which does nothing.
-/

namespace Errand

/-- The state of an element that a step waits for. -/
inductive WaitState where
  | attached
  | visible
  | hidden
  | detached
deriving DecidableEq, Repr

/-- The state as a word. -/
def WaitState.name : WaitState → String
  | .attached => "Attached"
  | .visible => "Visible"
  | .hidden => "Hidden"
  | .detached => "Detached"

/-- The state that a parameter asks for; any text that names none asks for a
visible element. -/
def WaitState.ofText? (s : Option String) : WaitState :=
  match s.map fun s => Text.lower (Text.trim s) with
  | some "attached" => .attached
  | some "hidden" => .hidden
  | some "detached" => .detached
  | _ => .visible

/-- A way to get the video of a page playing. -/
inductive VideoAction where
  | play
  | forcePlay
  | clickPlay
  | keyboardPlay
  | waitReady
deriving DecidableEq, Repr

/-- The action as a word. -/
def VideoAction.name : VideoAction → String
  | .play => "Play"
  | .forcePlay => "ForcePlay"
  | .clickPlay => "ClickPlay"
  | .keyboardPlay => "KeyboardPlay"
  | .waitReady => "WaitReady"

/-- What a step does. -/
inductive StepKind where
  | navigate (url : String)
  /-- Clicks the first of the selectors that resolves. -/
  | click (selectors : List String)
  /-- Types into an element, or into the focused one. -/
  | type (selector : Option String) (text : String) (clear : Bool)
  /-- Presses a key on an element, or on the page. -/
  | press (selector : Option String) (key : String)
  | wait (selectors : List String) (state : WaitState)
  | waitUrl (includes : String)
  | sleep (ms : Nat)
  | evaluate (script : String)
  | screenshot
  | video (action : VideoAction)
  /-- A tag of the vocabulary without a parameter that it requires. -/
  | invalid (tag reason : String)
  /-- A tag outside the vocabulary. -/
  | unknown (tag : String)
deriving DecidableEq, Repr

/-- An instruction that has been understood. -/
structure Step where
  kind : StepKind
  /-- A failure of the step does not end the run. -/
  optional : Bool
  /-- The step is expected to open a page, and the run goes on there. -/
  newPage : Bool
  timeout : Option Duration
deriving DecidableEq, Repr

namespace Step

/-- The step in words. -/
def describe (s : Step) : String :=
  match s.kind with
  | .navigate url => "navigate " ++ url
  | .click selectors => "click " ++ " | ".intercalate selectors
  | .type selector _ _ => "type into " ++ selector.getD "focused element"
  | .press selector key => "press " ++ key ++ " on " ++ selector.getD "page"
  | .wait selectors _ => "wait for " ++ " | ".intercalate selectors
  | .waitUrl includes => "wait for url containing " ++ includes
  | .sleep ms => "sleep " ++ Decimal.text ms ++ "ms"
  | .evaluate _ => "evaluate script"
  | .screenshot => "screenshot"
  | .video action => "video " ++ action.name
  | .invalid tag _ => "invalid " ++ tag
  | .unknown tag => "unknown " ++ tag

/-- The other names of tags. -/
def aliases : List (String × String) :=
  [("goto", "navigate"), ("open", "navigate"), ("open_url", "navigate"),
    ("fill", "type"), ("key", "press"), ("wait_for_selector", "wait"),
    ("delay", "sleep"), ("eval", "evaluate"), ("script", "evaluate")]

/-- The tag of the vocabulary that a spelled tag stands for, or the spelled tag
in lower case. -/
def normalTag (spelled : String) : String :=
  let lower := Text.lower (Text.trim spelled)
  (aliases.lookup lower).getD lower

/-- How long a sleep without a duration lasts, in milliseconds. -/
def defaultSleep : Nat := 1000

open Instruction in
/-- What an instruction with a tag of the vocabulary does; none for any other
tag. -/
def kindOf? (tag : String) (i : Instruction) : Option StepKind :=
  let require {α : Type} (found : Option α) (reason : String)
    (kind : α → StepKind) : StepKind :=
    match found with
    | some a => kind a
    | none => .invalid tag reason
  let candidates? : Option (List String) :=
    let ss := i.selectors
    if ss.isEmpty then none else some ss
  match tag with
  | "navigate" =>
    some (require (i.firstText? ["url", "link"]) "navigate requires 'url'"
        .navigate)
  | "click" | "click_any" =>
    some (require candidates? "click requires 'selector' or 'selectors'" .click)
  | "type" =>
    some (require (i.verbatim? "text") "type requires 'text'" fun text =>
      .type (i.firstText? ["selector"]) text (i.flag "clear"))
  | "keyboard_type" =>
    some (require (i.verbatim? "text") "type requires 'text'" fun text =>
      .type none text (i.flag "clear"))
  | "press" =>
    some (require (i.firstText? ["key"]) "press requires 'key'" fun key =>
      .press (i.firstText? ["selector"]) key)
  | "press_global" =>
    some (require (i.firstText? ["key"]) "press requires 'key'" fun key =>
        .press none key)
  | "wait" | "wait_any" =>
    match candidates? with
    | some ss => some (.wait ss (.ofText? (i.text? "state")))
    | none =>
      some (require (i.firstCount? ["ms", "timeout"])
          "wait requires 'selector' or 'selectors'"
        .sleep)
  | "wait_url" =>
    some (require (i.firstText? ["includes", "url"])
        "wait_url requires 'includes'" .waitUrl)
  | "sleep" =>
    some (.sleep ((i.firstCount? ["ms", "duration"]).getD defaultSleep))
  | "evaluate" =>
    some (require (i.firstText? ["script", "expression"])
        "evaluate requires 'script'" .evaluate)
  | "screenshot" => some .screenshot
  | "video_play" => some (.video .play)
  | "video_force_play" => some (.video .forcePlay)
  | "video_click_play" => some (.video .clickPlay)
  | "video_keyboard_play" => some (.video .keyboardPlay)
  | "wait_video_ready" => some (.video .waitReady)
  | _ => none

/-- The step takes its duration from its parameters and has no time limit of
its own. -/
def StepKind.isSleep : StepKind → Bool
  | .sleep _ => true
  | _ => false

/-- What an instruction asks for. -/
def ofInstruction (i : Instruction) : Step :=
  let tag := normalTag i.tag
  let kind := (kindOf? tag i).getD (.unknown tag)
  let timeout :=
    if StepKind.isSleep kind then none else
      (i.firstCount? ["timeout"]).map Duration.ofMillis
  ⟨kind, i.flag "optional", i.flag "new_page", timeout⟩

end Step

end Errand
