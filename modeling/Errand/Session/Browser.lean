import Errand.Dialogue
import Errand.Json.Basic

/-!
# Browsers

A session talks to a browser in calls. `Call` lists what can be asked and
`Call.Answer` what comes back; a browser is a partner for these questions.
-/

namespace Errand

/-- What a selector currently stands for on the page. -/
inductive ElementState where
  | detached
  | hidden
  | visible
deriving DecidableEq, Repr

namespace ElementState

/-- The state that the page reports in a word. -/
def ofText : String → ElementState
  | "visible" => .visible
  | "hidden" => .hidden
  | _ => .detached

/-- The state as a word. -/
def name : ElementState → String
  | .detached => "Detached"
  | .hidden => "Hidden"
  | .visible => "Visible"

end ElementState

/-- What a session can ask of a browser. All calls about elements are about the
current page. -/
inductive Call where
  | launch
  | goto (url : String)
  | currentUrl
  | probe (selector : String)
  | click (selector : String)
  /-- Types into an element, or into whatever has the focus. -/
  | type (selector : Option String) (text : String) (clear : Bool)
  /-- Presses a key on an element, or on the page. -/
  | press (selector : Option String) (key : String)
  | evaluate (script : String)
  | screenshot
  /-- Goes on in a page that was opened since the last call, waiting for it so
  long. -/
  | adopt (wait : Duration)
  | close
deriving DecidableEq, Repr

/-- What a call is answered with. -/
def Call.Answer : Call → Type
  | .currentUrl => String
  | .probe _ => ElementState
  | .evaluate _ => Json
  | .screenshot => String
  | .adopt _ => Bool
  | _ => Unit

/-- A browser whose state is a `σ`. -/
abbrev Browser (σ : Type) := Partner Call.Answer σ

end Errand
