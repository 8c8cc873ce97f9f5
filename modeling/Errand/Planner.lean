import Errand.Execution.Summary
import Errand.Failure
import Errand.Plan.Wire
import Errand.Platform.Visit
import Errand.Prompt

/-!
# Planners

A plan comes from a language model or from rules. What a model writes is text
with a plan somewhere in it; `Planner.readPlan` finds and reads it, and
`Planner.planOf` settles for the fallback plan where that fails.

The rules (`Rules.plan`) need no model: a request to open something opens it, a
request that mentions a platform and asks to search or play is carried out
there, another search or question goes to the browser, and everything else is
answered as it stands. `Rules.complete` lets the rules take the place of the
model: it answers the two prompts with a plan and with a summary.
-/

namespace Errand

namespace Planner

/-! ### Plans in a model's text -/

/-- The text inside a code fence, or the text itself if it has none. -/
def unfenced (cs : List Char) : List Char :=
  let fence := "```".toList
  let opened := Chars.dropLeads fence (Chars.dropLeads (fence ++ "JSON".toList)
    (Chars.dropLeads (fence ++ "json".toList) (Chars.trim cs)))
  Chars.trim (Chars.dropTails fence opened)

/-- The text from the first opening brace to the last closing one, if they
stand in this order. -/
def braced? (cs : List Char) : Option (List Char) :=
  let fromOpening := cs.dropWhile (· != '\x7b')
  let upToClosing := (fromOpening.reverse.dropWhile (· != '\x7d')).reverse
  if upToClosing.isEmpty then none else some upToClosing

/-- The object that a text spells. -/
def objectOf? (cs : List Char) : Option Json :=
  (Json.read cs).toOption.filter fun j => j.fields?.isSome

/-- The object in a text: the whole text without its fence, or what stands
between its outermost braces. -/
def extractObject? (s : String) : Option Json :=
  let inner := unfenced s.toList
  (objectOf? inner).or ((braced? inner).bind objectOf?)

/-- Why a text holds no plan. -/
inductive Unusable where
  | noObject
  | wrongShape (cause : Json.ReadError)

/-- The reason in words. -/
def Unusable.message : Unusable → String
  | .noObject => "planner output contains no JSON object"
  | .wrongShape (.mismatch m) => "plan JSON has the wrong shape: " ++ m.message
  | .wrongShape (.fault _) => "plan JSON has the wrong shape: not JSON"

/-- The reason as the failure of planning. -/
def Unusable.failure (u : Unusable) : Failure := ⟨.planning, u.message⟩

/-- The plan that a text holds. -/
def readPlan (s : String) : Except Unusable Plan :=
  match extractObject? s with
  | none => .error .noObject
  | some j =>
    match PlanWire.decoder.ofValue j with
    | .error e => .error (.wrongShape e)
    | .ok w => .ok (Plan.ofWire w)

/-- The plan for a request, given what the planner wrote. A plan without a
context takes the request for it, and a text without a plan becomes the
fallback. -/
def planOf (s request : String) : Plan :=
  match readPlan s with
  | .ok p => if Text.isBlank p.context then { p with context := request } else p
  | .error _ => .fallback request

end Planner

/-! ### Rules -/

namespace Rules

/-- Words that ask for a search. -/
def searchMarkers : List String :=
  ["search", "find", "look up", "lookup", "搜索", "搜", "查找", "查一下"]

/-- Words that ask for something to be played. -/
def playMarkers : List String := ["play", "watch", "播放", "观看", "看视频"]

/-- What a request begins with that asks for something to be opened. -/
def openings : List String :=
  ["open ", "go to ", "visit ", "browse ", "打开", "访问"]

/-- What the request asks to open. An opening has the same length in every
case, so it is found in lower case and taken off the request as it is
spelled. -/
def openTarget? (request : String) : Option (List Char) :=
  let trimmed := Chars.trim request.toList
  let lower := Chars.lower trimmed
  openings.findSome? fun o =>
    if Chars.startsWith o.toList lower then
      let target := Chars.trim (trimmed.drop o.length)
      if target.isEmpty then none else some target
    else none

/-- The address of what is to be opened: an address as it is, something with a
point in it as a host, and the name of a platform as its domain. -/
def browseUrl? (d : Directory) (target : List Char) : Option String :=
  let spelled := String.ofList target
  if Chars.startsWith "http://".toList target ||
      Chars.startsWith "https://".toList target then
    some spelled
  else if !target.any Chars.isBlank && target.contains '.' then
    some ("https://" ++ spelled)
  else (d.find spelled).map fun p => "https://www." ++ p.domain

/-- The text, which is in lower case, has one of the marks. -/
def hasMarker (lower : List Char) (markers : List String) : Bool :=
  markers.any fun m => Chars.contains m.toList lower

/-- The plan for a request. -/
def plan (d : Directory) (request : String) : Plan :=
  let lower := Chars.lower (Chars.trim request.toList)
  let searches := hasMarker lower searchMarkers
  match (openTarget? request).bind (browseUrl? d) with
  | some url => ⟨.browse (some url), browserPlatform, request⟩
  | none =>
    match (d.detect request).filter fun _ =>
      searches || hasMarker lower playMarkers with
    | some p => ⟨.automate (d.cannedSteps p.domain request), p.domain, request⟩
    | none =>
      if searches || lower.getLast? = some '?' then .fallback request
      else ⟨.answer, browserPlatform, request⟩

/-- What follows the first occurrence of a label. -/
def after? (label : String) (cs : List Char) : Option (List Char) :=
  (Chars.breakAt? label.toList cs).map Prod.snd

/-- What stands in front of the first occurrence of a text, or everything. -/
def upTo (stop : String) (cs : List Char) : List Char :=
  match Chars.breakAt? stop.toList cs with
  | some (before, _) => before
  | none => cs

/-- The request in a message that asks for a plan. -/
def requestIn (message : String) : String :=
  let cs := message.toList
  String.ofList
    (Chars.trim (((after? Prompt.requestLabel cs).map (upTo "\n\n")).getD cs))

/-- The plan for the request in a message, as text. -/
def completePlan (d : Directory) (message : String) : String :=
  (plan d (requestIn message)).toWire.toJson.compress

/-- The summary of the record in a message, or what is wrong with the record. -/
def completeAnswer (message : String) : Except Json.ReadError String :=
  let cs := message.toList
  let request :=
    ((after? Prompt.requestLabel cs).map
        (upTo ("\n\n" ++ Prompt.recordLabel))).getD []
  let record := (after? Prompt.recordLabel cs).getD []
  (Outcome.decoder.ofText (String.ofList (Chars.trim record))).map
    (Outcome.summary (String.ofList (Chars.trim request)))

/-- The rules in place of a language model: a plan for the planning prompt, a
summary for any other. -/
def complete (d : Directory) (system message : String) :
    Except Json.ReadError String :=
  if system = Prompt.planning then .ok (completePlan d message)
  else completeAnswer message

end Rules

end Errand
