import Errand.Plan.Basic
import Errand.Plan.Step
import Errand.Text.Search

/-!
# Addresses of plans

Plans spell addresses the way people do. `withScheme` gives an address a scheme
where it has none, and `automationTarget` is the address that a list of steps
starts from: the first one that a step navigates to, or the platform itself.
-/

namespace Errand

/-- The address with a scheme: one that has a scheme stays, any other is taken
as that of a host. -/
def withScheme (url : String) : String :=
  let cs := Chars.trim url.toList
  if Chars.contains "://".toList cs || Chars.startsWith "about:".toList cs ||
      Chars.startsWith "data:".toList cs then
    String.ofList cs
  else String.ofList ("https://".toList ++ Chars.dropLeads ['/', '/'] cs)

/-- The address that a step navigates to. -/
def Step.address? (s : Step) : Option String :=
  match s.kind with
  | .navigate url => some url
  | _ => none

/-- The address that the steps of a plan start from. Steps in the plain browser
that navigate nowhere start from no address. -/
def automationTarget (p : Plan) (steps : List Instruction) : Option String :=
  match steps.findSome? fun i => (Step.ofInstruction i).address? with
  | some url => some (withScheme url)
  | none =>
    if p.isBrowser then none else some (withScheme (Text.trim p.platform))

end Errand
