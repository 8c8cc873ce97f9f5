import Errand.Text.Blank
import Errand.Web.Address

/-!
# What the browser is asked to open

`Target.url` turns what a user or a plan names into the address that is handed
to the system's browser: a web address in its normal form, and anything else as
a web search for the text. So neither a local file nor another scheme is ever
handed over.
-/

namespace Errand.Target

/-- The address of a web search, in front of the words. -/
def searchAddress : String := "https://duckduckgo.com/?q="

/-- The address to open for a target. -/
def url (target : String) : String :=
  let trimmed := Text.trim target
  match Address.read? trimmed.toList with
  | some a => String.ofList a.render
  | none => searchAddress ++ Percent.encode trimmed

end Errand.Target
