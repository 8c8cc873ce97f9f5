import Errand.Dialogue
import Errand.Web.Results
import Errand.Web.Target

/-!
# Reaching the web

What the local tier has of the web: searching it, fetching the text of a page,
and opening an address in the user's browser. Searching and fetching are
dialogues of one request each; opening runs the opener of the system with one
argument.
-/

namespace Errand

/-- A request for what is at an address. -/
structure WebRequest where
  url : String
deriving DecidableEq, Repr

/-- What comes back from an address. -/
structure WebPage where
  /-- The status with its name. -/
  status : String
  succeeded : Bool
  html : String
deriving DecidableEq, Repr

/-- Every request is answered with a page. -/
def WebRequest.Answer (_ : WebRequest) : Type := WebPage

namespace WebClient

/-- A dialogue with the web. -/
abbrev Work (α : Type) := Dialogue WebRequest.Answer Empty α

/-- The address of the list of results, in front of the words. -/
def resultsAddress : String := "https://html.duckduckgo.com/html/?q="

/-- The most characters of a page that are kept. -/
def maxPageLength : Nat := 4000

/-- Searches the web for at most `limit` pages. -/
def search (words : String) (limit : Nat) : Work (List Hit) :=
  .ask ⟨resultsAddress ++ Percent.encode words⟩ fun
    | .ok page =>
      if WebPage.succeeded page then
        .done (Results.read (WebPage.html page) limit)
      else .fail (.plain ("search returned HTTP " ++ WebPage.status page))
    | .error t => .fail (t.within "search request failed")

/-- Fetches the readable text of a page. -/
def fetch (url : String) : Work String :=
  .ask ⟨url⟩ fun
    | .ok page =>
      if WebPage.succeeded page then
        .done
          (String.ofList (Page.shorten maxPageLength
              (Page.text (WebPage.html page).toList)))
      else .fail (.plain (url ++ " returned HTTP " ++ WebPage.status page))
    | .error t => .fail (t.within ("Failed to fetch " ++ url))

/-- What the opener of the system is given for a target. -/
def openerArguments (target : String) : List String := [Target.url target]

/-- The opener did its work, if it ended with this status; there is none if it
could not be run. -/
def opened (status : Option Nat) : Bool := status = some 0

end WebClient

end Errand
