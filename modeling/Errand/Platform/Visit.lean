import Errand.Plan.Instruction
import Errand.Platform.Keyword
import Errand.Web.Percent

/-!
# Visiting a platform

The address of a search on a platform, and the steps that carry out a request
there when the plan brought none. Outside the table both fall back to a general
web search.
-/

namespace Errand

/-- The place in an address where the words go. -/
def queryPlace : String := "\x7bquery\x7d"

/-- The address with the words in their place. -/
def fillAddress (template words : String) : String :=
  Text.replace queryPlace (Percent.encode words) template

/-- The address of a general web search, with a place for the words. -/
def generalSearch : String := "https://www.google.com/search?q=\x7bquery\x7d"

namespace Platform

/-- The address of a search for the words on the platform. -/
def searchUrlFor (p : Platform) (words : String) : String :=
  fillAddress p.searchUrl words

/-- The steps on the page of results. -/
def resultSteps (p : Platform) : List Instruction :=
  let selectors : String × Json := ("selectors", Json.ofTexts p.resultSelectors)
  let optional : String × Json := ("optional", .bool true)
  let waitForResults := Instruction.make "wait_any" [selectors, optional]
  match p.recipe with
  | .page => []
  | .shop =>
    (if p.resultSelectors.isEmpty then [] else [waitForResults]) ++
      [Instruction.make "screenshot" [optional]]
  | .video =>
    (if p.resultSelectors.isEmpty then []
      else [waitForResults, Instruction.make "click_any" [selectors,
          ("new_page", .bool true)]]) ++
      [Instruction.make "wait_video_ready" [optional],
        Instruction.make "video_play" [optional],
        Instruction.make "video_force_play" [optional]]

end Platform

namespace Directory

/-- The address of a general web search for a request. -/
def generalSearchUrl (request : String) : String :=
  fillAddress generalSearch request

/-- The address of the search that a plan for `platform` asks for, if the
platform is known. -/
def searchUrl? (d : Directory) (platform request : String) : Option String :=
  (d.resolve platform request).map fun p =>
    p.searchUrlFor (d.searchWords request)

/-- The same, or the address of a general web search. -/
def searchUrl (d : Directory) (platform request : String) : String :=
  (d.searchUrl? platform request).getD (generalSearchUrl request)

/-- A step that loads an address. -/
def navigateTo (url : String) : Instruction :=
  Instruction.make "navigate" [("url", .str url)]

/-- The steps for a plan that brought none. -/
def cannedSteps (d : Directory) (platform request : String) :
    List Instruction :=
  match d.resolve platform request with
  | none => [navigateTo (generalSearchUrl request)]
  | some p =>
    navigateTo (p.searchUrlFor (d.searchWords request)) :: p.resultSteps

/-- The platform plays videos, so that "search and play the first result" makes
sense there. -/
def isVideo (d : Directory) (platform request : String) : Bool :=
  (d.resolve platform request).any fun p => p.recipe = .video

end Directory

end Errand
