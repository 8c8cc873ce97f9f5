import Errand.Web.Page
import Errand.Web.Percent

/-!
# Lists of search results

A page of search results lists links and, for most of them, a snippet.
`Results.read` collects both and pairs them by position: the link that comes as
number `n` gets the snippet that comes as number `n`. A link without a title or
an address is dropped.

The address of a link is usually a redirect with the real address
percent-encoded in its `uddg` parameter; `Results.address` unwraps it.
-/

namespace Errand

/-- One found page: its title, its address and what the result list says about
it. -/
structure Hit where
  title : String
  href : String
  body : String
deriving DecidableEq, Repr

namespace Results

open Pattern

/-- The link of a result; its groups are the address and the title. -/
def link : Pattern :=
  inOrder [exactly "<a", upTo ['>'], exactly "class=\"result__a\"", upTo ['>'],
    exactly "href=\"", .group (.seq (.one (· != '"')) (upTo ['"'])),
    exactly "\"", upTo ['>'], exactly ">", .group anything, exactly "</a>"]

/-- The snippet of a result; its group is the text. -/
def snippet : Pattern :=
  inOrder [exactly "class=\"result__snippet\"", upTo ['>'], exactly ">",
    .group anything, exactly "</",
    oneOf [exactly "a", exactly "td", exactly "div"], exactly ">"]

/-- The address that the link of a result leads to. -/
def address (raw : String) : String :=
  let href := Page.decode raw.toList
  let target? := (Chars.breakAt? "uddg=".toList href).bind fun (_, rest) =>
    Percent.decode? (String.ofList (rest.takeWhile (· != '&')))
  match target? with
  | some target => target
  | none =>
    if Chars.startsWith ['/', '/'] href then
      String.ofList ("https:".toList ++ href)
    else String.ofList href

/-- The results of a page, at most `limit`. -/
def read (html : String) (limit : Nat) : List Hit :=
  let cs := html.toList
  let snippets := (snippet.findAll cs).map fun m =>
    Page.text (m.groups.getD 0 [])
  let hits := (link.findAll cs).zipIdx.map fun (m, i) =>
    (⟨String.ofList (Page.text (m.groups.getD 1 [])),
      address (String.ofList (m.groups.getD 0 [])),
      String.ofList (snippets.getD i [])⟩ : Hit)
  (hits.filter fun h => !h.title.isEmpty && !h.href.isEmpty).take limit

end Results

end Errand
