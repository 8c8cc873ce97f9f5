import Errand.Json.Record

/-!
# Platforms

A platform is a site that can be searched directly: its names, the address of
its search page with a place for the words, and what to do on that page. A
`Directory` is the table of all platforms that are known; its order decides
where two platforms fit.

The table can be replaced by a file. `Directory.ofText?` reads one,
`Directory.toText` writes one, and `Directory.loadFile` settles what an absent
or unreadable file means, whatever bytes it holds.
-/

namespace Errand

/-- What to do on the page of results. -/
inductive Recipe where
  /-- Wait for the list of articles. -/
  | shop
  /-- Open the first result and play it. -/
  | video
  /-- Only open the page. -/
  | page
deriving DecidableEq, Repr

namespace Recipe

/-- The recipe as a word. -/
def name : Recipe → String
  | .shop => "shop"
  | .video => "video"
  | .page => "page"

/-- The recipes by their words. -/
def names : List (String × Recipe) :=
  [("shop", .shop), ("video", .video), ("page", .page)]

end Recipe

/-- A site that can be searched directly. -/
structure Platform where
  name : String
  domain : String
  /-- Names by which requests mention the platform. -/
  keywords : List String
  /-- The address of the search page, with a place for the words. -/
  searchUrl : String
  recipe : Recipe
  /-- Selectors of a result, the best first. -/
  resultSelectors : List String
deriving DecidableEq, Repr

namespace Platform

open Json.Decoder in
/-- Reads an entry of the table. -/
def decoder : Json.Decoder Platform :=
  record "PlatformEntry"
    [slot "name" .required text fun s p => { p with name := s },
      slot "domain" .required text fun s p => { p with domain := s },
      slot "keywords" .required (list text) fun ss p =>
        { p with keywords := ss },
      slot "search_url" .required text fun s p => { p with searchUrl := s },
      slot "recipe" .defaulted (choice Recipe.names) fun r p =>
        { p with recipe := r },
      slot "result_selectors" .defaulted (list text) fun ss p =>
        { p with resultSelectors := ss }]
    ⟨"", "", [], "", .page, []⟩

/-- An entry of the table as a value. -/
def toJson (p : Platform) : Json :=
  .obj [("name", .str p.name), ("domain", .str p.domain),
    ("keywords", Json.ofTexts p.keywords), ("search_url", .str p.searchUrl),
    ("recipe", .str p.recipe.name),
    ("result_selectors", Json.ofTexts p.resultSelectors)]

end Platform

/-- The platforms that are known. -/
abbrev Directory := List Platform

namespace Directory

/-- The table as a value. -/
def toJson (d : Directory) : Json := .arr (d.map Platform.toJson)

/-- The text of a file that holds the table. -/
def toText (d : Directory) : String := d.toJson.pretty

/-- The table that the text of a file holds. -/
def ofText? (s : String) : Option Directory :=
  (Json.Decoder.ofText (Json.Decoder.list Platform.decoder) s).toOption

/-- The table that the bytes of a file hold. Bytes that are no text hold
none. -/
def ofBytes? (bytes : ByteArray) : Option Directory :=
  (String.fromUTF8? bytes).bind ofText?

/-- The table in use and the bytes of the file afterwards, where `file` is what
the file holds, or none if it is absent. An absent file is first written with
the built-in table. Then the file is read, and one that holds no table is left
alone: the built-in table is used. -/
def loadFile (builtin : Directory) (file : Option ByteArray) :
    Directory × ByteArray :=
  let bytes := file.getD builtin.toText.toUTF8
  ((ofBytes? bytes).getD builtin, bytes)

/-- The same for a file that is known to hold a text. -/
def load (builtin : Directory) (file : Option String) : Directory × String :=
  ((loadFile builtin (file.map String.toUTF8)).1, file.getD builtin.toText)

end Directory

end Errand
