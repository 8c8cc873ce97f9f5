import Errand.Platform.Basic
import Errand.Text.Blank
import Errand.Text.Case
import Errand.Text.Search

/-!
# Naming and mentioning platforms

A plan *names* a platform by its name, its domain, an address on it, or one of
its keywords. A request *mentions* a platform if one of its keywords or its
domain occurs in the text: a keyword of ASCII characters as a word of its own,
any other keyword anywhere.

* `find` is the platform that a text names, `detect` the one that it mentions,
  each the first in the table.
* `resolve` is the platform a plan is about: named by it, mentioned in its
  name, or mentioned in the request.
-/

namespace Errand

namespace Platform

/-- A letter or digit of ASCII, next to which an ASCII keyword is only part of
a word. -/
def isWordPart (c : Char) : Bool := c.isAlphanum

/-- `keyword` occurs in the text with no word part on either side, where
`before` is the character in front of the text. -/
def occursAsWord (keyword : List Char) (before : Option Char) : List Char → Bool
  | [] => keyword.isEmpty && !before.any isWordPart
  | c :: cs =>
    (match Chars.dropLead? keyword (c :: cs) with
      | some rest => !before.any isWordPart && !rest.head?.any isWordPart
      | none => false) ||
    occursAsWord keyword (some c) cs

/-- The text, which is in lower case, contains the keyword. -/
def containsKeyword (text : List Char) (keyword : String) : Bool :=
  let keyword := Chars.lower (Chars.trim keyword.toList)
  if keyword.isEmpty then false
  else if keyword.all fun c => c.toNat < 0x80 then
    occursAsWord keyword none text
  else Chars.contains keyword text

/-- The text, which is in lower case, mentions the platform. -/
def mentionedIn (p : Platform) (text : List Char) : Bool :=
  p.keywords.any (containsKeyword text) || containsKeyword text p.domain

/-- A platform's name without what an address puts in front of its domain. -/
def bareName (name : String) : List Char :=
  let name := Chars.lower (Chars.trim name.toList)
  Chars.dropLeads "www.".toList (Chars.dropLeads "http://".toList
    (Chars.dropLeads "https://".toList name))

/-- The text names the platform. -/
def namedBy (p : Platform) (name : String) : Bool :=
  let bare := bareName name
  !Text.isBlank name &&
    (bare = p.name.toList || bare = p.domain.toList ||
      Chars.endsWith ('.' :: p.domain.toList) bare ||
      bare.takeWhile (· != '/') = p.domain.toList ||
      p.keywords.any fun k => k.toList = bare)

end Platform

namespace Directory

/-- The first platform that the text names. -/
def find (d : Directory) (name : String) : Option Platform :=
  List.find? (·.namedBy name) d

/-- The first platform that the text mentions. -/
def detect (d : Directory) (text : String) : Option Platform :=
  let lower := Chars.lower text.toList
  List.find? (·.mentionedIn lower) d

/-- The platform that a plan for `platform` is about, given the request. -/
def resolve (d : Directory) (platform request : String) : Option Platform :=
  (d.find platform).or ((d.detect platform).or (d.detect request))

end Directory

end Errand
