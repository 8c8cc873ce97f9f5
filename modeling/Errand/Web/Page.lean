import Errand.Text.Pattern
import Errand.Text.Search

/-!
# The text of a page

`Page.text` is the readable text of a page: elements without readable content
are dropped with everything in them, the remaining tags are dropped, character
references are decoded, and what is left is brought into one line of words.

References are decoded once, the ampersand last, so a decoded text never forms
a new reference.
-/

namespace Errand.Page

open Pattern

/-- The names of the elements whose content is not for reading. -/
def unreadable : Pattern :=
  oneOf (["script", "style", "noscript", "head"].map anyCase)

/-- An element without readable content, from its opening tag to the first
closing tag of such an element. -/
def unreadableElement : Pattern :=
  inOrder [exactly "<", .group unreadable, upTo ['>'], exactly ">", anything,
    exactly "</", .group unreadable, exactly ">"]

/-- An opening or closing tag. -/
def tag : Pattern :=
  inOrder [exactly "<", oneOf [exactly "/", .nothing], .one Char.isAlpha,
    upTo ['<', '>'], exactly ">"]

/-- A run of blanks. -/
def blankRun : Pattern := .seq (.one Chars.isBlank) (.run true Chars.isBlank)

/-- The character references that are decoded and what they stand for, in the
order of decoding. -/
def references : List (String × String) :=
  [("&nbsp;", " "), ("&quot;", "\""), ("&#x27;", "'"), ("&#39;", "'"),
    ("&lt;", "<"), ("&gt;", ">"), ("&amp;", "&")]

/-- The text with its character references decoded. -/
def decode (cs : List Char) : List Char :=
  references.foldl (fun cs (r : String × String) =>
      Chars.replace r.1.toList r.2.toList cs) cs

/-- The readable text of a page. -/
def text (html : List Char) : List Char :=
  let readable := unreadableElement.replaceAll [' '] html
  let untagged := tag.replaceAll [' '] readable
  Chars.trim (blankRun.replaceAll [' '] (decode untagged))

/-- The first `limit` characters, with an ellipsis if there were more. -/
def shorten (limit : Nat) (cs : List Char) : List Char :=
  if limit < cs.length then cs.take limit ++ ['…'] else cs

end Errand.Page
