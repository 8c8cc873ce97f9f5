import Errand.Number.Decimal
import Errand.Text.Pattern

/-!
# Requests as queries

What a user types is cleaned before anything else sees it. `Query.clean` takes
out active content, then brings the text into one line of words with single
spaces and drops control characters. What is left must not be empty and must
not be longer than a limit.

Active content is what the four patterns of `activeContent` describe: a script
element with its content, the scheme of a script address, an inline event
handler, and a tag that can carry active content. Each is replaced by a space,
one pattern after the other, once each. Ordinary text such as `a < b and c > d`
is left alone.

`signature` is what two spellings of the same request share: the text without
blanks at its ends, in lower case.
-/

namespace Errand

/-- A cleaned request: one line of words, neither empty nor too long. -/
structure Query where
  text : String
deriving DecidableEq, Repr

/-- Why a request is turned away before it is looked at. -/
inductive Query.Rejection where
  | empty
  /-- The request has `length` characters where `limit` are allowed. -/
  | tooLong (length limit : Nat)
deriving DecidableEq, Repr

/-- The rejection in words. -/
def Query.Rejection.message : Query.Rejection → String
  | .empty => "query is empty"
  | .tooLong length limit =>
    "query is too long (" ++ Decimal.text length ++ " > " ++
      Decimal.text limit ++ " characters)"

/-- What two spellings of one request have in common. -/
def signature (request : String) : String := Text.lower (Text.trim request)

namespace Query

open Pattern

/-- The opening bracket of a tag, with blanks after it. -/
def opening : Pattern := inOrder [exactly "<", blanks]

/-- A script element from its opening tag to the first closing one. -/
def scriptElement : Pattern :=
  inOrder [opening, anyCase "script", upTo ['>'], exactly ">", anything,
    opening, exactly "/", blanks, anyCase "script", blanks, exactly ">"]

/-- The scheme of an address that holds a script. -/
def scriptScheme : Pattern :=
  inOrder [anyCase "javascript", blanks, exactly ":"]

/-- An inline handler: a word of letters that begins with `on`, the equals
sign, and a value that is quoted or ends at the next blank or bracket. -/
def eventHandler : Pattern :=
  inOrder [.boundary, anyCase "on", .one isLatinLetter, .run true isLatinLetter,
    blanks, exactly "=", blanks,
    oneOf [inOrder [exactly "\"", upTo ['"'], exactly "\""],
      inOrder [exactly "'", upTo ['\''], exactly "'"],
      .run true fun c => !Chars.isBlank c && c != '>']]

/-- The elements whose tags can carry active content. -/
def activeElements : List String :=
  ["script", "iframe", "frame", "frameset", "img", "svg", "object", "embed",
    "applet", "link", "style", "meta", "base", "form", "input", "button",
    "textarea", "video", "audio", "source", "body", "html", "math", "details",
    "marquee", "a"]

/-- An opening or closing tag of such an element. -/
def activeTag : Pattern :=
  inOrder [opening, oneOf [exactly "/", .nothing], blanks,
    oneOf (activeElements.map anyCase), .boundary, upTo ['<', '>'], exactly ">"]

/-- The patterns of active content in the order in which they are taken out. -/
def activeContent : List Pattern :=
  [scriptElement, scriptScheme, eventHandler, activeTag]

/-- The text with every piece of active content replaced by a space, pattern by
pattern. -/
def strip (cs : List Char) : List Char :=
  activeContent.foldl (fun cs p => p.replaceAll [' '] cs) cs

/-- The characters that control a device and show nothing. -/
def isControl (c : Char) : Bool :=
  c.toNat < 0x20 || (0x7F ≤ c.toNat && c.toNat < 0xA0)

/-- One line of words with single spaces, without control characters. -/
def normalize (cs : List Char) : List Char :=
  (Chars.unwords (Chars.words cs)).filter fun c => !isControl c

/-- The query that a request of at most `limit` characters comes down to. -/
def clean (request : String) (limit : Nat) : Except Rejection Query :=
  let cs := normalize (strip request.toList)
  if cs.isEmpty then .error .empty
  else if limit < cs.length then .error (.tooLong cs.length limit)
  else .ok ⟨String.ofList cs⟩

end Query

end Errand
