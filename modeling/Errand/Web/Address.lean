import Errand.Text.Case
import Errand.Number.Decimal
import Errand.Web.Host

/-!
# Web addresses

`Address.read?` reads an `http` or `https` address the way browsers do: it is
lenient about slashes, case, control characters and characters that should have
been encoded, and strict about the host and the port. `Address.render` writes
the one normal form, in which

* the port is left out where it is the scheme's own;
* the path begins with a slash and has no `.` or `..` segment;
* every character that does not belong where it stands is percent-encoded.

## What this stands for

The program leaves web addresses to a library that follows the URL standard.
Modelled here are the standard's parser and its serializer for the schemes
`http` and `https`, without a base address. The standard tells its parser
character by character, as a machine with states; here each state is the
reading of one part. An address of another scheme, or one that the standard
refuses, is not read. In a path a caret stays as it is, as in earlier editions
of the standard.
-/

namespace Errand

/-- An `http` or `https` address in its parts, all in normal form. -/
structure Address where
  secure : Bool
  username : List Char
  password : Option (List Char)
  host : Host
  port : Option Nat
  path : List Char
  query : Option (List Char)
  fragment : Option (List Char)
deriving DecidableEq, Repr

namespace Address

/-! ### Which characters are encoded where -/

/-- Encoded everywhere: control characters and everything beyond ASCII. -/
def outsideAscii (c : Char) : Bool := c.toNat < 0x20 || 0x7E < c.toNat

/-- The characters encoded in a fragment. -/
def inFragment (c : Char) : Bool := outsideAscii c || " \"<>`".toList.contains c

/-- The characters encoded in a query. -/
def inQuery (c : Char) : Bool := outsideAscii c || " \"#<>'".toList.contains c

/-- The characters encoded in a path. -/
def inPath (c : Char) : Bool := inFragment c || "#?\x7b\x7d".toList.contains c

/-- The characters encoded in a user name or password. -/
def inUserinfo (c : Char) : Bool := inPath c || "/:;=@[\\]^|".toList.contains c

/-- The text with the characters of a class percent-encoded. -/
def encodeWhere (p : Char → Bool) (cs : List Char) : List Char :=
  cs.flatMap fun c =>
    if p c then (String.utf8EncodeChar c).flatMap Percent.escapeByte else [c]

/-! ### Parts -/

/-- A control character or a space; such are taken off both ends of an
address. -/
def isC0OrSpace (c : Char) : Bool := c.toNat ≤ 0x20

/-- The three characters that are passed over wherever they stand in an
address. -/
def isTabOrBreak (c : Char) : Bool := c = '\t' || c = '\n' || c = '\r'

/-- The text as far as an address takes notice of it. -/
def noticed (cs : List Char) : List Char :=
  let inner := (cs.dropWhile isC0OrSpace).reverse.dropWhile isC0OrSpace
  inner.reverse.filter fun c => !isTabOrBreak c

/-- A slash of either direction. -/
def isSlash (c : Char) : Bool := c = '/' || c = '\\'

/-- The scheme: whether it is the secure one, and what follows its colon and
any number of slashes. -/
def scheme? (cs : List Char) : Option (Bool × List Char) :=
  let name := cs.takeWhile (· != ':')
  match cs.dropWhile (· != ':') with
  | _ :: rest =>
    let lower := Chars.asciiLower name
    if lower = "http".toList then some (false, rest.dropWhile isSlash)
    else if lower = "https".toList then some (true, rest.dropWhile isSlash)
    else none
  | [] => none

/-- The user name and password in the text before the last `@`, encoded. -/
def userinfo (cs : List Char) : List Char × Option (List Char) :=
  let name := cs.takeWhile (· != ':')
  let password :=
    match cs.dropWhile (· != ':') with
    | _ :: c :: rest => some (encodeWhere inUserinfo (c :: rest))
    | _ => none
  (encodeWhere inUserinfo name, password)

/-- The text before the last `@` and the text after it, if there is one. -/
def breakAtLastAt (cs : List Char) : Option (List Char × List Char) :=
  let reversed := cs.reverse
  match reversed.dropWhile (· != '@') with
  | _ :: before =>
    some (before.reverse, (reversed.takeWhile (· != '@')).reverse)
  | [] => none

/-- The text of a host up to the colon in front of a port; colons in brackets
do not count. -/
def spanHost (bracketed : Bool) : List Char → List Char × List Char
  | [] => ([], [])
  | c :: cs =>
    if c = ':' && !bracketed then ([], c :: cs)
    else
      let (host, rest) :=
        spanHost
          (if c = '[' then true else if c = ']' then false else bracketed) cs
      (c :: host, rest)

/-- The port after the host, none if it is the scheme's own or not given. -/
def port? (secure : Bool) (cs : List Char) : Option (Option Nat) :=
  match cs with
  | [] => some none
  | _ :: digits =>
    if digits.isEmpty then some none
    else
      (Decimal.toNat? digits).bind fun n =>
        if 65535 < n then none
        else if n = (if secure then 443 else 80) then some none
        else some (some n)

/-! ### Paths -/

/-- The spellings of a single dot. -/
def isDot (segment : List Char) : Bool :=
  let s := Chars.asciiLower segment
  s = ".".toList || s = "%2e".toList

/-- The spellings of a double dot. -/
def isDoubleDot (segment : List Char) : Bool :=
  let s := Chars.asciiLower segment
  s = "..".toList || s = ".%2e".toList || s = "%2e.".toList ||
    s = "%2e%2e".toList

/-- The segments after which a slash stands, in reverse, and the last segment,
when `segments` are resolved against those already passed. A double dot takes
back the segment before it, if there is one. -/
def resolve (passed : List (List Char)) : (segments : List (List Char)) →
    List (List Char) × List Char
  | [] => (passed, [])
  | [s] =>
    if isDoubleDot s then (passed.tail, [])
    else if isDot s then (passed, [])
    else (passed, s)
  | s :: rest =>
    if isDoubleDot s then resolve passed.tail rest
    else if isDot s then resolve passed rest
    else resolve (s :: passed) rest

/-- The path in normal form. -/
def normalPath (cs : List Char) : List Char :=
  let cs := (encodeWhere inPath cs).map fun c => if c = '\\' then '/' else c
  let cs := match cs with
    | '/' :: rest => rest
    | cs => cs
  let (passed, last) := resolve [] (Chars.splitOn ['/'] cs)
  '/' :: passed.reverse.flatMap (· ++ ['/']) ++ last

/-! ### Whole addresses -/

/-- The text before the first of the characters in `stops`, and the rest from
there. -/
def spanUntil (stops : List Char) (cs : List Char) : List Char × List Char :=
  (cs.takeWhile (!stops.contains ·), cs.dropWhile (!stops.contains ·))

/-- The query in front of a fragment, without its mark. -/
def queryOf (cs : List Char) : Option (List Char) :=
  match cs with
  | '?' :: rest => some (encodeWhere inQuery (rest.takeWhile (· != '#')))
  | _ => none

/-- The fragment at the end, without its mark. -/
def fragmentOf (cs : List Char) : Option (List Char) :=
  match cs.dropWhile (· != '#') with
  | _ :: rest => some (encodeWhere inFragment rest)
  | [] => none

/-- The address that a text spells. -/
def read? (text : List Char) : Option Address := do
  let (secure, rest) ← scheme? (noticed text)
  let (authority, rest) := spanUntil ['/', '\\', '?', '#'] rest
  let (path, rest) := spanUntil ['?', '#'] rest
  let ((username, password), hostAndPort) :=
    match breakAtLastAt authority with
    | some (before, after) => (userinfo before, after)
    | none => (([], none), authority)
  let (hostText, portText) := spanHost false hostAndPort
  let host ← if hostText.isEmpty then none else Host.read? hostText
  let port ← port? secure portText
  some ⟨secure, username, password, host, port, normalPath path, queryOf rest,
    fragmentOf rest⟩

/-- The normal form of an address. -/
def render (a : Address) : List Char :=
  (if a.secure then "https://".toList else "http://".toList) ++
    a.username ++
    (match a.password with
      | some p => ':' :: p
      | none => []) ++
    (if a.username.isEmpty && a.password.isNone then [] else ['@']) ++
    a.host.render ++
    (match a.port with
      | some n => ':' :: Decimal.ofNat n
      | none => []) ++
    a.path ++
    (match a.query with
      | some q => '?' :: q
      | none => []) ++
    (match a.fragment with
      | some f => '#' :: f
      | none => [])

end Address

end Errand
