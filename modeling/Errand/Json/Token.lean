import Errand.Json.Basic
import Errand.Json.Printer

/-!
# Tokens of JSON

`tokens` cuts a text into the tokens of the strict JSON grammar: brackets, the
comma and the colon, the three words, numbers and strings. It goes on to the
end of the text or to the first place where no token can be read; a last token
then says what was being read there and how it failed.

A text fails in one of two ways: it is `malformed`, or it is `cutShort` where
more was needed. Two faults belong to a value and not to its spelling: a number
too large for a binary fraction, and a string with an escape that stands for no
character. Such a token is complete (`num none`, `str none`); only who takes
the value trips over it.

Every scanner returns what it leaves over as a `Rest`, a remainder with the
proof that it is no longer than the text, so the loops above it terminate by
the length of the text.

The tokens are those of the JSON standard, without the leniencies that some
readers add: no comments, no other quotes, no leading zeros or plus signs. This
is what the program's JSON library accepts (see `Errand.Json.Basic`).
-/

namespace Errand.Json

/-- How a text fails to be JSON. -/
inductive Fault where
  /-- A character stands where the grammar has no place for it. -/
  | malformed
  /-- The text ends before the value does. -/
  | cutShort
deriving DecidableEq, Repr

/-! ### Spaces and words -/

/-- The four characters that may stand between the parts of a text. -/
def isSpace (c : Char) : Bool := c = ' ' || c = '\n' || c = '\t' || c = '\r'

/-- The text after its leading spaces. -/
def skipSpace (cs : List Char) : List Char := cs.dropWhile isSpace

theorem length_skipSpace_le (cs : List Char) :
    (skipSpace cs).length ≤ cs.length :=
  (List.dropWhile_suffix isSpace).length_le

/-- A remainder of a text that is no longer than the text. -/
abbrev Rest (cs : List Char) := { rest : List Char // rest.length ≤ cs.length }

/-- The text after a fixed word. -/
def scanWord : (word cs : List Char) → Except Fault (Rest cs)
  | [], cs => .ok ⟨cs, Nat.le_refl _⟩
  | _ :: _, [] => .error .cutShort
  | a :: word, b :: cs =>
    if a = b then (scanWord word cs).map fun ⟨r, h⟩ => ⟨r, Nat.le_succ_of_le h⟩
    else .error .malformed

/-! ### Strings -/

/-- The number of bytes that a text takes in UTF-8. -/
def byteLength : List Char → Nat
  | [] => 0
  | c :: cs => c.utf8Size + byteLength cs

/-- The value of a hexadecimal digit in either case. -/
def hexValue? (c : Char) : Option Nat :=
  if '0' ≤ c ∧ c ≤ '9' then some (c.toNat - 0x30)
  else if 'a' ≤ c ∧ c ≤ 'f' then some (c.toNat - 0x57)
  else if 'A' ≤ c ∧ c ≤ 'F' then some (c.toNat - 0x37)
  else none

/-- Four hexadecimal digits. Fewer than four bytes are a text cut short,
whatever they are. -/
def scanUnit (cs : List Char) : Except Fault (Nat × Rest cs) :=
  match cs with
  | a :: b :: c :: d :: rest =>
    match hexValue? a, hexValue? b, hexValue? c, hexValue? d with
    | some a, some b, some c, some d =>
      .ok (((a * 16 + b) * 16 + c) * 16 + d,
          ⟨rest, by simp only [List.length_cons]; omega⟩)
    | _, _, _, _ => .error .malformed
  | cs => .error (if byteLength cs < 4 then .cutShort else .malformed)

/-- The first of a pair of units that make up one character. -/
def isLeadUnit (n : Nat) : Bool := 0xD800 ≤ n && n ≤ 0xDBFF

/-- The second of such a pair. -/
def isTrailUnit (n : Nat) : Bool := 0xDC00 ≤ n && n ≤ 0xDFFF

/-- A numbered escape, after its letter: one unit, or a pair of them. A unit of
a pair without the other stands for no character. -/
def scanNumbered (cs : List Char) : Except Fault (Option Char × Rest cs) := do
  let (n, ⟨rest, h⟩) ← scanUnit cs
  if isLeadUnit n then
    match hr : rest with
    | [] => .error .cutShort
    | ['\\'] => .error .cutShort
    | '\\' :: 'u' :: rest' => do
      let (m, ⟨rest'', h'⟩) ← scanUnit rest'
      have hle : rest''.length ≤ cs.length := by
        subst hr; simp only [List.length_cons] at h; omega
      if isTrailUnit m then
        .ok (some (Char.ofNat (0x10000 + (n - 0xD800) * 0x400 + (m - 0xDC00))),
            ⟨rest'', hle⟩)
      else .ok (none, ⟨rest'', hle⟩)
    | _ => .ok (none, ⟨rest, h⟩)
  else if isTrailUnit n then .ok (none, ⟨rest, h⟩)
  else .ok (some (Char.ofNat n), ⟨rest, h⟩)

/-- An escape, after its backslash. -/
def scanEscape (cs : List Char) : Except Fault (Option Char × Rest cs) :=
  match cs with
  | [] => .error .cutShort
  | c :: rest =>
    let one (x : Char) : Except Fault (Option Char × Rest (c :: rest)) :=
      .ok (some x, ⟨rest, by simp⟩)
    match c with
    | '"' => one '"'
    | '\\' => one '\\'
    | '/' => one '/'
    | 'b' => one '\x08'
    | 'f' => one '\x0c'
    | 'n' => one '\n'
    | 'r' => one '\r'
    | 't' => one '\t'
    | 'u' =>
      (scanNumbered rest).map fun (x, ⟨r, h⟩) => (x, ⟨r, Nat.le_succ_of_le h⟩)
    | _ => .error .malformed

/-- What scanning a string yields: its value and what follows it, or a fault,
which comes with the news whether an escape before it stood for no
character. -/
inductive StringScan (cs : List Char) where
  | done (value : Option String) (rest : Rest cs)
  | failed (sound : Bool) (cause : Fault)

/-- A string after its opening quote, where `read` holds, reversed, the
characters read so far, and `sound` says that every escape among them stood for
a character. -/
def scanString (sound : Bool) (read : List Char) (cs : List Char) :
    StringScan cs :=
  match cs with
  | [] => .failed sound .cutShort
  | '"' :: rest =>
    .done (if sound then some (String.ofList read.reverse) else none)
      ⟨rest, by simp⟩
  | '\\' :: rest =>
    match scanEscape rest with
    | .error f => .failed sound f
    | .ok (c?, ⟨rest', h⟩) =>
      match scanString (sound && c?.isSome) (c?.toList ++ read) rest' with
      | .done s ⟨r, h'⟩ => .done s ⟨r, by simp only [List.length_cons]; omega⟩
      | .failed b f => .failed b f
  | c :: rest =>
    if c.toNat < 0x20 then .failed sound .malformed
    else
      match scanString sound (c :: read) rest with
      | .done s ⟨r, h⟩ => .done s ⟨r, Nat.le_succ_of_le h⟩
      | .failed b f => .failed b f
termination_by cs.length

/-! ### Numbers -/

/-- The digits at the front of a text. -/
def leadingDigits (cs : List Char) : List Char :=
  cs.takeWhile (Decimal.digit? · |>.isSome)

/-- The digits of a run that still fit into a 64-bit significand, with their
count; the run is taken up to the first that does not. -/
def takeFitting (significand taken : Nat) : List Char → Nat × Nat
  | [] => (significand, taken)
  | c :: rest =>
    let next := significand * 10 + (Decimal.digit? c).getD 0
    if next ≤ maxCount then takeFitting next (taken + 1) rest
    else (significand, taken)

/-- The value of a numeral with the given digits before and after its point and
its exponent. Without point and exponent it is an integer, if it fits 64 bits
with its sign; zero with a minus sign is a fraction. -/
def numeral (negative : Bool) (whole : List Char)
    (fraction : Option (List Char)) (exponent : Option Int) : Option Number :=
  let (m, kept) := takeFitting 0 0 whole
  let dropped := whole.length - kept
  match fraction, exponent with
  | none, none =>
    if dropped = 0 ∧ !negative then some (.int m)
    else if dropped = 0 ∧ m ≠ 0 ∧ m ≤ 0x8000000000000000 then some (.int (-m))
    else (Binary64.scaled m dropped).map fun x => .float { x with negative }
  | _, _ =>
    let (m, taken) := takeFitting m 0 (fraction.getD [])
    (Binary64.scaled m ((dropped : Int) - taken + exponent.getD 0)).map fun x =>
      .float { x with negative }

/-- The digits that must come next, and what follows them. -/
def scanDigits (cs : List Char) : Except Fault (List Char × Rest cs) :=
  match leadingDigits cs with
  | [] => .error (if cs.isEmpty then .cutShort else .malformed)
  | ds => .ok (ds, ⟨cs.drop ds.length, by simp⟩)

/-- A fraction, if a point comes next. -/
def scanFraction (cs : List Char) :
    Except Fault (Option (List Char) × Rest cs) :=
  match cs with
  | '.' :: rest =>
    (scanDigits rest).map fun (ds, ⟨r, h⟩) =>
      (some ds, ⟨r, Nat.le_succ_of_le h⟩)
  | cs => .ok (none, ⟨cs, Nat.le_refl _⟩)

/-- The sign and digits of an exponent, after its letter. -/
def scanExponentDigits (cs : List Char) : Except Fault (Int × Rest cs) :=
  let value (ds : List Char) : Int := (Decimal.readFrom 0 ds).getD 0
  match cs with
  | '+' :: rest =>
    (scanDigits rest).map fun (ds, ⟨r, h⟩) =>
      (value ds, ⟨r, Nat.le_succ_of_le h⟩)
  | '-' :: rest =>
    (scanDigits rest).map fun (ds, ⟨r, h⟩) =>
      (-value ds, ⟨r, Nat.le_succ_of_le h⟩)
  | cs => (scanDigits cs).map fun (ds, r) => (value ds, r)

/-- An exponent, if its letter comes next. -/
def scanExponent (cs : List Char) : Except Fault (Option Int × Rest cs) :=
  match cs with
  | c :: rest =>
    if c = 'e' ∨ c = 'E' then
      (scanExponentDigits rest).map fun (e, ⟨r, h⟩) =>
        (some e, ⟨r, Nat.le_succ_of_le h⟩)
    else .ok (none, ⟨c :: rest, Nat.le_refl _⟩)
  | [] => .ok (none, ⟨[], Nat.le_refl _⟩)

/-- The fraction and exponent of a number whose digits before the point are
`whole`. -/
def scanAfterWhole (negative : Bool) (whole cs : List Char) :
    Except Fault (Option Number × Rest cs) := do
  let (fraction, ⟨r₁, h₁⟩) ← scanFraction cs
  let (exponent, ⟨r₂, h₂⟩) ← scanExponent r₁
  .ok (numeral negative whole fraction exponent, ⟨r₂, Nat.le_trans h₂ h₁⟩)

/-- A number that begins with the digit `d`: before the point zero stands
alone, and other digits do not begin with zero. -/
def scanFromDigit (negative : Bool) (d : Char) (rest : List Char) :
    Except Fault (Option Number × Rest rest) :=
  let more := leadingDigits rest
  if d = '0' ∧ !more.isEmpty then .error .malformed
  else
    (scanAfterWhole negative (d :: more) (rest.drop more.length)).map
      fun (n, ⟨r, h⟩) =>
        (n, ⟨r, Nat.le_trans h (by simp)⟩)

/-- A number after its minus sign. -/
def scanNegative (cs : List Char) : Except Fault (Option Number × Rest cs) :=
  match cs with
  | [] => .error .cutShort
  | d :: rest =>
    if (Decimal.digit? d).isSome then
      (scanFromDigit true d rest).map fun (n, ⟨r, h⟩) =>
        (n, ⟨r, Nat.le_succ_of_le h⟩)
    else .error .malformed

/-! ### Tokens -/

/-- A token of a JSON text. -/
inductive Token where
  | null
  | bool (value : Bool)
  /-- A number; none if it is too large. -/
  | num (value : Option Number)
  /-- A string; none if one of its escapes stands for no character. -/
  | str (value : Option String)
  | openArr
  | closeArr
  | openObj
  | closeObj
  | comma
  | colon
  /-- A string that fails; before that, all its escapes stood for characters if
  `sound`. -/
  | brokenString (sound : Bool) (cause : Fault)
  /-- A word or number that fails, or a character that begins no token. -/
  | broken (cause : Fault)
deriving DecidableEq, Repr

/-- The token that begins with `c` and goes on in `rest`, and what follows it
if it is complete. -/
def scanToken (c : Char) (rest : List Char) : Token × Option (Rest rest) :=
  let one (t : Token) : Token × Option (Rest rest) :=
    (t, some ⟨rest, Nat.le_refl _⟩)
  let word (w : List Char) (t : Token) : Token × Option (Rest rest) :=
    match scanWord w rest with
    | .error f => (.broken f, none)
    | .ok r => (t, some r)
  match c with
  | '[' => one .openArr
  | ']' => one .closeArr
  | '\x7b' => one .openObj
  | '\x7d' => one .closeObj
  | ',' => one .comma
  | ':' => one .colon
  | 'n' => word ['u', 'l', 'l'] .null
  | 't' => word ['r', 'u', 'e'] (.bool true)
  | 'f' => word ['a', 'l', 's', 'e'] (.bool false)
  | '"' =>
    match scanString true [] rest with
    | .done s r => (.str s, some r)
    | .failed sound f => (.brokenString sound f, none)
  | '-' =>
    match scanNegative rest with
    | .error f => (.broken f, none)
    | .ok (n, r) => (.num n, some r)
  | c =>
    match Decimal.digit? c with
    | none => (.broken .malformed, none)
    | some _ =>
      match scanFromDigit false c rest with
      | .error f => (.broken f, none)
      | .ok (n, r) => (.num n, some r)

/-- The tokens of a text. -/
def tokens (cs : List Char) : List Token :=
  match _h : skipSpace cs with
  | [] => []
  | c :: rest =>
    match scanToken c rest with
    | (t, none) => [t]
    | (t, some r) => t :: tokens r.1
termination_by cs.length
decreasing_by
  have h₁ := length_skipSpace_le cs
  have := r.2
  simp only [‹skipSpace cs = _›, List.length_cons] at h₁
  omega

end Errand.Json
