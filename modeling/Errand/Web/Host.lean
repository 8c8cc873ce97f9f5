import Errand.Web.Domain

/-!
# Hosts

The host of a web address is a domain name, an IPv4 address or an IPv6 address
in square brackets. `Host.read?` accepts the spellings that addresses allow and
`Host.render` writes the one normal form of each:

* a domain is decoded, mapped to lower case and to its ASCII form
  (`Domain.toAscii?`);
* a domain whose last label is a number is an IPv4 address of up to four
  numbers in decimal, octal or hexadecimal, the last of which fills the bytes
  that are left; it is written with four decimal numbers;
* an IPv6 address is written in lower case with its longest run of zero groups
  left out.

These are the host parser and the host serializer of the URL standard for such
addresses (see `Errand.Address`), with its parsers for both kinds of numeric
addresses.
-/

namespace Errand

/-- The host of an address. -/
inductive Host where
  | domain (name : List Char)
  /-- The 32 bits of the address. -/
  | v4 (address : Nat)
  /-- The eight groups of 16 bits. -/
  | v6 (groups : List Nat)
deriving DecidableEq, Repr

namespace Host

/-! ### IPv4 -/

/-- The value of a digit in a base of at most sixteen. -/
def digitIn? (base : Nat) (c : Char) : Option Nat :=
  let d :=
    if '0' ≤ c ∧ c ≤ '9' then some (c.toNat - 0x30)
    else if 'a' ≤ c ∧ c ≤ 'f' then some (c.toNat - 0x57)
    else if 'A' ≤ c ∧ c ≤ 'F' then some (c.toNat - 0x37)
    else none
  d.filter (· < base)

/-- The value of digits in a base. -/
def readDigits (base : Nat) (cs : List Char) : Option Nat :=
  cs.foldlM (fun n c => (digitIn? base c).map fun d => n * base + d) 0

/-- One number of an IPv4 address: hexadecimal after `0x`, octal after another
leading zero, else decimal. A base with no digits after it is zero. -/
def v4Number? (cs : List Char) : Option Nat :=
  match cs with
  | [] => none
  | '0' :: 'x' :: rest | '0' :: 'X' :: rest => readDigits 16 rest
  | '0' :: c :: rest => readDigits 8 (c :: rest)
  | cs => readDigits 10 cs

/-- The labels of a name, without an empty one at the end. -/
def labels (name : List Char) : List (List Char) :=
  let parts := Chars.splitOn ['.'] name
  if parts.getLast? = some [] then parts.dropLast else parts

/-- The name is to be read as an IPv4 address: its last label is a number. -/
def endsInNumber (name : List Char) : Bool :=
  match (labels name).getLast? with
  | none => false
  | some last =>
    (!last.isEmpty && last.all fun c => '0' ≤ c && c ≤ '9') ||
      (v4Number? last).isSome

/-- The numbers put together: each but the last is one byte, the last fills the
bytes that are left. -/
def v4OfNumbers? (numbers : List Nat) : Option Nat :=
  match numbers.reverse with
  | [] => none
  | last :: firsts =>
    let firsts := firsts.reverse
    if 3 < firsts.length ∨ firsts.any (255 < ·) ∨
      Nat.pow 256 (4 - firsts.length) ≤ last then none
    else some (firsts.zipIdx.foldl
        (fun acc (n, i) => acc + n * Nat.pow 256 (3 - i)) last)

/-- The IPv4 address that a name spells. -/
def v4? (name : List Char) : Option Nat :=
  ((labels name).mapM v4Number?).bind v4OfNumbers?

/-- Four decimal numbers with points between them. -/
def renderV4 (address : Nat) : List Char :=
  ['.'].intercalate ([3, 2, 1, 0].map fun i =>
      Decimal.ofNat (address / Nat.pow 256 i % 256))

/-! ### IPv6 -/

/-- A group of one to four hexadecimal digits. -/
def group? (cs : List Char) : Option Nat :=
  if cs.isEmpty ∨ 4 < cs.length then none else readDigits 16 cs

/-- One byte of the IPv4 part: a decimal number without leading zeros. -/
def byte? (cs : List Char) : Option Nat :=
  if cs.isEmpty ∨ (cs.head? = some '0' ∧ cs ≠ ['0']) then none
  else (readDigits 10 cs).filter (· ≤ 255)

/-- The IPv4 part at the end of an IPv6 address, as two groups. -/
def v4Groups? (cs : List Char) : Option (List Nat) :=
  match (Chars.splitOn ['.'] cs).map byte? with
  | [some a, some b, some c, some d] => some [a * 256 + b, c * 256 + d]
  | _ => none

/-- The groups of a list of fields; the last may be an IPv4 part if `v4Last`. -/
def groupsOf? (v4Last : Bool) : List (List Char) → Option (List Nat)
  | [] => some []
  | [field] =>
    match group? field with
    | some n => some [n]
    | none => if v4Last then v4Groups? field else none
  | field :: fields =>
    (group? field).bind fun n => (groupsOf? v4Last fields).map (n :: ·)

/-- The fields between single colons; an empty text has none. -/
def fields (cs : List Char) : List (List Char) :=
  if cs.isEmpty then [] else Chars.splitOn [':'] cs

/-- The eight groups that an IPv6 address spells. A double colon stands for at
least one group of zero. -/
def v6? (cs : List Char) : Option (List Nat) :=
  match Chars.breakAt? [':', ':'] cs with
  | none => (groupsOf? true (fields cs)).filter (·.length = 8)
  | some (left, right) => do
    let before ← groupsOf? false (fields left)
    let after ← groupsOf? true (fields right)
    if before.length + after.length ≤ 7 then
      some (before ++ List.replicate (8 - before.length - after.length)
          0 ++ after)
    else none

/-- The start and length of the first longest run of zeros, where `best` is the
longest so far and a run of `length` zeros ends at the place reached. -/
def longestZeros (best : Nat × Nat) (length at_ : Nat) : List Nat → Nat × Nat
  | [] => best
  | g :: gs =>
    if g = 0 then
      let length := length + 1
      let best := if best.2 < length then (at_ + 1 - length, length) else best
      longestZeros best length (at_ + 1) gs
    else longestZeros best 0 (at_ + 1) gs

/-- Groups in hexadecimal with colons between them. -/
def renderGroups (gs : List Nat) : List Char :=
  [':'].intercalate (gs.map fun g => Chars.hexOnto g [])

/-- An IPv6 address, its first longest run of at least two zero groups left
out. -/
def renderV6 (gs : List Nat) : List Char :=
  let (start, length) := longestZeros (0, 0) 0 0 gs
  if length < 2 then renderGroups gs
  else renderGroups (gs.take start) ++ ':' :: ':' ::
    renderGroups (gs.drop (start + length))

/-! ### Any host -/

/-- The host that a text spells. -/
def read? (cs : List Char) : Option Host :=
  match cs with
  | '[' :: rest =>
    if rest.getLast? = some ']' then (v6? rest.dropLast).map .v6 else none
  | cs =>
    (Domain.toAscii? cs).bind fun name =>
      if name.isEmpty then none
      else if endsInNumber name then (v4? name).map .v4
      else some (.domain name)

/-- The normal form of a host. -/
def render : Host → List Char
  | .domain name => name
  | .v4 address => renderV4 address
  | .v6 groups => '[' :: renderV6 groups ++ [']']

end Host

end Errand
