/-!
# Decimal digits

Natural numbers as decimal digit characters, and the unsigned readings of digit
strings that settings and step parameters use.

* `ofNat n` is the positional notation of `n`, without leading zeros.
* `toNat? cs` reads a non-empty run of digits of any length.
* `unsigned? limit cs` reads a bounded count the way settings spell it: an
  optional plus sign, then digits, with a value that does not exceed `limit`.
-/

namespace Errand.Decimal

/-- The character of a digit; digits are below ten. -/
def digitChar (d : Nat) : Char := Char.ofNat (0x30 + d % 10)

/-- The value of a digit character. -/
def digit? (c : Char) : Option Nat :=
  if '0' ≤ c ∧ c ≤ '9' then some (c.toNat - 0x30) else none

/-- The decimal notation of `n`, in front of `tail`. -/
def ofNatOnto (n : Nat) (tail : List Char) : List Char :=
  if n < 10 then digitChar n :: tail
  else ofNatOnto (n / 10) (digitChar n :: tail)
termination_by n

/-- The decimal notation of a natural number, without leading zeros. -/
def ofNat (n : Nat) : List Char := ofNatOnto n []

/-- The decimal notation of an integer, with a minus sign before a negative
one. -/
def ofInt (i : Int) : List Char :=
  if i < 0 then '-' :: ofNat i.natAbs
  else ofNat i.natAbs

/-- The digits read onto a value that was read before them. -/
def readFrom (value : Nat) : List Char → Option Nat
  | [] => some value
  | c :: rest => (digit? c).bind fun d => readFrom (value * 10 + d) rest

/-- The value of a non-empty run of digits. -/
def toNat? (cs : List Char) : Option Nat :=
  if cs.isEmpty then none else readFrom 0 cs

/-- The value of a run of digits, with an optional plus sign before it, that is
at most `limit`. -/
def unsigned? (limit : Nat) (cs : List Char) : Option Nat :=
  let digits := match cs with
    | '+' :: rest => rest
    | cs => cs
  (toNat? digits).filter (· ≤ limit)

/-- The decimal notation of a natural number as a string. -/
def text (n : Nat) : String := String.ofList (ofNat n)

end Errand.Decimal

namespace Errand

/-- The largest value of a 64-bit counter. -/
def maxCount : Nat := 0xFFFFFFFFFFFFFFFF

end Errand
