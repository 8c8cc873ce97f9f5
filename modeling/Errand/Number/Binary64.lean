import Errand.Number.Decimal

/-!
# Binary floating-point numbers

A `Binary64` is a finite number of the 64-bit binary interchange format, held
as a sign, a significand and a power of two, so that everything about it is
exact arithmetic on naturals.

* `ofRatio` rounds a quotient of naturals to the nearest such number, ties to
  the even significand. All arithmetic is this one rounding: `mul`, `div` and
  `ofNat` are exact results sent through it.
* `shortest` gives the fewest decimal digits that read back as the number, and
  of those the nearest to it.
* `render` writes these digits: positionally while the decimal exponent is from
  -5 to 15, else with an exponent that carries its sign.
* `scaled` is a significand times a power of ten as a reader of decimal
  numerals computes it: one rounded multiplication or division by a rounded
  power of ten.
-/

namespace Errand

/-- The number `(-1)^negative * significand * 2^exponent`. -/
structure Binary64 where
  negative : Bool
  significand : Nat
  exponent : Int
deriving DecidableEq, Repr

namespace Binary64

/-- The least exponent, that of the subnormal numbers. -/
def minExponent : Int := -1074

/-- The greatest exponent of a finite number. -/
def maxExponent : Int := 971

/-- The first number of more than 53 bits, 2 to the power 53. -/
def significandLimit : Nat := 0x20000000000000

/-- The least number of 53 bits, 2 to the power 52. -/
def leastNormal : Nat := 0x10000000000000

/-- Zero with a sign. -/
def zero (negative : Bool) : Binary64 := ⟨negative, 0, minExponent⟩

/-- `num / den` rounded to a natural number, ties to the even one. -/
def roundEven (num den : Nat) : Nat :=
  let q := num / den
  let twice := 2 * (num % den)
  if twice < den then q else if den < twice then q + 1 else q + q % 2

/-- The power of two just below `num / den`: the largest `k` with `2^k * den ≤
num`. -/
def floorLog2 (num den : Nat) : Int :=
  let k : Int := (Nat.log2 num : Int) - Nat.log2 den
  if num * Nat.pow 2 (-k).toNat < den * Nat.pow 2 k.toNat then k - 1 else k

/-- The nearest number to `± num / den`, ties to the even significand; none
where that is too large. -/
def ofRatio (negative : Bool) (num den : Nat) : Option Binary64 :=
  if num = 0 then some (zero negative)
  else
    let e := max minExponent (floorLog2 num den - 52)
    let m := roundEven (num * Nat.pow 2 (-e).toNat) (den * Nat.pow 2 e.toNat)
    let (m, e) := if m = significandLimit then (leastNormal, e + 1) else (m, e)
    if maxExponent < e then none else some ⟨negative, m, e⟩

/-- The numerator of the magnitude. -/
def num (x : Binary64) : Nat := x.significand * Nat.pow 2 x.exponent.toNat

/-- The denominator of the magnitude. -/
def den (x : Binary64) : Nat := Nat.pow 2 (-x.exponent).toNat

/-- The nearest number to a natural number. -/
def ofNat (n : Nat) : Option Binary64 := ofRatio false n 1

/-- The rounded product. -/
def mul (x y : Binary64) : Option Binary64 :=
  ofRatio (x.negative != y.negative) (x.num * y.num) (x.den * y.den)

/-- The rounded quotient by a number other than zero. -/
def div (x y : Binary64) : Option Binary64 :=
  ofRatio (x.negative != y.negative) (x.num * y.den) (x.den * y.num)

/-- The magnitude without its fraction. -/
def truncate (x : Binary64) : Nat := x.num / x.den

/-! ### Reading decimal numerals -/

/-- The largest power of ten below the greatest finite number. -/
def maxPower : Nat := 308

/-- Division by powers of ten, at most `maxPower` at a time, each rounded. -/
def scaleDown (x : Binary64) (power : Nat) : Option Binary64 :=
  if x.significand = 0 then some x
  else if power ≤ maxPower then (ofNat (Nat.pow 10 power)).bind x.div
  else (ofNat (Nat.pow 10 maxPower)).bind fun p => (x.div p).bind fun y =>
    scaleDown y (power - maxPower)
termination_by power
decreasing_by simp [maxPower] at *; omega

/-- `significand * 10^power` in rounded steps: the significand is rounded, then
multiplied or divided by a rounded power of ten. None where the result is too
large. -/
def scaled (significand : Nat) (power : Int) : Option Binary64 :=
  (ofNat significand).bind fun x =>
    if power < 0 then scaleDown x power.natAbs
    else if power.natAbs ≤ maxPower then
      (ofNat (Nat.pow 10 power.natAbs)).bind x.mul
    else if x.significand = 0 then some x else none

/-! ### Shortest decimal notation -/

/-- The magnitude of decimal exponent: the largest `k` with `10^k ≤ |x|`, for a
number other than zero. -/
def floorLog10 (x : Binary64) : Int :=
  ((Decimal.ofNat (x.num * Nat.pow 10 400 / x.den)).length : Int) - 401

/-- A decimal `digits * 10^power` reads back as `x`: it lies in the interval of
the numbers that round to `x`, whose ends belong to it when the significand is
even. Both are compared as multiples of a quarter of the significand's unit. -/
def readsBack (x : Binary64) (digits : Nat) (power : Int) : Bool :=
  let value := 4 * (digits * Nat.pow 10 power.toNat) * x.den
  let unit := Nat.pow 10 (-power).toNat * Nat.pow 2 x.exponent.toNat
  let narrow := x.significand = leastNormal ∧ minExponent < x.exponent
  let low := (4 * x.significand - (if narrow then 1 else 2)) * unit
  let high := (4 * x.significand + 2) * unit
  if x.significand % 2 = 0 then low ≤ value && value ≤ high
  else low < value && value < high

/-- The decimal with `count` digits nearest to `x` among its two neighbours
that read back, if any does. -/
def withDigits? (x : Binary64) (count : Nat) : Option (Nat × Int) :=
  let power := floorLog10 x - count + 1
  let num := x.num * Nat.pow 10 (-power).toNat
  let den := x.den * Nat.pow 10 power.toNat
  let below := num / den
  let nearest := roundEven num den
  let other := if nearest = below then below + 1 else below
  if readsBack x nearest power then some (nearest, power)
  else if readsBack x other power then some (other, power)
  else none

/-- The decimals of `count`, `count + 1`, … digits tried in turn. Seventeen
digits always suffice. -/
def shortestFrom (x : Binary64) (count : Nat) : Nat × Int :=
  match withDigits? x count with
  | some d => d
  | none => if count < 17 then shortestFrom x (count + 1) else (x.num, 0)
termination_by 17 - count

/-- The fewest digits that read back as the number, and the power of ten of the
last of them. -/
def shortest (x : Binary64) : Nat × Int :=
  if x.significand = 0 then (0, 0) else shortestFrom x 1

/-- The digits without trailing zeros, and the power of ten of the last that
stays. -/
def dropZeros (digits : Nat) (power : Int) : Nat × Int :=
  if 0 < digits ∧ digits % 10 = 0 then dropZeros (digits / 10) (power + 1)
  else (digits, power)
termination_by digits

/-- Decimal exponents from -5 to 15 are written positionally, with at least one
digit on either side of the point; others as digits, a point after the first of
several, and `e` with a signed exponent. -/
def render (x : Binary64) : List Char :=
  let (m, power) := shortest x
  let (m, power) := dropZeros m power
  let digits := Decimal.ofNat m
  let count := digits.length
  let point : Int := count + power
  let body :=
    if m = 0 then ['0', '.', '0']
    else if 0 ≤ power ∧ point ≤ 16 then
      digits ++ List.replicate power.toNat '0' ++ ['.', '0']
    else if 0 < point ∧ point ≤ 16 then
      digits.take point.toNat ++ '.' :: digits.drop point.toNat
    else if -5 < point ∧ point ≤ 0 then
      '0' :: '.' :: List.replicate (-point).toNat '0' ++ digits
    else
      let head :=
        if count = 1 then digits
        else digits.take 1 ++ '.' :: digits.drop 1
      let e := point - 1
      head ++ 'e' :: (if e < 0 then '-' else '+') :: Decimal.ofNat e.natAbs
  if x.negative then '-' :: body else body

end Binary64

end Errand
