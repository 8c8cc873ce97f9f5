import Errand.Number.Decimal

/-!
# Durations

Times and durations are counted in nanoseconds. `Duration.text` writes a
duration in the largest unit of which it holds at least one, with as many
decimal places as it takes to be exact.
-/

namespace Errand

/-- A length of time in nanoseconds. -/
abbrev Duration := Nat

/-- A point in time, in nanoseconds since an agreed beginning. -/
abbrev Time := Nat

namespace Duration

/-- A number of milliseconds. -/
def ofMillis (ms : Nat) : Duration := ms * 1000000

/-- The whole milliseconds of a duration. -/
def toMillis (d : Duration) : Nat := d / 1000000

/-- A number of seconds. -/
def ofSeconds (s : Nat) : Duration := s * 1000000000

/-- The digits of a fraction with `places` places, without trailing zeros. -/
def fractionDigits (places value : Nat) : List Char :=
  let digits := Decimal.ofNat value
  let padded := List.replicate (places - digits.length) '0' ++ digits
  (padded.reverse.dropWhile (· = '0')).reverse

/-- A duration in a unit of `10^places` nanoseconds. -/
def inUnit (d : Duration) (places : Nat) (unit : String) : String :=
  let whole := Decimal.text (d / Nat.pow 10 places)
  let fraction := d % Nat.pow 10 places
  if fraction = 0 then whole ++ unit
  else whole ++ "." ++ String.ofList (fractionDigits places fraction) ++ unit

/-- The duration in seconds, milliseconds, microseconds or nanoseconds. -/
def text (d : Duration) : String :=
  if 1000000000 ≤ d then inUnit d 9 "s"
  else if 1000000 ≤ d then inUnit d 6 "ms"
  else if 1000 ≤ d then inUnit d 3 "µs"
  else inUnit d 0 "ns"

end Duration

end Errand
