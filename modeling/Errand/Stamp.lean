import Errand.Response

/-!
# Stamps

The two things that tell one response from another: a random identifier and the
time it was made, both in their standard notation. `Stamp.ofBytes` writes
sixteen random bytes as a version 4 identifier, `Stamp.timeText` a number of
seconds and nanoseconds since the beginning of 1970 as a time in UTC.
-/

namespace Errand.Stamp

/-- The lower-case digit of a value below sixteen. -/
def hexDigit (n : Nat) : Char :=
  if n < 10 then Char.ofNat (0x30 + n)
  else Char.ofNat (0x57 + n)

/-- The two digits of a byte. -/
def hexByte (n : Nat) : List Char := [hexDigit (n / 16 % 16), hexDigit (n % 16)]

/-- Sixteen bytes with the marks of a random identifier of version 4. -/
def marked (bytes : List Nat) : List Nat :=
  bytes.zipIdx.map fun (b, i) =>
    if i = 6 then 0x40 + b % 16 else if i = 8 then 0x80 + b % 64 else b

/-- The identifier that sixteen random bytes make. -/
def idText (bytes : List Nat) : String :=
  String.ofList ((marked bytes).zipIdx.flatMap fun (b, i) =>
    (if i ∈ [4, 6, 8, 10] then ['-'] else []) ++ hexByte b)

/-- A number with at least `width` digits. -/
def padded (width n : Nat) : String :=
  let digits := Decimal.ofNat n
  String.ofList (List.replicate (width - digits.length) '0' ++ digits)

/-- The year, month and day of a day counted from the beginning of 1970. The
count is shifted to begin with a March, so that the day added in a leap year is
the last of its year. -/
def dateOf (day : Nat) : Nat × Nat × Nat :=
  let shifted := day + 719468
  let era := shifted / 146097
  let dayOfEra := shifted % 146097
  let yearOfEra :=
    (dayOfEra - dayOfEra / 1460 + dayOfEra / 36524 - dayOfEra / 146096) / 365
  let dayOfYear :=
    dayOfEra - (365 * yearOfEra + yearOfEra / 4 - yearOfEra / 100)
  let month := (5 * dayOfYear + 2) / 153
  let dayOfMonth := dayOfYear - (153 * month + 2) / 5 + 1
  let month := if month < 10 then month + 3 else month - 9
  (yearOfEra + era * 400 + (if month ≤ 2 then 1 else 0), month, dayOfMonth)

/-- The fraction of a second, in thousandths, millionths or billionths,
whichever is exact. -/
def fractionText (nanos : Nat) : String :=
  if nanos = 0 then ""
  else if nanos % 1000000 = 0 then "." ++ padded 3 (nanos / 1000000)
  else if nanos % 1000 = 0 then "." ++ padded 6 (nanos / 1000)
  else "." ++ padded 9 nanos

/-- A time in UTC, given in seconds and nanoseconds since the beginning of
1970. -/
def timeText (seconds nanos : Nat) : String :=
  let (year, month, day) := dateOf (seconds / 86400)
  let second := seconds % 86400
  padded 4 year ++ "-" ++ padded 2 month ++ "-" ++ padded 2 day ++ "T" ++
    padded 2 (second / 3600) ++
    ":" ++ padded 2 (second / 60 % 60) ++ ":" ++ padded 2 (second % 60) ++
      fractionText nanos ++ "Z"

end Errand.Stamp
