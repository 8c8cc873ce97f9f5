/-!
# Sets of characters as ranges

A Unicode property is a list of closed ranges of code points in increasing
order. `inRanges` asks whether a code point lies in one of them; the order lets
it stop at the first range that begins beyond the point.
-/

namespace Errand.Text.Table

/-- The code point lies in one of the ranges, which are in increasing order. -/
def inRanges (n : Nat) : List (Nat × Nat) → Bool
  | [] => false
  | (lo, hi) :: rest => if n < lo then false else n ≤ hi || inRanges n rest

/-- The ranges are increasing, do not touch, and none is empty. -/
def Increasing : List (Nat × Nat) → Prop
  | [] => True
  | [(lo, hi)] => lo ≤ hi
  | (lo, hi) :: (lo', hi') :: rest =>
  lo ≤ hi ∧ hi < lo' ∧ Increasing ((lo', hi') :: rest)

instance decidableIncreasing : (rs : List (Nat × Nat)) →
    Decidable (Increasing rs)
  | [] => isTrue trivial
  | [(lo, hi)] => inferInstanceAs (Decidable (lo ≤ hi))
  | (lo, hi) :: (lo', hi') :: rest =>
    have := decidableIncreasing ((lo', hi') :: rest)
    inferInstanceAs
      (Decidable (lo ≤ hi ∧ hi < lo' ∧ Increasing ((lo', hi') :: rest)))

end Errand.Text.Table
