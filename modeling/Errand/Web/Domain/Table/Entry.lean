/-!
# Reading tables of characters

The tables of domain characters say what is so of the characters beyond ASCII.
Two forms occur:

* numbers that say in turns how many code points to pass over and how many to
  take (`rangesOf`);
* entries, each a run of code points with a value (`entriesOf`). `valueAt?`
  looks a code point up and says how far behind the first of its entry it
  stands.
-/

namespace Errand.Domain.Table

/-- The ranges that are taken when numbers say in turns how much to pass over
and to take. -/
def rangesFrom (start : Nat) : List Nat → List (Nat × Nat)
  | gap :: length :: rest =>
    (start + gap, start + gap + length - 1) ::
      rangesFrom (start + gap + length) rest
  | _ => []

/-- The ranges that numbers describe, beyond ASCII. -/
def rangesOf (runs : List Nat) : List (Nat × Nat) := rangesFrom 0x80 runs

/-- A run of code points at equal distances, with a value. -/
structure Entry (α : Type) where
  first : Nat
  count : Nat
  step : Nat
  value : α

/-- How far a code point of the entry's run stands behind the first. -/
def Entry.offset? {α : Type} (e : Entry α) (n : Nat) : Option Nat :=
  if e.first ≤ n ∧ n - e.first < e.count * e.step ∧
      (n - e.first) % e.step = 0 then
    some (n - e.first)
  else none

/-- The entries of runs without gaps: each the first code point, their number,
and the value. -/
def entriesOf {α : Type} (runs : List (Nat × Nat × α)) : List (Entry α) :=
  runs.map fun (first, count, value) => ⟨first, count, 1, value⟩

/-- The value for a code point, and how far behind the first of the run the
code point stands. -/
def valueAt? {α : Type} (entries : List (Entry α)) (n : Nat) :
    Option (α × Nat) :=
  entries.findSome? fun e => (e.offset? n).map fun offset => (e.value, offset)

end Errand.Domain.Table
