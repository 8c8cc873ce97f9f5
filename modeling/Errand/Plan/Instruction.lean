import Errand.Json.Basic
import Errand.Text.Blank
import Errand.Text.Case

/-!
# Instructions

An `Instruction` is one step as a plan spells it: an object with a tag under
`action` and parameters under other keys. It is kept as it came, so that fields
nobody here knows still reach the action service.

Instructions are written by people and by language models, so their parameters
are read leniently: from the first usable of several keys, numbers and flags
also from strings. The readers below are the whole of this leniency.
-/

namespace Errand

/-- A step as a plan spells it. -/
structure Instruction where
  fields : Json.Fields
deriving BEq, Repr

namespace Instruction

/-- An object is an instruction, any other value is not. -/
def ofJson? (j : Json) : Option Instruction := j.fields?.map Instruction.mk

/-- The instruction as a value. -/
def toJson (i : Instruction) : Json := .obj i.fields

/-- The instruction with this tag and these parameters. -/
def make (tag : String) (params : List (String × Json)) : Instruction :=
  ⟨Json.Fields.sorted (("action", .str tag) :: params)⟩

/-- The value under a key. -/
def get? (i : Instruction) (key : String) : Option Json := i.fields.get? key

/-- The string under a key. -/
def text? (i : Instruction) (key : String) : Option String :=
  (i.get? key).bind Json.text?

/-- The tag as it is spelled; empty where there is none. -/
def tag (i : Instruction) : String := (i.text? "action").getD ""

/-! ### Lenient parameters -/

/-- A text without its outer blanks, unless nothing else is in it. -/
def usable? (s : String) : Option String :=
  let t := Text.trim s
  if t.isEmpty then none else some t

/-- The first usable string among several keys. -/
def firstText? (i : Instruction) (keys : List String) : Option String :=
  keys.findSome? fun key => (i.text? key).bind usable?

/-- A string that is not empty, as it is. -/
def verbatim? (i : Instruction) (key : String) : Option String :=
  (i.text? key).filter fun s => !s.isEmpty

/-- A flag: true, a string that says so, or an integer above zero. -/
def flag (i : Instruction) (key : String) : Bool :=
  match i.get? key with
  | some (.bool b) => b
  | some (.str s) => ["true", "1", "yes"].contains (Text.lower (Text.trim s))
  | some (.num (.int n)) => 0 < n
  | _ => false

/-- A count that a value stands for: a number without its fraction, negative
ones as zero and large ones as the largest count, or a string that spells a
count. -/
def countOf? : Json → Option Nat
  | .num (.int n) => some n.toNat
  | .num (.float x) => some (if x.negative then 0 else min x.truncate maxCount)
  | .str s => Decimal.unsigned? maxCount (Chars.trim s.toList)
  | _ => none

/-- The first count among several keys. -/
def firstCount? (i : Instruction) (keys : List String) : Option Nat :=
  keys.findSome? fun key => (i.get? key).bind countOf?

/-- The list without repetitions; of equal entries the first stays. -/
def distinctOnto : (seen : List String) → List String → List String
  | _, [] => []
  | seen, s :: rest =>
    if s ∈ seen then distinctOnto seen rest
    else s :: distinctOnto (s :: seen) rest

/-- The selectors: the one under `selector`, then those listed under
`selectors`, each once. -/
def selectors (i : Instruction) : List String :=
  let single := (i.firstText? ["selector"]).toList
  let listed :=
    (((i.get? "selectors").bind Json.items?).getD []).filterMap fun j =>
      j.text?.bind usable?
  distinctOnto [] (single ++ listed)

end Instruction

end Errand
