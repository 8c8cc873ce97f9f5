import Errand.Number.Binary64

/-!
# JSON values

The value type of everything that is read from or written to the outside: step
objects, plans, tables, messages of the tool server, results of page scripts.

A number is an integer or a finite binary fraction; the two are different
values even where they are equal as numbers. An object is a list of fields. A
value that was read keeps its fields in increasing order of their keys with no
key twice (`insertField`); a record that is written may list its fields in the
order of its definition.

## What this stands for

The modules under `Json` stand for the library by which the program reads and
writes JSON. They follow the JSON standard, and beyond it what that library
documents of itself:

* an integer of at most 64 bits stays an integer, and any other number is
  rounded to a binary fraction, or is an error if it is too large;
* an object of unknown shape is kept sorted by its keys, and of several fields
  with one key the last counts;
* nesting has a limit;
* a record takes its fields in any order or from an array in their own order,
  passes over fields that it does not know, and refuses one that comes twice;
* a mismatch is worded as the library words it.
-/

namespace Errand

/-- A JSON number: an integer of at most 64 bits, or a binary fraction. -/
inductive Number where
  | int (value : Int)
  | float (value : Binary64)
deriving DecidableEq, Repr

/-- A JSON value. -/
inductive Json where
  | null
  | bool (value : Bool)
  | num (value : Number)
  | str (value : String)
  | arr (items : List Json)
  | obj (fields : List (String × Json))
deriving BEq, Repr

namespace Json

/-- The fields of an object. -/
abbrev Fields := List (String × Json)

/-- The value of the first field with this key. -/
def Fields.get? (fields : Fields) (key : String) : Option Json :=
  fields.lookup key

/-- The fields with `key` set to `value`, in increasing order of keys if they
were so before. -/
def Fields.insert (key : String) (value : Json) : Fields → Fields
  | [] => [(key, value)]
  | (k, v) :: rest =>
    if key < k then (key, value) :: (k, v) :: rest
    else if key = k then (key, value) :: rest
    else (k, v) :: Fields.insert key value rest

/-- The same fields in increasing order of keys; of equal keys the last
counts. -/
def Fields.sorted (fields : Fields) : Fields :=
  fields.foldl (fun acc (k, v) => Fields.insert k v acc) []

/-- The integer `n` as a value. -/
def ofNat (n : Nat) : Json := .num (.int n)

/-- A text, or null for none. -/
def ofText? : Option String → Json
  | some s => .str s
  | none => .null

/-- A list of texts. -/
def ofTexts (ss : List String) : Json := .arr (ss.map .str)

/-- The text of a string value. -/
def text? : Json → Option String
  | .str s => some s
  | _ => none

/-- The truth value of a boolean. -/
def bool? : Json → Option Bool
  | .bool b => some b
  | _ => none

/-- The items of an array. -/
def items? : Json → Option (List Json)
  | .arr items => some items
  | _ => none

/-- The fields of an object. -/
def fields? : Json → Option Fields
  | .obj fields => some fields
  | _ => none

/-- The natural number that an integer value holds. -/
def nat? : Json → Option Nat
  | .num (.int i) => if 0 ≤ i then some i.toNat else none
  | _ => none

/-- The field with this key, if the value is an object that has one. -/
def get? (j : Json) (key : String) : Option Json := j.fields?.bind (·.get? key)

/-- Neither an absent value nor null. -/
def isNull : Json → Bool
  | .null => true
  | _ => false

end Json

end Errand
