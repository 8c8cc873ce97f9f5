import Errand.Json.Reader

/-!
# Reading records

A `Decoder α` reads an `α` from the front of a sequence of events: from those
of a value (`Decoder.ofValue`) or straight from those of a text
(`Decoder.ofText`). Either way the first thing that does not fit, in the order
of the events, is the one reported.

* Scalars are read without any leniency: a text is a string, a count is an
  integer of 64 bits, and so on.
* A record is an object whose fields come in any order, fields of other names
  being passed over, or an array of its fields in the order of their
  definition. `Slot` says of one field how it is read and whether it may be
  absent; `record` reads by the list of slots.

`Mismatch` is what can be wrong with the shape of a value, and
`Mismatch.message` says it in words.

This is how the program's JSON library fills records by their declared fields:
which fields may be absent, what null means for them, that an array may stand
for a record, and how each mismatch is worded (see `Errand.Json.Basic`).
-/

namespace Errand.Json

/-- What was found in a place where something else belongs. -/
inductive Found where
  | null
  | bool (value : Bool)
  | num (value : Number)
  | text (value : String)
  | sequence
  | map

/-- What was found, in words. -/
def Found.message : Found → String
  | .null => "null"
  | .bool b => "boolean `" ++ (if b then "true" else "false") ++ "`"
  | .num (.int i) => "integer `" ++ String.ofList (Decimal.ofInt i) ++ "`"
  | .num (.float x) => "floating point `" ++ String.ofList x.render ++ "`"
  | .text s => "string " ++ String.ofList (Chars.quoted s.toList)
  | .sequence => "sequence"
  | .map => "map"

/-- How the shape of a value differs from the one that is read. -/
inductive Mismatch where
  | wrongType (found : Found) (expected : String)
  | wrongValue (found : Found) (expected : String)
  /-- An array of this length in place of a record. -/
  | wrongLength (length : Nat) (expected : String)
  | missingField (name : String)
  | duplicateField (name : String)
  | unknownVariant (name : String) (expected : List String)

/-- Names between backquotes: one, one of two, or one of several. -/
def alternatives : List String → String
  | [a] => "`" ++ a ++ "`"
  | [a, b] => "`" ++ a ++ "` or `" ++ b ++ "`"
  | names => "one of " ++ ", ".intercalate (names.map fun a => "`" ++ a ++ "`")

/-- The mismatch in words. -/
def Mismatch.message : Mismatch → String
  | .wrongType found expected =>
  "invalid type: " ++ found.message ++ ", expected " ++ expected
  | .wrongValue found expected =>
  "invalid value: " ++ found.message ++ ", expected " ++ expected
  | .wrongLength n expected =>
  "invalid length " ++ Decimal.text n ++ ", expected " ++ expected
  | .missingField name => "missing field `" ++ name ++ "`"
  | .duplicateField name => "duplicate field `" ++ name ++ "`"
  | .unknownVariant name expected =>
    "unknown variant `" ++ name ++ "`, expected " ++ alternatives expected

/-- Why a record cannot be read. -/
inductive ReadError where
  /-- The text is not JSON. -/
  | fault (cause : Fault)
  /-- The value does not have the shape of the record. -/
  | mismatch (cause : Mismatch)

/-- What a decoder knows of its place: how much deeper arrays and objects may
be nested, and whether the events are those of a text. -/
structure Depth where
  room : Nat
  inText : Bool

/-- Reads an `α` from the front of the events and leaves the rest. -/
abbrev Decoder (α : Type) := Depth → List Event → Except ReadError
    (α × List Event)

namespace Decoder

variable {α β : Type}

/-- The decoder that reads nothing. -/
def done (a : α) : Decoder α := fun _ es => .ok (a, es)

/-- The decoder that reads nothing and fails. -/
def fail (e : ReadError) : Decoder α := fun _ _ => .error e

/-- One decoder after the other. -/
def bind (d : Decoder α) (k : α → Decoder β) : Decoder β := fun at_ es =>
  match d at_ es with
  | .error e => .error e
  | .ok (a, rest) => k a at_ rest

instance : Monad Decoder where
  pure := done
  bind := bind

/-- What an event amounts to where something else is expected. -/
def unexpected (e : Event) (expected : String) : ReadError :=
  match e with
  | .null => .mismatch (.wrongType .null expected)
  | .bool b => .mismatch (.wrongType (.bool b) expected)
  | .num (some n) => .mismatch (.wrongType (.num n) expected)
  | .str (some s) => .mismatch (.wrongType (.text s) expected)
  | .openArr => .mismatch (.wrongType .sequence expected)
  | .openObj => .mismatch (.wrongType .map expected)
  | .fault f => .fault f
  | _ => .fault .malformed

/-- The next event. -/
def event : Decoder Event := fun _ es =>
  match es with
  | [] => .error (.fault .cutShort)
  | e :: rest => .ok (e, rest)

/-- The next event, which stays. -/
def peek : Decoder Event := fun _ es =>
  match es with
  | [] => .error (.fault .cutShort)
  | e :: rest => .ok (e, e :: rest)

/-- A string. -/
def text : Decoder String := do
  match ← event with
  | .str (some s) => done s
  | e => fail (unexpected e "a string")

/-- A truth value. -/
def bool : Decoder Bool := do
  match ← event with
  | .bool b => done b
  | e => fail (unexpected e "a boolean")

/-- An integer from `low` to `high`. -/
def int (low high : Int) (expected : String) : Decoder Int := do
  match ← event with
  | .num (some (.int i)) =>
    if low ≤ i ∧ i ≤ high then done i
    else fail (.mismatch (.wrongValue (.num (.int i)) expected))
  | e => fail (unexpected e expected)

/-- A count of 64 bits; `expected` names it in messages. -/
def count (expected : String) : Decoder Nat := do
  let i ← int 0 maxCount expected
  done i.toNat

/-- Any value. -/
def value : Decoder Json := fun at_ es =>
  match take at_.room [] es with
  | .error f => .error (.fault f)
  | .ok r => .ok r

/-- Passes over a value. -/
def skipped : Decoder Unit := fun _ es =>
  match skip 0 es with
  | .error f => .error (.fault f)
  | .ok rest => .ok ((), rest)

/-- Null reads as none. -/
def nullable (d : Decoder α) : Decoder (Option α) := do
  match ← peek with
  | .null =>
    let _ ← event
    done none
  | _ =>
    let a ← d
    done (some a)

/-- Null reads as a default. -/
def orDefault (default : α) (d : Decoder α) : Decoder α := do
  let a? ← nullable d
  done (a?.getD default)

/-- A decoder for what stands one level deeper. -/
def deeper (d : Decoder α) : Decoder α := fun at_ es =>
  match at_.room with
  | 0 => .error (.fault .malformed)
  | room + 1 => d { at_ with room } es

/-- Items up to the end of their array; every item takes at least one event, so
`fuel` events suffice. -/
def itemsUpTo (fuel : Nat) (item : Decoder α) : Decoder (List α) := do
  match fuel with
  | 0 => fail (.fault .malformed)
  | fuel + 1 =>
    match ← peek with
    | .closeArr =>
      let _ ← event
      done []
    | _ =>
      let a ← item
      let as ← itemsUpTo fuel item
      done (a :: as)

/-- An array of items. -/
def list (item : Decoder α) : Decoder (List α) := do
  match ← event with
  | .openArr => deeper fun at_ es => itemsUpTo (es.length + 1) item at_ es
  | e => fail (unexpected e "a sequence")

/-- Entries up to the end of their object. -/
def entriesUpTo (fuel : Nat) (item : Decoder α) :
    Decoder (List (String × α)) :=
  do
  match fuel with
  | 0 => fail (.fault .malformed)
  | fuel + 1 =>
    match ← event with
    | .closeObj => done []
    | .key (some key) =>
      let a ← item
      let as ← entriesUpTo fuel item
      done ((key, a) :: as)
    | e => fail (unexpected e "a map")

/-- An object with any keys, its entries in the order of the events. -/
def map (item : Decoder α) : Decoder (List (String × α)) := do
  match ← event with
  | .openObj => deeper fun at_ es => entriesUpTo (es.length + 1) item at_ es
  | e => fail (unexpected e "a map")

/-! ### Names out of a fixed list -/

/-- The alternative that a name stands for. -/
def named (alternatives : List (String × α)) (name : String) :
    Except ReadError α :=
  match alternatives.lookup name with
  | some a => .ok a
  | none =>
    .error (.mismatch (.unknownVariant name (alternatives.map Prod.fst)))

/-- An object whose one key is the name and whose value is null: the long
spelling of a name. -/
def longName (alternatives : List (String × α)) : Decoder α := do
  let name ← event
  let a ← match name with
    | .key (some name) => fun _ es => (named alternatives name).map (·, es)
    | e => fail (unexpected e "a map")
  match ← event with
  | .null =>
    match ← event with
    | .closeObj => done a
    | .fault f => fail (.fault f)
    | _ => fail (.fault .malformed)
  | e => fail (unexpected e "unit")

/-- The object that has been entered holds one entry. -/
def singleEntry : Decoder Bool := fun _ es =>
  match es with
  | .key _ :: rest =>
    match skip 0 rest with
    | .ok (.closeObj :: _) => .ok (true, es)
    | _ => .ok (false, es)
  | _ => .ok (false, es)

/-- One of a fixed list of names. -/
def choice (alternatives : List (String × α)) : Decoder α := fun at_ es =>
  match es with
  | .str (some name) :: rest => (named alternatives name).map (·, rest)
  | .openObj :: rest =>
    if at_.inText then deeper (longName alternatives) at_ rest
    else
      match singleEntry at_ rest with
      | .ok (true, _) => longName alternatives at_ rest
      | _ => .error (.mismatch (.wrongValue .map "map with a single key"))
  | e :: _ =>
    match at_.inText, unexpected e "string or map" with
    | true, .mismatch _ => .error (.fault .malformed)
    | _, error => .error error
  | [] => .error (.fault .cutShort)

/-! ### Records -/

/-- Whether a field may be absent. -/
inductive Presence where
  /-- The field must be there. -/
  | required
  /-- The field may be absent from an object, not from an array. -/
  | optional
  /-- The field may be absent from both. -/
  | defaulted
deriving DecidableEq

/-- One field of a record: its name, whether it may be absent, and how it is
read into the record. -/
structure Slot (α : Type) where
  name : String
  presence : Presence
  read : Decoder (α → α)

/-- A field that is read by `d` and put into the record by `set`. -/
def slot (name : String) (presence : Presence) (d : Decoder β)
    (set : β → α → α) : Slot α :=
  ⟨name, presence, do
    let b ← d
    done (set b)⟩

/-- The fields of an object up to its end, where `seen` names those that were
read. -/
def fieldsUpTo (slots : List (Slot α)) (fuel : Nat) (seen : List String)
    (record : α) :
    Decoder α := do
  match fuel with
  | 0 => fail (.fault .malformed)
  | fuel + 1 =>
    match ← event with
    | .closeObj =>
      match slots.find? fun s => s.presence = .required ∧ s.name ∉ seen with
      | some s => fail (.mismatch (.missingField s.name))
      | none => done record
    | .key (some key) =>
      match slots.find? fun s => s.name = key with
      | some s =>
        if key ∈ seen then fail (.mismatch (.duplicateField key))
        else
          let set ← s.read
          fieldsUpTo slots fuel (key :: seen) (set record)
      | none =>
        skipped
        fieldsUpTo slots fuel seen record
    | e => fail (unexpected e "a map")

/-- The number of items up to the end of the array that has been entered. -/
def itemCount (fuel : Nat) (n : Nat) (es : List Event) : Nat :=
  match fuel, es with
  | 0, _ => n
  | _, .closeArr :: _ => n
  | fuel + 1, es =>
    match skip 0 es with
    | .ok rest => itemCount fuel (n + 1) rest
    | .error _ => n

/-- The fields of a record from the items of an array, `read` of them having
been read. A required field that is absent is a wrong length; an item beyond
the last field is one too, but in a text, where the array has to end there, it
is out of place. -/
def row (name : String) (total : Nat) : List (Slot α) → (read : Nat) →
    α → Decoder α
  | [], read, record => do
    match ← peek with
    | .closeArr =>
      let _ ← event
      done record
    | .fault f => fail (.fault f)
    | _ => fun at_ es =>
      if at_.inText then .error (.fault .malformed)
      else .error (.mismatch (.wrongLength (itemCount (es.length + 1) read es)
            "fewer elements in array"))
  | s :: slots, read, record => do
    match ← peek with
    | .closeArr =>
      if s.presence = .defaulted then row name total slots read record
      else fail (.mismatch (.wrongLength read
        ("struct " ++ name ++ " with " ++ Decimal.text total ++ " elements")))
    | _ =>
      let set ← s.read
      row name total slots (read + 1) (set record)

/-- A record called `name` in messages, read into `start`. -/
def record (name : String) (slots : List (Slot α)) (start : α) : Decoder α := do
  match ← event with
  | .openObj =>
    deeper fun at_ es => fieldsUpTo slots (es.length + 1) [] start at_ es
  | .openArr => deeper (row name slots.length slots 0 start)
  | e => fail (unexpected e ("struct " ++ name))

/-! ### Whole values and texts -/

/-- The decoder run on a value. -/
def ofValue (d : Decoder α) (j : Json) : Except ReadError α :=
  (d ⟨j.toEvents.length, false⟩ j.toEvents).map Prod.fst

/-- The decoder run on a text, which must hold nothing else. -/
def ofText (d : Decoder α) (s : String) : Except ReadError α :=
  match d ⟨maxDepth, true⟩ (events s.toList) with
  | .error e => .error e
  | .ok r =>
    match finish α r with
    | .error f => .error (.fault f)
    | .ok a => .ok a

end Decoder

end Errand.Json
