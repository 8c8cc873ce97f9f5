import Errand.Json.Event

/-!
# Reading JSON values

`Json.read` turns a text into a value. Arrays and objects may be nested
`maxDepth` deep; of fields with the same key the last counts, and the fields of
an object come out in increasing order of their keys.

`take` reads one value from the front of the events and returns those that
follow it; `skip` passes over one value without looking at it, so the two
faults that belong to a value, and its depth, do not matter there.

The limit of the depth, the last of equal keys and the order of the keys are
what the program's JSON library documents of values of unknown shape (see
`Errand.Json.Basic`).
-/

namespace Errand.Json

/-- How deep arrays and objects may be nested. -/
def maxDepth : Nat := 127

/-- An array or object that is being read: its items in reverse, or its fields
and the key whose value comes next. -/
inductive Unfinished where
  | items (reversed : List Json)
  | fields (done : Fields) (key : String)

/-- A finished value put into what is open around it: the whole value if
nothing is. -/
def place (v : Json) : List Unfinished → Json ⊕ List Unfinished
  | [] => .inl v
  | .items done :: outer => .inr (.items (v :: done) :: outer)
  | .fields done key :: outer =>
  .inr (.fields (Fields.insert key v done) key :: outer)

/-- One value read from the events, where `room` is the depth that is left
below the outermost value and `opened` is what is open around the place
reached. -/
def take (room : Nat) (opened : List Unfinished) :
    List Event → Except Fault (Json × List Event)
  | [] => .error .cutShort
  | e :: rest =>
    let put (v : Json) (outer : List Unfinished) :
        Except Fault (Json × List Event) :=
      match place v outer with
      | .inl whole => .ok (whole, rest)
      | .inr outer => take room outer rest
    let enter (new : Unfinished) : Except Fault (Json × List Event) :=
      if opened.length < room then take room (new :: opened) rest
      else .error .malformed
    match e, opened with
    | .null, outer => put .null outer
    | .bool b, outer => put (.bool b) outer
    | .num (some n), outer => put (.num n) outer
    | .str (some s), outer => put (.str s) outer
    | .openArr, _ => enter (.items [])
    | .openObj, _ => enter (.fields [] "")
    | .key (some key), .fields done _ :: outer =>
      take room (.fields done key :: outer) rest
    | .closeArr, .items done :: outer => put (.arr done.reverse) outer
    | .closeObj, .fields done _ :: outer => put (.obj done) outer
    | .fault f, _ => .error f
    | _, _ => .error .malformed

/-- The events after one value, where `depth` arrays and objects are open
around the place reached. -/
def skip (depth : Nat) : List Event → Except Fault (List Event)
  | [] => .error .cutShort
  | .fault f :: _ => .error f
  | .openArr :: rest | .openObj :: rest => skip (depth + 1) rest
  | .closeArr :: rest | .closeObj :: rest =>
    if depth ≤ 1 then .ok rest else skip (depth - 1) rest
  | .key _ :: rest => skip depth rest
  | _ :: rest => if depth = 0 then .ok rest else skip depth rest

/-- Nothing but the one value: no event follows it. -/
def finish (α : Type) : α × List Event → Except Fault α
  | (a, []) => .ok a
  | (_, .fault f :: _) => .error f
  | (_, _) => .error .malformed

/-- The value that a text spells. -/
def read (cs : List Char) : Except Fault Json :=
  (take maxDepth [] (events cs)).bind (finish Json)

/-- The value that a text spells, if it spells one. -/
def read? (s : String) : Option Json := (read s.toList).toOption

end Errand.Json
