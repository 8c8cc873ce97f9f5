import Errand.Json.Token

/-!
# JSON texts as events

A text is read in two stages, and the events between them are the data this
module is about. `events` turns a text into the sequence of events of the JSON
grammar: scalars, keys, and the opening and closing of arrays and objects. It
stops at the first place where the text leaves the grammar and says so with a
last event, `fault`. `Json.toEvents` lists the events of a value.

Consumers go through the events in order, so what they find wrong and what the
grammar finds wrong come out in the order of the text.

The grammar is the one of the JSON standard. The library that these modules
stand for reads a text in one pass; the two stages are a way to say what it
accepts and which fault it comes to first (see `Errand.Json.Basic`).
-/

namespace Errand.Json

/-- One step through a JSON text. -/
inductive Event where
  | null
  | bool (value : Bool)
  /-- A number; none if it is too large. -/
  | num (value : Option Number)
  /-- A string; none if one of its escapes stands for no character. -/
  | str (value : Option String)
  | key (name : Option String)
  | openArr
  | closeArr
  | openObj
  | closeObj
  /-- The text goes no further. -/
  | fault (cause : Fault)
deriving DecidableEq, Repr

/-! ### The events of a value -/

mutual

/-- The events of a value, in front of what follows it. -/
def toEventsOnto : Json → List Event → List Event
  | .null, tail => .null :: tail
  | .bool b, tail => .bool b :: tail
  | .num n, tail => .num (some n) :: tail
  | .str s, tail => .str (some s) :: tail
  | .arr items, tail => .openArr :: itemEventsOnto items (.closeArr :: tail)
  | .obj fields, tail => .openObj :: fieldEventsOnto fields (.closeObj :: tail)

/-- The events of a list of items. -/
def itemEventsOnto : List Json → List Event → List Event
  | [], tail => tail
  | item :: items, tail => toEventsOnto item (itemEventsOnto items tail)

/-- The events of a list of fields, each its key and its value. -/
def fieldEventsOnto : List (String × Json) → List Event → List Event
  | [], tail => tail
  | (key, value) :: fields, tail =>
    .key (some key) :: toEventsOnto value (fieldEventsOnto fields tail)

end

/-- The events of a value. -/
def toEvents (j : Json) : List Event := toEventsOnto j []

/-! ### The grammar -/

/-- What is open around the place that has been reached. -/
inductive Enclosing where
  | array
  | object
deriving DecidableEq, Repr

/-- What the grammar has a place for. -/
inductive Place where
  /-- A value. -/
  | value
  /-- The first item of an array, or its end. -/
  | firstItem
  /-- The first key of an object, or its end. -/
  | firstKey
  /-- A key. -/
  | key
  /-- The colon after a key. -/
  | colon
  /-- What may follow a value: a comma or an end, and outside everything the
  end of the text. -/
  | next
deriving DecidableEq, Repr

/-- A fault that ends the events. A string with an escape that stands for no
character is reported before the fault that breaks it off. -/
def brokenEvents (e : Event) (sound : Bool) (cause : Fault) : List Event :=
  if sound then [.fault cause] else [e, .fault cause]

/-- The events of the tokens from a place on. -/
def parse : Place → List Enclosing → List Token → List Event
  | .next, [], [] => []
  | _, _, [] => [.fault .cutShort]
  | .firstItem, .array :: outer, .closeArr :: ts =>
  .closeArr :: parse .next outer ts
  | .value, around, t :: ts | .firstItem, around, t :: ts =>
    match t with
    | .null => .null :: parse .next around ts
    | .bool b => .bool b :: parse .next around ts
    | .num n => .num n :: parse .next around ts
    | .str s => .str s :: parse .next around ts
    | .openArr => .openArr :: parse .firstItem (.array :: around) ts
    | .openObj => .openObj :: parse .firstKey (.object :: around) ts
    | .brokenString sound f => brokenEvents (.str none) sound f
    | .broken f => [.fault f]
    | _ => [.fault .malformed]
  | .firstKey, .object :: outer, .closeObj :: ts =>
    .closeObj :: parse .next outer ts
  | .key, around, t :: ts | .firstKey, around, t :: ts =>
    match t with
    | .str s => .key s :: parse .colon around ts
    | .brokenString sound f => brokenEvents (.key none) sound f
    | _ => [.fault .malformed]
  | .colon, around, .colon :: ts => parse .value around ts
  | .next, .array :: outer, t :: ts =>
    match t with
    | .comma => parse .value (.array :: outer) ts
    | .closeArr => .closeArr :: parse .next outer ts
    | _ => [.fault .malformed]
  | .next, .object :: outer, t :: ts =>
    match t with
    | .comma => parse .key (.object :: outer) ts
    | .closeObj => .closeObj :: parse .next outer ts
    | _ => [.fault .malformed]
  | _, _, _ => [.fault .malformed]

/-- The events of a text. -/
def events (cs : List Char) : List Event := parse .value [] (tokens cs)

end Errand.Json
