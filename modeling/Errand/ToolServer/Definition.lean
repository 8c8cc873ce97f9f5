import Errand.Failure
import Errand.Json.Record

/-!
# Definitions of tool servers

The action service is a server of tools that runs as a process of its own. Its
definition says how to start it and whether to use it at all. It is kept in a
file; where there is none, a definition that is switched off is written, for
the user to fill in.
-/

namespace Errand.ToolServer

/-- How to start a tool server. -/
structure Definition where
  name : String
  command : String
  args : List String
  /-- The environment in addition to the inherited one, in increasing order of
  names. -/
  env : List (String × String)
  enabled : Bool
  /-- How many milliseconds an answer is waited for. -/
  requestTimeout : Nat
deriving DecidableEq, Repr

namespace Definition

/-- The time limit of a definition that sets none, in milliseconds. -/
def usualTimeout : Nat := 60000

/-- The definition that is written where there is none. -/
def initial : Definition :=
  ⟨"steer-actions", "npx", ["-y", "@steer/action-server"], [], false,
    usualTimeout⟩

/-- The name of a server whose definition gives none. -/
def usualName : String := "action-service"

/-- Entries in increasing order of their keys; of equal keys the last counts. -/
def sortedEntries (entries : List (String × String)) : List (String × String) :=
  (Json.Fields.sorted (entries.map fun (k, v) => (k, .str v))).filterMap
    fun (k, j) => j.text?.map fun v => (k, v)

open Json.Decoder in
/-- Reads a definition. -/
def decoder : Json.Decoder Definition :=
  record "McpServer"
    [slot "name" .defaulted text fun s d => { d with name := s },
      slot "command" .required text fun s d => { d with command := s },
      slot "args" .defaulted (list text) fun ss d => { d with args := ss },
      slot "env" .defaulted (map text) fun es d =>
        { d with env := sortedEntries es },
      slot "enabled" .defaulted bool fun b d => { d with enabled := b },
      slot "request_timeout_ms" .defaulted (count "u64") fun n d =>
        { d with requestTimeout := n }]
    ⟨"", "", [], [], false, usualTimeout⟩

/-- The definition as a value, its fields in the order of their definition. -/
def toJson (d : Definition) : Json :=
  .obj [("name", .str d.name), ("command", .str d.command),
    ("args", Json.ofTexts d.args),
    ("env", .obj (d.env.map fun (k, v) => (k, .str v))),
    ("enabled", .bool d.enabled),
    ("request_timeout_ms", Json.ofNat d.requestTimeout)]

/-- The definition with a name. -/
def withName (d : Definition) : Definition :=
  if d.name.isEmpty then { d with name := usualName } else d

/-- The definition in use and the file afterwards, where `file` is the text of
the file at `path` or none if it is absent. -/
def load (path : String) (file : Option String) :
    Except Trouble Definition × String :=
  match file with
  | none => (.ok initial, initial.toJson.pretty)
  | some s =>
    match Json.Decoder.ofText decoder s with
    | .ok d => (.ok d.withName, s)
    | .error _ =>
      (.error (.plain ("Invalid action service config " ++ path)), s)

/-- How long an answer is waited for; the shortest wait is a millisecond. -/
def timeout (d : Definition) : Nat := max d.requestTimeout 1

end Definition

end Errand.ToolServer
