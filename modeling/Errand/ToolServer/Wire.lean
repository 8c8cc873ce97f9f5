import Errand.Execution.ServiceCall
import Errand.Json.Record

/-!
# Lines between client and tool server

Client and server exchange lines of JSON. The client sends requests, which
carry a number, and notices, which do not. Of the lines that the server sends
only replies count: a line is a reply if it reads as a record of a number, a
result and an error, each of which may be missing. Every other line, be it a
log line, a message of the server's own or no JSON at all, is none
(`Reply.ofLine?`).

What a tool answers travels in the result of a reply, as text or as a
structured value; `ServiceResponse.ofToolResult` reads it.
-/

namespace Errand

namespace ToolServer

/-- A message of the client; a notice has no number. -/
structure Message where
  id : Option Nat
  method : String
  params : Option Json
deriving BEq, Repr

/-- The line of a message. -/
def Message.line (m : Message) : String :=
  (Json.obj ([("jsonrpc", .str "2.0")] ++
        (m.id.map fun n => ("id", Json.ofNat n)).toList ++
    [("method", .str m.method)] ++
      (m.params.map fun j => ("params", j)).toList)).compress

/-- The parameters of the first request: who is calling, and for what. -/
def greeting : Json :=
  .obj [("capabilities", .obj [("tools", .obj [])]),
    ("clientInfo", .obj [("name", .str "local_web_agent"),
        ("version", .str "0.1.0")]),
    ("protocolVersion", .str "2024-11-05")]

/-- An error that a reply reports. -/
structure ReplyError where
  code : Int
  message : String
deriving DecidableEq, Repr

/-- A reply of the server. -/
structure Reply where
  id : Option Nat
  result : Option Json
  error : Option ReplyError
deriving BEq, Repr

namespace Reply

open Json.Decoder in
/-- Reads the error of a reply. -/
def errorDecoder : Json.Decoder ReplyError :=
  record "JsonRpcError"
    [slot "code" .required (int (-2147483648) 2147483647 "i32") fun n e =>
        { e with code := n },
      slot "message" .required text fun s e => { e with message := s }]
    ⟨0, ""⟩

open Json.Decoder in
/-- Reads a reply. -/
def decoder : Json.Decoder Reply :=
  record "JsonRpcResponse"
    [slot "id" .defaulted (nullable (count "u64")) fun n r =>
        { r with id := n },
      slot "result" .defaulted (nullable value) fun j r =>
        { r with result := j },
      slot "error" .defaulted (nullable errorDecoder) fun e r =>
        { r with error := e }]
    ⟨none, none, none⟩

/-- The reply that a line is, if it is one. -/
def ofLine? (line : String) : Option Reply :=
  (Json.Decoder.ofText decoder (Text.trim line)).toOption

end Reply

/-- The names in a list of tools. -/
def toolNames (listed : Json) : List String :=
  (((listed.get? "tools").bind Json.items?).getD []).filterMap fun t =>
    (t.get? "name").bind Json.text?

end ToolServer

namespace ServiceResponse

/-- A response that reports success with a value. -/
def succeeded (result : Json) : ServiceResponse := ⟨true, some result, none⟩

/-- A response that reports failure for a reason. -/
def refused (reason : String) : ServiceResponse := ⟨false, none, some reason⟩

/-- The text in the result of a tool: that of its pieces of content, on lines
of their own. -/
def textOf (result : Json) : String :=
  "\n".intercalate
    ((((result.get? "content").bind Json.items?).getD []).filterMap fun c =>
      (c.get? "text").bind Json.text?)

/-- What a tool's result amounts to: its structured value if it has one, else
its text, read as JSON where it is JSON. -/
def payloadOf (result : Json) : Json :=
  match result.get? "structuredContent" with
  | some structured => structured
  | none =>
    let text := textOf result
    match Json.read text.toList with
    | .ok j => j
    | .error _ => .str text

/-- The response that the result of a tool means. The tool may report failure
in two ways: by the mark of an error, and inside what it answers. -/
def ofToolResult (result : Json) : ServiceResponse :=
  if (result.get? "isError").bind Json.bool? = some true then
    let text := textOf result
    refused (if text.isEmpty then "tool reported an error" else text)
  else
    let payload := payloadOf result
    if (payload.get? "success").bind Json.bool? = some false then
      refused (((payload.get? "error").bind Json.text?).getD
          "service reported failure")
    else succeeded payload

end ServiceResponse

end Errand
