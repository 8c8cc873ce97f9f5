import Errand.Execution.Preferred
import Errand.ToolServer.Definition
import Errand.ToolServer.Wire

/-!
# Connections to a tool server

A `Process` is a server seen from the client: what it is going to do about the
requests to come, the lines it has sent that nobody has read yet, and the lines
it has been sent. It answers a request at once or not at all.

A `Connection` numbers its requests from one on. `Connection.request` sends a
request and reads lines until one is a reply with its number; all others are
passed over. It fails if the server has ended, if there is no reply in time, or
if the reply is an error.

A `Client` has at most one connection. It connects when the service is started
and keeps the connection as long as the server runs; a call that times out
drops it, because the reply may still come and would be taken for another's.
Connecting is a handshake of a request, a notice, and the question for the
tools; a server that does not list its tools is taken to have any.
-/

namespace Errand.ToolServer

/-- What a server does about a request: it sends lines, or it ends. -/
inductive Turn where
  | send (lines : List String)
  | leave
deriving DecidableEq, Repr

/-- A server process, known by its number. Requests beyond the last turn get no
lines. -/
structure Process where
  number : Nat
  turns : List Turn
  unread : List String
  ended : Bool
  /-- The lines it has been sent. -/
  received : List String
deriving DecidableEq, Repr

/-- The process after it has read a line. -/
def Process.hear (m : Message) (p : Process) : Process :=
  let p := { p with received := p.received ++ [m.line] }
  match m.id, p.turns with
  | none, _ | some _, [] => p
  | some _, .send lines :: rest =>
    { p with turns := rest, unread := p.unread ++ lines }
  | some _, .leave :: rest => { p with turns := rest, ended := true }

/-- Why a request has no result. -/
inductive Fault where
  /-- The server has ended, so nothing can be sent to it. -/
  | broken
  /-- The server ended without a reply. -/
  | closed
  | timedOut
  /-- The reply is an error. -/
  | refused (e : ReplyError)
deriving DecidableEq, Repr

/-- The fault as trouble, where `late` is what to say of a request that timed
out. -/
def Fault.trouble (late : String) : Fault → Trouble
  | .broken => .plain "Broken pipe (os error 32)"
  | .closed => .plain "MCP server closed its stdout"
  | .timedOut => .plain late
  | .refused e =>
  .plain ("MCP error " ++ String.ofList (Decimal.ofInt e.code) ++ ": " ++
    e.message)

/-- A connection to a running server. -/
structure Connection where
  process : Process
  /-- The number of the last request. -/
  lastId : Nat
  tools : List String
deriving DecidableEq, Repr

namespace Connection

/-- The connection to a server that has just been started. -/
def ofProcess (p : Process) : Connection := ⟨p, 0, []⟩

/-- The connection after a message was sent, unless the server has ended. -/
def send? (m : Message) (c : Connection) : Option Connection :=
  if c.process.ended then none else some { c with process := c.process.hear m }

/-- The first reply with a number among some lines, and the lines after it. -/
def firstReply (id : Nat) : List String → Option (Reply × List String)
  | [] => none
  | line :: rest =>
    match Reply.ofLine? line with
    | some r => if r.id = some id then some (r, rest) else firstReply id rest
    | none => firstReply id rest

/-- What a reply says. -/
def outcomeOf (r : Reply) : Except Fault Json :=
  match r.error with
  | some e => .error (.refused e)
  | none => .ok (r.result.getD .null)

/-- The connection with these lines still to be read. -/
def leaving (unread : List String) (c : Connection) : Connection :=
  { c with process := { c.process with unread } }

/-- Sends a request and reads its reply. -/
def request (method : String) (params : Option Json) (c : Connection) :
    Except Fault Json × Connection :=
  let id := c.lastId + 1
  match { c with lastId := id }.send? ⟨some id, method, params⟩ with
  | none => (.error .broken, { c with lastId := id })
  | some c =>
    match firstReply id c.process.unread with
    | some (r, rest) => (outcomeOf r, c.leaving rest)
    | none =>
      (.error (if c.process.ended then .closed else .timedOut), c.leaving [])

/-- Asks the server for its tools; if it does not say, none are known. -/
def listTools (c : Connection) : Connection × Bool :=
  match c.request "tools/list" none with
  | (.ok listed, c) => ({ c with tools := toolNames listed }, false)
  | (.error f, c) => (c, f = .timedOut)

/-- The handshake with a server that has just been started: what went wrong if
anything did, the connection, and how many of its requests timed out. -/
def handshake (c : Connection) : Option Trouble × Connection × Nat :=
  match c.request "initialize" (some greeting) with
  | (.error f, c) =>
    (some (f.trouble "MCP initialize timed out"), c,
        if f = .timedOut then 1 else 0)
  | (.ok _, c) =>
    match c.send? ⟨none, "notifications/initialized", none⟩ with
    | none => (some (Fault.broken.trouble ""), c, 0)
    | some c =>
      let (c, late) := c.listTools
      (none, c, if late then 1 else 0)

/-- A tool that the server does not offer. -/
def lacks (c : Connection) (tool : String) : Bool :=
  !c.tools.isEmpty && !c.tools.contains tool

end Connection

/-- A client of a tool server. -/
structure Client where
  definition : Definition
  connection : Option Connection
  /-- The servers that are no longer connected. -/
  former : List Process
deriving DecidableEq, Repr

namespace Client

/-- A client that has not been used yet. -/
def ofDefinition (d : Definition) : Client := ⟨d, none, []⟩

/-- What came of using a client. -/
structure Used (α : Type) where
  result : Except Trouble α
  client : Client
  /-- How many requests were waited for in vain. -/
  timeouts : Nat

/-- The processes that there have been. -/
def processes (c : Client) : List Process :=
  c.former ++ (c.connection.map Connection.process).toList

/-- All lines that the servers have been sent, in order. -/
def received (c : Client) : List String :=
  (c.processes.mergeSort fun p q => p.number ≤ q.number).flatMap
    Process.received

/-- The client with this connection in place of the one it has. -/
def connected (conn : Connection) (c : Client) : Client :=
  { c with connection := some conn, former := c.processes }

/-- Starts a server, where `turns` is what it does, and connects to it. -/
def connect (turns : Option (List Turn)) (c : Client) : Used Unit :=
  match turns with
  | none =>
    ⟨.error ⟨"Failed to start MCP server: " ++ c.definition.command,
      ["No such file or directory (os error 2)"]⟩, c, 0⟩
  | some turns =>
    match (Connection.ofProcess
        ⟨c.processes.length, turns, [], false, []⟩).handshake with
    | (none, conn, late) => ⟨.ok (), c.connected conn, late⟩
    | (some t, conn, late) =>
      ⟨.error t, { c with former := c.former ++ [conn.process] }, late⟩

/-- Makes sure that there is a connection to a running server; `turns` is what
a newly started server does, none if it cannot be started. -/
def start (turns : Option (List Turn)) (c : Client) : Used Unit :=
  if !c.definition.enabled then
    ⟨.error (.plain ("action service '" ++ c.definition.name ++
        "' is disabled")),
      c, 0⟩
  else
    match c.connection with
    | some conn =>
      if conn.process.ended then c.connect turns else ⟨.ok (), c, 0⟩
    | none => c.connect turns

/-- Calls a tool. -/
def execute (name : String) (params : Json) (c : Client) :
    Used ServiceResponse :=
  match c.connection with
  | none => ⟨.error (.plain "MCP server not connected"), c, 0⟩
  | some conn =>
    if conn.lacks name then
      ⟨.ok (.refused ("tool '" ++ name ++ "' not offered by server")), c, 0⟩
    else
      match conn.request "tools/call"
        (some (.obj [("arguments", params), ("name", .str name)])) with
      | (.ok result, conn) =>
        ⟨.ok (.ofToolResult result), { c with connection := some conn }, 0⟩
      | (.error .timedOut, conn) =>
        ⟨.error (.plain ("MCP call '" ++ name ++ "' timed out")),
          { c with connection := none, former := c.former ++ [conn.process] },
          1⟩
      | (.error f, conn) =>
        ⟨.error (f.trouble ""), { c with connection := some conn }, 0⟩

/-- The use of a client as one act: what is waited for in vain takes its
time. -/
def Used.act {α : Type} (u : Used α) : Act Client α :=
  .wait u.client (Duration.ofMillis (u.timeouts * u.client.definition.timeout))
    (.finish (.answer u.result) u.client)

/-- The action service that a client makes of a tool server. -/
def partner (turns : Option (List Turn)) :
    Partner ServiceRequest.Answer Client where
  perform
    | .start, _, c => (c.start turns).act
    | .execute call, _, c => (c.execute call.name (.obj call.params)).act

end Client

end Errand.ToolServer
