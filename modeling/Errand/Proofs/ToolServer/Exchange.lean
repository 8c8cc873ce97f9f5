import Errand.ToolServer.Connection
import Mathlib.Data.List.Induction

/-!
# What is said on connections to tool servers

Every server that a client connects to is told the same things in the same
order: the opening of the connection, which is a request, a notice and the
question for the tools, and then the calls, numbered on from three. This file
proves that, for every definition, whatever the client is used for and whatever
the servers do. A server may be told less, because it has ended or because the
opening failed, but never anything else and nothing out of order.

A client is followed through a list of **events**: it is started, it is asked
to call a tool, or the server it is connected to does something of its own
accord, such as sending a line or ending.

What carries the proof is `Connection.Said`: the messages that were to be sent
on a connection, the lines that arrived, and the number of the last request
belong together. `Client.Orderly` says so of all servers of a client; it holds
at first, and every event preserves it.

## Main results

* `exchange`: the messages of a connection on which these calls were made.
* `Connection.request_spec`, `Connection.Said.handshake`: what a request and
  the opening leave behind.
* `Client.Orderly.afterAll`: the order of messages, kept by every list of
  events.
* `Client.exists_start_of_connected`: a connection comes from a successful
  start, and with it a new server.
* `Client.exchange_account`: what is said to the servers, and when nothing is.
-/

namespace Errand.ToolServer

/-! ## The order of messages -/

/-- The message that calls a tool. -/
def callMessage (id : Nat) (call : String × Json) : Message :=
  ⟨some id, "tools/call",
    some (.obj [("arguments", call.2), ("name", .str call.1)])⟩

/-- The messages that open a connection. -/
def opening : List Message :=
  [⟨some 1, "initialize", some greeting⟩,
    ⟨none, "notifications/initialized", none⟩, ⟨some 2, "tools/list", none⟩]

/-- The messages on a connection on which these calls were made. -/
def exchange (calls : List (String × Json)) : List Message :=
  opening ++ calls.mapIdx fun k call => callMessage (k + 3) call

theorem exchange_concat (calls : List (String × Json)) (call : String × Json) :
    exchange (calls ++ [call]) =
      exchange calls ++ [callMessage (calls.length + 3) call] := by
  unfold exchange
  rw [List.mapIdx_concat, List.append_assoc]

/-- The requests of a connection are numbered from one on, without a gap. -/
theorem ids_exchange (calls : List (String × Json)) :
    (exchange calls).filterMap Message.id =
      List.range' 1 (calls.length + 2) := by
  induction calls using List.reverseRecOn with
  | nil => rfl
  | append_singleton calls call ih =>
      have hLast : List.range' 1 (calls.length + 2 + 1) =
          List.range' 1 (calls.length + 2) ++ [calls.length + 3] := by
        rw [List.range'_concat, Nat.one_mul, Nat.add_comm 1]
      rw [exchange_concat, List.filterMap_append, ih, List.length_append,
        List.length_singleton, Nat.add_right_comm, hLast]
      rfl

/-- No number is used twice in the beginning of an exchange, and the numbers
increase. -/
theorem ids_increase {calls : List (String × Json)} {ms : List Message}
    (h : ms <+: exchange calls) :
    (ms.filterMap Message.id).Pairwise (· < ·) := by
  refine List.Pairwise.sublist (h.sublist.filterMap Message.id) ?_
  rw [ids_exchange]
  exact List.pairwise_lt_range'

/-! ## Connections -/

namespace Process

theorem received_hear (m : Message) (p : Process) :
    (p.hear m).received = p.received ++ [m.line] := by
  unfold hear
  dsimp only
  split <;> rfl

theorem number_hear (m : Message) (p : Process) :
    (p.hear m).number = p.number := by
  unfold hear
  dsimp only
  split <;> rfl

end Process

namespace Connection

/-- What a request leaves behind: it takes the next number, and it arrives
unless the server has ended. -/
theorem request_spec (method : String) (params : Option Json) (c : Connection) :
    (c.request method params).2.lastId = c.lastId + 1 ∧
      (c.request method params).2.process.number = c.process.number ∧
      (c.process.ended = true →
        (c.request method params).2.process.received = c.process.received ∧
          (c.request method params).2.process.ended = true) ∧
      (c.process.ended = false →
        (c.request method params).2.process.received =
          c.process.received ++ [Message.line ⟨some (c.lastId + 1), method,
              params⟩]) := by
  cases hEnded : c.process.ended with
  | true =>
      have hRequest : c.request method params =
            (.error .broken, { c with lastId := c.lastId + 1 }) := by
        simp only [request, send?, hEnded, if_true]
      rw [hRequest]
      exact ⟨rfl, rfl, fun _ => ⟨rfl, hEnded⟩, nofun⟩
  | false =>
      have hRequest : ∃ outcome unread, c.request method params = (outcome,
          Connection.leaving unread { c with
            lastId := c.lastId + 1
            process :=
              c.process.hear ⟨some (c.lastId + 1), method, params⟩ }) := by
        simp only [request, send?, hEnded, if_false, Bool.false_eq_true]
        split
        · exact ⟨_, _, rfl⟩
        · exact ⟨_, _, rfl⟩
      obtain ⟨outcome, unread, hRequest⟩ := hRequest
      rw [hRequest]
      exact ⟨rfl, Process.number_hear _ _, nofun,
        fun _ => Process.received_hear _ _⟩

theorem number_request (method : String) (params : Option Json)
    (c : Connection) :
    (c.request method params).2.process.number = c.process.number :=
  (request_spec method params c).2.1

/-- The connection after a tool was called. -/
def afterCall (call : String × Json) (c : Connection) : Connection :=
  (c.request "tools/call"
      (some (.obj [("arguments", call.2), ("name", .str call.1)]))).2

/-- These messages were to be sent on the connection: the server has received
them, or the first of them if it has ended, and the number of the last request
is how many of them are requests. -/
structure Said (c : Connection) (ms : List Message) : Prop where
  heard : c.process.received <+: ms.map Message.line
  alive : c.process.ended = false → c.process.received = ms.map Message.line
  numbered : c.lastId = (ms.filterMap Message.id).length

namespace Said

variable {c : Connection} {ms : List Message}

theorem ofReceived (h : c.process.received = ms.map Message.line)
    (hNumbered : c.lastId = (ms.filterMap Message.id).length) : c.Said ms :=
  ⟨h ▸ List.prefix_rfl, fun _ => h, hNumbered⟩

theorem ofProcess {p : Process} (h : p.received = []) :
    (Connection.ofProcess p).Said [] :=
  ofReceived h rfl

theorem request (h : c.Said ms) (method : String) (params : Option Json) :
    (c.request method params).2.Said
      (ms ++ [⟨some (c.lastId + 1), method, params⟩]) := by
  obtain ⟨hId, -, hEnded, hAlive⟩ := request_spec method params c
  have hNumbered : c.lastId + 1 =
      ((ms ++ [(⟨some (c.lastId + 1), method, params⟩ : Message)]).filterMap
        Message.id).length := by
    rw [List.filterMap_append, List.length_append, ← h.numbered]
    rfl
  cases hCase : c.process.ended with
  | true =>
      obtain ⟨hReceived, hStill⟩ := hEnded hCase
      refine ⟨?_, fun hNot => absurd hNot (by rw [hStill]; decide),
        hId.trans hNumbered⟩
      rw [hReceived, List.map_append]
      exact h.heard.trans (List.prefix_append _ _)
  | false =>
      have hReceived := hAlive hCase
      rw [h.alive hCase] at hReceived
      refine ofReceived ?_ (hId.trans hNumbered)
      rw [hReceived, List.map_append]
      rfl

theorem notice (h : c.Said ms) {method : String} {params : Option Json}
    {c' : Connection} (hSend : c.send? ⟨none, method, params⟩ = some c') :
    c'.Said (ms ++ [⟨none, method, params⟩]) ∧
    c'.process.number = c.process.number := by
  unfold send? at hSend
  split at hSend
  · cases hSend
  · next hEnded =>
      obtain rfl := Option.some.inj hSend
      refine ⟨ofReceived ?_ ?_, Process.number_hear _ _⟩
      · show (c.process.hear ⟨none, method, params⟩).received = _
        rw [Process.received_hear, h.alive (Bool.eq_false_iff.mpr hEnded),
          List.map_append]
        rfl
      · rw [List.filterMap_append, List.filterMap_cons_none rfl,
          List.filterMap_nil, List.append_nil]
        exact h.numbered

theorem listTools (h : c.Said ms) :
    (c.listTools).1.Said (ms ++ [⟨some (c.lastId + 1), "tools/list", none⟩]) ∧
      (c.listTools).1.process.number = c.process.number := by
  have hRequest := h.request "tools/list" none
  have hNumber := number_request "tools/list" none c
  unfold Connection.listTools
  split
  · next listed c' hEq =>
      rw [hEq] at hRequest hNumber
      exact ⟨⟨hRequest.heard, hRequest.alive, hRequest.numbered⟩, hNumber⟩
  · next f c' hEq =>
      rw [hEq] at hRequest hNumber
      exact ⟨hRequest, hNumber⟩

theorem lastId_eq {calls : List (String × Json)} (h : c.Said (exchange calls)) :
    c.lastId = calls.length + 2 := by
  rw [h.numbered, ids_exchange, List.length_range']

/-- A call goes on with the exchange. -/
theorem afterCall {calls : List (String × Json)} (h : c.Said (exchange calls))
    (call : String × Json) :
    (c.afterCall call).Said (exchange (calls ++ [call])) := by
  have hRequest := h.request "tools/call"
    (some (.obj [("arguments", call.2), ("name", .str call.1)]))
  rw [h.lastId_eq] at hRequest
  rw [exchange_concat]
  exact hRequest

/-- A call of a running server arrives, whatever comes of it. -/
theorem received_afterCall {calls : List (String × Json)}
    (h : c.Said (exchange calls)) (hAlive : c.process.ended = false)
    (call : String × Json) :
    (c.afterCall call).process.received =
      (exchange (calls ++ [call])).map Message.line := by
  obtain ⟨-, -, -, hReceived⟩ := request_spec "tools/call"
    (some (.obj [("arguments", call.2), ("name", .str call.1)])) c
  have hCall := hReceived hAlive
  rw [h.lastId_eq, h.alive hAlive] at hCall
  rw [exchange_concat, List.map_append]
  exact hCall

/-- A new server is told the opening, or the beginning of it if that goes
wrong. -/
theorem handshake {p : Process} (h : p.received = []) :
    ∃ ms, ms <+: opening ∧ (Connection.ofProcess p).handshake.2.1.Said ms ∧
      (Connection.ofProcess p).handshake.2.1.process.number = p.number ∧
      ((Connection.ofProcess p).handshake.1 = none → ms = opening) := by
  have hFirst := (ofProcess h).request "initialize" (some greeting)
  have hFirstNumber :=
    number_request "initialize" (some greeting) (Connection.ofProcess p)
  unfold Connection.handshake
  split
  · next f c hEq =>
      rw [hEq] at hFirst hFirstNumber
      exact ⟨_, List.prefix_append _ _, hFirst, hFirstNumber, nofun⟩
  · next result c hEq =>
      rw [hEq] at hFirst hFirstNumber
      split
      · exact ⟨_, List.prefix_append _ _, hFirst, hFirstNumber, nofun⟩
      · next c' hSend =>
          obtain ⟨hSecond, hSecondNumber⟩ := hFirst.notice hSend
          obtain ⟨hThird, hThirdNumber⟩ := hSecond.listTools
          have hId : c'.lastId = 1 := hSecond.numbered
          rw [hId] at hThird
          exact ⟨_, List.prefix_rfl, hThird,
            hThirdNumber.trans (hSecondNumber.trans hFirstNumber), fun _ => rfl⟩

end Said

end Connection

/-! ## Clients in use -/

/-- Something that happens to a client. -/
inductive Event where
  /-- The client is started; `turns` is what a new server does, none if there
  cannot be one. -/
  | start (turns : Option (List Turn))
  | execute (name : String) (params : Json)
  /-- The connected server does something of its own accord: from now on it
  does `turns`, these lines can be read from it, and it ends if it `leaves`. -/
  | stir (turns : List Turn) (unread : List String) (leaves : Bool)

/-- The call that is asked for, if one is. -/
def Event.call? : Event → Option (String × Json)
  | .execute name params => some (name, params)
  | _ => none

/-- The server after it did something of its own accord. -/
def Process.stirred (turns : List Turn) (unread : List String) (leaves : Bool)
    (p : Process) : Process :=
  { p with turns, unread, ended := p.ended || leaves }

namespace Client

/-- The client after its server did something of its own accord. -/
def stirred (turns : List Turn) (unread : List String) (leaves : Bool)
    (c : Client) : Client :=
  { c with connection := c.connection.map fun conn =>
      { conn with process := conn.process.stirred turns unread leaves } }

/-- The client after an event. -/
def after (c : Client) : Event → Client
  | .start turns => (c.start turns).client
  | .execute name params => (c.execute name params).client
  | .stir turns unread leaves => c.stirred turns unread leaves

/-- The client after a list of events. -/
def afterAll (c : Client) (events : List Event) : Client := events.foldl after c

theorem processes_of_connected {c : Client} {conn : Connection}
    (h : c.connection = some conn) :
    c.processes = c.former ++ [conn.process] := by
  unfold processes
  rw [h]
  rfl

theorem processes_of_unconnected {c : Client} (h : c.connection = none) :
    c.processes = c.former := by
  unfold processes
  rw [h]
  exact List.append_nil _

/-! ### One use of a client -/

/-- Everything that a connection attempt can come to: there is no server, it
was told the beginning of the opening in vain, or it is connected now. -/
theorem connect_cases (turns : Option (List Turn)) (c : Client) :
    (c.connect turns).client = c ∨
      ∃ conn ms, conn.Said ms ∧ conn.process.number = c.processes.length ∧
        (ms <+: opening ∧
            (c.connect turns).client =
              { c with former := c.former ++ [conn.process] } ∧
            (c.connect turns).result ≠ .ok () ∨
          ms = opening ∧ (c.connect turns).client = c.connected conn ∧
            (c.connect turns).result = .ok ()) := by
  unfold connect
  cases turns with
  | none => exact .inl rfl
  | some turns =>
      obtain ⟨ms, hOpening, hSaid, hNumber, hDone⟩ :=
        Connection.Said.handshake (p := ⟨c.processes.length, turns, [],
            false, []⟩) rfl
      refine .inr ?_
      dsimp only
      split
      · next conn late hEq =>
          rw [hEq] at hSaid hNumber hDone
          exact ⟨conn, ms, hSaid, hNumber, .inr ⟨hDone rfl, rfl, rfl⟩⟩
      · next t conn late hEq =>
          rw [hEq] at hSaid hNumber
          exact ⟨conn, ms, hSaid, hNumber, .inl ⟨hOpening, rfl, nofun⟩⟩

theorem start_of_disabled {c : Client} (h : c.definition.enabled = false)
    (turns : Option (List Turn)) : ∃ t, c.start turns = ⟨.error t, c, 0⟩ := by
  unfold start
  rw [h]
  exact ⟨_, rfl⟩

/-- A start with a running server does nothing. -/
theorem start_of_alive {c : Client} {conn : Connection}
    (hEnabled : c.definition.enabled = true) (hConn : c.connection = some conn)
    (hAlive : conn.process.ended = false) (turns : Option (List Turn)) :
    c.start turns = ⟨.ok (), c, 0⟩ := by
  simp only [start, hEnabled, hConn, hAlive, Bool.not_true,
    Bool.false_eq_true, if_false]

theorem start_cases (turns : Option (List Turn)) (c : Client) :
    (c.start turns).client = c ∨ c.definition.enabled = true ∧
    c.start turns = c.connect turns := by
  unfold start
  cases hEnabled : c.definition.enabled with
  | false => exact .inl rfl
  | true =>
      simp only [Bool.not_true, Bool.false_eq_true, if_false]
      cases c.connection with
      | none => exact .inr ⟨trivial, rfl⟩
      | some conn =>
          dsimp only
          split
          · exact .inr ⟨trivial, rfl⟩
          · exact .inl rfl

theorem execute_of_unconnected {c : Client} (h : c.connection = none)
    (name : String) (params : Json) :
    ∃ t, c.execute name params = ⟨.error t, c, 0⟩ := by
  unfold execute
  rw [h]
  exact ⟨_, rfl⟩

theorem execute_of_lacks {c : Client} {conn : Connection}
    (hConn : c.connection = some conn) {name : String}
    (h : conn.lacks name = true) (params : Json) :
    ∃ r, c.execute name params = ⟨.ok r, c, 0⟩ ∧ r.success = false := by
  simp only [execute, hConn, h, if_true]
  exact ⟨_, rfl, rfl⟩

/-- A call that is made keeps its connection, or drops it if it timed out. -/
theorem execute_of_offered {c : Client} {conn : Connection}
    (hConn : c.connection = some conn) {name : String}
    (h : conn.lacks name = false) (params : Json) :
    (c.execute name params).client =
          { c with connection := some (conn.afterCall (name, params)) } ∧
        (c.execute name params).timeouts = 0 ∨
      (c.execute name params).client = { c with
            connection := none
            former := c.former ++ [(conn.afterCall (name, params)).process] } ∧
        ∃ t, (c.execute name params).result = .error t := by
  simp only [execute, hConn, h, if_false, Bool.false_eq_true,
    Connection.afterCall]
  split
  · next result conn' hEq =>
      rw [hEq]
      exact .inl ⟨rfl, rfl⟩
  · next conn' hEq =>
      rw [hEq]
      exact .inr ⟨rfl, _, rfl⟩
  · next f conn' hNot hEq =>
      rw [hEq]
      exact .inl ⟨rfl, rfl⟩

/-- Every call of a tool leaves the client alone, or takes the connection a
request further. -/
theorem execute_cases (name : String) (params : Json) (c : Client) :
    (c.execute name params).client = c ∧ (c.execute name params).timeouts = 0 ∨
      ∃ conn, c.connection = some conn ∧ conn.lacks name = false := by
  cases hConn : c.connection with
  | none =>
      obtain ⟨t, hExecute⟩ := execute_of_unconnected hConn name params
      rw [hExecute]
      exact .inl ⟨rfl, rfl⟩
  | some conn =>
      cases hLacks : conn.lacks name with
      | false => exact .inr ⟨conn, rfl, hLacks⟩
      | true =>
          obtain ⟨r, hExecute, -⟩ := execute_of_lacks hConn hLacks params
          rw [hExecute]
          exact .inl ⟨rfl, rfl⟩

/-! ### The order of messages in every client -/

/-- The server was told the beginning of an exchange, with some of the calls in
their order. -/
def Heard (called : List (String × Json)) (p : Process) : Prop :=
  ∃ calls ms, calls.Sublist called ∧ ms <+: exchange calls ∧
    p.received = ms.map Message.line

/-- What holds of a client that was asked for these calls. -/
structure Orderly (called : List (String × Json)) (c : Client) : Prop where
  former : ∀ p ∈ c.former, Heard called p
  current : ∀ conn, c.connection = some conn →
    ∃ calls, calls.Sublist called ∧ conn.Said (exchange calls)
  /-- The servers are numbered from zero on. -/
  numbered : (c.processes.map Process.number).Perm
    (List.range c.processes.length)
  disabled : c.definition.enabled = false → c.processes = []

namespace Orderly

variable {called : List (String × Json)} {c : Client}

theorem ofDefinition (d : Definition) : Orderly [] (ofDefinition d) :=
  ⟨nofun, nofun, List.Perm.refl _, fun _ => rfl⟩

theorem weaken (h : Orderly called c) {called' : List (String × Json)}
    (hSub : called.Sublist called') : Orderly called' c := by
  refine ⟨fun p hp => ?_, fun conn hConn => ?_, h.numbered, h.disabled⟩
  · obtain ⟨calls, ms, hCalls, hMs⟩ := h.former p hp
    exact ⟨calls, ms, hCalls.trans hSub, hMs⟩
  · obtain ⟨calls, hCalls, hSaid⟩ := h.current conn hConn
    exact ⟨calls, hCalls.trans hSub, hSaid⟩

/-- What was said on a connection, its server was told the beginning of. -/
theorem heard_of_said {conn : Connection} {ms : List Message}
    (hSaid : conn.Said ms) {calls : List (String × Json)}
    (hSub : calls.Sublist called) (hMs : ms <+: exchange calls) :
    Heard called conn.process := by
  obtain ⟨begun, hBegun, hReceived⟩ := List.prefix_map_iff.mp hSaid.heard
  exact ⟨calls, begun, hSub, hBegun.trans hMs, hReceived⟩

theorem heard (h : Orderly called c) : ∀ p ∈ c.processes, Heard called p := by
  intro p hp
  rcases List.mem_append.mp hp with hp | hp
  · exact h.former p hp
  · obtain ⟨conn, hConn, rfl⟩ :=
      Option.map_eq_some_iff.mp (Option.mem_toList.mp hp)
    obtain ⟨calls, hSub, hSaid⟩ := h.current conn hConn
    exact heard_of_said hSaid hSub List.prefix_rfl

/-- A client that got a new server, with the number that comes next. -/
theorem numbered_more (h : Orderly called c) {c' : Client} {p : Process}
    (hMore : c'.processes.Perm (c.processes ++ [p]))
    (hNumber : p.number = c.processes.length) :
    (c'.processes.map Process.number).Perm
      (List.range c'.processes.length) := by
  have hNumbers : (c'.processes.map Process.number).Perm
      (c.processes.map Process.number ++ [c.processes.length]) := by
    rw [← hNumber, ← List.map_singleton, ← List.map_append]
    exact hMore.map Process.number
  rw [hMore.length_eq, List.length_append, List.length_singleton,
    List.range_succ]
  exact hNumbers.trans (h.numbered.append_right _)

/-- A client that has still the same servers. -/
theorem numbered_same (h : Orderly called c) {c' : Client}
    (hSame : c'.processes.map Process.number = c.processes.map Process.number) :
    (c'.processes.map Process.number).Perm
      (List.range c'.processes.length) := by
  have hLength : c'.processes.length = c.processes.length := by
    have := congrArg List.length hSame
    rwa [List.length_map, List.length_map] at this
  rw [hSame, hLength]
  exact h.numbered

theorem connect (h : Orderly called c) (hEnabled : c.definition.enabled = true)
    (turns : Option (List Turn)) : Orderly called (c.connect turns).client := by
  rcases connect_cases turns c with hSame | ⟨conn, ms, hSaid, hNumber, hCase⟩
  · rw [hSame]
    exact h
  rcases hCase with ⟨hOpening, hClient, -⟩ | ⟨hOpening, hClient, -⟩
  · rw [hClient]
    refine ⟨fun p hp => ?_, h.current,
      h.numbered_more (p := conn.process) ?_ hNumber, fun hNot => ?_⟩
    · rcases List.mem_append.mp hp with hp | hp
      · exact h.former p hp
      · obtain rfl := List.mem_singleton.mp hp
        exact heard_of_said hSaid (List.nil_sublist called) hOpening
    · show ((c.former ++ [conn.process]) ++ _).Perm
            ((c.former ++ _) ++ [conn.process])
      rw [List.append_assoc, List.append_assoc]
      exact List.perm_append_comm.append_left c.former
    · exact Bool.noConfusion (hEnabled.symm.trans hNot)
  · rw [hClient]
    refine ⟨h.heard, fun conn' hConn => ?_, h.numbered_more (.refl _) hNumber,
      fun hNot => ?_⟩
    · obtain rfl := Option.some.inj hConn
      subst hOpening
      exact ⟨[], List.nil_sublist called, hSaid⟩
    · exact Bool.noConfusion (hEnabled.symm.trans hNot)

theorem start (h : Orderly called c) (turns : Option (List Turn)) :
    Orderly called (c.start turns).client := by
  rcases start_cases turns c with hSame | ⟨hEnabled, hStart⟩
  · rw [hSame]
    exact h
  · rw [hStart]
    exact h.connect hEnabled turns

/-- A client that is connected is switched on. -/
theorem enabled_of_connected (h : Orderly called c) {conn : Connection}
    (hConn : c.connection = some conn) : c.definition.enabled = true := by
  cases hEnabled : c.definition.enabled with
  | true => rfl
  | false =>
      have hNone := h.disabled hEnabled
      rw [processes_of_connected hConn] at hNone
      exact absurd hNone (by simp)

theorem execute (h : Orderly called c) (name : String) (params : Json) :
    Orderly (called ++ [(name, params)]) (c.execute name params).client := by
  rcases execute_cases name params c with ⟨hSame, -⟩ | ⟨conn, hConn, hOffered⟩
  · rw [hSame]
    exact h.weaken (List.sublist_append_left _ _)
  · obtain ⟨calls, hSub, hSaid⟩ := h.current conn hConn
    have hEnabled := h.enabled_of_connected hConn
    have hSub' : (calls ++ [(name, params)]).Sublist
          (called ++ [(name, params)]) :=
      hSub.append_right _
    have hSaid' := hSaid.afterCall (name, params)
    have hFormer :=
      (h.weaken (List.sublist_append_left called [(name, params)])).former
    have hNumber : (conn.afterCall (name, params)).process.number =
          conn.process.number :=
      Connection.number_request _ _ conn
    have hNumbers : (c.former ++ [(conn.afterCall (name, params)).process]).map
          Process.number =
        c.processes.map Process.number := by
      rw [processes_of_connected hConn, List.map_append, List.map_append,
        List.map_singleton, List.map_singleton, hNumber]
    rcases execute_of_offered hConn hOffered params
      with ⟨hClient, -⟩ | ⟨hClient, -⟩
    · rw [hClient]
      refine ⟨hFormer, fun conn' hConn' => ?_, h.numbered_same hNumbers,
        fun hNot => ?_⟩
      · obtain rfl := Option.some.inj hConn'
        exact ⟨_, hSub', hSaid'⟩
      · exact Bool.noConfusion (hEnabled.symm.trans hNot)
    · rw [hClient]
      refine ⟨fun p hp => ?_, nofun, h.numbered_same ?_, fun hNot => ?_⟩
      · rcases List.mem_append.mp hp with hp | hp
        · exact hFormer p hp
        · obtain rfl := List.mem_singleton.mp hp
          exact heard_of_said hSaid' hSub' List.prefix_rfl
      · rw [processes_of_unconnected rfl, hNumbers]
      · exact Bool.noConfusion (hEnabled.symm.trans hNot)

theorem stirred (h : Orderly called c) (turns : List Turn)
    (unread : List String) (leaves : Bool) :
    Orderly called (c.stirred turns unread leaves) := by
  cases hConn : c.connection with
  | none =>
      have hSame : c.stirred turns unread leaves = c := by
        unfold Client.stirred
        rw [hConn]
        exact congrArg (fun conn => (⟨c.definition, conn, c.former⟩ : Client))
          hConn.symm
      rw [hSame]
      exact h
  | some conn =>
      obtain ⟨calls, hSub, hSaid⟩ := h.current conn hConn
      have hStirred : (c.stirred turns unread leaves).connection =
          some { conn with
            process := conn.process.stirred turns unread leaves } := by
        unfold Client.stirred
        rw [hConn]
        rfl
      refine ⟨h.former, fun conn' hConn' => ⟨calls, hSub, ?_⟩,
        h.numbered_same ?_, fun hNot => ?_⟩
      · obtain rfl := Option.some.inj (hStirred.symm.trans hConn')
        exact ⟨hSaid.heard, fun hAlive =>
          hSaid.alive (Bool.or_eq_false_iff.mp hAlive).1, hSaid.numbered⟩
      · rw [processes_of_connected hStirred, processes_of_connected hConn,
          List.map_append, List.map_append]
        rfl
      · exact Bool.noConfusion ((h.enabled_of_connected hConn).symm.trans hNot)

/-- Every event keeps the order of messages. -/
theorem after (h : Orderly called c) (e : Event) :
    Orderly (called ++ e.call?.toList) (c.after e) := by
  cases e with
  | start turns =>
      rw [show (Event.start turns).call?.toList = [] from rfl, List.append_nil]
      exact h.start turns
  | execute name params => exact h.execute name params
  | stir turns unread leaves =>
      rw [show (Event.stir turns unread leaves).call?.toList = [] from rfl,
        List.append_nil]
      exact h.stirred turns unread leaves

theorem afterAll (h : Orderly called c) (events : List Event) :
    Orderly (called ++ events.filterMap Event.call?) (c.afterAll events) := by
  induction events generalizing called c with
  | nil =>
      rw [List.filterMap_nil, List.append_nil]
      exact h
  | cons e events ih =>
      rw [← List.singleton_append, List.filterMap_append, ← List.append_assoc]
      have hCalls : [e].filterMap Event.call? = e.call?.toList := by
        cases hCall : e.call? <;> simp [hCall]
      rw [hCalls]
      exact ih (h.after e)

end Orderly

/-! ### Connections come from successful starts -/

theorem definition_after (c : Client) (e : Event) :
    (c.after e).definition = c.definition := by
  cases e with
  | start turns =>
      rcases start_cases turns c with hSame | ⟨-, hStart⟩
      · exact congrArg Client.definition hSame
      · show (c.start turns).client.definition = c.definition
        rw [hStart]
        rcases connect_cases turns c with hSame | ⟨conn, ms, -, -,
          ⟨-, hClient, -⟩ | ⟨-, hClient, -⟩⟩
        · rw [hSame]
        · rw [hClient]
        · rw [hClient]
          rfl
  | execute name params =>
      show (c.execute name params).client.definition = c.definition
      rcases execute_cases name params c with
          ⟨hSame, -⟩ | ⟨conn, hConn, hOffered⟩
      · rw [hSame]
      · rcases execute_of_offered hConn hOffered params
          with ⟨hClient, -⟩ | ⟨hClient, -⟩
        · rw [hClient]
        · rw [hClient]
  | stir turns unread leaves => rfl

theorem definition_afterAll (c : Client) (events : List Event) :
    (c.afterAll events).definition = c.definition := by
  induction events generalizing c with
  | nil => rfl
  | cons e events ih => exact (ih (c.after e)).trans (definition_after c e)

/-- With a start that connects a client there is a new server. -/
theorem start_of_unconnected {c : Client} (hNone : c.connection = none)
    {turns : Option (List Turn)}
    (hConnected : (c.start turns).client.connection ≠ none) :
    (c.start turns).result = .ok () ∧ ∃ conn,
      (c.start turns).client.connection = some conn ∧
      conn.process.number = c.processes.length := by
  rcases start_cases turns c with hSame | ⟨-, hStart⟩
  · rw [hSame] at hConnected
    exact absurd hNone hConnected
  · rw [hStart] at hConnected ⊢
    rcases connect_cases turns c with
      hSame | ⟨conn, ms, -, hNumber, ⟨-, hClient, -⟩ | ⟨-, hClient, hOk⟩⟩
    · rw [hSame] at hConnected
      exact absurd hNone hConnected
    · rw [hClient] at hConnected
      exact absurd hNone hConnected
    · rw [hClient]
      exact ⟨hOk, conn, rfl, hNumber⟩

/-- A client without a connection gets one by a successful start, and by
nothing else. -/
theorem exists_start_of_connected {c : Client} (hNone : c.connection = none)
    {events : List Event} (hConnected : (c.afterAll events).connection ≠ none) :
    ∃ before turns rest, events = before ++ .start turns :: rest ∧
      (c.afterAll before).connection = none ∧
      ((c.afterAll before).start turns).result = .ok () ∧
      ∃ conn, ((c.afterAll before).start turns).client.connection = some conn ∧
        conn.process.number = (c.afterAll before).processes.length := by
  induction events generalizing c with
  | nil => exact absurd hNone hConnected
  | cons e rest ih =>
      by_cases hStill : (c.after e).connection = none
      · obtain ⟨before, turns, rest', rfl, hBefore⟩ := ih hStill hConnected
        exact ⟨e :: before, turns, rest', rfl, hBefore⟩
      · cases e with
        | start turns =>
            exact ⟨[], turns, rest, rfl, hNone,
              start_of_unconnected hNone hStill⟩
        | execute name params =>
            obtain ⟨t, hExecute⟩ := execute_of_unconnected hNone name params
            refine absurd ?_ hStill
            show (c.execute name params).client.connection = none
            rw [hExecute]
            exact hNone
        | stir turns unread leaves =>
            refine absurd ?_ hStill
            show c.connection.map _ = none
            rw [hNone]
            rfl

/-! ### What is said, and when nothing is -/

/-- **Servers are told the opening and then the calls, numbered on, and nothing
out of place.** For every definition and every list of events, whatever the
servers do:

* a client that is switched off has no servers, and nothing can be done with it;
* what a server was told is the beginning of an exchange of some of the calls
  in their order, with request numbers that increase, and no two servers have
  the same number;
* with a connection to a running server, a start does nothing, and a call of a
  tool that is offered is the next message of the exchange; a tool that is not
  offered is refused and nothing is sent;
* without a connection a call fails and nothing is sent;
* after a call that timed out there is no connection, until a start succeeds,
  which comes with a server that was not there before. -/
theorem exchange_account (d : Definition) (events : List Event) :
    let c := (ofDefinition d).afterAll events
    (d.enabled = false → c.processes = [] ∧
        (∀ turns, ∃ t, c.start turns = ⟨.error t, c, 0⟩) ∧
        ∀ name params, ∃ t, c.execute name params = ⟨.error t, c, 0⟩) ∧
      (∀ p ∈ c.processes, ∃ calls ms,
        calls.Sublist (events.filterMap Event.call?) ∧
        ms <+: exchange calls ∧ p.received = ms.map Message.line ∧
        (ms.filterMap Message.id).Pairwise (· < ·)) ∧
      (c.processes.map Process.number).Nodup ∧
      (∀ conn, c.connection = some conn →
        (conn.process.ended = false →
          (∀ turns, c.start turns = ⟨.ok (), c, 0⟩) ∧
          ∃ calls, conn.process.received = (exchange calls).map Message.line ∧
            ∀ name params, conn.lacks name = false →
              ∃ p ∈ (c.execute name params).client.processes,
                p.number = conn.process.number ∧
                p.received = (exchange (calls ++ [(name, params)])).map
                  Message.line) ∧
        ∀ name params, conn.tools ≠ [] → name ∉ conn.tools →
          ∃ r, c.execute name params = ⟨.ok r, c, 0⟩ ∧ r.success = false) ∧
      (c.connection = none → ∀ name params, ∃ t,
        c.execute name params = ⟨.error t, c, 0⟩) ∧
      ∀ name params, 0 < (c.execute name params).timeouts →
        (∃ t, (c.execute name params).result = .error t) ∧
          (c.execute name params).client.connection = none ∧
          ∀ later, ((c.execute name params).client.afterAll later).connection ≠
            none →
            ∃ before turns rest, later = before ++ .start turns :: rest ∧
              let c' := (c.execute name params).client.afterAll before
              c'.connection = none ∧ (c'.start turns).result = .ok () ∧
                ∃ conn, (c'.start turns).client.connection = some conn ∧
                  ∀ p ∈ c'.processes, p.number ≠ conn.process.number := by
  intro c
  have hOrderly : Orderly (events.filterMap Event.call?) c :=
    (Orderly.ofDefinition d).afterAll events
  have hDefinition : c.definition = d :=
    definition_afterAll (ofDefinition d) events
  refine ⟨fun hDisabled => ?_, fun p hp => ?_,
    hOrderly.numbered.nodup_iff.mpr List.nodup_range,
    fun conn hConn => ⟨fun hAlive => ⟨?_, ?_⟩,
      fun name params hTools hName => ?_⟩, execute_of_unconnected,
    fun name params hLate => ?_⟩
  · rw [← hDefinition] at hDisabled
    have hNone : c.connection = none := by
      cases hConn : c.connection with
      | none => rfl
      | some conn =>
          exact Bool.noConfusion
            ((hOrderly.enabled_of_connected hConn).symm.trans hDisabled)
    exact ⟨hOrderly.disabled hDisabled, start_of_disabled hDisabled,
      execute_of_unconnected hNone⟩
  · obtain ⟨calls, ms, hSub, hMs, hReceived⟩ := hOrderly.heard p hp
    exact ⟨calls, ms, hSub, hMs, hReceived, ids_increase hMs⟩
  · exact start_of_alive (hOrderly.enabled_of_connected hConn) hConn hAlive
  · obtain ⟨calls, -, hSaid⟩ := hOrderly.current conn hConn
    refine ⟨calls, hSaid.alive hAlive, fun name params hOffered => ?_⟩
    refine ⟨(conn.afterCall (name, params)).process, ?_,
      Connection.number_request _ _ conn,
      hSaid.received_afterCall hAlive (name, params)⟩
    rcases execute_of_offered hConn hOffered params
      with ⟨hClient, -⟩ | ⟨hClient, -⟩
    · rw [hClient, processes_of_connected rfl]
      exact List.mem_append_right _ List.mem_cons_self
    · rw [hClient, processes_of_unconnected rfl]
      exact List.mem_append_right _ List.mem_cons_self
  · have hLacks : conn.lacks name = true := by
      simp [Connection.lacks, hTools, hName]
    exact execute_of_lacks hConn hLacks params
  · rcases execute_cases name params c with
        ⟨-, hNever⟩ | ⟨conn, hConn, hOffered⟩
    · exact absurd hNever (Nat.ne_of_gt hLate)
    rcases execute_of_offered hConn hOffered params
      with ⟨-, hNever⟩ | ⟨hClient, hFailed⟩
    · exact absurd hNever (Nat.ne_of_gt hLate)
    have hNone : (c.execute name params).client.connection = none := by
      rw [hClient]
    refine ⟨hFailed, hNone, fun later hConnected => ?_⟩
    obtain ⟨before, turns, rest, hLater, hStill, hOk, conn', hConn', hNumber⟩ :=
      exists_start_of_connected hNone hConnected
    refine ⟨before, turns, rest, hLater, hStill, hOk, conn', hConn',
      fun p hp => ?_⟩
    have hNumbered := ((hOrderly.execute name params).afterAll before).numbered
    have hMem := hNumbered.subset (List.mem_map_of_mem hp)
    rw [hNumber]
    exact Nat.ne_of_lt (List.mem_range.mp hMem)

-- A server that replies to the first request only is told the opening and the
-- call, and is left then.
example :
    let c := (ofDefinition ⟨"tools", "serve", [], [], true, 5⟩).afterAll
      [.start (some [.send ["\x7b\"id\":1\x7d"]]), .execute "find" .null]
    c.connection = none ∧
      c.processes.map (fun p => p.received.length) = [4] := by
  decide +kernel

end Client

end Errand.ToolServer
