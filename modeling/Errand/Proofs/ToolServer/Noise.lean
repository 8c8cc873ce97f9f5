import Errand.Proofs.ToolServer.Exchange
import Errand.Proofs.ToolServer.Replies

/-!
# Noise between the replies

Servers write more than replies: empty lines, lines of a log, notices, and
replies that come too late. This file compares two lives of a client that
differ in such lines only. In the one, lines were put into the output of the
servers, anywhere and any number of them; in the other they are missing. If
each of these lines, at the time it is read, is noise for the request that
waits for its reply, then all starts and calls have the same results in both
lives, and the servers are told the same.

Whether a line is noise depends on the request that is waiting when the line is
read, and that may be a later one than the request it was sent after. So the
lines are marked, and the marks are followed through the life with all of the
lines: `Feed` is what a connected server has sent and is going to send, and
`Feed.readBy` says which lines a request reads. What carries the proof is
`Alike`, which holds of the two clients at first and is preserved by every
event.

## Main results

* `noise_iff`: noise for a request is what does not carry its number.
* `Connection.request_fed`: a request has the same outcome with the noise and
  without it.
* `Alike.after`: the two lives go on alike with every event.
* `answers_without_noise`: noise changes nothing, and every request has the
  reply that carries its number.
* `array_changes_answer`: an array is not always noise.
-/

namespace Errand.ToolServer

open Json

/-! ## Noise -/

/-- The line is noise for the request with this number. -/
inductive Noise (id : Nat) (line : String) : Prop where
  | blank (h : Text.trim line = "")
  | notJson (h : ∀ t : Tree, ¬ t.SpelledBy (Text.trim line))
  /-- It has not the shape of a reply. -/
  | noReply (h : Reply.ofLine? line = none)
  | unnumbered {r : Reply} (hReply : Reply.ofLine? line = some r)
      (hNone : r.id = none)
  | numbered {r : Reply} {other : Nat} (hReply : Reply.ofLine? line = some r)
      (hNumber : r.id = some other) (hOther : other ≠ id)

theorem ofLine?_of_notJson {line : String}
    (h : ∀ t : Tree, ¬ t.SpelledBy (Text.trim line)) :
    Reply.ofLine? line = none := by
  cases hReply : Reply.ofLine? line with
  | none => rfl
  | some r =>
      obtain ⟨members, hResponse⟩ := Reply.exists_response hReply
      obtain ⟨t, hSpelled, -⟩ := hResponse.spelled
      exact absurd hSpelled (h t)

theorem notJson_of_blank {line : String} (h : Text.trim line = "") (t : Tree) :
    ¬ t.SpelledBy (Text.trim line) := by
  intro hSpelled
  have hFaulty : Faulty (events (Text.trim line).toList) := by
    rw [h]
    exact ⟨.cutShort, by decide +kernel⟩
  exact hSpelled.not_faulty hFaulty

/-- **Noise for a request is what does not carry its number.** -/
theorem noise_iff {id : Nat} {line : String} : Noise id line ↔
    ¬ Carries id line := by
  constructor
  · intro hNoise hCarries
    obtain ⟨r, hReply, hId⟩ := hCarries
    cases hNoise with
    | blank h =>
        cases hReply.symm.trans (ofLine?_of_notJson (notJson_of_blank h))
    | notJson h => cases hReply.symm.trans (ofLine?_of_notJson h)
    | noReply h => cases hReply.symm.trans h
    | unnumbered hReply' hNone =>
        obtain rfl := Option.some.inj (hReply.symm.trans hReply')
        cases hId.symm.trans hNone
    | numbered hReply' hNumber hOther =>
        obtain rfl := Option.some.inj (hReply.symm.trans hReply')
        exact hOther (Option.some.inj (hNumber.symm.trans hId))
  · intro hNot
    cases hReply : Reply.ofLine? line with
    | none => exact .noReply hReply
    | some r =>
        cases hId : r.id with
        | none => exact .unnumbered hReply hId
        | some other =>
            refine .numbered hReply hId ?_
            rintro rfl
            exact hNot ⟨r, hReply, hId⟩

instance (id : Nat) (line : String) : Decidable (Noise id line) :=
  decidable_of_iff _ noise_iff.symm

/-! ## Lines that were put in -/

/-- A line of a server, with the mark whether it was put in. -/
structure MarkedLine where
  text : String
  inserted : Bool

/-- The lines, with those that were put in or without them. -/
def linesOf (noise : Bool) (lines : List MarkedLine) : List String :=
  (lines.filter fun l => noise || !l.inserted).map MarkedLine.text

theorem linesOf_cons (noise : Bool) (l : MarkedLine) (lines : List MarkedLine) :
    linesOf noise (l :: lines) =
      if noise || !l.inserted then l.text :: linesOf noise lines
      else linesOf noise lines := by
  unfold linesOf
  rw [List.filter_cons]
  split <;> rfl

theorem linesOf_append (noise : Bool) (first second : List MarkedLine) :
    linesOf noise (first ++ second) =
      linesOf noise first ++ linesOf noise second := by
  unfold linesOf
  rw [List.filter_append, List.map_append]

/-- What a server does about a request, its lines marked. -/
inductive MarkedTurn where
  | send (lines : List MarkedLine)
  | leave

/-- The turn with the lines that were put in, or without them. -/
def MarkedTurn.turn (noise : Bool) : MarkedTurn → Turn
  | .send lines => .send (linesOf noise lines)
  | .leave => .leave

/-- What a new server does, if there can be one, with the lines that were put
in or without them. -/
def turnsOf (noise : Bool) (turns : Option (List MarkedTurn)) :
    Option (List Turn) :=
  turns.map fun turns => turns.map (MarkedTurn.turn noise)

/-- What can be read from a server and what it is going to do, with marks. -/
structure Feed where
  turns : List MarkedTurn
  unread : List MarkedLine

namespace Feed

/-- What can be read when the next request has been sent. -/
def pile (f : Feed) : List MarkedLine :=
  match f.turns with
  | .send lines :: _ => f.unread ++ lines
  | _ => f.unread

/-- The lines that a request reads: those up to the first that carries its
number. -/
def readBy (id : Nat) : List MarkedLine → List MarkedLine
  | [] => []
  | l :: lines => if Carries id l.text then [l] else l :: readBy id lines

/-- The lines that a request leaves. -/
def leftBy (id : Nat) : List MarkedLine → List MarkedLine
  | [] => []
  | l :: lines => if Carries id l.text then lines else leftBy id lines

/-- What there is when the request with this number has been answered. -/
def after (f : Feed) (id : Nat) : Feed := ⟨f.turns.tail, leftBy id f.pile⟩

/-- Of the lines that the request reads, those that were put in are noise for
it. -/
def Quiet (isNoise : Nat → String → Prop) (id : Nat) (f : Feed) : Prop :=
  ∀ l ∈ readBy id f.pile, l.inserted = true → isNoise id l.text

/-- The same of several requests, one after the other. -/
def QuietFor (isNoise : Nat → String → Prop) : List Nat → Feed → Prop
  | [], _ => True
  | id :: ids, f => f.Quiet isNoise id ∧ QuietFor isNoise ids (f.after id)

instance decidableQuietFor (isNoise : Nat → String → Prop)
    [∀ id line, Decidable (isNoise id line)] :
    ∀ ids f, Decidable (QuietFor isNoise ids f)
  | [], _ => isTrue trivial
  | id :: ids, f =>
      haveI := decidableQuietFor isNoise ids (f.after id)
      inferInstanceAs (Decidable
          ((∀ l ∈ readBy id f.pile, l.inserted = true → isNoise id l.text) ∧ _))

/-- **A request finds the same reply with the noise and without it**, and
leaves the same behind. The induction is on the lines. -/
theorem firstReply_linesOf {id : Nat} {lines : List MarkedLine}
    (h : ∀ l ∈ readBy id lines, l.inserted = true → Noise id l.text) :
    (∀ noise, Connection.firstReply id (linesOf noise lines) = none) ∧
    leftBy id lines = [] ∨
      ∃ r, ∀ noise, Connection.firstReply id (linesOf noise lines) =
        some (r, linesOf noise (leftBy id lines)) := by
  induction lines with
  | nil => exact .inl ⟨fun _ => rfl, rfl⟩
  | cons l lines ih =>
      by_cases hCarries : Carries id l.text
      · have hGenuine : l.inserted = false := by
          refine Bool.eq_false_iff.mpr fun hInserted => ?_
          have hNoise := h l (by simp [readBy, hCarries]) hInserted
          exact noise_iff.mp hNoise hCarries
        obtain ⟨r, hReply, hId⟩ := hCarries
        refine .inr ⟨r, fun noise => ?_⟩
        have hLines : linesOf noise (l :: lines) =
              l.text :: linesOf noise lines := by
          simp [linesOf_cons, hGenuine]
        have hLeft : leftBy id (l :: lines) = lines := if_pos ⟨r, hReply, hId⟩
        rw [hLines, hLeft, Connection.firstReply_of_carries hReply hId]
      · have hRead : readBy id (l :: lines) = l :: readBy id lines :=
          if_neg hCarries
        have hLeft : leftBy id (l :: lines) = leftBy id lines := if_neg hCarries
        have hSkip : ∀ noise, Connection.firstReply id
              (linesOf noise (l :: lines)) =
            Connection.firstReply id (linesOf noise lines) := by
          intro noise
          rw [linesOf_cons]
          split
          · exact Connection.firstReply_cons hCarries _
          · rfl
        rw [hRead] at h
        rw [hLeft]
        rcases ih (List.forall_mem_cons.mp h).2
          with ⟨hNone, hNothing⟩ | ⟨r, hSome⟩
        · exact .inl ⟨fun noise => (hSkip noise).trans (hNone noise), hNothing⟩
        · exact .inr ⟨r, fun noise => (hSkip noise).trans (hSome noise)⟩

end Feed

/-! ## Connections -/

/-- The process with what it has sent and is going to send, the lines that were
put in among it or not. -/
def Process.fed (noise : Bool) (f : Feed) (p : Process) : Process :=
  { p with
    turns := f.turns.map (MarkedTurn.turn noise)
    unread := linesOf noise f.unread }

namespace Connection

/-- The connection to such a process. -/
def fed (noise : Bool) (f : Feed) (c : Connection) : Connection :=
  { c with process := c.process.fed noise f }

/-- A request is sent in the same way. -/
theorem asking_fed (method : String) (params : Option Json) (f : Feed)
    (c : Connection) :
    ∃ asked : Connection, asked.lastId = c.lastId + 1 ∧ ∀ noise,
      (c.fed noise f).asking method params =
        asked.fed noise ⟨f.turns.tail, f.pile⟩ := by
  let told :=
    c.process.received ++ [Message.line ⟨some (c.lastId + 1), method, params⟩]
  obtain ⟨turns, unread⟩ := f
  rcases turns with _ | ⟨lines | _, turns⟩
  · exact ⟨⟨{ c.process with received := told }, c.lastId + 1, c.tools⟩, rfl,
      fun noise => rfl⟩
  · refine ⟨⟨{ c.process with received := told }, c.lastId + 1, c.tools⟩, rfl,
      fun noise => ?_⟩
    simp only [asking, fed, Process.fed, Process.hear, Feed.pile, List.map_cons,
      MarkedTurn.turn, linesOf_append, List.tail_cons]
    rfl
  · exact ⟨⟨{ c.process with received := told, ended := true }, c.lastId + 1,
        c.tools⟩, rfl, fun noise => rfl⟩

/-- A request to a running server has the same outcome with the noise and
without it. -/
theorem request_fed_of_alive (method : String) (params : Option Json) {f : Feed}
    {c : Connection} (hAlive : c.process.ended = false)
    (h : f.Quiet Noise (c.lastId + 1)) :
    ∃ (outcome : Except Fault Json) (c' : Connection),
    c'.lastId = c.lastId + 1 ∧ ∀ noise,
      (c.fed noise f).request method params =
        (outcome, c'.fed noise (f.after (c.lastId + 1))) := by
  obtain ⟨asked, hId, hAsked⟩ := asking_fed method params f c
  have hStill : ∀ noise, (c.fed noise f).process.ended = false :=
    fun _ => hAlive
  have hNumber : ∀ noise, (c.fed noise f).lastId = c.lastId := fun _ => rfl
  rcases Feed.firstReply_linesOf h with ⟨hNone, hNothing⟩ | ⟨r, hSome⟩
  · refine ⟨.error (if asked.process.ended then .closed else .timedOut), asked,
      hId, fun noise => ?_⟩
    have hFirst : firstReply (c.lastId + 1)
        (asked.fed noise ⟨f.turns.tail, f.pile⟩).process.unread = none :=
      hNone noise
    have hLeft : (asked.fed noise ⟨f.turns.tail, f.pile⟩).leaving [] =
        asked.fed noise (f.after (c.lastId + 1)) := by
      unfold Feed.after
      rw [hNothing]
      rfl
    rw [request_of_alive (hStill noise), hAsked noise]
    simp only [hNumber noise, hFirst, hLeft]
    rfl
  · refine ⟨outcomeOf r, asked, hId, fun noise => ?_⟩
    have hFirst : firstReply (c.lastId + 1)
        (asked.fed noise ⟨f.turns.tail, f.pile⟩).process.unread =
          some (r, linesOf noise (Feed.leftBy (c.lastId + 1) f.pile)) :=
      hSome noise
    rw [request_of_alive (hStill noise), hAsked noise]
    simp only [hNumber noise, hFirst]
    rfl

/-- **A request has the same outcome with the noise and without it.** -/
theorem request_fed (method : String) (params : Option Json) {f : Feed}
    {c : Connection}
    (h : c.process.ended = false → f.Quiet Noise (c.lastId + 1)) :
    ∃ (outcome : Except Fault Json) (c' : Connection), ∀ noise,
      (c.fed noise f).request method params =
        (outcome, c'.fed noise
          (if c.process.ended then f else f.after (c.lastId + 1))) := by
  cases hEnded : c.process.ended with
  | true =>
      refine ⟨.error .broken, { c with lastId := c.lastId + 1 },
        fun noise => ?_⟩
      have hStill : (c.fed noise f).process.ended = true := hEnded
      rw [request_of_ended hStill]
      rfl
  | false =>
      obtain ⟨outcome, c', -, hRequest⟩ :=
        request_fed_of_alive method params hEnded (h hEnded)
      exact ⟨outcome, c', hRequest⟩

/-- A notice reads nothing. -/
theorem notice_fed (method : String) (params : Option Json) (f : Feed)
    {c : Connection} (hAlive : c.process.ended = false) :
    ∃ told : Connection, told.lastId = c.lastId ∧
    told.process.ended = false ∧ ∀ noise,
      (c.fed noise f).send? ⟨none, method, params⟩ =
        some (told.fed noise f) := by
  let received := c.process.received ++ [Message.line ⟨none, method, params⟩]
  refine ⟨{ c with process := { c.process with received } }, rfl, hAlive,
    fun noise => ?_⟩
  exact if_neg (Bool.eq_false_iff.mp hAlive)

theorem listTools_fed {f : Feed} {c : Connection}
    (hAlive : c.process.ended = false) (h : f.Quiet Noise (c.lastId + 1)) :
    ∃ (c' : Connection) (late : Bool), ∀ noise,
      (c.fed noise f).listTools =
        (c'.fed noise (f.after (c.lastId + 1)), late) := by
  obtain ⟨listed, c', -, hRequest⟩ :=
    request_fed_of_alive "tools/list" none hAlive h
  cases listed with
  | ok listed =>
      refine ⟨{ c' with tools := toolNames listed }, false, fun noise => ?_⟩
      unfold listTools
      rw [hRequest noise]
      rfl
  | error fault =>
      refine ⟨c', decide (fault = .timedOut), fun noise => ?_⟩
      unfold listTools
      rw [hRequest noise]

end Connection

/-- The numbers of the requests that the opening of a connection to the process
makes. -/
def Process.opening (p : Process) : List Nat :=
  match (Connection.ofProcess p).request "initialize" (some greeting) with
  | (.ok _, c) => if c.process.ended then [1] else [1, 2]
  | (.error _, _) => [1]

theorem Process.opening_eq_cons (p : Process) :
    ∃ later, p.opening = 1 :: later := by
  unfold Process.opening
  split
  · split
    · exact ⟨[], rfl⟩
    · exact ⟨[2], rfl⟩
  · exact ⟨[], rfl⟩

/-- What there is when several requests have been answered. -/
def Feed.afterAll (f : Feed) (ids : List Nat) : Feed := ids.foldl Feed.after f

namespace Connection

/-- **The opening of a connection comes to the same with the noise and without
it.** -/
theorem handshake_fed {p : Process} (hAlive : p.ended = false) {f : Feed}
    (h : f.QuietFor Noise (p.fed true f).opening) :
    ∃ trouble c f' late, (trouble = none →
      f' = f.afterAll (p.fed true f).opening) ∧ ∀ noise,
      (ofProcess (p.fed noise f)).handshake =
        (trouble, fed noise f' c, late) := by
  have hFirst : f.Quiet Noise 1 := by
    obtain ⟨later, hOpening⟩ := (p.fed true f).opening_eq_cons
    rw [hOpening] at h
    exact h.1
  obtain ⟨outcome, c₁, hId, hReply⟩ :=
    request_fed_of_alive "initialize" (some greeting)
      (c := ofProcess p) hAlive hFirst
  cases outcome with
  | error fault =>
      refine ⟨some (fault.trouble "MCP initialize timed out"), c₁, f.after 1,
        if fault = .timedOut then 1 else 0, nofun, fun noise => ?_⟩
      have hFailed : (ofProcess (p.fed noise f)).request "initialize"
            (some greeting) =
          (.error fault, c₁.fed noise (f.after 1)) := hReply noise
      simp only [handshake, hFailed]
  | ok result =>
      have hGreeted : ∀ noise, (ofProcess (p.fed noise f)).request "initialize"
            (some greeting) =
          (.ok result, c₁.fed noise (f.after 1)) := hReply
      cases hEnded : c₁.process.ended with
      | true =>
          refine ⟨some (Fault.broken.trouble ""), c₁, f.after 1, 0, nofun,
            fun noise => ?_⟩
          have hSend : (c₁.fed noise (f.after 1)).send? ⟨none,
              "notifications/initialized", none⟩ =
              none := if_pos hEnded
          simp only [handshake, hGreeted noise, hSend]
      | false =>
          obtain ⟨told, hTold, hAlive', hSend⟩ :=
            notice_fed "notifications/initialized" none (f.after 1) hEnded
          have hSecondId : told.lastId + 1 = 2 :=
            congrArg Nat.succ (hTold.trans hId)
          have hBoth : (p.fed true f).opening = [1, 2] := by
            unfold Process.opening
            rw [hGreeted true]
            exact if_neg (Bool.eq_false_iff.mp hEnded)
          have hSecond : (f.after 1).Quiet Noise (told.lastId + 1) := by
            rw [hBoth] at h
            rw [hSecondId]
            exact h.2.1
          obtain ⟨c₂, late, hTools⟩ := listTools_fed hAlive' hSecond
          rw [hSecondId] at hTools
          rw [hBoth]
          refine ⟨none, c₂, (f.after 1).after 2, if late then 1 else 0,
            fun _ => rfl, fun noise => ?_⟩
          simp only [handshake, hGreeted noise, hSend noise, hTools noise]

end Connection

/-! ## Clients -/

/-- Something that happens to a client, the lines of the servers marked. -/
inductive MarkedEvent where
  | start (turns : Option (List MarkedTurn))
  | execute (name : String) (params : Json)
  | stir (turns : List MarkedTurn) (unread : List MarkedLine) (leaves : Bool)

namespace MarkedEvent

/-- The event with the lines that were put in, or without them. -/
def event (noise : Bool) : MarkedEvent → Event
  | .start turns => .start (turnsOf noise turns)
  | .execute name params => .execute name params
  | .stir turns unread leaves =>
      .stir (turns.map (MarkedTurn.turn noise)) (linesOf noise unread) leaves

/-- Where the requests of an event are read: from a new server, or from the one
that is connected. -/
def source (f : Feed) : MarkedEvent → Feed
  | .start turns => ⟨turns.getD [], []⟩
  | .execute _ _ | .stir _ _ _ => f

end MarkedEvent

namespace Client

/-- What comes of an event: of a start whether there is a connection, of a call
the response. -/
def answer (c : Client) :
    Event → Option (Except Trouble (Option ServiceResponse))
  | .start turns => some ((c.start turns).result.map fun _ => none)
  | .execute name params => some ((c.execute name params).result.map some)
  | .stir _ _ _ => none

/-- What comes of each event of a list. -/
def answers (c : Client) :
    List Event → List (Option (Except Trouble (Option ServiceResponse)))
  | [] => []
  | e :: events => c.answer e :: (c.after e).answers events

/-- A start makes a new connection. -/
def connects (c : Client) : Bool :=
  c.definition.enabled && c.connection.all (·.process.ended)

/-- The numbers of the requests that an event makes and that find a server to
answer them. -/
def requests (c : Client) : Event → List Nat
  | .start (some turns) =>
      if c.connects then
        Process.opening ⟨c.processes.length, turns, [], false, []⟩
      else []
  | .execute name _ =>
      match c.connection with
      | some conn =>
        if conn.lacks name || conn.process.ended then [] else [conn.lastId + 1]
      | none => []
  | .start none | .stir _ _ _ => []

/-- What the connected server has sent and is going to send after an event,
told by what happens with all of the lines. -/
def feedAfter (c : Client) (f : Feed) (e : MarkedEvent) : Feed :=
  match e with
  | .start turns =>
      if c.connects && (c.start (turnsOf true turns)).result.toBool then
        (e.source f).afterAll (c.requests (e.event true))
      else f
  | .execute _ _ => f.afterAll (c.requests (e.event true))
  | .stir turns unread _ => ⟨turns, unread⟩

/-- In this life, with all of the lines, those that were put in are noise for
the request that reads them. -/
def QuietAlong (isNoise : Nat → String → Prop) :
    Client → Feed → List MarkedEvent → Prop
  | _, _, [] => True
  | c, f, e :: events =>
      (e.source f).QuietFor isNoise (c.requests (e.event true)) ∧
        QuietAlong isNoise (c.after (e.event true)) (c.feedAfter f e) events

instance decidableQuietAlong (isNoise : Nat → String → Prop)
    [∀ id line, Decidable (isNoise id line)] :
    ∀ c f events, Decidable (QuietAlong isNoise c f events)
  | _, _, [] => isTrue trivial
  | c, f, e :: events =>
      haveI :=
        decidableQuietAlong isNoise (c.after (e.event true))
          (c.feedAfter f e) events
      inferInstanceAs (Decidable (_ ∧ _))

/-- A start, told by whether it makes a new connection. -/
theorem start_eq (c : Client) (turns : Option (List Turn)) :
    c.start turns =
      if c.connects then c.connect turns
      else
        ⟨if c.definition.enabled then .ok ()
          else .error
            (.plain ("action service '" ++ c.definition.name ++
              "' is disabled")),
          c, 0⟩ := by
  unfold start connects
  cases c.definition.enabled with
  | false => rfl
  | true =>
      cases c.connection with
      | none => rfl
      | some conn => cases hEnded : conn.process.ended <;> simp [hEnded]

/-- A call that times out drops its connection. -/
theorem execute_of_late {c : Client} {conn conn' : Connection} {name : String}
    {params : Json} (hConn : c.connection = some conn)
    (hLacks : conn.lacks name = false)
    (hRequest : conn.request "tools/call"
      (some (.obj [("arguments", params), ("name", .str name)])) =
      (.error .timedOut, conn')) :
    c.execute name params = ⟨.error
      (.plain ("MCP call '" ++ name ++ "' timed out")),
      { c with connection := none, former := c.former ++ [conn'.process] },
      1⟩ := by
  simp only [execute, hConn, hLacks, Bool.false_eq_true, if_false, hRequest]

/-- Any other call that is made keeps its connection, and the outcome of its
request says what comes of it. -/
theorem execute_of_answered (name : String) (params : Json)
    {outcome : Except Fault Json} (h : outcome ≠ .error .timedOut) :
    ∃ r, ∀ {c : Client} {conn conn' : Connection}, c.connection = some conn →
      conn.lacks name = false →
      conn.request "tools/call"
        (some (.obj [("arguments", params), ("name", .str name)])) =
        (outcome, conn') →
      c.execute name params = ⟨r, { c with connection := some conn' }, 0⟩ := by
  cases outcome with
  | ok result =>
      refine ⟨.ok (.ofToolResult result), ?_⟩
      intro c conn conn' hConn hLacks hRequest
      simp only [execute, hConn, hLacks, Bool.false_eq_true, if_false, hRequest]
  | error fault =>
      refine ⟨.error (fault.trouble ""), ?_⟩
      intro c conn conn' hConn hLacks hRequest
      have hInTime : fault ≠ .timedOut := fun hSame =>
        h (congrArg Except.error hSame)
      simp only [execute, hConn, hLacks, Bool.false_eq_true, if_false, hRequest]

end Client

/-! ## Clients that are alike -/

/-- The process without what it sends. -/
def Process.bare (p : Process) : Process := { p with turns := [], unread := [] }

/-- Two clients that differ only in lines that were put in: `c true` is the one
with these lines. -/
structure Alike (f : Feed) (c : Bool → Client) : Prop where
  definition : ∀ noise, (c noise).definition = (c true).definition
  former : ∀ noise, (c noise).former.map Process.bare =
    (c true).former.map Process.bare
  connection : (∀ noise, (c noise).connection = none) ∨
    ∃ conn : Connection, ∀ noise, (c noise).connection = some (conn.fed noise f)

namespace Alike

open Client

variable {f : Feed} {c : Bool → Client}

theorem processes (h : Alike f c) (noise : Bool) :
    (c noise).processes.map Process.bare =
      (c true).processes.map Process.bare := by
  rcases h.connection with hNone | ⟨conn, hConn⟩
  · rw [processes_of_unconnected (hNone noise),
      processes_of_unconnected (hNone true)]
    exact h.former noise
  · rw [processes_of_connected (hConn noise),
      processes_of_connected (hConn true), List.map_append, List.map_append,
      h.former noise]
    rfl

theorem length_processes (h : Alike f c) (noise : Bool) :
    (c noise).processes.length = (c true).processes.length := by
  have hLength := congrArg List.length (h.processes noise)
  rwa [List.length_map, List.length_map] at hLength

theorem connects (h : Alike f c) (noise : Bool) :
    (c noise).connects = (c true).connects := by
  unfold Client.connects
  rw [h.definition noise]
  rcases h.connection with hNone | ⟨conn, hConn⟩
  · rw [hNone noise, hNone true]
  · rw [hConn noise, hConn true]
    rfl

/-- A process that was connected joins those of the past. -/
theorem former_concat (h : Alike f c) (conn : Connection) (f' : Feed)
    (noise : Bool) :
    ((c noise).former ++ [(conn.fed noise f').process]).map Process.bare =
      ((c true).former ++ [(conn.fed true f').process]).map Process.bare := by
  rw [List.map_append, List.map_append, h.former noise]
  rfl

/-- The connection went on in the same way. -/
theorem goOn (h : Alike f c) (conn : Connection) (f' : Feed) :
    Alike f' fun noise =>
      { c noise with connection := some (conn.fed noise f') } :=
  ⟨h.definition, h.former, .inr ⟨conn, fun _ => rfl⟩⟩

/-- The connection was dropped. -/
theorem drop (h : Alike f c) (conn : Connection) (f' f'' : Feed) :
    Alike f'' fun noise => { c noise with
      connection := none
      former := (c noise).former ++ [(conn.fed noise f').process] } :=
  ⟨h.definition, h.former_concat conn f', .inl fun _ => rfl⟩

/-- A new connection was made. -/
theorem connected (h : Alike f c) (conn : Connection) (f' : Feed) :
    Alike f' fun noise => (c noise).connected (conn.fed noise f') :=
  ⟨h.definition, h.processes, .inr ⟨conn, fun _ => rfl⟩⟩

/-- A new connection was tried in vain. -/
theorem rejected (h : Alike f c) (conn : Connection) (f' : Feed) :
    Alike f fun noise => { c noise with
      former := (c noise).former ++ [(conn.fed noise f').process] } :=
  ⟨h.definition, h.former_concat conn f', h.connection⟩

end Alike

/-- The event comes to the same with the noise and without it, and the clients
are alike after it. -/
structure Agrees (f' : Feed) (c : Bool → Client) (e : MarkedEvent) : Prop where
  answer : ∀ noise, (c noise).answer (e.event noise) =
    (c true).answer (e.event true)
  alike : Alike f' fun noise => (c noise).after (e.event noise)

namespace Agrees

variable {f' : Feed} {c c' : Bool → Client}

theorem of_execute {name : String} {params : Json}
    {r : Except Trouble ServiceResponse} {late : Nat} (h : Alike f' c')
    (hExecute : ∀ noise, (c noise).execute name params = ⟨r, c' noise, late⟩) :
    Agrees f' c (.execute name params) := by
  constructor
  · intro noise
    simp only [MarkedEvent.event, Client.answer, hExecute]
  · simp only [MarkedEvent.event, Client.after, hExecute]
    exact h

theorem of_start {turns : Option (List MarkedTurn)} {r : Except Trouble Unit}
    {late : Nat} (h : Alike f' c')
    (hStart : ∀ noise, (c noise).start (turnsOf noise turns) =
      ⟨r, c' noise, late⟩) : Agrees f' c (.start turns) := by
  constructor
  · intro noise
    simp only [MarkedEvent.event, Client.answer, hStart]
  · simp only [MarkedEvent.event, Client.after, hStart]
    exact h

end Agrees

namespace Alike

open Client

variable {f : Feed} {c : Bool → Client}

/-! ### Calls -/

/-- A call of a tool that is offered. -/
theorem execute_of_offered (h : Alike f c) {conn : Connection}
    (hConn : ∀ noise, (c noise).connection = some (conn.fed noise f))
    {name : String} (hLacks : conn.lacks name = false) {params : Json}
    (hQuiet : f.QuietFor Noise ((c true).requests (.execute name params))) :
    Agrees (f.afterAll ((c true).requests (.execute name params))) c
      (.execute name params) := by
  have hLacks' : (conn.fed true f).lacks name = false := hLacks
  have hRequests : (c true).requests (.execute name params) =
      if conn.process.ended then [] else [conn.lastId + 1] := by
    simp only [requests, hConn true, hLacks', Bool.false_or]
    rfl
  have hFeed : f.afterAll ((c true).requests (.execute name params)) =
      if conn.process.ended then f else f.after (conn.lastId + 1) := by
    rw [hRequests]
    split <;> rfl
  have hRead : conn.process.ended = false →
      f.Quiet Noise (conn.lastId + 1) := by
    intro hAlive
    rw [hRequests, hAlive] at hQuiet
    exact hQuiet.1
  obtain ⟨outcome, conn', hRequest⟩ := Connection.request_fed "tools/call"
    (some (.obj [("arguments", params), ("name", .str name)])) hRead
  rw [hFeed]
  generalize (if conn.process.ended then f else f.after (conn.lastId + 1)) =
    f' at hRequest ⊢
  by_cases hLate : outcome = .error .timedOut
  · subst hLate
    exact Agrees.of_execute (h.drop conn' f' f') fun noise =>
      execute_of_late (hConn noise) hLacks (hRequest noise)
  · obtain ⟨r, hAnswered⟩ := execute_of_answered name params hLate
    exact Agrees.of_execute (h.goOn conn' f') fun noise =>
      hAnswered (hConn noise) hLacks (hRequest noise)

/-- **A call comes to the same with the noise and without it.** -/
theorem execute (h : Alike f c) (name : String) (params : Json)
    (hQuiet : f.QuietFor Noise ((c true).requests (.execute name params))) :
    Agrees (f.afterAll ((c true).requests (.execute name params))) c
      (.execute name params) := by
  rcases h.connection with hNone | ⟨conn, hConn⟩
  · have hRequests : (c true).requests (.execute name params) = [] := by
      simp only [requests, hNone true]
    have hExecute : ∀ noise, (c noise).execute name params =
        ⟨.error (.plain "MCP server not connected"), c noise, 0⟩ := by
      intro noise
      simp only [Client.execute, hNone noise]
    rw [hRequests]
    exact Agrees.of_execute h hExecute
  · cases hLacks : conn.lacks name with
    | true =>
        have hLacks' : ∀ noise, (conn.fed noise f).lacks name = true :=
          fun _ => hLacks
        have hRequests : (c true).requests (.execute name params) = [] := by
          simp only [requests, hConn true, hLacks', Bool.true_or, if_true]
        have hExecute : ∀ noise, (c noise).execute name params =
            ⟨.ok (.refused ("tool '" ++ name ++ "' not offered by server")),
              c noise, 0⟩ := by
          intro noise
          simp only [Client.execute, hConn noise, hLacks', if_true]
        rw [hRequests]
        exact Agrees.of_execute h hExecute
    | false => exact h.execute_of_offered hConn hLacks hQuiet

/-! ### Starts -/

/-- A start that makes no connection. -/
theorem start_of_connects_eq_false (h : Alike f c)
    (turns : Option (List MarkedTurn)) (hConnects : (c true).connects = false) :
    Agrees ((c true).feedAfter f (.start turns)) c (.start turns) := by
  have hStart : ∀ noise, (c noise).start (turnsOf noise turns) =
      ⟨if (c true).definition.enabled then .ok () else .error (.plain
        ("action service '" ++ (c true).definition.name ++ "' is disabled")),
        c noise, 0⟩ := by
    intro noise
    rw [start_eq, h.connects noise, hConnects, h.definition noise]
    rfl
  have hFeed : (c true).feedAfter f (.start turns) = f := by
    simp only [feedAfter, hConnects, Bool.false_and,
      Bool.false_eq_true, if_false]
  rw [hFeed]
  exact Agrees.of_start h hStart

/-- After a start that fails the servers are those from before. -/
theorem feedAfter_of_failed {t : Trouble} {c' : Client} {late : Nat}
    {turns : Option (List MarkedTurn)}
    (hStart : (c true).start (turnsOf true turns) = ⟨.error t, c', late⟩) :
    (c true).feedAfter f (.start turns) = f := by
  simp only [feedAfter, hStart]
  exact if_neg (by simp [Except.toBool])

/-- A start when there can be no new server. -/
theorem start_none (h : Alike f c) (hConnects : (c true).connects = true) :
    Agrees ((c true).feedAfter f (.start none)) c (.start none) := by
  have hStart : ∀ noise, (c noise).start (turnsOf noise none) =
      ⟨.error ⟨"Failed to start MCP server: " ++ (c true).definition.command,
        ["No such file or directory (os error 2)"]⟩, c noise, 0⟩ := by
    intro noise
    rw [start_eq, h.connects noise, hConnects, if_pos rfl]
    simp only [turnsOf, Option.map_none, connect, h.definition noise]
  rw [feedAfter_of_failed (hStart true)]
  exact Agrees.of_start h hStart

/-- A start that makes a new server and opens a connection to it. -/
theorem start_some (h : Alike f c) (turns : List MarkedTurn)
    (hConnects : (c true).connects = true)
    (hQuiet : (Feed.mk turns []).QuietFor Noise
      ((c true).requests ((MarkedEvent.start (some turns)).event true))) :
    Agrees ((c true).feedAfter f (.start (some turns))) c
      (.start (some turns)) := by
  let p : Process := ⟨(c true).processes.length, [], [], false, []⟩
  have hOpening : (c true).requests
        ((MarkedEvent.start (some turns)).event true) =
      (p.fed true ⟨turns, []⟩).opening := by
    simp only [MarkedEvent.event, turnsOf, requests, hConnects,
      Option.map_some, if_true]
    rfl
  have hProcess : ∀ noise,
      (⟨(c noise).processes.length, turns.map (MarkedTurn.turn noise), [],
        false, []⟩ : Process) = p.fed noise ⟨turns, []⟩ := by
    intro noise
    rw [h.length_processes noise]
    rfl
  rw [hOpening] at hQuiet
  obtain ⟨trouble, conn, f', late, hDone, hHandshake⟩ :=
    Connection.handshake_fed (p := p) rfl hQuiet
  cases trouble with
  | none =>
      have hStart : ∀ noise, (c noise).start (turnsOf noise (some turns)) =
          ⟨.ok (), (c noise).connected (conn.fed noise f'), late⟩ := by
        intro noise
        rw [start_eq, h.connects noise, hConnects, if_pos rfl]
        simp only [turnsOf, Option.map_some, connect, hProcess noise,
          hHandshake noise]
      have hFeed : (c true).feedAfter f (.start (some turns)) = f' := by
        rw [hDone rfl, ← hOpening]
        simp only [feedAfter, hStart true, hConnects]
        rfl
      rw [hFeed]
      exact Agrees.of_start (h.connected conn f') hStart
  | some t =>
      have hStart : ∀ noise, (c noise).start (turnsOf noise (some turns)) =
          ⟨.error t, { c noise with
            former := (c noise).former ++ [(conn.fed noise f').process] },
              late⟩ := by
        intro noise
        rw [start_eq, h.connects noise, hConnects, if_pos rfl]
        simp only [turnsOf, Option.map_some, connect, hProcess noise,
          hHandshake noise]
      rw [feedAfter_of_failed (hStart true)]
      exact Agrees.of_start (h.rejected conn f') hStart

/-- **A start comes to the same with the noise and without it.** -/
theorem start (h : Alike f c) (turns : Option (List MarkedTurn))
    (hQuiet : ((MarkedEvent.start turns).source f).QuietFor Noise
      ((c true).requests ((MarkedEvent.start turns).event true))) :
    Agrees ((c true).feedAfter f (.start turns)) c (.start turns) := by
  cases hConnects : (c true).connects with
  | false => exact h.start_of_connects_eq_false turns hConnects
  | true =>
      cases turns with
      | none => exact h.start_none hConnects
      | some turns => exact h.start_some turns hConnects hQuiet

/-! ### Lives -/

/-- What a server does of its own accord has no answer. -/
theorem stir (h : Alike f c) (turns : List MarkedTurn)
    (unread : List MarkedLine) (leaves : Bool) :
    Alike ⟨turns, unread⟩ fun noise =>
      (c noise).after ((MarkedEvent.stir turns unread leaves).event noise) := by
  refine ⟨h.definition, h.former, ?_⟩
  rcases h.connection with hNone | ⟨conn, hConn⟩
  · refine .inl fun noise => ?_
    show (c noise).connection.map _ = none
    rw [hNone noise]
    rfl
  · let ended := conn.process.ended || leaves
    refine .inr ⟨{ conn with process := { conn.process with ended } },
      fun noise => ?_⟩
    show (c noise).connection.map _ = _
    rw [hConn noise]
    rfl

/-- **Every event comes to the same with the noise and without it**, and the
two lives go on alike. -/
theorem after (h : Alike f c) (e : MarkedEvent)
    (hQuiet : (e.source f).QuietFor Noise ((c true).requests (e.event true))) :
    Agrees ((c true).feedAfter f e) c e := by
  cases e with
  | start turns => exact h.start turns hQuiet
  | execute name params => exact h.execute name params hQuiet
  | stir turns unread leaves => exact ⟨fun _ => rfl, h.stir turns unread leaves⟩

theorem answers (h : Alike f c) {events : List MarkedEvent}
    (hQuiet : QuietAlong Noise (c true) f events) (noise : Bool) :
    (c noise).answers (events.map (MarkedEvent.event noise)) =
      (c true).answers (events.map (MarkedEvent.event true)) := by
  induction events generalizing f c with
  | nil => rfl
  | cons e events ih =>
      obtain ⟨hAnswer, hAfter⟩ := h.after e hQuiet.1
      have hLater := ih hAfter hQuiet.2
      simp only [List.map_cons, Client.answers, hAnswer noise, hLater]

theorem received (h : Alike f c) {events : List MarkedEvent}
    (hQuiet : QuietAlong Noise (c true) f events) (noise : Bool) :
    ((c noise).afterAll (events.map (MarkedEvent.event noise))).processes.map
      Process.received =
      ((c true).afterAll (events.map (MarkedEvent.event true))).processes.map
        Process.received := by
  induction events generalizing f c with
  | nil =>
      have hBare := congrArg (List.map Process.received) (h.processes noise)
      rw [List.map_map, List.map_map] at hBare
      exact hBare
  | cons e events ih => exact ih (h.after e hQuiet.1).alike hQuiet.2

end Alike

theorem alike_ofDefinition (d : Definition) : Alike ⟨[], []⟩ fun _ =>
    Client.ofDefinition d :=
  ⟨fun _ => rfl, fun _ => rfl, .inl fun _ => rfl⟩

/-- **Noise changes nothing.** Take the life of a client of any definition,
through any starts and calls and whatever its servers do, with lines put in
anywhere among those that the servers send. If each of these lines is noise for
the request that reads it, all starts and calls have the same results as
without them, and the servers are told the same.

For every connection a request has the next number. It has the result that the
first line with its number says; the lines before that are noise, and all lines
behind it are left, in their order, for the requests to come. Only if no line
has its number there is no reply and nothing is left. -/
theorem answers_without_noise (d : Definition) (events : List MarkedEvent)
    (hQuiet : Client.QuietAlong Noise (.ofDefinition d) ⟨[], []⟩ events) :
    let c := Client.ofDefinition d
    let noisy := events.map (MarkedEvent.event true)
    let quiet := events.map (MarkedEvent.event false)
    c.answers noisy = c.answers quiet ∧
      (c.afterAll noisy).processes.map Process.received =
        (c.afterAll quiet).processes.map Process.received ∧
      ∀ (conn : Connection) (method : String) (params : Option Json),
        let id := conn.lastId + 1
        let lines := (conn.asking method params).process.unread
        let answer := conn.request method params
        answer.2.lastId = id ∧ (conn.process.ended = false →
          (∃ passed line rest r, lines = passed ++ line :: rest ∧
            (∀ l ∈ passed, Noise id l) ∧
              Reply.ofLine? line = some r ∧ r.id = some id ∧
              answer.1 = Connection.outcomeOf r ∧
              answer.2.process.unread = rest) ∨
            (∀ l ∈ lines, Noise id l) ∧
            (answer.1 = .error .closed ∨ answer.1 = .error .timedOut) ∧
              answer.2.process.unread = []) := by
  intro c noisy quiet
  have hAlike := alike_ofDefinition d
  refine ⟨(hAlike.answers hQuiet false).symm,
    (hAlike.received hQuiet false).symm, ?_⟩
  intro conn method params id lines answer
  refine ⟨(Connection.request_spec method params conn).1, fun hAlive => ?_⟩
  simpa only [noise_iff] using Connection.request_cases hAlive method params

/-! ## Two lives -/

/-- A line that was not put in. -/
def genuine (text : String) : MarkedLine := ⟨text, false⟩

/-- A line that was put in. -/
def inserted (text : String) : MarkedLine := ⟨text, true⟩

/-- The definition of a service whose servers write noise. -/
def chatty : Definition := ⟨"tools", "serve", [], [], true, 5⟩

/-- A server that is asked for its tools in vain and lists them when the first
call is waiting, with an empty line and a line of a log, and with a notice and
the old reply once more before the second reply. -/
def chattyEvents : List MarkedEvent :=
  [.start (some
      [.send [inserted "starting", genuine "\x7b\"id\": 1\x7d"],
        .send [inserted ""],
        .send [inserted "\x7b\"id\": 2, \"result\": \x7b\"tools\": []\x7d\x7d",
          genuine
            "\x7b\"id\": 3, \"error\": \x7b\"code\": 1, \"message\": \"no\"\x7d\x7d",
          inserted "\x7b\"method\": \"progress\"\x7d"],
        .send [inserted "\x7b\"id\": 3\x7d",
          genuine "\x7b\"id\": 4, \"result\": true\x7d"]]),
    .execute "find" .null, .execute "find" .null]

/-- The start succeeds, the first call is refused and the second has a result,
with the noise and without it. -/
theorem answers_without_noise_chatty :
    let c := Client.ofDefinition chatty
    let noisy := chattyEvents.map (MarkedEvent.event true)
    let quiet := chattyEvents.map (MarkedEvent.event false)
    Client.QuietAlong Noise c ⟨[], []⟩ chattyEvents ∧
      c.answers noisy = c.answers quiet ∧
      (c.answers noisy).map (Option.map Except.toBool) =
        [some true, some false, some true] := by
  intro c noisy quiet
  have hQuiet : Client.QuietAlong Noise c ⟨[], []⟩ chattyEvents := by
    decide +kernel
  exact ⟨hQuiet, (answers_without_noise chatty chattyEvents hQuiet).1,
    by decide +kernel⟩

/-- The line is an array. A reply is an object. -/
def IsArray (line : String) : Prop :=
  (events (Text.trim line).toList).head? = some .openArr

instance (line : String) : Decidable (IsArray line) :=
  inferInstanceAs (Decidable (_ = _))

/-- An array is not always noise. A line of a log that happens to be an array
and to begin with the number of a call is taken for its reply, and a call that
the server refuses is a success. -/
theorem array_changes_answer :
    ¬ ∀ (d : Definition) (events : List MarkedEvent),
      Client.QuietAlong (fun id line => Noise id line ∨ IsArray line)
        (.ofDefinition d) ⟨[], []⟩
          events →
        (Client.ofDefinition d).answers (events.map (MarkedEvent.event true)) =
          (Client.ofDefinition d).answers
            (events.map (MarkedEvent.event false)) := by
  intro hAll
  let events : List MarkedEvent :=
    [.start (some
        [.send [genuine "\x7b\"id\": 1\x7d"],
          .send [genuine "\x7b\"id\": 2\x7d"],
          .send [inserted "[3]", genuine
            "\x7b\"id\": 3, \"error\": \x7b\"code\": 1, \"message\": \"no\"\x7d\x7d"]]),
      .execute "find" .null]
  have hSame := hAll chatty events (by decide +kernel)
  have hSuccess := congrArg (List.map (Option.map Except.toBool)) hSame
  have hDiffer :
      ((Client.ofDefinition chatty).answers
        (events.map (MarkedEvent.event true))).map
      (Option.map Except.toBool) ≠
        ((Client.ofDefinition chatty).answers
          (events.map (MarkedEvent.event false))).map
          (Option.map Except.toBool) := by
    decide +kernel
  exact hDiffer hSuccess

end Errand.ToolServer
