import Errand.Proofs.Json.Members
import Errand.ToolServer.Connection

/-!
# Which lines are replies

A server may send lines of any kind between its replies. This file says which
of them a connection takes for the reply to a request, whatever the server
writes.

A line counts if it carries the number of the request, and nothing else counts:
the first line that does is the reply, the lines before it are passed over, and
the lines after it are left for later (`Connection.request_cases`). To carry a
number a line must be JSON and spell an object with a member `id`, or an array,
whose items are then taken for the number, the result and the error. There is
no more to it. An object may be a request of the server's own, which has a
method and neither result nor error, and an array may be a line of a log; if
the number is right they are taken for an empty result
(`Connection.array_taken_for_reply`).

## Main results

* `Reply.exists_response`: what a line holds that is a reply.
* `Connection.request_cases`: what comes of a request, by the lines that are
  there to read.
* `Connection.answered_by_number`: only a line that carries the number of a
  request answers it.
-/

namespace Errand.ToolServer

open Json Json.Decoder

/-! ## What a reply is read from -/

namespace Reply

/-- The fields of a reply. -/
def slots : List (Slot Reply) :=
  [slot "id" .defaulted (nullable (count "u64")) fun n r => { r with id := n },
    slot "result" .defaulted (nullable value) fun j r => { r with result := j },
    slot "error" .defaulted (nullable errorDecoder) fun e r =>
      { r with error := e }]

theorem decoder_eq :
    decoder = record "JsonRpcResponse" slots ⟨none, none, none⟩ :=
  rfl

theorem readsOne_errorDecoder : ReadsOne errorDecoder := by
  refine ReadsOne.record ?_ (by decide) _ _
  intro s hs
  simp only [List.mem_cons, List.not_mem_nil, or_false] at hs
  rcases hs with rfl | rfl
  · exact (ReadsOne.int _ _ _).slot _ _ _
  · exact ReadsOne.text.slot _ _ _

theorem readsOne_slots : ∀ s ∈ slots, ReadsOne s.read := by
  intro s hs
  simp only [slots, List.mem_cons, List.not_mem_nil, or_false] at hs
  rcases hs with rfl | rfl | rfl
  · exact (ReadsOne.count _).nullable.slot _ _ _
  · exact ReadsOne.value.nullable.slot _ _ _
  · exact readsOne_errorDecoder.nullable.slot _ _ _

theorem careful_errorDecoder : Careful errorDecoder := by
  refine Careful.record ?_ _ _
  intro s hs
  simp only [List.mem_cons, List.not_mem_nil, or_false] at hs
  rcases hs with rfl | rfl
  · exact (Careful.int _ _ _).slot _ _ _
  · exact Careful.text.slot _ _ _

theorem careful_decoder : Careful decoder := by
  refine Careful.record ?_ _ _
  intro s hs
  simp only [List.mem_cons, List.not_mem_nil, or_false] at hs
  rcases hs with rfl | rfl | rfl
  · exact (Careful.nullable (Careful.count _)).slot _ _ _
  · exact (Careful.nullable Careful.value).slot _ _ _
  · exact (Careful.nullable careful_errorDecoder).slot _ _ _

/-- The line spells these members, as an object or as an array that stands for
one, and the reply says what they hold. Each of the three names is there at
most once; what other members there are does not matter. -/
structure Response (line : String) (members : List (Option String × Tree))
    (r : Reply) : Prop where
  spelled : ∃ t : Tree, t.SpelledBy (Text.trim line) ∧
    t.members? ["id", "result", "error"] = some members
  number : FieldRead "id" members (count "u64") r.id
  result : FieldRead "result" members value r.result
  error : FieldRead "error" members errorDecoder r.error

/-- **A reply is read from the members of its line.** -/
theorem exists_response {line : String} {r : Reply}
    (h : ofLine? line = some r) : ∃ members, Response line members r := by
  have hText : ofText decoder (Text.trim line) = .ok r := by
    unfold ofLine? at h
    cases hRead : ofText decoder (Text.trim line) with
    | error e =>
        rw [hRead] at h
        cases h
    | ok r' =>
        rw [hRead] at h
        cases h
        rfl
  obtain ⟨t, hSpelled, hRead⟩ := exists_of_ofText careful_decoder hText
  rw [decoder_eq] at hRead
  obtain ⟨-, room, members, hMembers, hFields⟩ :=
    membersRead_of_record readsOne_slots (by decide) hRead
  have hOthers : ∀ {γ : Type} {key : String} {get : Reply → γ},
      (key ≠ "id" → ∀ n r, get { r with id := n } = get r) →
      (key ≠ "result" → ∀ j r, get { r with result := j } = get r) →
      (key ≠ "error" → ∀ e r, get { r with error := e } = get r) →
      ∀ s ∈ slots, s.name ≠ key → ∀ at_ t f, s.read.Yields at_ t f →
      ∀ r, get (f r) = get r := by
    intro γ key get hId hResult hError s hs hName at_ t f hYields
    simp only [slots, List.mem_cons, List.not_mem_nil, or_false] at hs
    rcases hs with rfl | rfl | rfl
    · exact hYields.keeps (ReadsOne.count _).nullable (hId hName.symm)
    · exact hYields.keeps ReadsOne.value.nullable (hResult hName.symm)
    · exact hYields.keeps readsOne_errorDecoder.nullable (hError hName.symm)
  refine ⟨members, ⟨t, hSpelled, hMembers⟩, ?_, ?_, ?_⟩
  · exact hFields.fieldRead (ReadsOne.count _) (fun _ _ => rfl) rfl
      (hOthers (absurd rfl) (fun _ _ _ => rfl) fun _ _ _ => rfl) rfl
  · exact hFields.fieldRead ReadsOne.value (fun _ _ => rfl) rfl
      (hOthers (fun _ _ _ => rfl) (absurd rfl) fun _ _ _ => rfl) rfl
  · exact hFields.fieldRead readsOne_errorDecoder (fun _ _ => rfl) rfl
      (hOthers (fun _ _ _ => rfl) (fun _ _ _ => rfl) (absurd rfl)) rfl

/-- A number is given once. -/
theorem Response.heldBy_id {line : String}
    {members : List (Option String × Tree)} {r : Reply}
    (h : Response line members r) {id : Nat} (hId : r.id = some id) :
    Tree.heldBy "id" members = [.num (some (.int id))] := by
  rcases h.number with ⟨-, hNone⟩ | ⟨at_, t, n, hHeld, hYields, hSome⟩
  · cases hNone.symm.trans hId
  · obtain rfl := Option.some.inj (hSome.symm.trans hId)
    rw [hHeld, hYields.of_count]

end Reply

/-! ## The line that answers a request -/

/-- The line is a reply with this number. -/
def Carries (id : Nat) (line : String) : Prop :=
  ∃ r, Reply.ofLine? line = some r ∧ r.id = some id

instance (id : Nat) (line : String) : Decidable (Carries id line) :=
  decidable_of_iff ((Reply.ofLine? line).bind Reply.id = some id)
    Option.bind_eq_some_iff

-- A request of the server's own carries a number as well as a reply does.
example :
    Carries 1
      "\x7b\"jsonrpc\": \"2.0\", \"id\": 1, \"method\": \"ping\"\x7d" := by
  decide +kernel

namespace Connection

/-- A line that does not carry the number is passed over. -/
theorem firstReply_cons {id : Nat} {line : String} (h : ¬ Carries id line)
    (lines : List String) :
    firstReply id (line :: lines) = firstReply id lines := by
  cases hReply : Reply.ofLine? line with
  | none => simp only [firstReply, hReply]
  | some r =>
      have hOther : r.id ≠ some id := fun hId => h ⟨r, hReply, hId⟩
      simp only [firstReply, hReply, hOther, if_false]

theorem firstReply_append {id : Nat} {passed : List String}
    (h : ∀ l ∈ passed, ¬ Carries id l) (lines : List String) :
    firstReply id (passed ++ lines) = firstReply id lines := by
  induction passed with
  | nil => rfl
  | cons line passed ih =>
      obtain ⟨hLine, hPassed⟩ := List.forall_mem_cons.mp h
      rw [List.cons_append, firstReply_cons hLine, ih hPassed]

theorem firstReply_of_carries {id : Nat} {line : String} {r : Reply}
    (hReply : Reply.ofLine? line = some r) (hId : r.id = some id)
    (lines : List String) :
    firstReply id (line :: lines) = some (r, lines) := by
  simp only [firstReply, hReply, hId, if_true]

/-- Some lines have no reply with the number among them, or there is a first
one. -/
theorem exists_first (id : Nat) (lines : List String) :
    (∀ l ∈ lines, ¬ Carries id l) ∨ ∃ passed line rest r,
      lines = passed ++ line :: rest ∧
      (∀ l ∈ passed, ¬ Carries id l) ∧ Reply.ofLine? line = some r ∧
      r.id = some id := by
  induction lines with
  | nil => exact .inl nofun
  | cons line lines ih =>
      by_cases hLine : Carries id line
      · obtain ⟨r, hReply, hId⟩ := hLine
        exact .inr ⟨[], line, lines, r, rfl, nofun, hReply, hId⟩
      · rcases ih with hNone | ⟨passed, line', rest, r, rfl, hPassed, hReply⟩
        · exact .inl (List.forall_mem_cons.mpr ⟨hLine, hNone⟩)
        · exact .inr ⟨line :: passed, line', rest, r, rfl,
            List.forall_mem_cons.mpr ⟨hLine, hPassed⟩, hReply⟩

/-- The connection when a request has been sent and nothing has been read
since. -/
def asking (method : String) (params : Option Json) (c : Connection) :
    Connection :=
  { c with
    lastId := c.lastId + 1
    process := c.process.hear ⟨some (c.lastId + 1), method, params⟩ }

theorem request_of_ended {c : Connection} (h : c.process.ended = true)
    (method : String) (params : Option Json) :
    c.request method params = (.error .broken,
      { c with lastId := c.lastId + 1 }) := by
  simp only [request, send?, h, if_true]

theorem request_of_alive {c : Connection} (h : c.process.ended = false)
    (method : String) (params : Option Json) :
    c.request method params =
      match firstReply (c.lastId + 1)
        (c.asking method params).process.unread with
      | some (r, rest) => (outcomeOf r, (c.asking method params).leaving rest)
      | none =>
        (.error
          (if (c.asking method params).process.ended then .closed
            else .timedOut),
          (c.asking method params).leaving []) := by
  simp only [request, send?, h, if_false, Bool.false_eq_true]
  rfl

/-- **What comes of a request**, by the lines that are there to read: the first
of them that carries the number says it, and those after it are left; if there
is none, all lines are gone. -/
theorem request_cases {c : Connection} (hAlive : c.process.ended = false)
    (method : String) (params : Option Json) :
    let lines := (c.asking method params).process.unread
    let answer := c.request method params
    (∃ passed line rest r, lines = passed ++ line :: rest ∧
        (∀ l ∈ passed, ¬ Carries (c.lastId + 1) l) ∧
        Reply.ofLine? line = some r ∧
        r.id = some (c.lastId + 1) ∧ answer.1 = outcomeOf r ∧
        answer.2.process.unread = rest) ∨
      (∀ l ∈ lines, ¬ Carries (c.lastId + 1) l) ∧
        (answer.1 = .error .closed ∨ answer.1 = .error .timedOut) ∧
        answer.2.process.unread = [] := by
  intro lines answer
  have hAnswer : answer = _ := request_of_alive hAlive method params
  rcases exists_first (c.lastId + 1) lines with hNone | ⟨passed, line, rest, r,
    hLines, hPassed, hReply⟩
  · have hFirst := firstReply_append hNone []
    rw [List.append_nil] at hFirst
    rw [show firstReply (c.lastId + 1) (c.asking method params).process.unread =
      none from hFirst]
      at hAnswer
    refine .inr ⟨hNone, ?_, congrArg (fun a => a.2.process.unread) hAnswer⟩
    have hFault := congrArg Prod.fst hAnswer
    dsimp only at hFault
    split at hFault
    · exact .inl hFault
    · exact .inr hFault
  · have hFirst : firstReply (c.lastId + 1) lines = some (r, rest) := by
      rw [hLines, firstReply_append hPassed,
        firstReply_of_carries hReply.1 hReply.2]
    rw [show firstReply (c.lastId + 1) (c.asking method params).process.unread =
      _ from hFirst]
      at hAnswer
    exact .inl ⟨passed, line, rest, r, hLines, hPassed, hReply.1, hReply.2,
      congrArg Prod.fst hAnswer, congrArg (fun a => a.2.process.unread) hAnswer⟩

/-- **Only a line that carries the number of a request answers it.** For every
connection and all lines that its server writes:

* a line that carries a number is JSON and spells an object, or an array that
  stands for one, in which the number is given once, and result and error at
  most once;
* a request to a running server has a result, or is refused, only on account of
  such a line: it is the first that carries the number, it says the outcome,
  every other line before it is passed over, and those behind it are left;
* if no line carries the number, the request has neither: the server has closed
  the connection, or the time is up;
* a request to a server that has ended has neither, and no line is read. -/
theorem answered_by_number (method : String) (params : Option Json)
    (c : Connection) :
    let id := c.lastId + 1
    let lines := (c.asking method params).process.unread
    let answer := c.request method params
    (∀ line, Carries id line → ∃ members r, Reply.Response line members r ∧
        Tree.heldBy "id" members = [.num (some (.int id))]) ∧
      (c.process.ended = false →
        (∃ passed line rest members r, lines = passed ++ line :: rest ∧
            (∀ l ∈ passed, ¬ Carries id l) ∧ Carries id line ∧
            Reply.Response line members r ∧
            Tree.heldBy "id" members = [.num (some (.int id))] ∧
            answer.1 = outcomeOf r ∧
            answer.2.process.unread = rest) ∨
          (∀ l ∈ lines, ¬ Carries id l) ∧
            (answer.1 = .error .closed ∨ answer.1 = .error .timedOut)) ∧
      (c.process.ended = true →
        answer.1 = .error .broken ∧
        answer.2.process.unread = c.process.unread) := by
  intro id lines answer
  refine ⟨?_, fun hAlive => ?_, fun hEnded => ?_⟩
  · intro line hCarries
    obtain ⟨r, hReply, hId⟩ := hCarries
    obtain ⟨members, hResponse⟩ := Reply.exists_response hReply
    exact ⟨members, r, hResponse, hResponse.heldBy_id hId⟩
  · rcases request_cases hAlive method params with
      ⟨passed, line, rest, r, hLines, hPassed, hReply, hId, hOutcome,
        hRest⟩ | ⟨hNone, hFault, -⟩
    · obtain ⟨members, hResponse⟩ := Reply.exists_response hReply
      exact .inl ⟨passed, line, rest, members, r, hLines, hPassed,
        ⟨r, hReply, hId⟩, hResponse, hResponse.heldBy_id hId, hOutcome, hRest⟩
    · exact .inr ⟨hNone, hFault⟩
  · have hAnswer := request_of_ended hEnded method params
    exact ⟨congrArg Prod.fst hAnswer,
      congrArg (fun a => a.2.process.unread) hAnswer⟩

/-- The line is a response object with this number: an object that has the
number and no method, and a result or an error. -/
def IsResponseObject (id : Nat) (line : String) : Prop :=
  ∃ members, (Tree.obj members).SpelledBy (Text.trim line) ∧
    Tree.heldBy "id" members = [.num (some (.int id))] ∧
    Tree.heldBy "method" members = [] ∧
    (Tree.heldBy "result" members ≠ [] ∨ Tree.heldBy "error" members ≠ [])

/-- Lines that carry a number need not be response objects: a request has a
result although the server has sent nothing but an array that begins with its
number. -/
theorem array_taken_for_reply :
    ¬ ∀ (c : Connection) (method : String) (params : Option Json)
    (result : Json),
      (c.request method params).1 = .ok result →
        ∃ line ∈ (c.asking method params).process.unread,
        IsResponseObject (c.lastId + 1) line := by
  intro hOnly
  let c := Connection.ofProcess ⟨0, [.send ["[1]"]], [], false, []⟩
  have hOk : (c.request "initialize" none).1.toBool = true := by decide +kernel
  cases hResult : (c.request "initialize" none).1 with
  | error f =>
      rw [hResult] at hOk
      cases hOk
  | ok result =>
      obtain ⟨line, hMem, members, hSpelled, -⟩ :=
        hOnly c "initialize" none result hResult
      obtain rfl := List.mem_singleton.mp hMem
      have hEvents : events (Text.trim "[1]").toList =
          [.openArr, .num (some (.int 1)), .closeArr] := by
        decide +kernel
      cases hEvents.symm.trans hSpelled

end Connection

end Errand.ToolServer
