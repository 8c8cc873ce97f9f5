import Errand.Proofs.Execution.Agreement
import Errand.Proofs.Execution.Tiers
import Errand.ToolServer.Connection

/-!
# What becomes of a failed call

A tool server can say that a call failed in three ways: its reply is an error,
the result carries the mark of an error, or the payload of the result is an
object that says so. This file proves that none of them is lost on the way. The
reply passes through the connection, the response of the service, the outcome
and the tiers, and what comes out of the first tier as a success is exactly a
reply that says none of this; every other one leaves the plan to the second
tier.

There is one gap between what a payload is and what it is meant to be. A
structured value of null is a structured value, so it takes the place of the
text, and a failure that the text speaks of is not seen (`null_hides_failure`).

The client of the server is a part of a larger state, for the second tier may
work on the rest of it.

## Main results

* `Reply.Fails`: the three ways, for either reading of the payload.
* `Client.execute_of_reply`: what a call comes to is what its reply says.
* `Executor.tierRun_of_not_fails`, `Executor.tierRun_of_fails`: the run of the
  tiers after either kind of reply.
* `Executor.reply_decides`: which tier the outcome comes from, told by the
  reply.
-/

namespace Errand

/-! ## Payloads -/

namespace ServiceResponse

/-- The text of a result, read as JSON where it is JSON. -/
def textPayload (result : Json) : Json :=
  match Json.read (textOf result).toList with
  | .ok j => j
  | .error _ => .str (textOf result)

/-- The payload as it is meant: the structured value, unless there is none or
it is null, and then the text. -/
def meantPayload (result : Json) : Json :=
  match result.get? "structuredContent" with
  | none | some .null => textPayload result
  | some structured => structured

/-- Only a null in place of the structured value makes a difference. -/
theorem payloadOf_eq_meantPayload {result : Json}
    (h : result.get? "structuredContent" ≠ some .null) :
    payloadOf result = meantPayload result := by
  unfold payloadOf meantPayload
  cases hStructured : result.get? "structuredContent" with
  | none => rfl
  | some structured =>
      cases structured with
      | null => exact absurd hStructured h
      | bool b => rfl
      | num n => rfl
      | str s => rfl
      | arr items => rfl
      | obj fields => rfl

theorem bind_bool?_eq_some {j? : Option Json} {b : Bool} :
    j?.bind Json.bool? = some b ↔ j? = some (.bool b) := by
  cases j? with
  | none => simp
  | some j => cases j <;> simp [Json.bool?]

end ServiceResponse

namespace ToolServer

open ServiceResponse

/-! ## Replies -/

/-- The reply says that the call failed: it is an error, its result carries the
mark of an error, or the payload of the result is an object that says so. -/
def Reply.Fails (payload : Json → Json) (r : Reply) : Prop :=
  r.error.isSome = true ∨
    (r.result.getD .null).get? "isError" = some (.bool true) ∨
    (payload (r.result.getD .null)).get? "success" = some (.bool false)

instance (payload : Json → Json) (r : Reply) : Decidable (r.Fails payload) :=
  decidable_of_iff (r.error.isSome = true ∨
      ((r.result.getD .null).get? "isError").bind Json.bool? = some true ∨
      ((payload (r.result.getD .null)).get? "success").bind Json.bool? =
        some false) <| by
    rw [bind_bool?_eq_some, bind_bool?_eq_some]
    exact Iff.rfl

/-- What a reply to a call comes to. -/
def Reply.verdict (r : Reply) : Except Trouble ServiceResponse :=
  match Connection.outcomeOf r with
  | .ok result => .ok (.ofToolResult result)
  | .error f => .error (f.trouble "")

/-- The response of a result reports success exactly if the result says nothing
else. -/
theorem success_ofToolResult (result : Json) :
    (ofToolResult result).success = true ↔
    ¬ (result.get? "isError" = some (.bool true) ∨
      (payloadOf result).get? "success" = some (.bool false)) := by
  unfold ofToolResult
  by_cases hMark : result.get? "isError" = some (.bool true)
  · rw [if_pos (bind_bool?_eq_some.mpr hMark)]
    simp [hMark, refused]
  · rw [if_neg fun h => hMark (bind_bool?_eq_some.mp h)]
    by_cases hInside : (payloadOf result).get? "success" = some (.bool false)
    · rw [if_pos (bind_bool?_eq_some.mpr hInside)]
      simp [hInside, refused]
    · rw [if_neg fun h => hInside (bind_bool?_eq_some.mp h)]
      simp [hMark, hInside, succeeded]

/-- A reply that says that the call failed does not come to success. -/
theorem Reply.verdict_of_fails {r : Reply} (h : r.Fails payloadOf) :
    ∀ response, r.verdict = .ok response → response.success = false := by
  intro response hVerdict
  unfold verdict Connection.outcomeOf at hVerdict
  cases hError : r.error with
  | some e =>
      simp only [hError] at hVerdict
      cases hVerdict
  | none =>
      simp only [hError] at hVerdict
      obtain rfl := Except.ok.inj hVerdict
      rcases h with hRefused | hResult
      · rw [hError] at hRefused
        cases hRefused
      · exact Bool.eq_false_iff.mpr fun hSuccess =>
          (success_ofToolResult _).mp hSuccess hResult

/-- Any other reply does. -/
theorem Reply.verdict_of_not_fails {r : Reply} (h : ¬ r.Fails payloadOf) :
    ∃ response, r.verdict = .ok response ∧ response.success = true := by
  obtain ⟨hError, hResult⟩ := not_or.mp h
  have hNone : r.error = none := Option.not_isSome_iff_eq_none.mp hError
  refine ⟨.ofToolResult (r.result.getD .null), ?_,
    (success_ofToolResult _).mpr hResult⟩
  simp only [verdict, Connection.outcomeOf, hNone]

/-! ## From the reply to the result of the call -/

/-- The reply of the server to a request that is sent now, if it sends one. -/
def Connection.replyTo (method : String) (params : Option Json)
    (c : Connection) : Option Reply :=
  let id := c.lastId + 1
  ({ c with lastId := id }.send? ⟨some id, method, params⟩).bind fun c =>
    (firstReply id c.process.unread).map Prod.fst

theorem Connection.request_of_replyTo {method : String} {params : Option Json}
    {c : Connection} {r : Reply} (h : c.replyTo method params = some r) :
    (c.request method params).1 = outcomeOf r := by
  obtain ⟨sent, hSent, hFirst⟩ := Option.bind_eq_some_iff.mp h
  obtain ⟨⟨reply, rest⟩, hReply, rfl⟩ := Option.map_eq_some_iff.mp hFirst
  unfold request
  simp only [hSent, hReply]

/-- The reply of the server to a call that is made now, if the tool is offered
and the server sends one. -/
def Client.replyTo (call : ServiceCall) (c : Client) : Option Reply :=
  c.connection.bind fun conn =>
    if conn.lacks call.name then none
    else
      conn.replyTo "tools/call"
        (some (.obj [("arguments", .obj call.params),
            ("name", .str call.name)]))

/-- **What a call comes to is what its reply says.** -/
theorem Client.execute_of_reply {call : ServiceCall} {c : Client} {r : Reply}
    (h : c.replyTo call = some r) :
    (c.execute call.name (.obj call.params)).result = r.verdict := by
  obtain ⟨conn, hConn, hReply⟩ := Option.bind_eq_some_iff.mp h
  by_cases hLacks : conn.lacks call.name = true
  · simp only [hLacks, if_true, reduceCtorEq] at hReply
  · simp only [hLacks, if_false, Bool.false_eq_true] at hReply
    have hOutcome := Connection.request_of_replyTo hReply
    simp only [execute, hConn, hLacks, if_false, Bool.false_eq_true]
    unfold Reply.verdict
    rw [← hOutcome]
    split
    · next result conn' hEq => rw [hEq]
    · next conn' hEq =>
        -- a reply is never late
        rw [hEq] at hOutcome
        unfold Connection.outcomeOf at hOutcome
        cases hError : r.error <;> simp [hError] at hOutcome
    · next f conn' hNot hEq => rw [hEq]

/-! ## The service as a part of a larger state -/

section Within

variable {σ : Type} (get : σ → Client) (set : Client → σ → σ)
  (turns : Option (List Turn)) (now : Time) (s : σ)

/-- A start settles with what it comes to, and the client is in the state that
it leaves. -/
theorem Client.settle_start :
    ∃ now',
    (((Client.partner turns).within get set).perform .start now s).settle
      none now =
      ⟨some (.answer ((get s).start turns).result), now',
        set ((get s).start turns).client s⟩ :=
  ⟨_, rfl⟩

theorem Client.settle_execute (call : ServiceCall) :
    ∃ now' s',
    (((Client.partner turns).within get set).perform
      (.execute call) now s).settle none now =
      ⟨some (.answer ((get s).execute call.name (.obj call.params)).result),
        now', s'⟩ :=
  ⟨_, _, rfl⟩

end Within

end ToolServer

/-! ## From the reply to the outcome -/

namespace Executor

open ToolServer ServiceResponse

variable {σ : Type}

/-- The run of the service on a plan whose call gets a reply. -/
theorem serviceRun_of_reply (d : Directory) (results : Nat)
    {turns : Option (List Turn)} {get : σ → Client} {set : Client → σ → σ}
    (hGet : ∀ c s, get (set c s) = c) {p : Plan} {request : String} (now : Time)
    {s : σ} {call : ServiceCall}
    (hCall : ServiceCall.ofPlan d results p request = .ok call)
    (hStart : ((get s).start turns).result = .ok ()) {r : ToolServer.Reply}
    (hReply : ((get s).start turns).client.replyTo call = some r) :
    ∃ now' s',
    (ofService d results ((Client.partner turns).within get set)).settled p
      request now s =
      ⟨some (.answer (r.verdict.map (Outcome.ofResponse p call))),
        now', s'⟩ := by
  obtain ⟨now₁, hStarted⟩ := Client.settle_start get set turns now s
  obtain ⟨now₂, s₂, hExecuted⟩ :=
    Client.settle_execute get set turns now₁
      (set ((get s).start turns).client s) call
  rw [hStart] at hStarted
  rw [hGet, Client.execute_of_reply hReply] at hExecuted
  have hRun := serviceRun_of_called d results hCall hStarted hExecuted
  refine ⟨now + (now₂ - now), s₂, ?_⟩
  show ((serviceRun d results _ p request now s).act now).settle none now = _
  rw [hRun]
  cases r.verdict <;> rfl

/-- Only plans that are supported have a call. -/
theorem supports_of_ofPlan {d : Directory} {results : Nat} {p : Plan}
    {request : String} {call : ServiceCall}
    (h : ServiceCall.ofPlan d results p request = .ok call) :
    ServiceCall.supports p = true := by
  refine decide_eq_true fun hKind => ?_
  have hAnswer : p.operation = .answer := by
    cases hOperation : p.operation <;>
      simp [Plan.kind, Operation.kind, hOperation] at hKind ⊢
  obtain ⟨u, hUnsuited⟩ :=
    (ServiceCall.exists_error_iff d results p request).mpr (.inl hAnswer)
  cases h.symm.trans hUnsuited

section Replied

variable (d : Directory) (results : Nat) {turns : Option (List Turn)}
  {get : σ → Client} {set : Client → σ → σ} (hGet : ∀ c s, get (set c s) = c)
  {p : Plan} {request : String} (now : Time) {s : σ} {call : ServiceCall}
  (hCall : ServiceCall.ofPlan d results p request = .ok call)
  (hStart : ((get s).start turns).result = .ok ()) {r : ToolServer.Reply}
  (hReply : ((get s).start turns).client.replyTo call = some r)
include hGet hCall hStart hReply

/-- A reply that does not say that the call failed makes for an outcome of the
first tier, with success. -/
theorem tierRun_of_not_fails (fallback : Executor σ) (h : ¬ r.Fails payloadOf) :
    ∃ (o : Outcome) (now' : Time) (s' : σ), o.success = true ∧
      tierRun
        (some (ofService d results ((Client.partner turns).within get set)))
        fallback p request
          now s =
        ⟨.done (o.tagged .preferred), now', s',
          [.asked now ⟨.preferred, p, request⟩]⟩ := by
  obtain ⟨now', s', hService⟩ :=
    serviceRun_of_reply d results hGet now hCall hStart hReply
  obtain ⟨response, hVerdict, hSuccess⟩ := Reply.verdict_of_not_fails h
  rw [hVerdict] at hService
  have hSucceeds : (Outcome.ofResponse p call response).success = true := by
    simp only [Outcome.ofResponse, hSuccess, if_true]
  have hSupports := supports_of_ofPlan hCall
  exact ⟨_, now', s', hSucceeds,
    tierRun_of_success hSupports hSucceeds hService⟩

/-- A reply that says so leads to the second tier. -/
theorem tierRun_of_fails {fallback : Executor σ} (hFallback : fallback.Answers)
    (h : r.Fails payloadOf) :
    ∃ at_ s₁ answer now' s',
      fallback.settled p request at_ s₁ = ⟨some (.answer answer), now', s'⟩ ∧
      tierRun
        (some (ofService d results ((Client.partner turns).within get set)))
        fallback p request
          now s =
        ⟨.done ((Tier.recorded p answer).tagged .localTier), now', s',
          [.asked now ⟨.preferred, p, request⟩,
            .asked at_ ⟨.localTier, p, request⟩]⟩ := by
  obtain ⟨at_, s₁, hService⟩ :=
    serviceRun_of_reply d results hGet now hCall hStart hReply
  obtain ⟨answer, now', s', hLocal⟩ := hFallback.settled p request at_ s₁
  have hRefused : ∀ o, r.verdict.map (Outcome.ofResponse p call) = .ok o →
      o.success = false := by
    intro o hOutcome
    cases hVerdict : r.verdict with
    | error t => cases hVerdict ▸ hOutcome
    | ok response =>
        have hSuccess := Reply.verdict_of_fails h response hVerdict
        rw [hVerdict] at hOutcome
        obtain rfl := Except.ok.inj hOutcome
        simp only [Outcome.ofResponse, hSuccess, if_false, Bool.false_eq_true]
        rfl
  have hSupports := supports_of_ofPlan hCall
  refine ⟨at_, s₁, answer, now', s', hLocal, ?_⟩
  rw [tierRun_of_failure hSupports hRefused hService,
    play_locally _ _ _ _ _ _ hLocal]
  rfl

end Replied

/-- **The reply decides the tier.** Where the client connects and the server
replies to the call, the outcome comes from the first tier, with success,
exactly if the reply does not say that the call failed. If it does, the second
tier is asked, once, with the same plan, and its outcome counts. A reply that
says so under the payload as it is meant is one of these, unless its structured
value is null. -/
theorem reply_decides (d : Directory) (results : Nat)
    {turns : Option (List Turn)} {get : σ → Client} {set : Client → σ → σ}
    (hGet : ∀ c s, get (set c s) = c) {fallback : Executor σ}
    (hFallback : fallback.Answers) {p : Plan} {request : String} (now : Time)
    {s : σ} {call : ServiceCall}
    (hCall : ServiceCall.ofPlan d results p request = .ok call)
    (hStart : ((get s).start turns).result = .ok ()) {r : ToolServer.Reply}
    (hReply : ((get s).start turns).client.replyTo call = some r) :
    let service := (Client.partner turns).within get set
    let run :=
      tierRun (some (ofService d results service)) fallback p request now s
    (∃ o, run.ending = .done o ∧
        (o.source = some .localTier ↔ r.Fails payloadOf) ∧
        (o.source = some .preferred ↔ ¬ r.Fails payloadOf)) ∧
      (¬ r.Fails payloadOf → run.questions = [(now, ⟨.preferred, p, request⟩)] ∧
        ∃ o, run.ending = .done o ∧ o.success = true) ∧
      (r.Fails payloadOf → ∃ at_ s' answer,
        (fallback.settled p request at_ s').reply = some (.answer answer) ∧
        run.ending = .done ((Tier.recorded p answer).tagged .localTier) ∧
        run.questions = [(now, ⟨.preferred, p, request⟩),
          (at_, ⟨.localTier, p, request⟩)]) ∧
      (r.Fails meantPayload →
        (r.result.getD .null).get? "structuredContent" ≠ some .null →
        r.Fails payloadOf) := by
  intro service run
  have hMeant : r.Fails meantPayload →
      (r.result.getD .null).get? "structuredContent" ≠ some .null →
      r.Fails payloadOf := by
    intro hFails hStructured
    rwa [Reply.Fails, payloadOf_eq_meantPayload hStructured]
  by_cases hFails : r.Fails payloadOf
  · obtain ⟨at_, s', answer, _, _, hLocal, hTiers⟩ :=
      tierRun_of_fails d results hGet now hCall hStart hReply hFallback hFails
    have hRun : run = _ := hTiers
    have hSources : some Source.localTier ≠ some .preferred := by decide
    rw [hRun]
    refine ⟨⟨_, rfl, iff_of_true rfl hFails, iff_of_false hSources (· hFails)⟩,
      (absurd hFails ·), fun _ => ⟨at_, s', answer, by rw [hLocal], rfl, rfl⟩,
      hMeant⟩
  · obtain ⟨o, _, _, hSuccess, hTiers⟩ :=
      tierRun_of_not_fails d results hGet now hCall hStart hReply
        fallback hFails
    have hRun : run = _ := hTiers
    have hSources : some Source.preferred ≠ some .localTier := by decide
    rw [hRun]
    exact ⟨⟨_, rfl, iff_of_false hSources hFails, iff_of_true rfl hFails⟩,
      fun _ => ⟨rfl, _, rfl, hSuccess⟩, (absurd · hFails), hMeant⟩

/-! ## Two servers -/

/-- A server that does not list its tools and has one result for every call. -/
def serverOf (result : String) : List Turn :=
  [.send ["\x7b\"id\": 1\x7d"], .send ["\x7b\"id\": 2\x7d"],
    .send ["\x7b\"id\": 3, \"result\": " ++ result ++ "\x7d"]]

/-- A client that has not been used yet. -/
def unused : Client := .ofDefinition ⟨"tools", "serve", [], [], true, 5⟩

/-- A plan to look at a page. -/
def visit : Plan := ⟨.browse (some "example.com"), "browser", ""⟩

/-- The call that carries it out. -/
def fetchVisited : ServiceCall := .fetchPage (withScheme "example.com")

theorem ofPlan_visit (d : Directory) (results : Nat) (request : String) :
    ServiceCall.ofPlan d results visit request = .ok fetchVisited := rfl

/-- A second tier that does nothing. -/
def idle : Executor Client :=
  ⟨fun _ => true, fun p _ _ c => .finish (.answer (.ok (.failed p "idle"))) c⟩

/-- What a client comes to with these turns, read off one evaluation. -/
theorem exists_reply_of_eval {turns : Option (List Turn)} {c : Client}
    {call : ServiceCall} {test : ToolServer.Reply → Bool}
    (h : (c.start turns).result.toOption.bind (fun _ =>
      ((c.start turns).client.replyTo call).map test) = some true) :
    (c.start turns).result = .ok () ∧
      ∃ r, (c.start turns).client.replyTo call = some r ∧ test r = true := by
  obtain ⟨u, hStarted, hReplies⟩ := Option.bind_eq_some_iff.mp h
  refine ⟨?_, Option.map_eq_some_iff.mp hReplies⟩
  cases hResult : (c.start turns).result with
  | ok u => rfl
  | error t =>
      rw [hResult] at hStarted
      cases hStarted

/-- A structured value that says that the call failed leaves the plan to the
second tier. -/
theorem reply_decides_refused :
    let turns :=
      some (serverOf
          "\x7b\"structuredContent\": \x7b\"success\": false\x7d\x7d")
    let service := (Client.partner turns).within id fun c _ => c
    ∃ r, (unused.start turns).client.replyTo fetchVisited = some r ∧
      r.Fails payloadOf ∧
      ∃ o,
      (tierRun (some (ofService [] 5 service)) idle visit "go" 0
        unused).ending = .done o ∧
        o.source = some .localTier := by
  intro turns service
  have hEval : (unused.start turns).result.toOption.bind (fun _ =>
      ((unused.start turns).client.replyTo fetchVisited).map fun r =>
        decide (r.Fails payloadOf)) = some true := by
    decide +kernel
  obtain ⟨hStart, r, hReply, hDecide⟩ := exists_reply_of_eval hEval
  have hFails := of_decide_eq_true hDecide
  obtain ⟨⟨o, hEnd, hLocal, -⟩, -⟩ :=
    @reply_decides Client [] 5 turns id (fun c _ => c) (fun _ _ => rfl) idle
      (fun _ _ _ _ => trivial)
      visit "go" 0 unused fetchVisited (ofPlan_visit [] 5 "go") hStart r hReply
  exact ⟨r, hReply, hFails, o, hEnd, hLocal.mpr hFails⟩

/-- A null in place of the structured value hides the failure that the text
speaks of: the outcome is that of the first tier, and it is a success. -/
theorem null_hides_failure :
    let turns :=
      some (serverOf
          ("\x7b\"structuredContent\": null, \"content\": [\x7b\"type\": " ++
            "\"text\", \"text\": \"\x7b\\\"success\\\": false\x7d\"\x7d]\x7d"))
    let service := (Client.partner turns).within id fun c _ => c
    ∃ r, (unused.start turns).client.replyTo fetchVisited = some r ∧
      r.Fails meantPayload ∧
      ∃ o,
      (tierRun (some (ofService [] 5 service)) idle visit "go" 0
        unused).ending = .done o ∧
        o.success = true ∧ o.source = some .preferred := by
  intro turns service
  have hEval : (unused.start turns).result.toOption.bind (fun _ =>
      ((unused.start turns).client.replyTo fetchVisited).map fun r =>
        decide (r.Fails meantPayload ∧ ¬ r.Fails payloadOf)) = some true := by
    decide +kernel
  obtain ⟨hStart, r, hReply, hDecide⟩ := exists_reply_of_eval hEval
  obtain ⟨hMeant, hFound⟩ := of_decide_eq_true hDecide
  obtain ⟨o, now', s', hSuccess, hRun⟩ :=
    @tierRun_of_not_fails Client [] 5 turns id (fun c _ => c)
      (fun _ _ => rfl) visit "go" 0 unused
      fetchVisited (ofPlan_visit [] 5 "go") hStart r hReply idle hFound
  refine ⟨r, hReply, hMeant, o.tagged .preferred, ?_, hSuccess, rfl⟩
  rw [hRun]

end Executor

end Errand
