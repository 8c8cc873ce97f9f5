import Errand.Agent

/-!
# The language model

The language model is a remote service that completes chats.
`LanguageModel.connect` checks the key; `LanguageModel.complete` is the
dialogue that asks for a completion. A request that does not get through, or
that the service could not serve at the moment, is repeated up to three times,
after pauses of one, two and four seconds.
-/

namespace Errand

/-- A request to the service: the body of a post. -/
structure ChatRequest where
  key : String
  body : Json
deriving BEq, Repr

/-- The status and the body of what the service sends back. -/
structure ChatResponse where
  status : Nat
  body : String
deriving DecidableEq, Repr

/-- Every request is answered with a response. -/
def ChatRequest.Answer (_ : ChatRequest) : Type := ChatResponse

/-- Access to a language model. -/
structure LanguageModel where
  key : String
  name : String
deriving DecidableEq, Repr

namespace LanguageModel

/-- Access with a key, which must not be blank. -/
def connect (key name : String) : Except Trouble LanguageModel :=
  if Text.isBlank key then .error (.plain "OPENAI_API_KEY not set in .env")
  else .ok ⟨Text.trim key, name⟩

/-- How freely the model writes: a tenth, which is to say hardly. -/
def temperature : Number :=
  ((Binary64.ofRatio false 1 10).map Number.float).getD (.int 0)

/-- How often a request is repeated. -/
def maxRetries : Nat := 3

/-- The pause before the first repetition; every later one is twice as long as
the one before. -/
def firstPause : Duration := Duration.ofSeconds 1

/-- The service may serve the same request later. -/
def ChatResponse.isPassing (r : ChatResponse) : Bool :=
  (500 ≤ r.status && r.status < 600) || r.status = 429

/-- Posts a request, and again after a pause as long as it fails and
repetitions are left. -/
def post (r : ChatRequest) : (left : Nat) → (pause : Duration) →
    Dialogue ChatRequest.Answer Empty ChatResponse
  | 0, _ =>
    .ask r fun
      | .ok response => .done response
      | .error t => .fail (.plain ("Max retries exceeded: " ++ t.message))
  | left + 1, pause =>
    let again : Dialogue ChatRequest.Answer Empty ChatResponse :=
      .pause pause (post r left (pause * 2))
    .ask r fun
      | .ok response =>
        if ChatResponse.isPassing response then again else .done response
      | .error _ => again

/-- The body of a request for a completion. -/
def requestBody (m : LanguageModel) (instructions message : String) : Json :=
  .obj [("messages", .arr [
      .obj [("content", .str instructions), ("role", .str "system")],
      .obj [("content", .str message), ("role", .str "user")]]),
    ("model", .str m.name),
    ("temperature", .num temperature)]

/-- The completion in a response. -/
def contentOf (r : ChatResponse) : Except Trouble String :=
  if r.status < 200 || 300 ≤ r.status then
    .error (.plain ("Chat Completion API Error: " ++ r.body))
  else
    let choices :=
      ((Json.read r.body.toList).toOption.bind (·.get? "choices")).bind
        Json.items?
    match ((choices.bind List.head?).bind (·.get? "message")).bind fun m =>
        (m.get? "content").bind Json.text? with
    | some content => .ok content
    | none => .error (.plain "No content in LLM response")

/-- The dialogue that asks for a completion. -/
def complete (m : LanguageModel) (instructions message : String) :
    Dialogue ChatRequest.Answer Empty String :=
  (post ⟨m.key, m.requestBody instructions message⟩ maxRetries firstPause).bind
    fun r =>
      match contentOf r with
      | .ok content => .done content
      | .error t => .fail t

/-- The model as the agent uses it, with a partner for the requests. -/
def model {σ : Type} (m : LanguageModel) (p : Partner ChatRequest.Answer σ) :
    Agent.Model σ :=
  fun purpose message now s =>
    ((m.complete purpose.instructions message).play p none now s).act now

end LanguageModel

end Errand
