import Errand.Proofs.Agent.Schedule
import Errand.Proofs.Execution.Kind
import Errand.Proofs.Text.Blank

/-!
# Responses are consistent

A request can end in many ways: it may be no query, it may be turned away, the
model may have nothing to say or something that is no plan, the executor may
report trouble or break down. Every one of them leads to a response, and this
file shows that all responses have one shape. A response with an outcome says
that the request was completed and shows what the outcome shows; one without
says why there is none.

What it takes is that the outcomes are of the kind of their plan. That is so
for every agent that is set up from settings.

## Main results

* `Response.Consistent`: the shape of a response.
* `run_yields`: what a run ends with is consistent.
* `responses_consistent`: every request gets a response, and every response is
  consistent.
* `Setup.forall_mem_consistent`: so are those of an agent that is set up from
  settings.
-/

namespace Errand

/-! ## The shape of a response -/

/-- The fields of the response agree with each other. -/
structure Response.Consistent (r : Response) : Prop where
  completed_iff : r.status = "completed" ↔ r.outcome?.isSome = true
  /-- A completed request shows its outcome, and carries no error. -/
  of_outcome : ∀ o, r.outcome? = some o → r.error? = none ∧
    r.evidenceCount = o.evidence.length ∧
    r.plan = o.kind.name ∧ Text.isBlank r.answer = false
  /-- Any other request shows how it ended, and carries an error exactly if it
  was rejected. -/
  of_none : r.outcome? = none → r.evidenceCount = 0 ∧ r.plan = r.status ∧
    r.status ∈ ["skipped", "busy", "rejected"] ∧
    (r.error?.isSome = true ↔ r.status = "rejected")

/-- A summary always says whether the plan was carried out. -/
theorem Outcome.isBlank_summary (request : String) (o : Outcome) :
    Text.isBlank (o.summary request) = false := by
  have hOpening : Text.isBlank
        (if o.success then "Completed" else "Could not complete") = false := by
    cases o.success <;> decide
  unfold summary summaryLines
  apply Text.isBlank_intercalate
  simp only [Text.isBlank_append, hOpening, Bool.false_and]

namespace Response

theorem consistent_completed {kind : OperationKind} {o : Outcome}
    {answer : String} (hKind : o.kind = kind)
    (hAnswer : Text.isBlank answer = false) :
    (completed kind o answer).Consistent where
  completed_iff := ⟨fun _ => rfl, fun _ => rfl⟩
  of_outcome o' ho := by
    obtain rfl := Option.some.inj ho
    exact ⟨rfl, rfl, congrArg OperationKind.name hKind.symm, hAnswer⟩
  of_none := nofun

/-- A request that was turned away or rejected is answered consistently. -/
theorem consistent_of_none {r : Response} (h : r.outcome? = none) :
    r.Consistent := by
  cases r with
  | completed kind o answer => cases h
  | turnedAway reason =>
      cases reason with
      | duplicate =>
          exact ⟨⟨by decide, nofun⟩, nofun,
            fun _ => ⟨rfl, rfl, by decide, ⟨nofun, by decide⟩⟩⟩
      | busy =>
          exact ⟨⟨by decide, nofun⟩, nofun,
            fun _ => ⟨rfl, rfl, by decide, ⟨nofun, by decide⟩⟩⟩
  | rejected reason =>
      refine ⟨⟨?_, nofun⟩, nofun,
        fun _ => ⟨rfl, rfl, ?_, ⟨fun _ => rfl, fun _ => rfl⟩⟩⟩
      · simp [status]
      · simp [status]

/-- A run that broke down is answered consistently. -/
theorem consistent_interrupted (request : String) :
    (interrupted request).Consistent :=
  consistent_completed rfl (Outcome.isBlank_summary request _)

end Response

namespace Agent

/-! ## The runs -/

/-- The user is always told something. -/
theorem isBlank_answerFrom (request : String) (o : Outcome)
    (r : Except Trouble String) :
    Text.isBlank (answerFrom request o r) = false := by
  cases r with
  | error t => exact o.isBlank_summary request
  | ok text =>
      unfold answerFrom
      by_cases hBlank : Text.isBlank text = true
      · simp only [hBlank, if_true]
        exact o.isBlank_summary request
      · simp only [hBlank, if_false, Bool.false_eq_true]
        rw [Text.isBlank_trim]
        exact Bool.eq_false_iff.mpr hBlank

/-- The executor's outcomes are of the kind of the plan. Nothing is asked of
the model. -/
def KeepsKind : (c : Consultation) → c.Answer → Prop
  | .complete _ _, _ => True
  | .execute p _, o => Outcome.kind o = p.kind

theorem partner_keepsKind {σ : Type} (m : Model σ) {e : Executor σ}
    (h : e.KeepsKind) : (partner m e).Keeps KeepsKind := by
  intro c now s
  cases c with
  | complete purpose message => exact Act.keeps_true _
  | execute p request => exact h p request now s

/-- **A run ends with a consistent response**, whatever it is answered. -/
theorem run_yields (request : String) :
    (run request).Yields KeepsKind Response.Consistent := by
  rw [run_eq]
  intro planned _ executed hExecuted answered _
  exact Response.consistent_completed (Executor.kind_recorded hExecuted)
    (isBlank_answerFrom _ _ _)

theorem consistent_responseOf {σ : Type} {p : Partner Consultation.Answer σ}
    (hKeeps : p.Keeps KeepsKind) (request : String) (now : Time) (s : σ) :
    (responseOf request ((run request).play p none now
        s).ending).Consistent := by
  cases hEnd : ((run request).play p none now s).ending with
  | done r => exact (run_yields request).play hKeeps none now s hEnd
  | failed t => exact Response.consistent_interrupted request
  | cutOff => exact Response.consistent_interrupted request
  | breakdown => exact Response.consistent_interrupted request

/-! ## The responses -/

/-- **Every request gets a consistent response**, whatever the gate remembers,
whatever the model says and however the executor fares. -/
theorem responses_consistent {σ : Type} (a : Agent) (m : Model σ)
    {e : Executor σ} (hKind : e.KeepsKind) (gateClock : Time → Time)
    (raws : List String) (g : Gate) (now : Time) (s : σ) :
    (a.handleAll (partner m e) gateClock raws g now s).responses.length =
      raws.length ∧
      ∀ r ∈ (a.handleAll (partner m e) gateClock raws g now s).responses,
      r.Consistent :=
  ⟨length_handleAll a (partner m e) gateClock raws g now s,
    forall_mem_handleAll a (partner m e) gateClock
      (fun _ => Response.consistent_of_none)
      (consistent_responseOf (partner_keepsKind m hKind)) raws g now s⟩

/-- Without a model and without a browser a request is still completed, an
empty one is rejected, and a repetition is skipped. -/
theorem responses_consistent_offline :
    let offline : Model Unit := fun _ _ _ s =>
    .finish (.answer (.error (.plain "offline"))) s
    let e : Executor Unit :=
      .tiered none (.ofTools .builtin 5
          (Setup.toolsAlone ⟨true, 9, 5, 0, none⟩))
    let h :=
      handleAll ⟨4, 10⟩ (partner offline e) id ["go", "", "go"] .fresh 0 ()
    e.KeepsKind ∧
      h.responses.map Response.status = ["completed", "rejected", "skipped"] ∧
      h.responses.length = 3 ∧ ∀ r ∈ h.responses, r.Consistent := by
  intro offline e h
  have hKind : e.KeepsKind :=
    Executor.tiered_keepsKind nofun (Executor.ofTools_keepsKind _ _ _)
  exact ⟨hKind, rfl, responses_consistent ⟨4, 10⟩ offline hKind id ["go", "",
      "go"] .fresh 0 ()⟩

end Agent

/-- **An agent that is set up from settings answers consistently.** -/
theorem Setup.forall_mem_consistent {σ : Type} (setup : Setup)
    (o : Setup.Outside σ) (gateClock : Time → Time) (raws : List String)
    (g : Gate) (now : Time) (s : σ) :
    ∀ r ∈ (setup.agent.handleAll (setup.partner o) gateClock raws g now
      s).responses, r.Consistent :=
  Agent.forall_mem_handleAll setup.agent (setup.partner o) gateClock
    (fun _ => Response.consistent_of_none)
    (Agent.consistent_responseOf
        (Agent.partner_keepsKind _ (setup.executor_keepsKind o)))
    raws g now s

end Errand
