import Errand.Proofs.Dialogue.Timing
import Errand.Execution.Executor

/-!
# Two tiers, one outcome

A plan that is handed to two tiers always comes back with an outcome, and the
outcome names the tier that it comes from. This file says which tier that is,
what each tier was asked, and in which order.

The first tier *prevails* if it is there, supports the plan and comes back with
success. Then its outcome counts, and the second tier is not asked at all. In
every other case, whatever went wrong, the second tier is asked once, with the
same plan and the same request, from the time and the state in which the first
one left things; its trouble is put on record.

Where the first tier uses the action service, there are four ways for it not to
prevail: the plan needs no capability, the service does not start, the call
does not come back, or the service reports failure.

## Main results

* `tierRun_of_prevails`, `tierRun_of_not_prevails`: what the tiers are asked
  and what comes of it.
* `serviceRun_asked`: what the action service is asked: at most one call, and
  only behind a start that worked.
* `execute_tiered_account`: the account of both, for two tiers of any kind.
-/

namespace Errand.Executor

open Dialogue

variable {σ : Type}

/-! ## What executors do -/

/-- The executor never breaks down. -/
def Answers (e : Executor σ) : Prop :=
  ∀ p request now s, (e.execute p request now s).Answers

/-- How the executor comes back from a plan that it is given at a time and in a
state. -/
def settled (e : Executor σ) (p : Plan) (request : String)
    (now : Time) (s : σ) : Settled σ Outcome :=
  (e.execute p request now s).settle none now

/-- The run of two tiers, told by what each is asked. -/
def tierRun (preferred : Option (Executor σ)) (fallback : Executor σ) (p : Plan)
    (request : String) (now : Time) (s : σ) : Run Assignment σ Empty Outcome :=
  (Tier.carryOut (supportedBy preferred) p request).play
    (partner (preferred.getD fallback) fallback) none now s

/-- The first tier carries the plan out, with this outcome. -/
def Prevails (preferred : Option (Executor σ)) (p : Plan) (request : String)
    (now : Time) (s : σ) (o : Outcome) : Prop :=
  ∃ e, preferred = some e ∧ e.supports p = true ∧
    (e.settled p request now s).reply = some (.answer (.ok o)) ∧
    o.success = true

/-- What the first tier is asked. -/
def firstAsked (preferred : Option (Executor σ)) (p : Plan) (request : String)
    (now : Time) : List (Time × Assignment) :=
  if supportedBy preferred p then [(now, ⟨.preferred, p, request⟩)] else []

/-- Where the first tier leaves things to the second. -/
def handover (preferred : Option (Executor σ)) (p : Plan) (request : String)
    (now : Time) (s : σ) : Time × σ :=
  match preferred with
  | some e =>
    if e.supports p then
      ((e.settled p request now s).now, (e.settled p request now s).state)
    else (now, s)
  | none => (now, s)

theorem Answers.settled {e : Executor σ} (h : e.Answers) (p : Plan)
    (request : String) (now : Time) (s : σ) :
    ∃ r now' s', e.settled p request now s = ⟨some (.answer r), now', s'⟩ :=
  (h p request now s).settle_none now

/-! ## The second tier -/

/-- The second tier is asked once, and its trouble is put on record. -/
theorem play_locally (e fallback : Executor σ) (p : Plan) (request : String)
    (now : Time) (s : σ) {r : Except Trouble Outcome} {now' : Time} {s' : σ}
    (h : fallback.settled p request now s = ⟨some (.answer r), now', s'⟩) :
    (Tier.locally p request).play (partner e fallback) none now s =
      ⟨.done ((Tier.recorded p r).tagged .localTier), now', s',
        [.asked now ⟨.localTier, p, request⟩]⟩ := by
  have hSettle :
      ((partner e fallback).perform ⟨.localTier, p, request⟩ now s).settle
        none now =
      ⟨some (.answer r), now', s'⟩ := h
  unfold Tier.locally
  rw [play_ask, hSettle]
  rfl

/-! ## The first tier -/

section FirstTier

variable {preferred : Option (Executor σ)} {fallback : Executor σ} {p : Plan}
  {request : String} {now : Time} {s : σ}

/-- A plan that the first tier does not support goes to the second at once. -/
theorem tierRun_of_unsupported (h : supportedBy preferred p = false) :
    tierRun preferred fallback p request now s =
      (Tier.locally p request).play (partner (preferred.getD fallback) fallback)
        none now s := by
  unfold tierRun Tier.carryOut
  rw [h]
  rfl

/-- A plan that the first tier supports is handed to it first, and its success
is the end of it. -/
theorem tierRun_of_success {e : Executor σ} (hSupports : e.supports p = true)
    {o : Outcome} (hSuccess : o.success = true) {now' : Time} {s' : σ}
    (h : e.settled p request now s = ⟨some (.answer (.ok o)), now', s'⟩) :
    tierRun (some e) fallback p request now s =
      ⟨.done (o.tagged .preferred), now', s',
        [.asked now ⟨.preferred, p, request⟩]⟩ := by
  have hSettle :
      ((partner e fallback).perform ⟨.preferred, p, request⟩ now s).settle
        none now =
      ⟨some (.answer (.ok o)), now', s'⟩ := h
  have hSupported : supportedBy (some e) p = true := hSupports
  unfold tierRun Tier.carryOut
  rw [hSupported, if_pos rfl, play_ask, Option.getD_some, hSettle]
  simp only [hSuccess, if_true]
  rfl

/-- What the first tier comes back with in any other case leads to the
second. -/
theorem tierRun_of_failure {e : Executor σ} (hSupports : e.supports p = true)
    {r : Except Trouble Outcome} (hFails : ∀ o, r = .ok o → o.success = false)
    {now' : Time} {s' : σ}
    (h : e.settled p request now s = ⟨some (.answer r), now', s'⟩) :
    tierRun (some e) fallback p request now s =
      ((Tier.locally p request).play (partner e fallback) none now' s').preceded
        [.asked now ⟨.preferred, p, request⟩] := by
  have hSettle :
      ((partner e fallback).perform ⟨.preferred, p, request⟩ now s).settle
        none now =
      ⟨some (.answer r), now', s'⟩ := h
  have hSupported : supportedBy (some e) p = true := hSupports
  unfold tierRun Tier.carryOut
  rw [hSupported, if_pos rfl, play_ask, Option.getD_some, hSettle]
  cases r with
  | error t => rfl
  | ok o => simp only [hFails o rfl, if_false, Bool.false_eq_true]

/-- **If the first tier prevails, its outcome counts**, and the second tier is
not asked. -/
theorem tierRun_of_prevails {o : Outcome}
    (hPreferred : ∀ e, preferred = some e → e.Answers)
    (h : Prevails preferred p request now s o) :
    (tierRun preferred fallback p request now s).ending =
      .done (o.tagged .preferred) ∧
      (tierRun preferred fallback p request now s).questions =
        [(now, ⟨.preferred, p, request⟩)] := by
  obtain ⟨e, rfl, hSupports, hReply, hSuccess⟩ := h
  obtain ⟨r, now', s', hSettled⟩ := (hPreferred e rfl).settled p request now s
  obtain rfl : r = .ok o := by
    rw [hSettled] at hReply
    exact Reply.answer.inj (Option.some.inj hReply)
  rw [tierRun_of_success hSupports hSuccess hSettled]
  exact ⟨rfl, rfl⟩

/-- **If the first tier does not prevail, the second is asked once**, with the
same plan and the same request, and what comes of that counts. -/
theorem tierRun_of_not_prevails
    (hPreferred : ∀ e, preferred = some e → e.Answers)
    (hFallback : fallback.Answers)
    (h : ∀ o, ¬ Prevails preferred p request now s o) :
    let at_ := handover preferred p request now s
    ∃ r, (fallback.settled p request at_.1 at_.2).reply = some (.answer r) ∧
      (tierRun preferred fallback p request now s).ending =
        .done ((Tier.recorded p r).tagged .localTier) ∧
      (tierRun preferred fallback p request now s).questions =
        firstAsked preferred p request now ++
          [(at_.1, ⟨.localTier, p, request⟩)] := by
  intro at_
  obtain ⟨r, now', s', hLocal⟩ := hFallback.settled p request at_.1 at_.2
  refine ⟨r, by rw [hLocal], ?_⟩
  cases hSupported : supportedBy preferred p with
  | false =>
      have hAt : at_ = (now, s) := by
        cases preferred with
        | none => rfl
        | some e =>
            have hNot : e.supports p = false := hSupported
            simp only [at_, handover, hNot, if_false, Bool.false_eq_true]
      rw [hAt] at hLocal
      rw [tierRun_of_unsupported hSupported, play_locally _ _ _ _ _ _ hLocal,
        hAt, firstAsked, hSupported]
      exact ⟨rfl, rfl⟩
  | true =>
      cases preferred with
      | none => cases hSupported
      | some e =>
          have hSupports : e.supports p = true := hSupported
          obtain ⟨first, now₁, s₁, hFirst⟩ :=
            (hPreferred e rfl).settled p request now s
          have hAt : at_ = (now₁, s₁) := by
            simp only [at_, handover, hSupports, if_true, hFirst]
          rw [hAt] at hLocal
          have hFails : ∀ o, first = .ok o → o.success = false := by
            intro o hOk
            refine Bool.eq_false_iff.mpr fun hSuccess =>
              h o ⟨e, rfl, hSupports, ?_, hSuccess⟩
            rw [hFirst, hOk]
          rw [tierRun_of_failure hSupports hFails hFirst,
            play_locally _ _ _ _ _ _ hLocal, hAt, firstAsked, hSupported]
          exact ⟨rfl, rfl⟩

end FirstTier

/-! ## The action service as the first tier -/

section Service

variable (d : Directory) (results : Nat) {b : Partner ServiceRequest.Answer σ}
  {p : Plan} {request : String} {now : Time} {s : σ}

/-- The run of an executor that uses the action service, told by what the
service is asked. -/
def serviceRun (b : Partner ServiceRequest.Answer σ) (p : Plan)
    (request : String) (now : Time) (s : σ) :
    Run ServiceRequest σ Empty Outcome :=
  (Preferred.carryOut d results p request).play b none now s

/-- The service carries the plan out: there is a call for it, the service
starts, the call comes back, and it reports success. -/
def ServiceDelivers (b : Partner ServiceRequest.Answer σ) (p : Plan)
    (request : String) (now : Time) (s : σ) (o : Outcome) : Prop :=
  ∃ c started now₁ s₁ response, ServiceCall.ofPlan d results p request = .ok c ∧
    (b.perform .start now s).settle none now =
      ⟨some (.answer (.ok started)), now₁, s₁⟩ ∧
    ((b.perform (.execute c) now₁ s₁).settle none now₁).reply =
      some (.answer (.ok response)) ∧
    ServiceResponse.success response = true ∧
    o = Outcome.ofResponse p c response

/-- What the service is asked for a plan: nothing if no call carries the plan
out, else to start, and to make the call only if it did start. -/
inductive ServiceAsked (b : Partner ServiceRequest.Answer σ) (p : Plan)
    (request : String) (now : Time) (s : σ) : List (Time × ServiceRequest) →
    Prop where
  | unsuited {u : ServiceCall.Unsuited}
      (hPlan : ServiceCall.ofPlan d results p request = .error u) :
      ServiceAsked b p request now s []
  | unstarted {c : ServiceCall} {t : Trouble}
      (hPlan : ServiceCall.ofPlan d results p request = .ok c)
      (hStart : ((b.perform .start now s).settle none now).reply =
        some (.answer (.error t))) :
      ServiceAsked b p request now s [(now, .start)]
  | called {c : ServiceCall} {started : Unit} {now₁ : Time} {s₁ : σ}
      (hPlan : ServiceCall.ofPlan d results p request = .ok c)
      (hStart : (b.perform .start now s).settle none now =
        ⟨some (.answer (.ok started)), now₁, s₁⟩) :
      ServiceAsked b p request now s [(now, .start), (now₁, .execute c)]

theorem serviceRun_of_unsuited {u : ServiceCall.Unsuited}
    (hPlan : ServiceCall.ofPlan d results p request = .error u) :
    serviceRun d results b p request now s =
      ⟨.failed (.plain u.message), now, s, []⟩ := by
  unfold serviceRun Preferred.carryOut
  rw [hPlan]
  rfl

theorem serviceRun_of_unstarted {c : ServiceCall}
    (hPlan : ServiceCall.ofPlan d results p request = .ok c) {t : Trouble}
    {now₁ : Time} {s₁ : σ}
    (hStart : (b.perform .start now s).settle none now =
      ⟨some (.answer (.error t)), now₁, s₁⟩) :
    serviceRun d results b p request now s =
      ⟨.failed t, now₁, s₁, [.asked now .start]⟩ := by
  unfold serviceRun Preferred.carryOut
  rw [hPlan]
  show (Dialogue.ask ServiceRequest.start _).play b none now s = _
  rw [play_ask, hStart]
  rfl

/-- A service that has started is asked to make the call, and what it answers
is put on record. -/
theorem serviceRun_of_called {c : ServiceCall}
    (hPlan : ServiceCall.ofPlan d results p request = .ok c) {started : Unit}
    {now₁ : Time} {s₁ : σ}
    (hStart : (b.perform .start now s).settle none now =
      ⟨some (.answer (.ok started)), now₁, s₁⟩)
    {r : Except Trouble ServiceResponse} {now₂ : Time} {s₂ : σ}
    (hCall : (b.perform (.execute c) now₁ s₁).settle none now₁ =
      ⟨some (.answer r), now₂, s₂⟩) :
    serviceRun d results b p request now s =
      ⟨r.casesOn .failed fun response =>
        .done (Outcome.ofResponse p c response), now₂, s₂,
        [.asked now .start, .asked now₁ (.execute c)]⟩ := by
  unfold serviceRun Preferred.carryOut
  rw [hPlan]
  show (Dialogue.ask ServiceRequest.start _).play b none now s = _
  rw [play_ask, hStart]
  show ((Dialogue.ask (ServiceRequest.execute c) _).play b none now₁
        s₁).preceded _ = _
  rw [play_ask, hCall]
  cases r with
  | error t => rfl
  | ok response => rfl

/-- **The service is asked for at most one call**, and only behind a start that
worked. -/
theorem serviceRun_asked (hb : b.Answers) :
    ServiceAsked d results b p request now s
      (serviceRun d results b p request now s).questions := by
  cases hPlan : ServiceCall.ofPlan d results p request with
  | error u =>
      rw [serviceRun_of_unsuited d results hPlan]
      exact .unsuited hPlan
  | ok c =>
      obtain ⟨r, now₁, s₁, hStart⟩ := (hb .start now s).settle_none now
      cases r with
      | error t =>
          rw [serviceRun_of_unstarted d results hPlan hStart]
          exact .unstarted hPlan (by rw [hStart])
      | ok started =>
          obtain ⟨answered, now₂, s₂, hCall⟩ :=
            (hb (.execute c) now₁ s₁).settle_none now₁
          rw [serviceRun_of_called d results hPlan hStart hCall]
          exact .called hPlan hStart

/-- The service delivers exactly if its run ends with success. -/
theorem serviceDelivers_iff (hb : b.Answers) {o : Outcome} :
    ServiceDelivers d results b p request now s o ↔
      (serviceRun d results b p request now s).ending = .done o ∧
      o.success = true := by
  constructor
  · rintro ⟨c, started, now₁, s₁, response, hPlan, hStart, hReply,
      hSuccess, rfl⟩
    obtain ⟨answered, now₂, s₂, hCall⟩ :=
      (hb (.execute c) now₁ s₁).settle_none now₁
    obtain rfl : answered = .ok response := by
      rw [hCall] at hReply
      exact Reply.answer.inj (Option.some.inj hReply)
    rw [serviceRun_of_called d results hPlan hStart hCall]
    refine ⟨rfl, ?_⟩
    simp only [Outcome.ofResponse, hSuccess, if_true]
  · rintro ⟨hEnd, hSuccess⟩
    cases hPlan : ServiceCall.ofPlan d results p request with
    | error u =>
        rw [serviceRun_of_unsuited d results hPlan] at hEnd
        cases hEnd
    | ok c =>
        obtain ⟨r, now₁, s₁, hStart⟩ := (hb .start now s).settle_none now
        cases r with
        | error t =>
            rw [serviceRun_of_unstarted d results hPlan hStart] at hEnd
            cases hEnd
        | ok started =>
            obtain ⟨answered, now₂, s₂, hCall⟩ :=
              (hb (.execute c) now₁ s₁).settle_none now₁
            rw [serviceRun_of_called d results hPlan hStart hCall] at hEnd
            cases answered with
            | error t => cases hEnd
            | ok response =>
                obtain rfl := Ending.done.inj hEnd
                refine ⟨c, started, now₁, s₁, response, hPlan, hStart,
                  by rw [hCall], ?_, rfl⟩
                unfold Outcome.ofResponse at hSuccess
                cases hResponse : ServiceResponse.success response with
                | true => rfl
                | false =>
                    simp only [hResponse, if_false, Bool.false_eq_true]
                      at hSuccess
                    cases hSuccess

end Service

/-- An executor that uses a service that never breaks down never breaks down
itself. -/
theorem ofService_answers (d : Directory) (results : Nat)
    {b : Partner ServiceRequest.Answer σ} (hb : b.Answers) :
    (ofService d results b).Answers :=
  fun _ _ now s => Run.act_answers now (concludes_of_answers hb _ now s)

/-- The service prevails exactly if it delivers. -/
theorem prevails_ofService (d : Directory) (results : Nat)
    {b : Partner ServiceRequest.Answer σ} (hb : b.Answers) {p : Plan}
    {request : String} {now : Time} {s : σ} {o : Outcome} :
    Prevails (some (ofService d results b)) p request now s o ↔
      ServiceCall.supports p = true ∧
      ServiceDelivers d results b p request now s o := by
  have hReply : ((ofService d results b).settled p request now s).reply =
        some (.answer (.ok o)) ↔
      (serviceRun d results b p request now s).ending = .done o := by
    show some (serviceRun d results b p request now s).reply = _ ↔ _
    unfold Run.reply
    cases hEnd : (serviceRun d results b p request now s).ending with
    | done a => simp
    | failed t => simp
    | cutOff => simp
    | breakdown => simp
  rw [serviceDelivers_iff d results hb]
  constructor
  · rintro ⟨e, hSome, hSupports, hAnswer, hSuccess⟩
    obtain rfl := Option.some.inj hSome
    exact ⟨hSupports, hReply.mp hAnswer, hSuccess⟩
  · rintro ⟨hSupports, hEnd, hSuccess⟩
    exact ⟨_, rfl, hSupports, hReply.mpr hEnd, hSuccess⟩

/-! ## The account of two tiers -/

/-- **Two tiers always come back with one outcome.** It is that of the first
tier exactly if that prevails, and then the second tier is not asked; else the
second tier is asked once, for the same plan and the same request, and its
outcome or the record of its trouble counts. If the first tier uses the action
service, it prevails exactly if the plan has a call, the service starts, and
the call comes back with success. -/
theorem execute_tiered_account (preferred : Option (Executor σ))
    (fallback : Executor σ) (hPreferred : ∀ e, preferred = some e → e.Answers)
    (hFallback : fallback.Answers) (p : Plan) (request : String)
    (now : Time) (s : σ) :
    let r := tierRun preferred fallback p request now s
    let at_ := handover preferred p request now s
    (tiered preferred fallback).execute p request now s = r.act now ∧
      (∃ o, r.ending = .done o ∧ o.source.isSome = true ∧
        (o.source = some .preferred ↔
          ∃ first, Prevails preferred p request now s first)) ∧
      (∀ o, Prevails preferred p request now s o →
        r.ending = .done (o.tagged .preferred) ∧
        r.questions = [(now, ⟨.preferred, p, request⟩)]) ∧
      ((∀ o, ¬ Prevails preferred p request now s o) →
        ∃ answer, (fallback.settled p request at_.1 at_.2).reply =
          some (.answer answer) ∧
          r.ending = .done ((Tier.recorded p answer).tagged .localTier) ∧
          r.questions = firstAsked preferred p request now ++
            [(at_.1, ⟨.localTier, p, request⟩)]) ∧
      ∀ d results b, preferred = some (ofService d results b) → b.Answers →
        (∀ o, Prevails preferred p request now s o ↔
          ServiceCall.supports p = true ∧
          ServiceDelivers d results b p request now s o) ∧
        (ofService d results b).execute p request now s =
          (serviceRun d results b p request now s).act now ∧
        ServiceAsked d results b p request now s
          (serviceRun d results b p request now s).questions := by
  intro r at_
  have hFirst : ∀ o, Prevails preferred p request now s o →
      r.ending = .done (o.tagged .preferred) ∧
      r.questions = [(now, ⟨.preferred, p, request⟩)] :=
    fun o h => tierRun_of_prevails hPreferred h
  have hSecond := fun h : ∀ o, ¬ Prevails preferred p request now s o =>
    tierRun_of_not_prevails hPreferred hFallback h
  refine ⟨rfl, ?_, hFirst, hSecond, ?_⟩
  · by_cases hPrevails : ∃ o, Prevails preferred p request now s o
    · obtain ⟨o, h⟩ := hPrevails
      exact ⟨_, (hFirst o h).1, rfl, fun _ => ⟨o, h⟩, fun _ => rfl⟩
    · obtain ⟨answer, -, hEnd, -⟩ := hSecond fun o h => hPrevails ⟨o, h⟩
      exact ⟨_, hEnd, rfl, nofun, fun h => (hPrevails h).elim⟩
  · rintro d results b rfl hb
    exact ⟨fun o => prevails_ofService d results hb, rfl,
      serviceRun_asked d results hb⟩

/-- A service that starts and then refuses the call after a while leaves the
plan to the second tier, whose trouble is put on record. -/
theorem execute_tiered_refused :
    let b : Partner ServiceRequest.Answer Nat :=
      ⟨fun
        | .start, _, n => .finish (.answer (.ok ())) (n + 1)
        | .execute _, _, n =>
          .wait n 5
            (.finish (.answer (.ok ⟨false, none, some "busy"⟩)) (n + 1))⟩
    let e : Executor Nat := ofService [] 5 b
    let fallback : Executor Nat :=
      ⟨fun _ => true, fun _ _ _ n =>
        .finish (.answer (.error (.plain "offline"))) (n + 1)⟩
    let p : Plan := ⟨.search, "browser", ""⟩
    (∀ e', some e = some e' → e'.Answers) ∧ fallback.Answers ∧
      (tierRun (some e) fallback p "tea" 0 0).ending =
        .done ((Outcome.failed p "offline").tagged .localTier) ∧
      (tierRun (some e) fallback p "tea" 0 0).questions =
        [(0, ⟨.preferred, p, "tea"⟩), (5, ⟨.localTier, p, "tea"⟩)] := by
  intro b e fallback p
  have hb : b.Answers := fun q now s => by cases q <;> exact trivial
  have hPreferred : ∀ e', some e = some e' → e'.Answers := by
    intro e' hSome
    obtain rfl := Option.some.inj hSome
    exact ofService_answers _ _ hb
  have hFallback : fallback.Answers := fun _ _ _ _ => trivial
  obtain ⟨-, -, -, hSecond, hService⟩ :=
    execute_tiered_account (some e) fallback hPreferred hFallback p "tea" 0 0
  have hRefused : ∀ o, ¬ Prevails (some e) p "tea" 0 0 o := by
    intro o h
    obtain ⟨-, c, started, now₁, s₁, response, -, -, hReply, hSuccess, -⟩ :=
      ((hService [] 5 b rfl hb).1 o).mp h
    obtain rfl : ⟨false, none, some "busy"⟩ = response :=
      Except.ok.inj (Reply.answer.inj (Option.some.inj hReply))
    cases hSuccess
  have hAt : handover (some e) p "tea" 0 0 = (5, 2) := by decide +kernel
  obtain ⟨answer, hReply, hEnd, hAsked⟩ := hSecond hRefused
  rw [hAt] at hReply hAsked
  obtain rfl : .error (.plain "offline") = answer :=
    Reply.answer.inj (Option.some.inj hReply)
  exact ⟨hPreferred, hFallback, hEnd, hAsked⟩

end Errand.Executor
