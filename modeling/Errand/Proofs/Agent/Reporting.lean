import Errand.Proofs.Agent.Conduct

/-!
# What a response reports

A response is to report what was done for the request. Once the executor has
carried out a plan, what it reports is on its way into the response: the model
is asked for an answer, and whether it gives one, says nothing or has trouble,
the response is of the kind of the plan and shows the outcome. This file
follows the outcome through the moves of its call.

There is one way to lose it. If the question for the answer breaks down, the
run is over, and the response is the one for a run that did nothing: the
outcome of the fallback plan, which nobody carried out.

## Main results

* `Remains.of_execute`: what a run does with the outcome of its plan.
* `Reached.reports`: where a call stands after its plan was carried out.
* `Reached.reports_what_ran`: what the response to a request reports.
* `handleAll_forgets_what_ran`: a plan that was carried out and that its
  response does not show.
-/

namespace Errand.Agent

/-! ## The plan of a run -/

/-- A run that waits for the executor had it carry out a plan for its own
request, and goes on to the answer with the outcome. -/
theorem Remains.of_execute {request text : String} {n : Nat} {p : Plan}
    {next : Except Trouble (Consultation.execute p text).Answer → Work Response}
    (h : Remains request n (.ask (.execute p text) next)) :
    text = request ∧ next = fun executed =>
      Agent.answering request p (Tier.recorded p executed) := by
  generalize hLeft : (Dialogue.ask (.execute p text) next : Work Response) =
    left at h
  cases h with
  | planning =>
      rw [run_eq] at hLeft
      injection hLeft with hAsked _
      cases hAsked
  | executing p' =>
      unfold Agent.executing at hLeft
      injection hLeft with hAsked hNext
      cases hAsked
      exact ⟨rfl, hNext⟩
  | answering p' o =>
      unfold Agent.answering at hLeft
      injection hLeft with hAsked _
      cases hAsked
  | done kind o text => cases hLeft

/-- A call that broke down has the mark of it. -/
theorem brokeDown_mem_marks {call : Nat} {past : List Event}
    (h : .brokeDown call ∈ past) : .brokeDown ∈ marks call past :=
  List.mem_reverse.mpr (List.mem_filterMap.mpr ⟨_, h, if_pos rfl⟩)

theorem brokeDown_not_mem_exchanges (n : Nat) : .brokeDown ∉ exchanges n := by
  intro hMem
  obtain ⟨stage, -, hMark⟩ := List.mem_flatMap.mp hMem
  simp at hMark

/-! ## The way of an outcome -/

/-- The question for the answer was heard, and the response shows the plan, the
outcome and the answer. -/
def Told (past : List Event) (call : Nat) (request : String) (p : Plan)
    (o : Outcome) (r : Response) : Prop :=
  ∃ answer,
    .answered call (.complete .answer
      (Prompt.answerMessage request (Prompt.recordOf o))) answer ∈
      past ∧ r = .completed p.kind o (answerFrom request o answer)

/-- Where a call stands after the executor carried out its plan with this
outcome. It goes on to a response that shows the outcome, or it breaks down. -/
inductive Standing.Reports (past : List Event) (call : Nat) (request : String)
    (p : Plan) (o : Outcome) : Standing → Prop where
  | answering {q : Query} {s : String} {left : Work Response}
      (hText : q.text = request) (hWhole : .brokeDown call ∉ past)
      (hLeft : left = answering request p o) :
      Reports past call request p o (.working q s left)
  | asking {q : Query} {s : String} {c : Consultation}
      {next : Except Trouble c.Answer → Work Response}
      (hText : q.text = request) (hWhole : .brokeDown call ∉ past)
      (hLeft : .ask c next = answering request p o) :
      Reports past call request p o (.asking q s c next)
  | answered {q : Query} {s : String} {r : Response}
      (hWhole : .brokeDown call ∉ past) (hTold : Told past call request p o r) :
      Reports past call request p o (.working q s (.done r))
  | broken {q : Query} {s : String} (hText : q.text = request)
      (hBroke : .brokeDown call ∈ past) :
      Reports past call request p o (.broken q s)
  | returned {r : Response} (hWhole : .brokeDown call ∉ past)
      (hTold : Told past call request p o r) :
      Reports past call request p o (.returned r)
  | interrupted (hBroke : .brokeDown call ∈ past) :
      Reports past call request p o (.returned (.interrupted request))

section Moves

variable {past : List Event} {call : Nat} {request : String} {p : Plan}
  {o : Outcome}

theorem Told.cons {r : Response} (h : Told past call request p o r)
    (e : Event) : Told (e :: past) call request p o r := by
  obtain ⟨answer, hAnswer, hEq⟩ := h
  exact ⟨answer, List.mem_cons_of_mem e hAnswer, hEq⟩

/-- The call has not broken down by a move that is something else. -/
theorem whole_cons {e : Event} (hOther : .brokeDown call ≠ e)
    (h : .brokeDown call ∉ past) :
    .brokeDown call ∉ e :: past := List.not_mem_cons_of_ne_of_not_mem hOther h

namespace Standing.Reports

/-- What other calls do changes nothing. -/
theorem other {x : Standing} (h : x.Reports past call request p o) {e : Event}
    (hOther : e.call ≠ call) : x.Reports (e :: past) call request p o := by
  have hStill : .brokeDown call ∉ past → .brokeDown call ∉ e :: past := by
    apply whole_cons
    rintro rfl
    exact hOther rfl
  cases h with
  | answering hText hWhole hLeft => exact .answering hText (hStill hWhole) hLeft
  | asking hText hWhole hLeft => exact .asking hText (hStill hWhole) hLeft
  | answered hWhole hTold => exact .answered (hStill hWhole) (hTold.cons e)
  | broken hText hBroke => exact .broken hText (List.mem_cons_of_mem e hBroke)
  | returned hWhole hTold => exact .returned (hStill hWhole) (hTold.cons e)
  | interrupted hBroke => exact .interrupted (List.mem_cons_of_mem e hBroke)

variable {q : Query} {s : String} {c : Consultation}
  {next : Except Trouble c.Answer → Work Response}

theorem asked
    (h : (Standing.working q s (.ask c next)).Reports past call request p o) :
    (Standing.asking q s c next).Reports (.asked call c :: past) call
      request p o := by
  cases h with
  | answering hText hWhole hLeft =>
      exact .asking hText (whole_cons nofun hWhole) hLeft

/-- Whatever the model says, the response shows the outcome. -/
theorem heard (h : (Standing.asking q s c next).Reports past call request p o)
    (r : Except Trouble c.Answer) :
    (Standing.working q s (next r)).Reports (.answered call c r :: past) call
      request p o := by
  cases h with
  | asking hText hWhole hLeft =>
      unfold Agent.answering at hLeft
      injection hLeft with hAsked hNext
      subst hAsked
      obtain rfl := eq_of_heq hNext
      exact .answered (whole_cons nofun hWhole) ⟨r, List.mem_cons_self, rfl⟩

theorem brokeDown
    (h : (Standing.asking q s c next).Reports past call request p o) :
    (Standing.broken q s).Reports (.brokeDown call :: past) call
      request p o := by
  cases h with
  | asking hText hWhole hLeft => exact .broken hText List.mem_cons_self

theorem finished {r : Response}
    (h : (Standing.working q s (.done r)).Reports past call request p o)
    (at_ : Time) :
    (Standing.returned r).Reports (.left call at_ :: past) call
      request p o := by
  cases h with
  | answering hText hWhole hLeft => cases hLeft
  | answered hWhole hTold =>
      exact .returned (whole_cons nofun hWhole) (hTold.cons _)

theorem leaves (h : (Standing.broken q s).Reports past call request p o)
    (at_ : Time) :
    (Standing.returned (responseOf q.text .breakdown)).Reports
      (.left call at_ :: past) call request p o := by
  cases h with
  | broken hText hBroke =>
      subst hText
      exact .interrupted (List.mem_cons_of_mem _ hBroke)

end Standing.Reports

/-- The call stands where the outcome is on its way into the response, or is
lost. -/
def Traffic.Reports (st : Traffic) (past : List Event) (call : Nat)
    (request : String) (p : Plan) (o : Outcome) : Prop :=
  ∃ x, st.calls call = some x ∧ x.Reports past call request p o

namespace Traffic.Reports

variable {st : Traffic}

theorem of_calls (h : st.Reports past call request p o) {x : Standing}
    (hCall : st.calls call = some x) : x.Reports past call request p o := by
  obtain ⟨y, hy, hReports⟩ := h
  rw [hCall] at hy
  obtain rfl := Option.some.inj hy
  exact hReports

/-- **One move.** If it is by another call it changes nothing for this one. -/
theorem moved (h : st.Reports past call request p o) (g : Gate) {e : Event}
    {x : Standing}
    (hMoved : e.call = call → x.Reports (e :: past) call request p o) :
    (Traffic.set ⟨g, st.calls⟩ e.call x).Reports
      (e :: past) call request p o := by
  by_cases hEq : e.call = call
  · exact ⟨x, by rw [← hEq]; exact Traffic.calls_set _ _ x, hMoved hEq⟩
  · obtain ⟨y, hy, hReports⟩ := h
    exact ⟨y, (Traffic.calls_set_of_ne _ x (Ne.symm hEq)).trans hy,
      hReports.other hEq⟩

end Traffic.Reports

end Moves

/-- When the executor has carried out the plan, the answer is next. -/
theorem Reached.executed {a : Agent} {last : Option (String × Time)}
    {past : List Event} {st : Traffic} (h : Reached a last past st) {call : Nat}
    {q : Query} {s request : String} {p : Plan}
    {next : Except Trouble (Consultation.execute p request).Answer →
      Work Response}
    (hCall : st.calls call = some (.asking q s (.execute p request) next))
    (executed : Except Trouble Outcome) :
    (Standing.working q s (next executed)).Reports
      (.answered call (.execute p request) executed :: past)
      call request p (Tier.recorded p executed) := by
  have hStands := h.orderly.stands call
  rw [hCall] at hStands
  cases hStands with
  | @asking _ n _ _ hAsked hRemains hMarks =>
      obtain ⟨hText, rfl⟩ := hRemains.of_execute
      have hWhole : .brokeDown call ∉ past := by
        intro hBroke
        have hMark := brokeDown_mem_marks hBroke
        rw [hMarks] at hMark
        rcases List.mem_append.mp hMark with hBefore | hHere
        · exact brokeDown_not_mem_exchanges n hBefore
        · cases List.mem_singleton.mp hHere
      rw [← hText]
      exact .answering hText.symm (whole_cons nofun hWhole) rfl

/-- **Where a call stands after its plan was carried out.** The induction is on
the moves. -/
theorem Reached.reports {a : Agent} {last : Option (String × Time)}
    {past : List Event} {st : Traffic} (h : Reached a last past st) {call : Nat}
    {request : String} {p : Plan} {executed : Except Trouble Outcome}
    (hRan : .answered call (.execute p request) executed ∈ past) :
    st.Reports past call request p (Tier.recorded p executed) := by
  induction h with
  | start => cases hRan
  | @arrived past st i _ hNew raw at_ ih =>
      have hBefore := ih ((List.mem_cons.mp hRan).resolve_left nofun)
      have hOther : i ≠ call := by
        rintro rfl
        obtain ⟨x, hx, -⟩ := hBefore
        rw [hNew] at hx
        cases hx
      rcases st.arrive_eq a i raw at_ with ⟨r, -, -, hArrive⟩ | ⟨q, -, -,
        -, hArrive⟩
      · rw [hArrive]
        exact hBefore.moved (e := .arrived i raw at_) st.gate fun hEq =>
          absurd hEq hOther
      · rw [hArrive]
        exact hBefore.moved (e := .arrived i raw at_) _ fun hEq =>
          absurd hEq hOther
  | @asked past st i q s c next _ hCall ih =>
      have hBefore := ih ((List.mem_cons.mp hRan).resolve_left nofun)
      refine hBefore.moved (e := .asked i c) st.gate ?_
      rintro rfl
      exact (hBefore.of_calls hCall).asked
  | @answered past st i q s c next hReached hCall r ih =>
      rcases List.mem_cons.mp hRan with hNow | hPast
      · cases hNow
        exact ⟨_, Traffic.calls_set st call _, hReached.executed hCall executed⟩
      · have hBefore := ih hPast
        refine hBefore.moved (e := .answered i c r) st.gate ?_
        rintro rfl
        exact (hBefore.of_calls hCall).heard r
  | @brokeDown past st i q s c next _ hCall ih =>
      have hBefore := ih ((List.mem_cons.mp hRan).resolve_left nofun)
      refine hBefore.moved (e := .brokeDown i) st.gate ?_
      rintro rfl
      exact (hBefore.of_calls hCall).brokeDown
  | @finished past st i q s r _ hCall at_ ih =>
      have hBefore := ih ((List.mem_cons.mp hRan).resolve_left nofun)
      refine hBefore.moved (e := .left i at_) _ ?_
      rintro rfl
      exact (hBefore.of_calls hCall).finished at_
  | @interrupted past st i q s _ hCall at_ ih =>
      have hBefore := ih ((List.mem_cons.mp hRan).resolve_left nofun)
      refine hBefore.moved (e := .left i at_) _ ?_
      rintro rfl
      exact (hBefore.of_calls hCall).leaves at_

/-- **What a response reports.** When a plan was carried out for a request, the
response is of the kind of the plan and shows its outcome with all the
evidence, together with what the model answered or, if it had trouble or
nothing to say, the summary. That holds unless the question for the answer
broke down: then the response is that of a run that carried out nothing. -/
theorem Reached.reports_what_ran {a : Agent} {last : Option (String × Time)}
    {past : List Event} {st : Traffic} (h : Reached a last past st) {call : Nat}
    {request : String} {p : Plan} {executed : Except Trouble Outcome}
    {r : Response} (hRan : .answered call (.execute p request) executed ∈ past)
    (hReturned : st.calls call = some (.returned r)) :
    let o := Tier.recorded p executed
    (.brokeDown call ∉ past →
      r.plan = p.kind.name ∧ r.outcome? = some o ∧
      r.evidenceCount = o.evidence.length ∧
        ∃ answer, .answered call
            (.complete .answer (Prompt.answerMessage request
                (Prompt.recordOf o))) answer ∈ past ∧
          r.answer = answerFrom request o answer) ∧
      (.brokeDown call ∈ past → r = .interrupted request) := by
  intro o
  have hReports := (h.reports hRan).of_calls hReturned
  cases hReports with
  | returned hWhole hTold =>
      obtain ⟨answer, hAnswer, rfl⟩ := hTold
      exact ⟨fun _ => ⟨rfl, rfl, rfl, answer, hAnswer, rfl⟩,
        fun hBroke => absurd hBroke hWhole⟩
  | interrupted hBroke =>
      exact ⟨fun hWhole => absurd hBroke hWhole, fun _ => rfl⟩

/-- The model is out of reach for the plan and says nothing for an answer: the
response still shows the outcome of the plan that was carried out. -/
theorem reports_what_ran_in_silence :
    let p := Plan.fallback "go"
    let o : Outcome :=
      ⟨true, [⟨"Go", "https://go.test", "a game"⟩], .search, "browser", 0,
        none, none⟩
    ∃ past st r, Reached ⟨4, 10⟩ none past st ∧
      st.calls 0 = some (.returned r) ∧
      .answered 0 (.execute p "go") (.ok o) ∈ past ∧ .brokeDown 0 ∉ past ∧
      r.plan = "search" ∧
      r.outcome? = some o ∧ r.evidenceCount = 1 := by
  intro p o
  let made : Traffic :=
    Traffic.set ⟨⟨true, none⟩, fun _ => none⟩ 0
      (.working ⟨"go"⟩ (signature "go") (run "go"))
  have hMade : Reached ⟨4, 10⟩ none [.arrived 0 "go" 1] made :=
    .arrived .start rfl "go" 1
  have hPlanned :=
    (hMade.asked (Traffic.calls_set _ 0 _)).answered (Traffic.calls_set _ 0 _)
    (.error (.plain "offline"))
  have hExecuted :=
    (hPlanned.asked (c := .execute p "go") (Traffic.calls_set _ 0 _)).answered
    (Traffic.calls_set _ 0 _) (.ok o)
  have hAnswered :=
    (hExecuted.asked (Traffic.calls_set _ 0 _)).answered
      (Traffic.calls_set _ 0 _) (.ok " ")
  have hLeft := hAnswered.finished (Traffic.calls_set _ 0 _) 2
  obtain ⟨hShown, -⟩ := hLeft.reports_what_ran
    (List.mem_cons_of_mem _ (List.mem_cons_of_mem _
        (List.mem_cons_of_mem _ List.mem_cons_self)))
    (Traffic.calls_set _ 0 _)
  obtain ⟨hPlan, hOutcome, hCount, -⟩ := hShown (by simp)
  exact ⟨_, _, _, hLeft, Traffic.calls_set _ 0 _, by simp [p], by simp, hPlan,
    hOutcome, hCount⟩

/-- A plan was carried out, and then the model broke down: the response is for
a search that never was, and shows nothing of what was done. -/
theorem handleAll_forgets_what_ran :
    let planned :=
      "\x7b\"operation_type\":\"automate\",\"target_platform\":\"shop.test\"\x7d"
    let bought : Evidence := ⟨"Bought", "https://shop.test/1", "done"⟩
    let o : Outcome := ⟨true, [bought], .automate, "shop.test", 1, none, none⟩
    let m : Model (List Plan) := fun purpose _ _ s =>
      match purpose with
      | .plan => .finish (.answer (.ok planned)) s
      | .answer => .finish .breakdown s
    let e : Executor (List Plan) :=
      ⟨fun _ => true, fun p _ _ s => .finish (.answer (.ok o)) (p :: s)⟩
    let h := handleAll ⟨4, 200⟩ (partner m e) id ["open the shop"] .fresh 0 []
    h.state.map Plan.kind = [.automate] ∧
      h.responses = [.interrupted "open the shop"] ∧
      h.responses.map Response.plan = ["search"] ∧
      h.responses.map Response.evidenceCount = [0] ∧
      o.evidence.length = 1 := by
  decide +kernel

end Errand.Agent
