import Errand.Agent

/-!
# Calls that overlap

Any number of calls may be under way at one agent. Between the moments in which
a call arrives and leaves, it consults the model and the executor, and while it
waits for what they say other calls move. This file describes all the ways in
which that can go, by the moves that calls can make (`Reached`).

A call that has the permit goes through three consultations: it asks for a
plan, has it executed and asks for an answer. `Remains` says what is left of a
run after some of them, and the marks that a call leaves in the history say how
far it came. What the model and the executor say is left open; they may also
break down, which ends the run, but not before the permit is given back.

## Main results

* `arrive_cases`: a call that arrives is answered at once, or it finds the gate
  free and goes on with the permit.
* `Remains.ask`: a run goes through its stages, whatever it is answered.
-/

namespace Errand

/-- What a run consults for. -/
inductive Stage where
  | plan
  | execute
  | answer
deriving DecidableEq, Repr

/-- What a consultation is for. -/
def Consultation.stage : Consultation → Stage
  | .complete .plan _ => .plan
  | .execute _ _ => .execute
  | .complete .answer _ => .answer

namespace Agent

/-! ## The run of a request, step by step -/

/-- What is left of a run when the plan was executed. -/
def answering (request : String) (p : Plan) (o : Outcome) : Work Response :=
  .ask (.complete .answer (Prompt.answerMessage request (Prompt.recordOf o)))
    fun answered =>
      .done (.completed p.kind o (answerFrom request o answered))

/-- What is left of a run when the plan was made. -/
def executing (request : String) (p : Plan) : Work Response :=
  .ask (.execute p request) fun executed =>
    answering request p (Tier.recorded p executed)

theorem run_eq (request : String) :
    run request = .ask (.complete .plan (Prompt.planMessage request))
      fun planned =>
        executing request (planFrom request planned) := rfl

/-- The consultations of a run, in their order. -/
def stages : List Stage := [.plan, .execute, .answer]

/-- What is left of the run of a request after some consultations. -/
inductive Remains (request : String) : Nat → Work Response → Prop where
  | planning : Remains request 0 (run request)
  | executing (p : Plan) : Remains request 1 (executing request p)
  | answering (p : Plan) (o : Outcome) :
      Remains request 2 (answering request p o)
  | done (kind : OperationKind) (o : Outcome) (text : String) :
      Remains request 3 (.done (.completed kind o text))

/-- **One step of a run.** A run that has not ended asks for what comes next,
and goes on whatever it hears. -/
theorem Remains.ask {request : String} {n : Nat} {c : Consultation}
    {next : Except Trouble c.Answer → Work Response}
    (h : Remains request n (.ask c next)) :
    stages[n]? = some c.stage ∧ ∀ r, Remains request (n + 1) (next r) := by
  generalize hLeft : (Dialogue.ask c next : Work Response) = left at h
  cases h with
  | planning =>
      rw [run_eq] at hLeft
      injection hLeft with hAsked hNext
      subst hAsked
      obtain rfl := eq_of_heq hNext
      exact ⟨rfl, fun _ => .executing _⟩
  | executing p =>
      unfold Agent.executing at hLeft
      injection hLeft with hAsked hNext
      subst hAsked
      obtain rfl := eq_of_heq hNext
      exact ⟨rfl, fun _ => .answering _ _⟩
  | answering p o =>
      unfold Agent.answering at hLeft
      injection hLeft with hAsked hNext
      subst hAsked
      obtain rfl := eq_of_heq hNext
      exact ⟨rfl, fun _ => .done _ _ _⟩
  | done kind o text => cases hLeft

/-- A run that has ended went through all its consultations. -/
theorem Remains.of_done {request : String} {n : Nat} {r : Response}
    (h : Remains request n (.done r)) :
    n = 3 ∧ ∃ kind o text, r = .completed kind o text := by
  cases h with
  | done kind o text => exact ⟨rfl, kind, o, text, rfl⟩

/-! ## The two ends of a call -/

/-- **An arrival.** A request is answered at once and leaves the gate as it
was, or it finds the gate free and goes on with the permit. -/
theorem arrive_cases (a : Agent) (g : Gate) (raw : String) (at_ : Time) :
    (∃ r, r.outcome? = none ∧ a.arrive g raw at_ = (.answered r, g)) ∨
      ∃ q, Query.clean raw a.queryLimit = .ok q ∧ g.running = false ∧
        a.arrive g raw at_ = (.admitted q (signature q.text),
          { g with running := true }) := by
  unfold arrive
  cases hClean : Query.clean raw a.queryLimit with
  | error reason => exact .inl ⟨.rejected reason, rfl, rfl⟩
  | ok q =>
      cases hAcquire : g.acquire a.window q.text at_ with
      | mk decision g' =>
          cases decision with
          | skip reason =>
              obtain rfl := Gate.acquire_skip hAcquire
              refine .inl ⟨.turnedAway reason, rfl, ?_⟩
              simp only [hAcquire]
          | proceed s =>
              obtain ⟨hFree, rfl, rfl⟩ := Gate.acquire_proceed hAcquire
              refine .inr ⟨q, rfl, hFree, ?_⟩
              simp only [hAcquire]

/-- A run that broke down is answered like one that was gone through. -/
theorem status_interrupted (request : String) :
    (responseOf request .breakdown).status = "completed" := rfl

/-- Without an outcome a request was not completed. -/
theorem status_of_none {r : Response} (h : r.outcome? = none) :
    r.status ≠ "completed" := by
  cases r with
  | completed kind o text => cases h
  | turnedAway reason => cases reason <;> decide
  | rejected reason => simp [Response.status]

/-! ## Calls and their moves -/

/-- Where a call stands. -/
inductive Standing where
  /-- It has the permit, and this is left of its run. -/
  | working (q : Query) (signature : String) (left : Work Response)
  /-- It has the permit and waits for what it asked. -/
  | asking (q : Query) (signature : String) (c : Consultation)
    (next : Except Trouble c.Answer → Work Response)
  /-- It has the permit still, but what it asked broke down. -/
  | broken (q : Query) (signature : String)
  | returned (r : Response)

/-- The call has the permit. -/
def Standing.isInside : Standing → Bool
  | .returned _ => false
  | _ => true

/-- The gate of an agent and the calls that were made, by their numbers. -/
structure Traffic where
  gate : Gate
  calls : Nat → Option Standing

namespace Traffic

/-- The call has the permit: it was let through and has not given the permit
back. -/
def Inside (st : Traffic) (call : Nat) : Prop :=
  (st.calls call).any Standing.isInside = true

/-- A call comes to stand somewhere else. -/
def set (st : Traffic) (call : Nat) (x : Standing) : Traffic :=
  { st with calls := fun i => if i = call then some x else st.calls i }

/-- A call is made. -/
def arrive (st : Traffic) (a : Agent) (call : Nat) (raw : String) (at_ : Time) :
    Traffic :=
  match a.arrive st.gate raw at_ with
  | (.answered r, g) => { st with gate := g }.set call (.returned r)
  | (.admitted q signature, g) =>
    { st with gate := g }.set call (.working q signature (run q.text))

/-- **An arrival**, in terms of the calls: the new one stands as answered or as
working. -/
theorem arrive_eq (st : Traffic) (a : Agent) (call : Nat) (raw : String)
    (at_ : Time) :
    (∃ r, r.outcome? = none ∧
      a.arrive st.gate raw at_ = (.answered r, st.gate) ∧
      st.arrive a call raw at_ = st.set call (.returned r)) ∨
    ∃ q, Query.clean raw a.queryLimit = .ok q ∧ st.gate.running = false ∧
      a.arrive st.gate raw at_ =
        (.admitted q (signature q.text), { st.gate with running := true }) ∧
      st.arrive a call raw at_ =
        Traffic.set ⟨{ st.gate with running := true }, st.calls⟩ call
        (.working q (signature q.text) (run q.text)) := by
  unfold arrive
  rcases arrive_cases a st.gate raw at_ with ⟨r, hAway, hArrive⟩ | ⟨q, hClean,
    hFree, hArrive⟩
  · rw [hArrive]
    exact .inl ⟨r, hAway, rfl, rfl⟩
  · rw [hArrive]
    exact .inr ⟨q, hClean, hFree, rfl, rfl⟩

/-- A call returns, and gives back its permit. -/
def leave (st : Traffic) (call : Nat) (signature : String) (at_ : Time)
    (r : Response) : Traffic :=
  { st with gate := Agent.leave st.gate signature at_ }.set call (.returned r)

/-- Everything but one call. -/
def without (st : Traffic) (call : Nat) : Traffic :=
  { st with calls := fun i => if i = call then none else st.calls i }

end Traffic

/-- A move of a call. -/
inductive Event where
  | arrived (call : Nat) (raw : String) (at_ : Time)
  | asked (call : Nat) (c : Consultation)
  /-- The call is answered, be it with a text or an outcome or with trouble. -/
  | answered (call : Nat) (c : Consultation) (r : Except Trouble c.Answer)
  | brokeDown (call : Nat)
  /-- The call returns and gives the permit back. -/
  | left (call : Nat) (at_ : Time)

/-- The call that moves. -/
def Event.call : Event → Nat
  | .arrived call _ _ | .asked call _ | .answered call _ _ | .brokeDown
    call | .left call _ => call

/-- The calls at an agent can make these moves, the latest of them first, and
stand like this then. The calls move in any order; what they are answered, and
at what times they come and go, is left open. Before the first move nobody has
the permit, and `last` is what the gate remembers. -/
inductive Reached (a : Agent) (last : Option (String × Time)) :
    List Event → Traffic → Prop where
  | start : Reached a last [] ⟨⟨false, last⟩, fun _ => none⟩
  | arrived {past : List Event} {st : Traffic} {call : Nat}
      (h : Reached a last past st) (hNew : st.calls call = none) (raw : String)
      (at_ : Time) :
      Reached a last (.arrived call raw at_ :: past) (st.arrive a call raw at_)
  | asked {past : List Event} {st : Traffic} {call : Nat} {q : Query}
      {s : String} {c : Consultation}
      {next : Except Trouble c.Answer → Work Response}
      (h : Reached a last past st)
      (hCall : st.calls call = some (.working q s (.ask c next))) :
      Reached a last (.asked call c :: past) (st.set call (.asking q s c next))
  | answered {past : List Event} {st : Traffic} {call : Nat} {q : Query}
      {s : String} {c : Consultation}
      {next : Except Trouble c.Answer → Work Response}
      (h : Reached a last past st)
      (hCall : st.calls call = some (.asking q s c next))
      (r : Except Trouble c.Answer) :
      Reached a last (.answered call c r :: past)
        (st.set call (.working q s (next r)))
  | brokeDown {past : List Event} {st : Traffic} {call : Nat} {q : Query}
      {s : String} {c : Consultation}
      {next : Except Trouble c.Answer → Work Response}
      (h : Reached a last past st)
      (hCall : st.calls call = some (.asking q s c next)) :
      Reached a last (.brokeDown call :: past) (st.set call (.broken q s))
  | finished {past : List Event} {st : Traffic} {call : Nat} {q : Query}
      {s : String} {r : Response} (h : Reached a last past st)
      (hCall : st.calls call = some (.working q s (.done r))) (at_ : Time) :
      Reached a last (.left call at_ :: past)
        (st.leave call s at_ (responseOf q.text (.done r)))
  | interrupted {past : List Event} {st : Traffic} {call : Nat} {q : Query}
      {s : String} (h : Reached a last past st)
      (hCall : st.calls call = some (.broken q s)) (at_ : Time) :
      Reached a last (.left call at_ :: past)
        (st.leave call s at_ (responseOf q.text .breakdown))

/-! ## What a history says of a call -/

/-- What a call does with the permit. -/
inductive Mark where
  | asked (stage : Stage)
  | answered
  | brokeDown
deriving DecidableEq, Repr

/-- The mark that a move is for a call. -/
def Event.mark? (call : Nat) : Event → Option Mark
  | .asked i c => if i = call then some (.asked c.stage) else none
  | .answered i _ _ => if i = call then some .answered else none
  | .brokeDown i => if i = call then some .brokeDown else none
  | .arrived _ _ _ | .left _ _ => none

/-- The consultations of a call and how they ended, the earliest first. -/
def marks (call : Nat) (past : List Event) : List Mark :=
  (past.filterMap (Event.mark? call)).reverse

/-- The call that left last, and when. -/
def lastLeft : List Event → Option (Nat × Time)
  | [] => none
  | .left call at_ :: _ => some (call, at_)
  | _ :: past => lastLeft past

/-- The call was made with a text that comes down to this query. -/
def Asked (a : Agent) (past : List Event) (call : Nat) (q : Query) : Prop :=
  ∃ raw at_, .arrived call raw at_ ∈ past ∧ Query.clean raw a.queryLimit = .ok q

/-- The marks of as many consultations that were answered. -/
def exchanges (n : Nat) : List Mark := (stages.take n).flatMap fun stage =>
    [.asked stage, .answered]

/-- The consultations were made one after the other in the order of the stages,
each but the last one answered before the next one; the last one may have
broken down. -/
def InOrder (ms : List Mark) : Prop :=
  ∃ n, n ≤ 3 ∧ (ms = exchanges n ∨ ∃ stage, stages[n]? = some stage ∧
    (ms = exchanges n ++ [.asked stage] ∨
      ms = exchanges n ++ [.asked stage, .brokeDown]))

/-- Every consultation was made and answered, or they were made up to one that
broke down. -/
def Complete (ms : List Mark) : Prop :=
  ms = exchanges 3 ∨
    ∃ n stage, stages[n]? = some stage ∧
    ms = exchanges n ++ [.asked stage, .brokeDown]

example : exchanges 3 =
    [.asked .plan, .answered, .asked .execute, .answered, .asked .answer,
      .answered] := rfl

theorem exchanges_succ {n : Nat} {stage : Stage} (h : stages[n]? = some stage) :
    exchanges (n + 1) = exchanges n ++ [.asked stage, .answered] := by
  unfold exchanges
  rw [List.take_add_one, h, List.flatMap_append]
  rfl

theorem lt_of_stages {n : Nat} {stage : Stage}
    (h : stages[n]? = some stage) : n < 3 :=
  (List.getElem?_eq_some_iff.mp h).1

theorem marks_cons (call : Nat) (e : Event) (past : List Event) :
    marks call (e :: past) = marks call past ++ (e.mark? call).toList := by
  unfold marks
  cases hMark : e.mark? call with
  | none =>
      rw [List.filterMap_cons_none hMark, Option.toList_none, List.append_nil]
  | some m =>
      rw [List.filterMap_cons_some hMark, List.reverse_cons, Option.toList_some]

theorem marks_asked (call : Nat) (c : Consultation) (past : List Event) :
    marks call (.asked call c :: past) =
      marks call past ++ [.asked c.stage] := by
  rw [marks_cons]
  simp only [Event.mark?, if_true, Option.toList_some]

theorem marks_answered (call : Nat) (c : Consultation)
    (r : Except Trouble c.Answer) (past : List Event) :
    marks call (.answered call c r :: past) =
      marks call past ++ [.answered] := by
  rw [marks_cons]
  simp only [Event.mark?, if_true, Option.toList_some]

theorem marks_brokeDown (call : Nat) (past : List Event) :
    marks call (.brokeDown call :: past) = marks call past ++ [.brokeDown] := by
  rw [marks_cons]
  simp only [Event.mark?, if_true, Option.toList_some]

theorem marks_left (call i : Nat) (at_ : Time) (past : List Event) :
    marks call (.left i at_ :: past) = marks call past := by
  rw [marks_cons]
  exact List.append_nil _

theorem mark?_of_ne {call : Nat} {e : Event} (h : e.call ≠ call) :
    e.mark? call = none := by
  cases e with
  | arrived i raw at_ => rfl
  | asked i c => exact if_neg h
  | answered i c r => exact if_neg h
  | brokeDown i => exact if_neg h
  | left i at_ => rfl

/-- The marks of a call are its own. -/
theorem marks_of_ne {call : Nat} {e : Event} (h : e.call ≠ call)
    (past : List Event) : marks call (e :: past) = marks call past := by
  rw [marks_cons, mark?_of_ne h, Option.toList_none, List.append_nil]

theorem Asked.cons {a : Agent} {past : List Event} {call : Nat} {q : Query}
    (h : Asked a past call q) (e : Event) : Asked a (e :: past) call q := by
  obtain ⟨raw, at_, hMem, hClean⟩ := h
  exact ⟨raw, at_, List.mem_cons_of_mem e hMem, hClean⟩

end Agent

end Errand
