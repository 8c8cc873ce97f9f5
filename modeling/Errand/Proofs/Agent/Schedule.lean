import Errand.Proofs.Agent.Conduct

/-!
# Requests that arrive at one moment

`Agent.handleAll` handles requests one after the other, and holds back only the
return of a call that takes time. This file shows that this is one of the
orders in which the calls can move: what `handleAll` answers is what the calls
of such a traffic return, and it leaves the gate as the traffic does. So all
that is true of overlapping calls is true of the requests that `handleAll`
handles.

## Main results

* `Reached.played`: a call that has the permit gets to the end of its run by
  moves of its own.
* `Reached.handled`: the requests of `handleAll` are calls of a traffic.
-/

namespace Errand.Agent

variable {σ : Type}

/-! ## A run as moves of its call -/

/-- The call stands where its run has ended so. -/
def Traffic.AtEnd (st : Traffic) (call : Nat) (q : Query) (signature : String) :
    Ending Response → Prop
  | .done r => st.calls call = some (.working q signature (.done r))
  | .breakdown => st.calls call = some (.broken q signature)
  | .failed _ | .cutOff => False

theorem Traffic.AtEnd.of_calls {st st' : Traffic} {call : Nat} {q : Query}
    {signature : String} {ending : Ending Response}
    (h : st.AtEnd call q signature ending)
    (hSame : st'.calls call = st.calls call) :
    st'.AtEnd call q signature ending := by
  cases ending with
  | done r => exact hSame.trans h
  | breakdown => exact hSame.trans h
  | failed t => exact h
  | cutOff => exact h

theorem Remains.ask_or_done {request : String} {n : Nat} {left : Work Response}
    (h : Remains request n left) : (∃ c next, left = .ask c next) ∨
    ∃ r, left = .done r := by
  cases h with
  | planning => exact .inl ⟨_, _, run_eq request⟩
  | executing p => exact .inl ⟨_, _, rfl⟩
  | answering p o => exact .inl ⟨_, _, rfl⟩
  | done kind o text => exact .inr ⟨_, rfl⟩

/-- **A run is played by moves of its call.** The induction is on what is left
of the run. -/
theorem Reached.played {a : Agent} {last : Option (String × Time)}
    {past : List Event} {st : Traffic} (h : Reached a last past st)
    (p : Partner Consultation.Answer σ) {call n : Nat} {q : Query}
    {signature : String} {left : Work Response}
    (hRemains : Remains q.text n left)
    (hCall : st.calls call = some (.working q signature left))
    (now : Time) (s : σ) :
    ∃ later st', Reached a last (later ++ past) st' ∧ st'.gate = st.gate ∧
      (∀ i, i ≠ call → st'.calls i = st.calls i) ∧
      st'.AtEnd call q signature (left.play p none now s).ending := by
  induction left generalizing n past st now s with
  | done r => exact ⟨[], st, h, rfl, fun _ _ => rfl, hCall⟩
  | ask c next ih =>
      obtain ⟨-, hNext⟩ := hRemains.ask
      have hAsked := h.asked hCall
      obtain ⟨reply, now', s', hSettle⟩ :=
        (p.perform c now s).exists_settle_none now
      have hFrame : ∀ i, i ≠ call →
          (st.set call (.asking q signature c next)).calls i = st.calls i :=
        fun i hi => Traffic.calls_set_of_ne st _ hi
      cases reply with
      | breakdown =>
          refine ⟨[.brokeDown call, .asked call c], _,
            hAsked.brokeDown (Traffic.calls_set st call _), rfl, ?_, ?_⟩
          · intro i hi
            rw [Traffic.calls_set_of_ne _ _ hi]
            exact hFrame i hi
          · unfold Dialogue.play
            rw [hSettle]
            exact Traffic.calls_set _ call _
      | answer r =>
          have hAnswered := hAsked.answered (Traffic.calls_set st call _) r
          obtain ⟨later, st', hReached, hGate, hOthers, hEnd⟩ :=
            ih r hAnswered (hNext r) (Traffic.calls_set _ call _) now' s'
          refine ⟨later ++ [.answered call c r, .asked call c], st', ?_,
            hGate, ?_, ?_⟩
          · rw [List.append_assoc]
            exact hReached
          · intro i hi
            rw [hOthers i hi, Traffic.calls_set_of_ne _ _ hi]
            exact hFrame i hi
          · unfold Dialogue.play
            rw [hSettle]
            exact hEnd
  | fail t =>
      rcases hRemains.ask_or_done with ⟨c, next, hEq⟩ | ⟨r, hEq⟩ <;> cases hEq
  | pause d next ih =>
      rcases hRemains.ask_or_done with ⟨c, next, hEq⟩ | ⟨r, hEq⟩ <;> cases hEq
  | clock next ih =>
      rcases hRemains.ask_or_done with ⟨c, next, hEq⟩ | ⟨r, hEq⟩ <;> cases hEq
  | note e next ih => cases e

/-- From the end of its run a call returns what the run amounts to. -/
theorem Reached.leaves {a : Agent} {last : Option (String × Time)}
    {past : List Event} {st : Traffic} (h : Reached a last past st) {call : Nat}
    {q : Query} {signature : String} {ending : Ending Response}
    (hEnd : st.AtEnd call q signature ending) (at_ : Time) :
    Reached a last (.left call at_ :: past)
      (st.leave call signature at_ (responseOf q.text ending)) := by
  cases ending with
  | done r => exact h.finished hEnd at_
  | breakdown => exact h.interrupted hEnd at_
  | failed t => exact hEnd.elim
  | cutOff => exact hEnd.elim

/-! ## Handling requests as moves of calls -/

section HandleAll

variable (a : Agent) (p : Partner Consultation.Answer σ)
  (gateClock : Time → Time)

theorem handleAll_answered {g g' : Gate} {raw : String} {r : Response}
    {now : Time} (hArrive : a.arrive g raw (gateClock now) = (.answered r, g'))
    (rest : List String) (s : σ) :
    a.handleAll p gateClock (raw :: rest) g now s =
      { a.handleAll p gateClock rest g' now s with
        responses :=
          r :: (a.handleAll p gateClock rest g' now s).responses } := by
  rw [handleAll, hArrive]

variable {g g' : Gate} {raw signature : String} {q : Query} {now : Time} {s : σ}
  {course : Run Consultation σ Empty Response}

/-- A run that takes no time is over before the next request arrives. -/
theorem handleAll_at_once
    (hArrive : a.arrive g raw (gateClock now) = (.admitted q signature, g'))
    (hCourse : (run q.text).play p none now s = course)
    (hNow : course.now = now) (rest : List String) :
    let h :=
      a.handleAll p gateClock rest (leave g' signature (gateClock now)) now
        course.state
    a.handleAll p gateClock (raw :: rest) g now s =
      { h with
        responses := responseOf q.text course.ending :: h.responses } := by
  rw [handleAll, hArrive]
  simp only [hCourse]
  exact if_pos hNow

/-- Any other run keeps the permit while the rest of the requests arrive. -/
theorem handleAll_later
    (hArrive : a.arrive g raw (gateClock now) = (.admitted q signature, g'))
    (hCourse : (run q.text).play p none now s = course)
    (hNow : course.now ≠ now) (rest : List String) :
    let h := a.handleAll p gateClock rest g' now course.state
    a.handleAll p gateClock (raw :: rest) g now s =
      { h with
        responses := responseOf q.text course.ending :: h.responses
        gate := leave h.gate signature (gateClock course.now)
        now := course.now } := by
  rw [handleAll, hArrive]
  simp only [hCourse]
  exact if_neg hNow

/-- Every request gets its response. -/
theorem length_handleAll (raws : List String) (g : Gate) (now : Time) (s : σ) :
    (a.handleAll p gateClock raws g now s).responses.length = raws.length := by
  induction raws generalizing g now s with
  | nil => rfl
  | cons raw rest ih =>
      rcases arrive_cases a g raw (gateClock now) with ⟨r, -, hArrive⟩ | ⟨q, -,
        -, hArrive⟩
      · rw [handleAll_answered a p gateClock hArrive]
        exact congrArg Nat.succ (ih g now s)
      · by_cases hNow : ((run q.text).play p none now s).now = now
        · rw [handleAll_at_once a p gateClock hArrive rfl hNow]
          exact congrArg Nat.succ (ih _ _ _)
        · rw [handleAll_later a p gateClock hArrive rfl hNow]
          exact congrArg Nat.succ (ih _ _ _)

/-- What is true of a request that was turned away, and of whatever a run
amounts to, is true of every response. -/
theorem forall_mem_handleAll {P : Response → Prop}
    (hAway : ∀ r : Response, r.outcome? = none → P r)
    (hRun : ∀ request now s,
      P (responseOf request ((run request).play p none now s).ending))
    (raws : List String) (g : Gate) (now : Time) (s : σ) :
    ∀ r ∈ (a.handleAll p gateClock raws g now s).responses, P r := by
  induction raws generalizing g now s with
  | nil => exact nofun
  | cons raw rest ih =>
      rcases arrive_cases a g raw (gateClock now) with
          ⟨r, hNone, hArrive⟩ | ⟨q, -, -, hArrive⟩
      · rw [handleAll_answered a p gateClock hArrive]
        exact List.forall_mem_cons.mpr ⟨hAway r hNone, ih g now s⟩
      · by_cases hNow : ((run q.text).play p none now s).now = now
        · rw [handleAll_at_once a p gateClock hArrive rfl hNow]
          exact List.forall_mem_cons.mpr ⟨hRun q.text now s, ih _ _ _⟩
        · rw [handleAll_later a p gateClock hArrive rfl hNow]
          exact List.forall_mem_cons.mpr ⟨hRun q.text now s, ih _ _ _⟩

/-- The calls from number `first` on are those that returned these responses,
and the calls before them stand as they did. -/
structure Traffic.Answered (st : Traffic) (first : Nat) (before : Traffic)
    (responses : List Response) : Prop where
  before : ∀ i, i < first → st.calls i = before.calls i
  after : ∀ i, first + responses.length ≤ i → st.calls i = none
  returned : ∀ (k : Nat) r, responses[k]? = some r →
    st.calls (first + k) = some (.returned r)

/-- No call was made from number `first` on. -/
def Traffic.FreshFrom (st : Traffic) (first : Nat) : Prop :=
  ∀ i, first ≤ i → st.calls i = none

/-- Where only call `first` moved, the calls after it are still to be made. -/
theorem Traffic.FreshFrom.succ {st st' : Traffic} {first : Nat}
    (h : st.FreshFrom first)
    (hSame : ∀ i, i ≠ first → st'.calls i = st.calls i) :
    st'.FreshFrom (first + 1) :=
  fun i hi => (hSame i (by omega)).trans (h i (by omega))

/-- One more call returned its response in front of those that did. -/
theorem Traffic.Answered.cons {st st₁ st₀ : Traffic} {first : Nat}
    {r : Response} {responses : List Response}
    (h : st.Answered (first + 1) st₁ responses)
    (hSame : ∀ i, i ≠ first → st₁.calls i = st₀.calls i)
    (hFirst : st₁.calls first = some (.returned r)) :
    st.Answered first st₀ (r :: responses) where
  before i hi := (h.before i (by omega)).trans (hSame i (by omega))
  after i hi := h.after i (by rw [List.length_cons] at hi; omega)
  returned k r' hr := by
    cases k with
    | zero =>
        obtain rfl := Option.some.inj hr
        exact (h.before first (Nat.lt_succ_self first)).trans hFirst
    | succ k =>
        have hNext := h.returned k r' hr
        rw [Nat.add_assoc, Nat.add_comm 1 k] at hNext
        exact hNext

/-- A call with a lower number comes to stand somewhere else. -/
theorem Traffic.Answered.set {st before : Traffic} {first : Nat}
    {responses : List Response} (h : st.Answered (first + 1) before responses)
    (g g' : Gate) (x : Standing) :
    (Traffic.set ⟨g, st.calls⟩ first x).Answered (first + 1)
      (Traffic.set ⟨g', before.calls⟩ first x)
      responses where
  before i hi := by
    by_cases hEq : i = first
    · subst hEq
      rw [Traffic.calls_set, Traffic.calls_set]
    · rw [Traffic.calls_set_of_ne _ _ hEq, Traffic.calls_set_of_ne _ _ hEq]
      exact h.before i hi
  after i hi := (Traffic.calls_set_of_ne _ _ (by omega)).trans (h.after i hi)
  returned k r hr :=
    (Traffic.calls_set_of_ne _ _ (by omega)).trans (h.returned k r hr)

/-- **The requests of `handleAll` are calls of a traffic.** The induction is on
the requests. A run that takes time goes to its end before the rest of the
requests arrive, and returns after them. -/
theorem Reached.handled {last : Option (String × Time)} {past : List Event}
    {st : Traffic} (h : Reached a last past st) (raws : List String)
    {first : Nat} (hFresh : st.FreshFrom first) (now : Time) (s : σ) :
    ∃ later st', Reached a last (later ++ past) st' ∧
      st'.gate = (a.handleAll p gateClock raws st.gate now s).gate ∧
      st'.Answered first st (a.handleAll p gateClock raws st.gate now
        s).responses := by
  induction raws generalizing past st first now s with
  | nil => exact ⟨[], st, h, rfl, fun _ _ => rfl, hFresh, nofun⟩
  | cons raw rest ih =>
      have hArrived :=
        h.arrived (hFresh first (Nat.le_refl first)) raw (gateClock now)
      rcases st.arrive_eq a first raw (gateClock now) with
        ⟨r, -, hArrive, hEq⟩ | ⟨q, -, -, hArrive, hEq⟩
      · rw [hEq] at hArrived
        have hSame : ∀ i, i ≠ first →
            (st.set first (.returned r)).calls i = st.calls i :=
          fun i hi => Traffic.calls_set_of_ne st _ hi
        obtain ⟨later, st', hReached, hGate, hAnswered⟩ :=
          ih hArrived (hFresh.succ hSame) now s
        rw [handleAll_answered a p gateClock hArrive]
        refine ⟨later ++ [.arrived first raw (gateClock now)], st', ?_,
          hGate, ?_⟩
        · rw [List.append_assoc]
          exact hReached
        · exact hAnswered.cons hSame (Traffic.calls_set st first _)
      · rw [hEq] at hArrived
        obtain ⟨moves, st₁, hPlayed, hGate₁, hOthers, hEnd⟩ :=
          hArrived.played p .planning (Traffic.calls_set _ first _) now s
        have hSame : ∀ i, i ≠ first → st₁.calls i = st.calls i :=
          fun i hi => (hOthers i hi).trans (Traffic.calls_set_of_ne _ _ hi)
        generalize hCourse : (run q.text).play p none now s = course at hEnd
        by_cases hNow : course.now = now
        · have hLeft := hPlayed.leaves hEnd (gateClock now)
          have hSameLeft : ∀ i, i ≠ first →
              (st₁.leave first (signature q.text) (gateClock now)
                (responseOf q.text course.ending)).calls i = st.calls i :=
            fun i hi => (Traffic.calls_set_of_ne _ _ hi).trans (hSame i hi)
          obtain ⟨later, st', hReached, hGate, hAnswered⟩ :=
            ih hLeft (hFresh.succ hSameLeft) now course.state
          rw [handleAll_at_once a p gateClock hArrive hCourse hNow]
          refine ⟨later ++ .left first (gateClock now) :: moves ++
            [.arrived first raw (gateClock now)], st', ?_, hGate, ?_⟩
          · simpa only [List.append_assoc, List.cons_append, List.nil_append]
              using hReached
          · exact hAnswered.cons hSameLeft (Traffic.calls_set _ first _)
        · obtain ⟨later, st', hReached, hGate, hAnswered⟩ :=
            ih hPlayed (hFresh.succ hSame) now course.state
          have hTaken : st₁.gate = { st.gate with running := true } := hGate₁
          rw [hTaken] at hGate hAnswered
          -- The call still stands at the end of its run, since only later
          -- calls moved.
          have hStill : st'.AtEnd first q (signature q.text) course.ending :=
            hEnd.of_calls (hAnswered.before first (Nat.lt_succ_self first))
          have hLeft := hReached.leaves hStill (gateClock course.now)
          rw [handleAll_later a p gateClock hArrive hCourse hNow]
          refine ⟨.left first (gateClock course.now) :: later ++ moves ++
            [.arrived first raw (gateClock now)],
            st'.leave first (signature q.text) (gateClock course.now)
              (responseOf q.text course.ending), ?_, ?_, ?_⟩
          · simpa only [List.append_assoc, List.cons_append, List.nil_append]
              using hLeft
          · exact congrArg (fun g =>
                leave g (signature q.text) (gateClock course.now)) hGate
          · refine (hAnswered.set _ st₁.gate
                (.returned (responseOf q.text course.ending))).cons ?_ ?_
            · exact fun i hi =>
                (Traffic.calls_set_of_ne _ _ hi).trans (hSame i hi)
            · exact Traffic.calls_set _ first _

end HandleAll

end Errand.Agent
